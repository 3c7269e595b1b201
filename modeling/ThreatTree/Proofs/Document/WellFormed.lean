import ThreatTree.Proofs.Document.Acceptance
import ThreatTree.Proofs.Graph.Build

/-!
# Well-formed documents

A document that is accepted keeps what was checked: its ids are distinct, its references lead to
declared nodes or to `reality`, its focus stays among the nodes that there will be and its theme is
one that there is. Though the checks and the graph find out on ways of their own where `reality` is
referred to, no reference of such a document leads nowhere.

Main statements: `wellFormed_of_ofValue`, an accepted document is well-formed, and
`WellFormed.exists_toGraph`, a well-formed document has a well-formed graph.
-/

namespace ThreatTree.Document

/-- What is established of a document that is accepted. -/
structure WellFormed (d : Document) : Prop where
  distinct : d.declaredIds.Nodup
  refs : ∀ r ∈ d.refs, r.id ∈ d.declaredIds ∨ r.id = realityId
  focus : ∀ id ∈ d.focus, id ∈ d.declaredIds ∨ id = realityId ∧ ∃ r ∈ d.refs, r.id = realityId
  theme : IsThemeChoice d.theme

/-! ### From the checks -/

theorem nodes_ofNodes {es : List (Value × Value)} {blocks : List (List NodeDef)}
    (h : readBlocks es = .ok blocks) (title theme : Option String) (focus : List String) :
    (ofNodes title theme focus blocks.flatten).nodes = blocks.flatten := by
  have hcategory (nodes : List NodeDef) (c : Category) :
      (ofNodes title theme focus nodes).ofCategory c = nodes.filter (·.category = c) := by
    cases c <;> rfl
  rw [nodes, funext (hcategory _), flatMap_filter_of_readBlocks h]

theorem known_of_readFocus {known focus : List String} {o : Option Value}
    (h : readFocus known o = .ok focus) {id : String} (hid : id ∈ focus) : id ∈ known := by
  rw [readFocus_eq, readList_eq_ok_iff] at h
  obtain ⟨v, -, hv⟩ := exists_of_mem_mapM h.2 hid
  exact (focusOfValue_eq_ok_iff.mp hv).2

theorem exists_ofEntries {v : Value} {d : Document} (h : ofValue v = .ok d) :
    ∃ es, ofEntries es = .ok d := by
  cases v with
  | null => exact ⟨_, h⟩
  | map es => exact ⟨_, h⟩
  | _ => cases h

/-- **A document that is accepted is well-formed.** -/
theorem wellFormed_of_ofValue {v : Value} {d : Document} (h : ofValue v = .ok d) :
    d.WellFormed := by
  obtain ⟨es, h⟩ := exists_ofEntries h
  obtain ⟨title, theme, blocks, focus, -, htheme, hblocks, hdistinct, hrefs, hfocus, rfl⟩ :=
    ofEntries_eq_ok_iff.mp h
  have hnodes := nodes_ofNodes hblocks title theme focus
  rw [← ids_of_readBlocks hblocks] at hdistinct hrefs
  rw [← refs_of_readBlocks hblocks] at hrefs
  constructor
  · rwa [declaredIds, hnodes]
  · intro r hr
    rw [Document.refs, hnodes] at hr
    rw [declaredIds, hnodes]
    exact hrefs r.id (List.mem_map_of_mem hr)
  · intro id hid
    have hknown := mem_focusIds.mp (known_of_readFocus hfocus hid)
    rw [List.mem_map] at hknown
    rwa [declaredIds, Document.refs, hnodes]
  · exact isThemeChoice_of_readTheme htheme

/-! ### The graph -/

/-- A theme is chosen among those that there are. -/
theorem exists_chooseTheme {choice own : Option String}
    (hchoice : choice = some "" ∨ IsThemeChoice choice) (hown : IsThemeChoice own)
    (fallback : Theme) : ∃ t : Theme, chooseTheme choice own fallback.name = t.name := by
  unfold chooseTheme
  cases hname : choice.filter (· ≠ "") with
  | some name =>
    obtain ⟨hname, hne⟩ := Option.filter_eq_some_iff.mp hname
    rcases hchoice with rfl | hchoice
    · cases hname
      simp at hne
    · exact hchoice name hname
  | none =>
    cases hname : own.filter (· ≠ "") with
    | some name => exact hown name (Option.filter_eq_some_iff.mp hname).1
    | none => exact ⟨fallback, rfl⟩

namespace WellFormed

variable {d : Document}

theorem not_dangles (h : d.WellFormed) : ∀ r ∈ d.refs, ¬ d.Dangles r := by
  rintro r hr ⟨hdeclared, hreality⟩
  exact (h.refs r hr).elim hdeclared hreality

/-- The graph of a well-formed document is well-formed. -/
theorem graph (h : d.WellFormed) (t : Theme) : (d.graph t.name).WellFormed where
  distinct := by
    rw [Graph.ids, Document.graph, ids_graphNodes]
    split
    · rename_i hreality
      rw [List.singleton_append, List.nodup_cons]
      exact ⟨(needsReality_iff.mp hreality).1, h.distinct⟩
    · exact h.distinct
  ends := (isGraphOf_graph h.not_dangles t.name).ends
  theme := ⟨t, rfl⟩

/-- There is a graph whatever the theme is called. -/
theorem toGraph_eq (h : d.WellFormed) (choice : Option String) (fallback : String) :
    d.toGraph choice fallback = .ok (d.graph (chooseTheme choice d.theme fallback)) :=
  toGraph_eq_ok h.not_dangles

/-- **A well-formed document has a well-formed graph**, and its focus is on nodes of the graph. -/
theorem exists_toGraph (h : d.WellFormed) {choice : Option String}
    (hchoice : choice = some "" ∨ IsThemeChoice choice) (fallback : Theme) :
    ∃ g, d.toGraph choice fallback.name = .ok g ∧ g.WellFormed ∧ ∀ id ∈ d.focus, id ∈ g.ids := by
  obtain ⟨t, ht⟩ := exists_chooseTheme hchoice h.theme fallback
  refine ⟨_, h.toGraph_eq choice fallback.name, ?_, fun id hid => ?_⟩
  · rw [ht]
    exact h.graph t
  · exact mem_ids_graphNodes.mpr (h.focus id hid)

end WellFormed
end ThreatTree.Document
