import ThreatTree.Graph.Focus
import ThreatTree.Proofs.Dot.ReadBack

/-!
# Well-formed graphs

A graph may be any lists of nodes and edges. Those that come from documents are better than that:
no two nodes share an id and every edge joins two nodes. Whatever is done to such a graph goes well:
it can be focused on exactly the ids of its nodes, what is in focus is well-formed again, and a
well-formed graph can be written.

Where the theme is none that there is, the edges of a graph still join nodes, and a missing style is
the only reason that it is not written (`exists_style_of_emit`).

Main statements: `WellFormed.exists_focusOn`, `WellFormed.focusOn_eq_error` and
`WellFormed.exists_emit`.
-/

namespace ThreatTree.Graph

/-- The ids of a graph's nodes. -/
def ids (g : Graph) : List String := g.nodes.map (·.id)

/-- No two nodes share an id, every edge joins two nodes and the theme is one that there is. -/
structure WellFormed (g : Graph) : Prop where
  distinct : g.ids.Nodup
  ends : ∀ e ∈ g.edges, e.source ∈ g.ids ∧ e.target ∈ g.ids
  theme : ∃ t : Theme, g.theme = t.name

variable {g : Graph}

/-- Where edges join nodes, the edges of a part join nodes of the part. -/
theorem joins_restrict (h : ∀ e ∈ g.edges, e.source ∈ g.ids ∧ e.target ∈ g.ids)
    (kept : List String) : ∀ e ∈ (g.restrict kept).edges,
      e.source ∈ (g.restrict kept).ids ∧ e.target ∈ (g.restrict kept).ids := by
  have hkept {id : String} (hid : id ∈ g.ids) (hmem : kept.contains id = true) :
      id ∈ (g.restrict kept).ids := by
    obtain ⟨n, hn, rfl⟩ := List.mem_map.mp hid
    exact List.mem_map.mpr ⟨n, List.mem_filter.mpr ⟨hn, hmem⟩, rfl⟩
  intro e he
  obtain ⟨he, hends⟩ := List.mem_filter.mp he
  rw [Bool.and_eq_true] at hends
  obtain ⟨hsource, htarget⟩ := h e he
  exact ⟨hkept hsource hends.1, hkept htarget hends.2⟩

namespace WellFormed

/-- Where edges join nodes, there is nothing to focus on but nodes. -/
theorem mem_vertices (h : g.WellFormed) {id : String} : id ∈ g.vertices ↔ id ∈ g.ids := by
  rw [mem_vertices_iff]
  constructor
  · rintro (hid | ⟨e, he, rfl | rfl⟩)
    · exact hid
    · exact (h.ends e he).1
    · exact (h.ends e he).2
  · exact Or.inl

/-- A part of a well-formed graph is well-formed. -/
theorem restrict (h : g.WellFormed) (kept : List String) : (g.restrict kept).WellFormed where
  distinct := h.distinct.sublist (List.filter_sublist.map _)
  ends := joins_restrict h.ends kept
  theme := h.theme

/-- A well-formed graph can be focused on any of its nodes. -/
theorem exists_focusOn (h : g.WellFormed) {focus : List String} (hfocus : ∀ id ∈ focus, id ∈ g.ids) :
    ∃ g', g.focusOn focus = .ok g' ∧ g'.WellFormed := by
  unfold focusOn
  split
  · exact ⟨g, rfl, h⟩
  · have hfind : focus.find? (!g.vertices.contains ·) = none := by
      rw [List.find?_eq_none]
      intro id hid
      simpa [h.mem_vertices] using hfocus id hid
    rw [hfind]
    exact ⟨_, rfl, h.restrict _⟩

/-- A well-formed graph cannot be focused on anything but its nodes. -/
theorem focusOn_eq_error (h : g.WellFormed) {focus : List String} {id : String} (hid : id ∈ focus)
    (hmissing : id ∉ g.ids) :
    ∃ id' ∈ focus, id' ∉ g.ids ∧ g.focusOn focus = .error (.undefinedFocus id') := by
  have hsome : (focus.find? (!g.vertices.contains ·)).isSome = true := by
    rw [List.find?_isSome]
    exact ⟨id, hid, by simpa [h.mem_vertices] using hmissing⟩
  obtain ⟨id', hfind⟩ := Option.isSome_iff_exists.mp hsome
  have hmissing' := List.find?_some hfind
  rw [Bool.not_eq_true', List.contains_eq_mem, decide_eq_false_iff_not, h.mem_vertices]
    at hmissing'
  refine ⟨id', List.mem_of_find?_eq_some hfind, hmissing', ?_⟩
  rw [focusOn, if_neg (by simp [List.ne_nil_of_mem hid]), hfind]

/-- A well-formed graph can be written. -/
theorem exists_emit (h : g.WellFormed) : ∃ dot, Dot.emit g = .ok dot := by
  obtain ⟨t, ht⟩ := h.theme
  obtain ⟨nodes, hnodes⟩ : ∃ lines, g.nodes.mapM (Dot.nodeLine g.theme) = .ok lines := by
    rw [exists_mapM_eq_ok_iff]
    intro n _
    rw [ht]
    exact ⟨_, Dot.nodeLine_name t n⟩
  obtain ⟨edges, hedges⟩ : ∃ lines, g.edges.mapM (Dot.edgeLine g) = .ok lines := by
    rw [exists_mapM_eq_ok_iff]
    intro e he
    obtain ⟨source, hs⟩ := Dot.exists_node? (h.ends e he).1
    obtain ⟨target, hd⟩ := Dot.exists_node? (h.ends e he).2
    exact ⟨_, Dot.edgeLine_eq_ok ht hs hd⟩
  rw [Dot.emit, Dot.emitLines, hnodes, hedges]
  exact ⟨_, rfl⟩

end WellFormed
end ThreatTree.Graph
