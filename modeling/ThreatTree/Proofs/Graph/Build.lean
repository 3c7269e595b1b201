import Mathlib.Data.List.Find
import ThreatTree.Graph.Build
import ThreatTree.Proofs.Graph.WellFormed

/-!
# The graph of any document

A graph is made from documents that were checked and from such that never were: ids may be declared
twice, references may lead nowhere and `reality` may be declared. Whether `reality` is added is found
out in one scan, the edges are made in another, and only then their ends are looked up. All three
agree, so what comes out is told by the references alone: each becomes an edge of its own, in its
place, unless one of them leads nowhere.

Main statements: `toGraph_eq_match`, the first reference that leads nowhere decides, and
`toGraph_builds_or_rejects`, there is such a reference or the graph is the one that the document
describes.
-/

namespace ThreatTree

/-! ### What a reference says -/

namespace Ref

/-- The remark of a reference. -/
def tag? : Ref → Option String
  | plain _ => none
  | tagged _ tag => some tag
  | flagged _ _ _ tag => tag

/-- Whether a reference wants its arrow turned. Nothing is turned unasked. -/
def isBackwards : Ref → Bool
  | flagged _ _ backwards _ => backwards
  | plain _ | tagged _ _ => false

/-- Whether a reference is to something that is there. What does not say otherwise is. -/
def isImplemented : Ref → Bool
  | flagged _ implemented _ _ => implemented
  | plain _ | tagged _ _ => true

/-- The edge of a reference: from what it names to the node that has it, with all that it says. -/
structure IsEdge (owner : NodeDef) (r : Ref) (e : Edge) : Prop where
  source : e.source = r.id
  target : e.target = owner.id
  tag : e.tag = r.tag?
  backwards : e.backwards = r.isBackwards
  implemented : e.implemented = r.isImplemented

theorem isEdge_toEdge (owner : NodeDef) (r : Ref) : r.IsEdge owner (r.toEdge owner.id) := by
  cases r with
  | plain id => exact ⟨rfl, rfl, rfl, rfl, rfl⟩
  | tagged id tag => exact ⟨rfl, rfl, rfl, rfl, rfl⟩
  | flagged id implemented backwards tag => exact ⟨rfl, rfl, rfl, rfl, rfl⟩

end Ref

namespace Document

variable {d : Document}

/-! ### Nodes -/

theorem nodes_eq (d : Document) : d.nodes = d.facts ++ d.attacks ++ d.mitigations ++ d.goals := by
  simp [nodes, Category.all, ofCategory]

theorem needsReality_iff :
    d.needsReality = true ↔ realityId ∉ d.declaredIds ∧ ∃ r ∈ d.refs, r.id = realityId := by
  simp [needsReality]

theorem ids_graphNodes (d : Document) :
    d.graphNodes.map (·.id) = (if d.needsReality then [realityId] else []) ++ d.declaredIds := by
  rw [graphNodes, List.map_append, List.map_map, declaredIds]
  split <;> rfl

/-- The ids that are nodes of the graph. -/
theorem mem_ids_graphNodes {id : String} :
    id ∈ d.graphNodes.map (·.id) ↔
      id ∈ d.declaredIds ∨ id = realityId ∧ ∃ r ∈ d.refs, r.id = realityId := by
  rw [ids_graphNodes, List.mem_append]
  split
  · rename_i hreality
    rw [List.mem_singleton, or_comm, and_iff_left (needsReality_iff.mp hreality).2]
  · -- `reality` is declared or nobody refers to it
    rename_i hreality
    rw [needsReality_iff, not_and, not_imp_not] at hreality
    constructor
    · rintro (⟨⟨⟩⟩ | hid)
      exact .inl hid
    · rintro (hid | ⟨rfl, href⟩)
      · exact .inr hid
      · exact .inr (hreality href)

/-! ### Edges -/

/-- The references of a document in creation order, each with the node that has it. -/
def links (d : Document) : List (NodeDef × Ref) := d.nodes.flatMap fun n => n.refs.map fun r => (n, r)

theorem mem_links {l : NodeDef × Ref} : l ∈ d.links ↔ l.1 ∈ d.nodes ∧ l.2 ∈ l.1.refs := by
  obtain ⟨n, r⟩ := l
  simp only [links, List.mem_flatMap, List.mem_map]
  constructor
  · rintro ⟨n', hn, r', hr, ⟨⟩⟩
    exact ⟨hn, hr⟩
  · rintro ⟨hn, hr⟩
    exact ⟨n, hn, r, hr, rfl⟩

theorem refs_eq (d : Document) : d.refs = d.links.map (·.2) := by
  simp [refs, links, List.map_flatMap, Function.comp_def]

theorem ref_mem {l : NodeDef × Ref} (hl : l ∈ d.links) : l.2 ∈ d.refs := by
  rw [refs_eq]
  exact List.mem_map_of_mem hl

theorem graphEdges_eq (d : Document) : d.graphEdges = d.links.map fun l => l.2.toEdge l.1.id := by
  simp [graphEdges, links, List.map_flatMap, Function.comp_def]

/-! ### References that lead nowhere -/

/-- What a reference names is neither declared nor `reality`. -/
def Dangles (d : Document) (r : Ref) : Prop := r.id ∉ d.declaredIds ∧ r.id ≠ realityId

instance (d : Document) (r : Ref) : Decidable (d.Dangles r) := inferInstanceAs (Decidable (_ ∧ _))

/-- A reference dangles if what it names is no node of the graph: where it names `reality`, that was
added because of it. -/
theorem dangles_iff {r : Ref} (hr : r ∈ d.refs) :
    d.Dangles r ↔ r.id ∉ d.graphNodes.map (·.id) := by
  rw [mem_ids_graphNodes, not_or, Dangles, and_congr_right_iff]
  intro _
  rw [not_and]
  constructor
  · intro hne hreality
    exact absurd hreality hne
  · intro hnone hreality
    exact hnone hreality ⟨r, hr, hreality⟩

/-! ### The graph -/

/-- The graph of a document, if every reference leads somewhere. -/
def graph (d : Document) (theme : String) : Graph where
  nodes := d.graphNodes
  edges := d.graphEdges
  title := d.title
  focus := d.focus
  theme := theme

/-- The first reference that leads nowhere decides. -/
theorem toGraph_eq_match (d : Document) (choice : Option String) (fallback : String) :
    d.toGraph choice fallback =
      match d.links.find? (d.Dangles ·.2) with
      | some (n, r) => .error (.undefinedRef r.id n.id)
      | none => .ok (d.graph (chooseTheme choice d.theme fallback)) := by
  have hfind : d.graphEdges.find? (!(d.graphNodes.map (·.id)).contains ·.source) =
      (d.links.find? (d.Dangles ·.2)).map fun l => l.2.toEdge l.1.id := by
    rw [graphEdges_eq, List.find?_map]
    congr 1
    apply List.find?_congr
    intro l hl
    rw [Bool.eq_iff_iff, decide_eq_true_iff, dangles_iff (ref_mem hl)]
    simp
  rw [toGraph, hfind]
  cases d.links.find? (d.Dangles ·.2) with
  | none => rfl
  | some l => simp

theorem toGraph_eq_error_iff {choice : Option String} {fallback : String} {e : DocumentError} :
    d.toGraph choice fallback = .error e ↔
      ∃ before n r after, d.links = before ++ (n, r) :: after ∧ (∀ l ∈ before, ¬ d.Dangles l.2) ∧
        d.Dangles r ∧ e = .undefinedRef r.id n.id := by
  have hfirst {n : NodeDef} {r : Ref} : d.links.find? (d.Dangles ·.2) = some (n, r) ↔
      d.Dangles r ∧ ∃ before after, d.links = before ++ (n, r) :: after ∧
        ∀ l ∈ before, ¬ d.Dangles l.2 := by
    simp [List.find?_eq_some_iff_append]
  rw [toGraph_eq_match]
  constructor
  · intro h
    cases hfind : d.links.find? (d.Dangles ·.2) with
    | none =>
      rw [hfind] at h
      cases h
    | some l =>
      rw [hfind] at h
      cases h
      obtain ⟨hdangles, before, after, hlinks, hbefore⟩ := hfirst.mp hfind
      exact ⟨before, l.1, l.2, after, hlinks, hbefore, hdangles, rfl⟩
  · rintro ⟨before, n, r, after, hlinks, hbefore, hdangles, rfl⟩
    rw [hfirst.mpr ⟨hdangles, before, after, hlinks, hbefore⟩]

theorem exists_toGraph_error_iff {choice : Option String} {fallback : String} :
    (∃ e, d.toGraph choice fallback = .error e) ↔ ∃ r ∈ d.refs, d.Dangles r := by
  have hsome : (d.links.find? (d.Dangles ·.2)).isSome = true ↔ ∃ r ∈ d.refs, d.Dangles r := by
    rw [List.find?_isSome, refs_eq]
    simp only [decide_eq_true_iff, List.mem_map, exists_exists_and_eq_and]
  rw [toGraph_eq_match, ← hsome]
  cases d.links.find? (d.Dangles ·.2) with
  | none => simp
  | some l => simp

theorem toGraph_eq_ok {choice : Option String} {fallback : String}
    (h : ∀ r ∈ d.refs, ¬ d.Dangles r) :
    d.toGraph choice fallback = .ok (d.graph (chooseTheme choice d.theme fallback)) := by
  cases hgraph : d.toGraph choice fallback with
  | error e =>
    obtain ⟨r, hr, hdangles⟩ := exists_toGraph_error_iff.mp ⟨e, hgraph⟩
    exact absurd hdangles (h r hr)
  | ok g =>
    rw [toGraph_eq_match] at hgraph
    split at hgraph
    · cases hgraph
    · exact hgraph.symm

/-- What the graph of a document is. -/
structure IsGraphOf (d : Document) (g : Graph) : Prop where
  /-- `reality` comes first if it has to be added, then the declared nodes section by section. -/
  nodes : g.nodes =
    (if realityId ∉ d.declaredIds ∧ ∃ r ∈ d.refs, r.id = realityId then
      [⟨realityId, realityLabel, .fact, true⟩] else []) ++
    (d.facts ++ d.attacks ++ d.mitigations ++ d.goals).map fun n =>
      ⟨n.id, n.label.getD n.id, n.category, false⟩
  /-- Each reference has an edge of its own in its place, and no other edge is there. -/
  edges : List.Forall₂ (fun l e => l.2.IsEdge l.1 e) d.links g.edges
  ends : ∀ e ∈ g.edges, e.source ∈ g.ids ∧ e.target ∈ g.ids
  title : g.title = d.title
  focus : g.focus = d.focus

theorem isGraphOf_graph (h : ∀ r ∈ d.refs, ¬ d.Dangles r) (theme : String) :
    d.IsGraphOf (d.graph theme) where
  nodes := by
    show d.graphNodes = _
    rw [graphNodes, ← nodes_eq]
    congr 1
    simp only [needsReality_iff]
    rfl
  edges := by
    show List.Forall₂ _ d.links d.graphEdges
    rw [graphEdges_eq, List.forall₂_map_right_iff, List.forall₂_same]
    intro l _
    exact l.2.isEdge_toEdge l.1
  ends := by
    show ∀ e ∈ d.graphEdges, e.source ∈ d.graphNodes.map (·.id) ∧ e.target ∈ d.graphNodes.map (·.id)
    rw [graphEdges_eq, List.forall_mem_map]
    intro l hl
    rw [Ref.source_toEdge, Ref.target_toEdge, ← not_not (a := l.2.id ∈ _),
      ← dangles_iff (ref_mem hl)]
    exact ⟨h l.2 (ref_mem hl), mem_ids_graphNodes.mpr (.inl (List.mem_map_of_mem (mem_links.mp hl).1))⟩
  title := rfl
  focus := rfl

/-- **A document has exactly the graph that it describes, or a reference that leads nowhere.** It is
refused exactly if some reference names neither a declared node nor `reality`, and then because of the
first of them; else its graph has the nodes in creation order, with `reality` in front where it has to
be added, one edge for each reference, and edges between nodes only. -/
theorem toGraph_builds_or_rejects (d : Document) (choice : Option String) (fallback : String) :
    ((∃ e, d.toGraph choice fallback = .error e) ↔ ∃ r ∈ d.refs, d.Dangles r) ∧
      (∀ e, d.toGraph choice fallback = .error e ↔
        ∃ before n r after, d.links = before ++ (n, r) :: after ∧
          (∀ l ∈ before, ¬ d.Dangles l.2) ∧ d.Dangles r ∧ e = .undefinedRef r.id n.id) ∧
      ((∀ r ∈ d.refs, ¬ d.Dangles r) ↔ ∃ g, d.toGraph choice fallback = .ok g ∧ d.IsGraphOf g) := by
  refine ⟨exists_toGraph_error_iff, fun _ => toGraph_eq_error_iff, ?_, ?_⟩
  · intro h
    exact ⟨_, toGraph_eq_ok h, isGraphOf_graph h _⟩
  · rintro ⟨g, hg, -⟩ r hr hdangles
    obtain ⟨e, he⟩ := exists_toGraph_error_iff.mpr ⟨r, hr, hdangles⟩
    cases hg.symm.trans he

end Document
end ThreatTree
