import ThreatTree.Graph.Focus
import Mathlib.Logic.Relation

/-!
# The part of a graph in focus

`Graph.focusOn` searches both cones of each focus id; what it should keep is said by paths. A path
follows edges from prerequisite to dependent, any number of them (`Path`), and an id is in focus if
a path joins it to some focus id (`InFocus`). Nodes may share ids, edges may be parallel, run in
circles or end where no node is.

Main statements: `mem_reach_iff`, the search finds exactly what paths lead to, and
`focusOn_eq_induced`, the part in focus is the subgraph that the ids in focus induce.
-/

namespace ThreatTree

/-! ### The search and the paths -/

section Search

variable {α : Type} [DecidableEq α] {arcs : List (α × α)}

theorem reach_sound {seen : List α} {b : α} (h : b ∈ reach arcs seen) :
    ∃ a ∈ seen, Relation.ReflTransGen (fun x y => (x, y) ∈ arcs) a b := by
  fun_induction reach arcs seen with
  | case1 seen c hc ih =>
    obtain ⟨a, ha, hpath⟩ := ih h
    rcases List.mem_cons.mp ha with rfl | ha
    · -- the arc that brought `c.2` in starts in `seen`
      have harc : (c.1, c.2) ∈ arcs := List.mem_of_find?_eq_some hc
      have hseen : c.1 ∈ seen := by
        have := List.find?_some hc
        simp only [Bool.and_eq_true, List.contains_eq_mem, decide_eq_true_eq] at this
        exact this.1
      exact ⟨c.1, hseen, hpath.head harc⟩
    · exact ⟨a, ha, hpath⟩
  | case2 seen _ => exact ⟨b, h, .refl⟩

theorem reach_complete {seen : List α} {a b : α} (ha : a ∈ seen)
    (h : Relation.ReflTransGen (fun x y => (x, y) ∈ arcs) a b) : b ∈ reach arcs seen := by
  induction h with
  | refl => exact subset_reach arcs seen ha
  | tail _ harc ih => exact closed_reach harc ih

theorem mem_reach_iff {seen : List α} {b : α} :
    b ∈ reach arcs seen ↔ ∃ a ∈ seen, Relation.ReflTransGen (fun x y => (x, y) ∈ arcs) a b :=
  ⟨reach_sound, fun ⟨_, ha, h⟩ => reach_complete ha h⟩

end Search

namespace Graph

/-! ### Paths -/

/-- Some edge leads from `a` to `b`. How it is drawn does not matter. -/
def Leads (g : Graph) (a b : String) : Prop := ∃ e ∈ g.edges, e.source = a ∧ e.target = b

/-- A path of zero or more edges. -/
def Path (g : Graph) : String → String → Prop := Relation.ReflTransGen g.Leads

/-- A path leads from the id to some focus id, or from some focus id to it. -/
def InFocus (g : Graph) (focus : List String) (id : String) : Prop :=
  ∃ f ∈ focus, g.Path id f ∨ g.Path f id

theorem mem_arcs {g : Graph} {a b : String} : (a, b) ∈ g.arcs ↔ g.Leads a b := by
  simp [arcs, Leads]

theorem mem_descendants {g : Graph} {a b : String} : b ∈ g.descendants a ↔ g.Path a b := by
  simp only [descendants, mem_reach_iff, mem_arcs, List.mem_singleton, exists_eq_left]
  rfl

theorem mem_ancestors {g : Graph} {a b : String} : b ∈ g.ancestors a ↔ g.Path b a := by
  have hswap : ∀ x y, (x, y) ∈ g.arcs.map Prod.swap ↔ Function.swap g.Leads x y := by
    intro x y
    show _ ↔ g.Leads y x
    rw [← mem_arcs, List.mem_map]
    constructor
    · rintro ⟨⟨a, b⟩, hab, heq⟩
      cases heq
      exact hab
    · intro hyx
      exact ⟨(y, x), hyx, rfl⟩
  simp only [ancestors, mem_reach_iff, hswap, List.mem_singleton, exists_eq_left]
  exact Relation.reflTransGen_swap

theorem mem_retained {g : Graph} {focus : List String} {id : String} :
    id ∈ g.retained focus ↔ g.InFocus focus id := by
  simp only [retained, through, List.mem_flatMap, List.mem_append, mem_ancestors, mem_descendants]
  rfl

/-- The search decides what is in focus. -/
instance (g : Graph) (focus : List String) (id : String) : Decidable (g.InFocus focus id) :=
  decidable_of_iff _ mem_retained

/-- Only the ends of edges count for paths. -/
theorem inFocus_congr {g h : Graph} (harcs : h.arcs = g.arcs) (focus : List String) (id : String) :
    h.InFocus focus id ↔ g.InFocus focus id := by
  have hleads : h.Leads = g.Leads := by
    funext a b
    rw [← eq_iff_iff.mpr mem_arcs, ← eq_iff_iff.mpr mem_arcs, harcs]
  simp only [InFocus, Path, hleads]

/-! ### The induced part -/

/-- The nodes in focus and the edges between ids in focus. -/
def induced (g : Graph) (focus : List String) : Graph :=
  { g with
    nodes := g.nodes.filter fun n => g.InFocus focus n.id
    edges := g.edges.filter fun e => g.InFocus focus e.source ∧ g.InFocus focus e.target }

theorem restrict_retained (g : Graph) (focus : List String) :
    g.restrict (g.retained focus) = g.induced focus := by
  have hkept : ∀ id, (g.retained focus).contains id = true ↔ g.InFocus focus id := by
    intro id
    rw [List.contains_iff_mem, mem_retained]
  unfold restrict induced
  congr 1
  · apply List.filter_congr
    intro n _
    rw [Bool.eq_iff_iff, hkept, decide_eq_true_iff]
  · apply List.filter_congr
    intro e _
    rw [Bool.eq_iff_iff, Bool.and_eq_true, hkept, hkept, decide_eq_true_iff]

theorem vertices_congr {g h : Graph} (hnodes : h.nodes = g.nodes) (harcs : h.arcs = g.arcs) :
    h.vertices = g.vertices := by
  have hends : ∀ g : Graph, (g.edges.flatMap fun e => [e.source, e.target]) =
      g.arcs.flatMap fun a => [a.1, a.2] := by
    intro g
    simp [arcs, List.flatMap_map]
  rw [vertices, vertices, hnodes, hends, hends, harcs]

theorem focusOn_eq_ok {g : Graph} {focus : List String} (hne : focus ≠ [])
    (hmem : ∀ f ∈ focus, f ∈ g.vertices) : g.focusOn focus = .ok (g.induced focus) := by
  have hfind : focus.find? (!g.vertices.contains ·) = none := by
    rw [List.find?_eq_none]
    intro f hf
    simpa using hmem f hf
  unfold focusOn
  rw [if_neg (by simpa using hne), hfind, ← restrict_retained]

/-- **The part in focus is the induced subgraph**: a node is kept exactly if a path joins it to some
focus id and an edge exactly if both its ends are so joined, in the order of the graph; all else
stays. How edges are drawn, tagged or implemented has no influence: another graph with the same
nodes and the same ends of edges keeps the same nodes and the edges at the same places. -/
theorem focusOn_eq_induced (g : Graph) (focus : List String) (hne : focus ≠ [])
    (hmem : ∀ f ∈ focus, f ∈ g.vertices) :
    ∃ g', g.focusOn focus = .ok g' ∧
      g'.nodes = (g.nodes.filter fun n => g.InFocus focus n.id) ∧
      g'.edges = (g.edges.filter fun e => g.InFocus focus e.source ∧ g.InFocus focus e.target) ∧
      g'.title = g.title ∧ g'.theme = g.theme ∧ g'.focus = g.focus ∧
      ∀ h : Graph, h.nodes = g.nodes → h.arcs = g.arcs →
        ∃ h', h.focusOn focus = .ok h' ∧ h'.nodes = g'.nodes ∧
          h'.edges = h.edges.filter fun e => g.InFocus focus e.source ∧ g.InFocus focus e.target := by
  refine ⟨_, focusOn_eq_ok hne hmem, rfl, rfl, rfl, rfl, rfl, ?_⟩
  intro h hnodes harcs
  have hmem' : ∀ f ∈ focus, f ∈ h.vertices := by
    rwa [vertices_congr hnodes harcs]
  refine ⟨_, focusOn_eq_ok hne hmem', ?_, ?_⟩
  · simp only [induced, hnodes, inFocus_congr harcs]
  · simp only [induced, inFocus_congr harcs]

/-- Two circles, two parallel edges, two nodes of one id and an edge that leads to no node. -/
def tangled : Graph where
  nodes := [⟨"a", "A", .fact, false⟩, ⟨"b", "B", .attack, false⟩, ⟨"b", "B again", .goal, false⟩,
    ⟨"c", "C", .goal, false⟩]
  edges := [⟨"a", "b", none, true, true⟩, ⟨"a", "b", some "again", false, false⟩,
    ⟨"b", "a", none, false, true⟩, ⟨"b", "b", none, false, true⟩, ⟨"b", "ghost", none, true, true⟩,
    ⟨"c", "c", none, false, true⟩]
  title := some "T"
  focus := ["c"]
  theme := "default"

theorem focusOn_tangled : ["ghost", "b"] ≠ [] ∧ (∀ f ∈ ["ghost", "b"], f ∈ tangled.vertices) ∧
    ∃ g', tangled.focusOn ["ghost", "b"] = .ok g' ∧
      (g'.nodes = tangled.nodes.filter fun n => tangled.InFocus ["ghost", "b"] n.id) ∧
      g'.focus = ["c"] := by
  have hne : ["ghost", "b"] ≠ [] := by decide
  have hmem : ∀ f ∈ ["ghost", "b"], f ∈ tangled.vertices := by decide
  obtain ⟨g', hok, hnodes, -, -, -, hfocus, -⟩ :=
    focusOn_eq_induced tangled ["ghost", "b"] hne hmem
  exact ⟨hne, hmem, g', hok, hnodes, hfocus⟩

end Graph
end ThreatTree
