import ThreatTree.Proofs.Graph.Cone

/-!
# Focusing again

The part of a graph in focus has fewer edges than the graph, and so it might have fewer paths. It
loses none that count: all that a path into a focus id passes is in focus, so each of its edges is
kept, and so is each edge of a path out of a focus id. Inside the part, the focus ids have the cones
that they have in the graph, and the part in focus of the part is all of it.

Main statements: `induced_induced`, the part can be focused on some of the ids in its place, and
`focusOn_stable`, focusing a second time changes nothing.
-/

namespace ThreatTree.Graph

variable {g : Graph} {focus : List String} {f id : String}

/-! ### Paths in the part -/

/-- The edges of the part are those between ids in focus. -/
theorem leads_induced_iff {a b : String} :
    (g.induced focus).Leads a b ↔ g.Leads a b ∧ g.InFocus focus a ∧ g.InFocus focus b := by
  constructor
  · rintro ⟨e, he, rfl, rfl⟩
    obtain ⟨he, hends⟩ := List.mem_filter.mp he
    exact ⟨⟨e, he, rfl, rfl⟩, of_decide_eq_true hends⟩
  · rintro ⟨⟨e, he, rfl, rfl⟩, hends⟩
    exact ⟨e, List.mem_filter.mpr ⟨he, decide_eq_true hends⟩, rfl, rfl⟩

theorem path_of_path_induced {a b : String} (h : (g.induced focus).Path a b) : g.Path a b := by
  induction h with
  | refl => exact .refl
  | tail _ hedge ih => exact ih.tail (leads_induced_iff.mp hedge).1

/-- A path into a focus id runs through the part. -/
theorem path_induced_into_iff (hf : f ∈ focus) : (g.induced focus).Path id f ↔ g.Path id f := by
  constructor
  · exact path_of_path_induced
  · intro h
    -- from its end: what is left of the path shows that the next edge is kept
    induction h using Relation.ReflTransGen.head_induction_on with
    | refl => exact .refl
    | head hedge hrest ih =>
      have hsource := Relation.ReflTransGen.head hedge hrest
      exact .head (leads_induced_iff.mpr ⟨hedge, ⟨f, hf, .inl hsource⟩, ⟨f, hf, .inl hrest⟩⟩) ih

/-- A path out of a focus id runs through the part. -/
theorem path_induced_from_iff (hf : f ∈ focus) : (g.induced focus).Path f id ↔ g.Path f id := by
  constructor
  · exact path_of_path_induced
  · intro h
    induction h with
    | refl => exact .refl
    | tail hrest hedge ih =>
      have htarget := Relation.ReflTransGen.tail hrest hedge
      exact .tail ih (leads_induced_iff.mpr ⟨hedge, ⟨f, hf, .inr hrest⟩, ⟨f, hf, .inr htarget⟩⟩)

/-- What is in focus of some of the ids in the graph is so in the part. -/
theorem inFocus_induced_iff {narrower : List String} (hsub : narrower ⊆ focus) :
    (g.induced focus).InFocus narrower id ↔ g.InFocus narrower id := by
  apply exists_congr
  intro f
  apply and_congr_right
  intro hf
  rw [path_induced_into_iff (hsub hf), path_induced_from_iff (hsub hf)]

theorem InFocus.mono {narrower : List String} (hsub : narrower ⊆ focus)
    (h : g.InFocus narrower id) : g.InFocus focus id := by
  obtain ⟨f, hf, hpath⟩ := h
  exact ⟨f, hsub hf, hpath⟩

/-! ### The part of the part -/

/-- **Some of the focus ids have the same part in the part as in the graph.** -/
theorem induced_induced {narrower : List String} (hsub : narrower ⊆ focus) :
    (g.induced focus).induced narrower = g.induced narrower := by
  have hkept (id : String) :
      (g.induced focus).InFocus narrower id ∧ g.InFocus focus id ↔ g.InFocus narrower id := by
    rw [inFocus_induced_iff hsub, and_iff_left_iff_imp]
    exact InFocus.mono hsub
  show { g with
    nodes := (g.nodes.filter fun n => g.InFocus focus n.id).filter fun n =>
      (g.induced focus).InFocus narrower n.id
    edges := (g.edges.filter fun e => g.InFocus focus e.source ∧ g.InFocus focus e.target).filter
      fun e => (g.induced focus).InFocus narrower e.source ∧
        (g.induced focus).InFocus narrower e.target } = g.induced narrower
  simp only [List.filter_filter, ← Bool.decide_and, and_and_and_comm, hkept]
  rfl

/-- A focus id of the graph is in the part, also if it is no node but only an end of edges. -/
theorem mem_vertices_induced (hf : f ∈ focus) (h : f ∈ g.vertices) :
    f ∈ (g.induced focus).vertices := by
  have hself : g.InFocus focus f := ⟨f, hf, .inl .refl⟩
  rw [mem_vertices_iff] at h ⊢
  rcases h with hnode | ⟨e, he, hend⟩
  · obtain ⟨n, hn, rfl⟩ := List.mem_map.mp hnode
    exact .inl (List.mem_map_of_mem (List.mem_filter.mpr ⟨hn, decide_eq_true hself⟩))
  · -- the other end of the edge is one step away
    have hedge : g.Leads e.source e.target := ⟨e, he, rfl, rfl⟩
    have hends : g.InFocus focus e.source ∧ g.InFocus focus e.target := by
      rcases hend with rfl | rfl
      · exact ⟨hself, e.source, hf, .inr (.single hedge)⟩
      · exact ⟨⟨e.target, hf, .inl (.single hedge)⟩, hself⟩
    exact .inr ⟨e, List.mem_filter.mpr ⟨he, decide_eq_true hends⟩, hend⟩

/-- **Focusing again changes nothing.** The part in focus has every focus id, each with the cones that
it has in the graph; each node of the part is joined to a focus id by a path inside the part; and the
same focus on the part succeeds and gives the part. -/
theorem focusOn_stable (g : Graph) (focus : List String) (hne : focus ≠ [])
    (hmem : ∀ f ∈ focus, f ∈ g.vertices) :
    ∃ part, g.focusOn focus = .ok part ∧
      (∀ f ∈ focus, f ∈ part.vertices ∧
        (∀ id, id ∈ part.ancestors f ↔ id ∈ g.ancestors f) ∧
        ∀ id, id ∈ part.descendants f ↔ id ∈ g.descendants f) ∧
      (∀ n ∈ part.nodes, ∃ f ∈ focus, part.Path n.id f ∨ part.Path f n.id) ∧
      part.focusOn focus = .ok part := by
  refine ⟨_, focusOn_eq_ok hne hmem, ?cones, ?joined, ?again⟩
  case cones =>
    intro f hf
    refine ⟨mem_vertices_induced hf (hmem f hf), fun id => ?_, fun id => ?_⟩
    · rw [mem_ancestors, mem_ancestors, path_induced_into_iff hf]
    · rw [mem_descendants, mem_descendants, path_induced_from_iff hf]
  case joined =>
    intro n hn
    have hfocus : g.InFocus focus n.id := of_decide_eq_true (List.mem_filter.mp hn).2
    exact (inFocus_induced_iff (List.Subset.refl focus)).mpr hfocus
  case again =>
    rw [focusOn_eq_ok hne fun f hf => mem_vertices_induced hf (hmem f hf),
      induced_induced (List.Subset.refl focus)]

/-- Between the focus ids of `tangled` runs a circle, and one of them is no node. -/
theorem focusOn_stable_tangled :
    ["ghost", "b"] ≠ [] ∧ (∀ f ∈ ["ghost", "b"], f ∈ tangled.vertices) ∧
      ∃ part, tangled.focusOn ["ghost", "b"] = .ok part ∧
        part.focusOn ["ghost", "b"] = .ok part ∧ "ghost" ∈ part.vertices ∧
        "a" ∈ part.ancestors "ghost" ∧ "a" ∈ part.descendants "b" := by
  have hne : ["ghost", "b"] ≠ [] := by decide
  have hmem : ∀ f ∈ ["ghost", "b"], f ∈ tangled.vertices := by decide
  obtain ⟨part, hpart, hcones, -, hagain⟩ := focusOn_stable tangled ["ghost", "b"] hne hmem
  obtain ⟨hghost, hancestors, -⟩ := hcones "ghost" (by simp)
  obtain ⟨-, -, hdescendants⟩ := hcones "b" (by simp)
  have hcircle : tangled.Leads "a" "b" ∧ tangled.Leads "b" "a" := by
    unfold Leads
    decide
  have hend : tangled.Leads "b" "ghost" := by
    unfold Leads
    decide
  have hinto : tangled.Path "a" "ghost" := .tail (.single hcircle.1) hend
  have hfrom : tangled.Path "b" "a" := .single hcircle.2
  exact ⟨hne, hmem, part, hpart, hagain, hghost, (hancestors _).mpr (mem_ancestors.mpr hinto),
    (hdescendants _).mpr (mem_descendants.mpr hfrom)⟩

end ThreatTree.Graph
