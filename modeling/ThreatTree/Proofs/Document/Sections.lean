import ThreatTree.Proofs.Document.Entries

/-!
# Sections

The sections are read one after the other, and each entry is held against all nodes before it. Seen
from the end, this is the same as to read every section by itself and then to ask whether all ids
are distinct.

Main statements: `foldlM_readSection_eq_ok_iff`, which says just that, and `exists_blocks_iff`, every
section can be read by itself exactly if the grammar allows its entries and these can be written out.
-/

namespace ThreatTree

open Grammar

/-! ### One section -/

/-- The section of a category, read by itself. -/
def readBlock (es : List (Value × Value)) (c : Category) : Except DocumentError (List NodeDef) :=
  readList (NodeDef.ofValue c) (.sectionNotList c) (Value.field? c.sectionName es)

/-- The ids of some nodes. -/
def nodeIds (nodes : List NodeDef) : List String := nodes.map (·.id)

@[simp] theorem nodeIds_append (nodes nodes' : List NodeDef) :
    nodeIds (nodes ++ nodes') = nodeIds nodes ++ nodeIds nodes' := List.map_append

theorem find?_id_eq_none_iff {nodes : List NodeDef} {id : String} :
    nodes.find? (·.id = id) = none ↔ id ∉ nodeIds nodes := by
  simp [nodeIds, List.find?_eq_none]

theorem readEntries_eq_ok_iff {c : Category} {seen : List NodeDef} {vs : List Value}
    {nodes : List NodeDef} (hseen : (nodeIds seen).Nodup) :
    readEntries c seen vs = .ok nodes ↔
      ∃ new, vs.mapM (NodeDef.ofValue c) = .ok new ∧ seen ++ new = nodes ∧ (nodeIds nodes).Nodup := by
  -- the invariant: the ids of the nodes seen so far are distinct
  induction vs generalizing seen with
  | nil =>
    simp only [readEntries, List.mapM_nil, pure, Except.pure, Except.ok.injEq]
    constructor
    · rintro rfl
      exact ⟨[], rfl, List.append_nil _, hseen⟩
    · rintro ⟨new, rfl, h, -⟩
      rwa [List.append_nil] at h
  | cons v vs ih =>
    rw [readEntries, bind_eq_ok_iff, List.mapM_cons]
    simp only [bind_eq_ok_iff]
    constructor
    · rintro ⟨n, hn, h⟩
      split at h
      · cases h
      · rename_i hfind
        have hfresh := find?_id_eq_none_iff.mp hfind
        have hseen' : (nodeIds (seen ++ [n])).Nodup := by
          rw [nodeIds_append, List.nodup_append]
          refine ⟨hseen, by simp [nodeIds], ?_⟩
          rintro a ha b hb rfl
          obtain rfl := List.mem_singleton.mp hb
          exact hfresh ha
        obtain ⟨new, hnew, rfl, hnodup⟩ := (ih hseen').mp h
        exact ⟨n :: new, ⟨n, hn, new, hnew, rfl⟩, by simp, hnodup⟩
    · -- distinct at the end is distinct at every step, so no search finds an earlier node
      rintro ⟨_, ⟨n, hn, new, hnew, ⟨⟩⟩, hnodes, hnodup⟩
      obtain rfl : seen ++ [n] ++ new = nodes := by rw [← hnodes, List.append_assoc]; rfl
      refine ⟨n, hn, ?_⟩
      have hseen' : (nodeIds (seen ++ [n])).Nodup := by
        rw [nodeIds_append] at hnodup
        exact (List.nodup_append.mp hnodup).1
      have hfind : seen.find? (·.id = n.id) = none := by
        rw [find?_id_eq_none_iff]
        intro hmem
        rw [nodeIds_append, List.nodup_append] at hseen'
        exact hseen'.2.2 _ hmem n.id (by simp [nodeIds]) rfl
      rw [hfind]
      exact (ih hseen').mpr ⟨new, hnew, rfl, hnodup⟩

theorem readSection_eq_ok_iff {es : List (Value × Value)} {c : Category}
    {seen nodes : List NodeDef} (hseen : (nodeIds seen).Nodup) :
    readSection es seen c = .ok nodes ↔
      ∃ new, readBlock es c = .ok new ∧ seen ++ new = nodes ∧ (nodeIds nodes).Nodup := by
  unfold readSection readBlock
  generalize Value.field? c.sectionName es = o
  cases o with
  | none =>
    constructor
    · rintro ⟨⟩
      exact ⟨[], rfl, List.append_nil _, hseen⟩
    · rintro ⟨new, ⟨⟩, rfl, -⟩
      rw [List.append_nil]
  | some v =>
    cases v with
    | list vs => exact readEntries_eq_ok_iff hseen
    | _ =>
      constructor
      · rintro ⟨⟩
      · rintro ⟨new, ⟨⟩, -⟩

/-! ### All sections -/

/-- **The sections one after the other are the sections each by itself, with distinct ids.** -/
theorem foldlM_readSection_eq_ok_iff {es : List (Value × Value)} {cs : List Category}
    {seen nodes : List NodeDef} (hseen : (nodeIds seen).Nodup) :
    cs.foldlM (readSection es) seen = .ok nodes ↔
      ∃ blocks, cs.mapM (readBlock es) = .ok blocks ∧ seen ++ blocks.flatten = nodes ∧
        (nodeIds nodes).Nodup := by
  induction cs generalizing seen with
  | nil =>
    simp only [List.foldlM_nil, List.mapM_nil, pure, Except.pure, Except.ok.injEq]
    constructor
    · rintro rfl
      exact ⟨[], rfl, List.append_nil _, hseen⟩
    · rintro ⟨blocks, rfl, h, -⟩
      rwa [List.flatten_nil, List.append_nil] at h
  | cons c cs ih =>
    rw [List.foldlM_cons, List.mapM_cons]
    simp only [bind_eq_ok_iff]
    constructor
    · rintro ⟨seen', h, hrest⟩
      obtain ⟨new, hnew, rfl, hseen'⟩ := (readSection_eq_ok_iff hseen).mp h
      obtain ⟨blocks, hblocks, rfl, hnodup⟩ := (ih hseen').mp hrest
      exact ⟨new :: blocks, ⟨new, hnew, blocks, hblocks, rfl⟩, by simp, hnodup⟩
    · rintro ⟨_, ⟨new, hnew, blocks, hblocks, ⟨⟩⟩, hnodes, hnodup⟩
      obtain rfl : seen ++ new ++ blocks.flatten = nodes := by rw [← hnodes, List.append_assoc]; rfl
      have hseen' : (nodeIds (seen ++ new)).Nodup := by
        rw [nodeIds_append] at hnodup
        exact (List.nodup_append.mp hnodup).1
      exact ⟨seen ++ new, (readSection_eq_ok_iff hseen).mpr ⟨new, hnew, rfl, hseen'⟩,
        (ih hseen').mpr ⟨blocks, hblocks, rfl, hnodup⟩⟩

/-- The sections of a document, in order. -/
def readBlocks (es : List (Value × Value)) : Except DocumentError (List (List NodeDef)) :=
  Category.all.mapM (readBlock es)

theorem mapM_of_readBlock {es : List (Value × Value)} {c : Category} {block : List NodeDef}
    (h : readBlock es c = .ok block) :
    (sectionEntries es c).mapM (NodeDef.ofValue c) = .ok block :=
  (readList_eq_ok_iff.mp h).2

/-- The nodes have the ids that the document declares. -/
theorem ids_of_readBlocks {es : List (Value × Value)} {blocks : List (List NodeDef)}
    (h : readBlocks es = .ok blocks) : nodeIds blocks.flatten = declared es := by
  rw [nodeIds, List.map_flatten, ← List.flatMap_def, declared, nodeEntries, List.map_flatMap]
  refine flatMap_eq_of_mapM h fun c block hc => ?_
  exact map_eq_of_mapM (mapM_of_readBlock hc) fun _ _ hn => (NodeDef.parts_of_ofValue hn).2.1

/-- The nodes refer to the ids that the document refers to. -/
theorem refs_of_readBlocks {es : List (Value × Value)} {blocks : List (List NodeDef)}
    (h : readBlocks es = .ok blocks) :
    (blocks.flatten.flatMap (·.refs)).map Ref.id = referred es := by
  rw [List.map_flatMap, List.flatMap_def, List.map_flatten, List.flatten_flatten, List.map_map,
    ← List.flatMap_def, referred, nodeEntries, List.map_flatMap, List.flatMap_assoc]
  refine flatMap_eq_of_mapM h fun c block hc => ?_
  exact flatMap_eq_of_mapM (mapM_of_readBlock hc) fun _ _ hn => (NodeDef.parts_of_ofValue hn).2.2

/-- All sections of a document. -/
theorem foldlM_readSection_all_eq_ok_iff {es : List (Value × Value)} {nodes : List NodeDef} :
    Category.all.foldlM (readSection es) [] = .ok nodes ↔
      ∃ blocks, readBlocks es = .ok blocks ∧ blocks.flatten = nodes ∧ (declared es).Nodup := by
  rw [foldlM_readSection_eq_ok_iff (by simp [nodeIds])]
  refine exists_congr fun blocks => and_congr_right fun hblocks => ?_
  rw [← ids_of_readBlocks hblocks, List.nil_append]
  refine and_congr_right ?_
  rintro rfl
  rfl

theorem exists_block_iff {es : List (Value × Value)} {c : Category} :
    (∃ block, readBlock es c = .ok block) ↔
      ListOf IsEntry (Value.field? c.sectionName es) ∧
        ∀ t ∈ (sectionEntries es c).flatMap entryTexts, t.isWritable = true := by
  rw [sectionEntries, ← listOf_writable_iff]
  simp only [readBlock, exists_readList_iff, exists_node_iff]

theorem exists_blocks_iff {es : List (Value × Value)} :
    (∃ blocks, readBlocks es = .ok blocks) ↔
      (∀ c : Category, ListOf IsEntry (Value.field? c.sectionName es)) ∧
        ∀ t ∈ (nodeEntries es).flatMap entryTexts, t.isWritable = true := by
  simp only [readBlocks, exists_mapM_eq_ok_iff, Category.mem_all, forall_const, exists_block_iff,
    forall_and, nodeEntries, List.flatMap_assoc]
  refine and_congr_right fun _ => ⟨fun h t ht => ?_, fun h c t ht => ?_⟩
  · obtain ⟨c, -, ht⟩ := List.mem_flatMap.mp ht
    exact h c t ht
  · exact h t (List.mem_flatMap.mpr ⟨c, Category.mem_all c, ht⟩)

/-! ### The nodes of a category -/

theorem category_of_readBlock {es : List (Value × Value)} {c : Category} {block : List NodeDef}
    (h : readBlock es c = .ok block) {n : NodeDef} (hn : n ∈ block) : n.category = c := by
  obtain ⟨v, -, hn⟩ := exists_of_mem_mapM (mapM_of_readBlock h) hn
  exact (NodeDef.parts_of_ofValue hn).1

theorem filter_of_readBlock {es : List (Value × Value)} {c : Category} {block : List NodeDef}
    (h : readBlock es c = .ok block) (c' : Category) :
    block.filter (·.category = c') = if c = c' then block else [] := by
  split
  · rename_i hc
    rw [List.filter_eq_self]
    intro n hn
    simp [category_of_readBlock h hn, hc]
  · rename_i hc
    rw [List.filter_eq_nil_iff]
    intro n hn
    simp [category_of_readBlock h hn, hc]

/-- The nodes, category by category, are the nodes in the order in which they were read. -/
theorem flatMap_filter_of_readBlocks {es : List (Value × Value)} {blocks : List (List NodeDef)}
    (h : readBlocks es = .ok blocks) :
    (Category.all.flatMap fun c => blocks.flatten.filter (·.category = c)) = blocks.flatten := by
  rw [readBlocks, mapM_eq_ok_iff, Category.all] at h
  obtain _ | ⟨hfacts, _ | ⟨hattacks, _ | ⟨hmitigations, _ | ⟨hgoals, ⟨⟩⟩⟩⟩⟩ := h
  simp [Category.all, filter_of_readBlock hfacts, filter_of_readBlock hattacks,
    filter_of_readBlock hmitigations, filter_of_readBlock hgoals]

end ThreatTree
