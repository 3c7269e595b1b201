import ThreatTree.Proofs.Document.Refs

/-!
# Entries

An entry of a section declares a node: an id, or a mapping with the id, the label and the list of
the prerequisites.

Main statements: `exists_node_iff`, an entry is read exactly from what the grammar allows and can be
written out, and `NodeDef.parts_of_ofValue`, the node then has the id and the prerequisites that
stand there.
-/

namespace ThreatTree

open Grammar

/-! ### Lists that may be left out -/

section Lists

variable {β : Type} {f : Value → Except DocumentError β} {e : DocumentError}

/-- A list that may be left out, member by member. -/
def readList (f : Value → Except DocumentError β) (e : DocumentError) :
    Option Value → Except DocumentError (List β)
  | none => .ok []
  | some (.list vs) => (Value.items vs).mapM f
  | some _ => .error e

/-- What may be left out, and else is a list. -/
def IsList (o : Option Value) : Prop := ListOf (fun _ => True) o

theorem listOf_iff {p : Value → Prop} {o : Option Value} :
    ListOf p o ↔ IsList o ∧ ∀ v ∈ members o, p v := by
  constructor
  · rintro (_ | h)
    · exact ⟨.absent, by simp [members]⟩
    · exact ⟨.list fun _ _ => trivial, h⟩
  · rintro ⟨_ | -, h⟩
    · exact .absent
    · exact .list h

/-- What is asked of each member of a list, and what of all their texts. -/
theorem listOf_writable_iff {p : Value → Prop} {texts : Value → List Value} {o : Option Value} :
    ListOf (fun v => p v ∧ ∀ t ∈ texts v, t.isWritable = true) o ↔
      ListOf p o ∧ ∀ t ∈ (members o).flatMap texts, t.isWritable = true := by
  simp only [listOf_iff, List.mem_flatMap]
  constructor
  · rintro ⟨hlist, h⟩
    refine ⟨⟨hlist, fun v hv => (h v hv).1⟩, ?_⟩
    rintro t ⟨v, hv, ht⟩
    exact (h v hv).2 t ht
  · rintro ⟨⟨hlist, h⟩, ht⟩
    exact ⟨hlist, fun v hv => ⟨h v hv, fun t h => ht t ⟨v, hv, h⟩⟩⟩

theorem readList_eq_ok_iff {o : Option Value} {ys : List β} :
    readList f e o = .ok ys ↔ IsList o ∧ (members o).mapM f = .ok ys := by
  constructor
  · intro h
    unfold readList at h
    split at h
    · exact ⟨.absent, h⟩
    · exact ⟨.list fun _ _ => trivial, h⟩
    · cases h
  · rintro ⟨_ | -, h⟩
    · exact h
    · exact h

theorem isList_of_mem {o : Option Value} {v : Value} (h : v ∈ members o) : IsList o := by
  unfold members at h
  split at h
  · exact .list fun _ _ => trivial
  · cases h

theorem readList_of_not_isList {o : Option Value} (h : ¬ IsList o) :
    readList f e o = .error e := by
  unfold readList
  split
  · exact absurd .absent h
  · exact absurd (.list fun _ _ => trivial) h
  · rfl

theorem readList_of_isList {o : Option Value} (h : IsList o) :
    readList f e o = (members o).mapM f := by
  cases h with
  | absent => rfl
  | list _ => rfl

theorem exists_readList_iff {o : Option Value} :
    (∃ ys, readList f e o = .ok ys) ↔ ListOf (fun v => ∃ y, f v = .ok y) o := by
  simp only [readList_eq_ok_iff, exists_and_left, exists_mapM_eq_ok_iff, listOf_iff]

end Lists

/-! ### Labels and prerequisites -/

/-- The label of a node. -/
def readLabel (id : String) (v : Value) : Except DocumentError (Option String) :=
  match v with
  | .null => pure none
  | v => some <$> textOfValue .label id v

theorem exists_label_iff {id : String} {v : Value} :
    (∃ l, readLabel id v = .ok l) ↔ IsText v ∧ v.isWritable = true := by
  cases v with
  | null => simp [readLabel, IsText, Value.isWritable, pure, Except.pure]
  | _ => simp [readLabel, map_eq_ok_iff, textOfValue_eq_ok_iff]

theorem refsOfValue_eq (owner : String) (o : Option Value) :
    refsOfValue owner o = readList (Ref.ofValue owner) (.refsNotList owner) o := by
  cases o with
  | none => rfl
  | some v => cases v <;> rfl

theorem exists_refs_iff {owner : String} {o : Option Value} :
    (∃ refs, refsOfValue owner o = .ok refs) ↔
      ListOf IsRef o ∧ ∀ t ∈ (members o).flatMap refTexts, t.isWritable = true := by
  rw [← listOf_writable_iff]
  simp only [refsOfValue_eq, exists_readList_iff, exists_ref_iff]

theorem refs_of_refsOfValue {owner : String} {o : Option Value} {refs : List Ref}
    (h : refsOfValue owner o = .ok refs) :
    refs.map Ref.id = (members o).map fun v => (refName v).display := by
  rw [refsOfValue_eq, readList_eq_ok_iff] at h
  exact map_eq_of_mapM h.2 fun _ _ => Ref.id_of_ofValue

/-! ### Entries -/

theorem NodeDef.ofValue_map {c : Category} {es : List (Value × Value)} {key under : Value}
    (hnaming : namings (·.isText refsKey) es = [(key, under)]) :
    NodeDef.ofValue c (.map es) = (do
      let id ← idOfValue none key
      let label ← readLabel id under
      let refs ← refsOfValue id (Value.field? refsKey (Value.entries es))
      return ⟨id, c, label, refs⟩) := by
  rw [namings] at hnaming
  simp only [NodeDef.ofValue, hnaming]
  cases under <;> rfl

theorem NodeDef.ofValue_map_eq_ok_iff {c : Category} {es : List (Value × Value)} {n : NodeDef} :
    NodeDef.ofValue c (.map es) = .ok n ↔
      ∃ key under id label refs, namings (·.isText refsKey) es = [(key, under)] ∧
        idOfValue none key = .ok id ∧ readLabel id under = .ok label ∧
        refsOfValue id (Value.field? refsKey (Value.entries es)) = .ok refs ∧
        ⟨id, c, label, refs⟩ = n := by
  by_cases h : ∃ key under, namings (·.isText refsKey) es = [(key, under)]
  · obtain ⟨key, under, hnaming⟩ := h
    rw [ofValue_map hnaming]
    simp only [bind_eq_ok_iff, pure, Except.pure, Except.ok.injEq]
    constructor
    · rintro ⟨id, hid, label, hlabel, refs, hrefs, h⟩
      exact ⟨key, under, id, label, refs, hnaming, hid, hlabel, hrefs, h⟩
    · rintro ⟨key', under', id, label, refs, hnaming', hid, hlabel, hrefs, h⟩
      obtain ⟨⟩ := hnaming.symm.trans hnaming'
      exact ⟨id, hid, label, hlabel, refs, hrefs, h⟩
  · constructor
    · intro hok
      rw [NodeDef.ofValue] at hok
      simp only at hok
      split at hok
      · exact absurd ⟨_, _, ‹_›⟩ h
      · cases hok
    · rintro ⟨key, under, -, -, -, hnaming, -⟩
      exact absurd ⟨key, under, hnaming⟩ h

theorem NodeDef.ofValue_eq_bind {c : Category} {v : Value} (h : ∀ es, v ≠ .map es) :
    NodeDef.ofValue c v = do return ⟨← idOfValue none v, c, none, []⟩ := by
  cases v with
  | map es => exact absurd rfl (h es)
  | _ => rfl

theorem entryRefs_eq_nil {v : Value} (h : ∀ es, v ≠ .map es) : entryRefs v = [] := by
  cases v with
  | map es => exact absurd rfl (h es)
  | _ => rfl

theorem entryTexts_map {es : List (Value × Value)} {key label : Value}
    (hnaming : namings (·.isText refsKey) es = [(key, label)]) :
    entryTexts (.map es) = key :: label ::
      (members (Value.field? refsKey (Value.entries es))).flatMap refTexts := by
  rw [entryTexts, entryName, entryLabel, naming, hnaming, List.headD_cons]
  rfl

/-- A node has the id and the prerequisites of its entry. -/
theorem NodeDef.parts_of_ofValue {c : Category} {v : Value} {n : NodeDef}
    (h : NodeDef.ofValue c v = .ok n) :
    n.category = c ∧ n.id = (entryName v).display ∧
      n.refs.map Ref.id = (entryRefs v).map fun r => (refName r).display := by
  by_cases hmap : ∃ es, v = .map es
  · obtain ⟨es, rfl⟩ := hmap
    obtain ⟨key, under, id, label, refs, hnaming, hid, -, hrefs, rfl⟩ :=
      NodeDef.ofValue_map_eq_ok_iff.mp h
    obtain ⟨-, -, rfl⟩ := idOfValue_eq_ok_iff.mp hid
    refine ⟨rfl, ?_, refs_of_refsOfValue hrefs⟩
    rw [entryName, naming, hnaming, List.headD_cons]
  · have hmap := not_exists.mp hmap
    rw [NodeDef.ofValue_eq_bind hmap, bind_eq_ok_iff] at h
    obtain ⟨id, hid, ⟨⟩⟩ := h
    obtain ⟨-, -, rfl⟩ := idOfValue_eq_ok_iff.mp hid
    rw [entryRefs_eq_nil hmap, entryName, naming_eq_self hmap]
    exact ⟨rfl, rfl, rfl⟩

/-- **An entry is read exactly from what the grammar allows, if its texts can be written out.** -/
theorem exists_node_iff {c : Category} {v : Value} :
    (∃ n, NodeDef.ofValue c v = .ok n) ↔ IsEntry v ∧ ∀ t ∈ entryTexts v, t.isWritable = true := by
  by_cases hmap : ∃ es, v = .map es
  · obtain ⟨es, rfl⟩ := hmap
    constructor
    · rintro ⟨n, h⟩
      obtain ⟨key, under, id, label, refs, hnaming, hid, hlabel, hrefs, -⟩ :=
        NodeDef.ofValue_map_eq_ok_iff.mp h
      obtain ⟨hkey, hwritable, -⟩ := idOfValue_eq_ok_iff.mp hid
      obtain ⟨hlabel, hlabelText⟩ := exists_label_iff.mp ⟨_, hlabel⟩
      obtain ⟨hrefs, hrefTexts⟩ := exists_refs_iff.mp ⟨_, hrefs⟩
      refine ⟨.mapping hnaming hkey hlabel hrefs, ?_⟩
      rw [entryTexts_map hnaming, List.forall_mem_cons, List.forall_mem_cons]
      exact ⟨hwritable, hlabelText, hrefTexts⟩
    · rintro ⟨⟨⟨⟩⟩ | @⟨_, key, under, hnaming, hkey, hlabel, hrefs⟩, htexts⟩
      rw [entryTexts_map hnaming, List.forall_mem_cons, List.forall_mem_cons] at htexts
      obtain ⟨hwritable, hlabelText, hrefTexts⟩ := htexts
      have hid : idOfValue none key = .ok key.display :=
        idOfValue_eq_ok_iff.mpr ⟨hkey, hwritable, rfl⟩
      obtain ⟨label, hlabel⟩ : ∃ l, readLabel key.display under = .ok l :=
        exists_label_iff.mpr ⟨hlabel, hlabelText⟩
      obtain ⟨refs, hrefs⟩ := exists_refs_iff.mpr ⟨hrefs, hrefTexts⟩
      exact ⟨_, NodeDef.ofValue_map_eq_ok_iff.mpr
        ⟨key, under, _, label, refs, hnaming, hid, hlabel, hrefs, rfl⟩⟩
  · have hmap := not_exists.mp hmap
    rw [NodeDef.ofValue_eq_bind hmap, entryTexts, entryName, entryLabel, naming_eq_self hmap,
      entryRefs_eq_nil hmap]
    simp only [bind_eq_ok_iff, idOfValue_eq_ok_iff]
    constructor
    · rintro ⟨n, id, ⟨hid, hwritable, -⟩, -⟩
      refine ⟨.id hid, ?_⟩
      simp [hwritable, Value.isWritable]
    · rintro ⟨hid | ⟨-, -, -, -⟩, htexts⟩
      · exact ⟨_, _, ⟨hid, htexts v (by simp), rfl⟩, rfl⟩
      · exact absurd rfl (hmap _)

end ThreatTree
