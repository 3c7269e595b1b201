import Mathlib.Data.Option.Basic
import ThreatTree.Proofs.Document.Refs

/-!
# The same value with keys in another order

Two values are the same up to the order of keys (`Value.Reordered`) if one becomes the other by moving
entries of mappings, anywhere in the value and in any number of mappings. What is asked of a mapping by
its keys does not depend on their order: what stands under a key, which entries have keys of a kind, and
whether all numbers can be written out.

Main statements: `Reordered.isWritable_eq`, and `EntriesReordered.rel_lookup?` and
`EntriesReordered.filter` for the entries of a mapping.
-/

namespace ThreatTree.Value

/-! ### Reordering -/

/-- No two entries have the same key. -/
def KeysDistinct (es : List (Value × Value)) : Prop :=
  es.Pairwise fun e f => e.1.sameKey f.1 = false

/-- Where a value stands. -/
inductive Standing where
  | inList
  | elsewhere

/-- One value becomes another by moving entries of mappings. A pair is what is left of an entry in a list
that was written as a mapping, so no pair stands elsewhere. -/
inductive Reordered : Standing → Value → Value → Prop
  | same {place : Standing} {v : Value} (htree : v.isTree = true) : Reordered place v v
  /-- The members of a list stay where they are. -/
  | list {place : Standing} {vs ws : List Value} (hlength : vs.length = ws.length)
      (hmembers : ∀ i (hi : i < vs.length) (hi' : i < ws.length), Reordered .inList vs[i] ws[i]) :
      Reordered place (.list vs) (.list ws)
  | pair {a b c d : Value} (hfirst : Reordered .elsewhere a c)
      (hsecond : Reordered .elsewhere b d) : Reordered .inList (.pair a b) (.pair c d)
  /-- The entries of a mapping keep their keys, and are moved. -/
  | map {place : Standing} {es fs gs : List (Value × Value)} (hdistinct : KeysDistinct es)
      (hlength : es.length = fs.length)
      (hkeys : ∀ i (hi : i < es.length) (hi' : i < fs.length), es[i].1 = fs[i].1)
      (hvalues : ∀ i (hi : i < es.length) (hi' : i < fs.length),
        Reordered .elsewhere es[i].2 fs[i].2)
      (hperm : fs.Perm gs) : Reordered place (.map es) (.map gs)

/-- Entries with the same keys in the same order, and reordered values. -/
def EntriesAligned (es fs : List (Value × Value)) : Prop :=
  List.Forall₂ (fun e f => e.1 = f.1 ∧ Reordered .elsewhere e.2 f.2) es fs

/-- The entries of a mapping after a reordering: they keep their keys, what stands under each is
reordered, and they are moved. -/
structure EntriesReordered (es gs : List (Value × Value)) : Prop where
  distinct : TextKeysDistinct es
  moved : ∃ fs, EntriesAligned es fs ∧ fs.Perm gs

theorem KeysDistinct.texts {es : List (Value × Value)} (h : KeysDistinct es) :
    TextKeysDistinct es := by
  refine h.imp ?_
  intro e f hsame name he hf
  rw [isText_iff.mp he, isText_iff.mp hf] at hsame
  simp [sameKey] at hsame

variable {place : Standing} {v w : Value} {vs ws : List Value} {es gs : List (Value × Value)}

/-- Lists member by member. -/
theorem reordered_list (h : List.Forall₂ (Reordered .inList) vs ws) :
    Reordered place (.list vs) (.list ws) :=
  have h := List.forall₂_iff_get.mp h
  .list h.1 h.2

/-- Mappings entry by entry. -/
theorem reordered_map {fs : List (Value × Value)} (hdistinct : KeysDistinct es)
    (hperm : fs.Perm gs) (haligned : EntriesAligned es fs) : Reordered place (.map es) (.map gs) :=
  have h := List.forall₂_iff_get.mp haligned
  .map hdistinct h.1 (fun i hi hi' => (h.2 i hi hi').1) (fun i hi hi' => (h.2 i hi hi').2) hperm

/-! ### Values as a whole -/

theorem areWritable_eq_all (vs : List Value) : areWritable vs = vs.all isWritable := by
  induction vs with
  | nil => rfl
  | cons v vs ih => rw [areWritable, ih, List.all_cons]

theorem areEntriesWritable_eq_all (es : List (Value × Value)) :
    areEntriesWritable es = es.all fun e => e.1.isWritable && e.2.isWritable := by
  induction es with
  | nil => rfl
  | cons e es ih => rw [areEntriesWritable, ih, List.all_cons]

theorem all_eq_of_getElem {α : Type} {p : α → Bool} {xs ys : List α} (hlength : xs.length = ys.length)
    (h : ∀ i (hi : i < xs.length) (hi' : i < ys.length), p xs[i] = p ys[i]) :
    xs.all p = ys.all p := by
  have hmap : xs.map p = ys.map p :=
    List.ext_getElem (by simpa using hlength) fun i hi hi' => by
      simpa using h i (by simpa using hi) (by simpa using hi')
  rw [← Function.id_comp p, ← List.all_map, hmap, List.all_map]

/-- Numbers can be written out in any order of keys. -/
theorem Reordered.isWritable_eq (h : Reordered place v w) : v.isWritable = w.isWritable := by
  induction h with
  | same _ => rfl
  | list hlength _ ih =>
    rw [isWritable, isWritable, areWritable_eq_all, areWritable_eq_all]
    exact all_eq_of_getElem hlength ih
  | pair _ _ ih ih' => rw [isWritable, isWritable, ih, ih']
  | map _ hlength hkeys _ hperm ih =>
    rw [isWritable, isWritable, areEntriesWritable_eq_all, areEntriesWritable_eq_all,
      ← hperm.all_eq]
    refine all_eq_of_getElem hlength fun i hi hi' => ?_
    rw [hkeys i hi hi', ih i hi hi']

/-- Only trees are reordered. -/
theorem Reordered.isTree (h : Reordered place v w) : v.isTree = true ∧ w.isTree = true := by
  induction h with
  | same htree => exact ⟨htree, htree⟩
  | list hlength _ ih =>
    simp only [Value.isTree, areTrees_iff, List.forall_mem_iff_getElem]
    exact ⟨fun i hi => (ih i hi (hlength ▸ hi)).1, fun i hi => (ih i (hlength ▸ hi) hi).2⟩
  | pair _ _ ih ih' => simp [Value.isTree, ih, ih']
  | map _ hlength _ _ hperm ih =>
    simp only [Value.isTree, areEntryTrees_iff, ← hperm.mem_iff, List.forall_mem_iff_getElem]
    exact ⟨fun i hi => (ih i hi (hlength ▸ hi)).1, fun i hi => (ih i (hlength ▸ hi) hi).2⟩

/-- What two values are, of which one is the other with moved entries. -/
inductive Reordered.View : Standing → Value → Value → Prop
  | same {place : Standing} {v : Value} (htree : v.isTree = true) : View place v v
  | list {place : Standing} {vs ws : List Value}
      (hmembers : List.Forall₂ (Reordered .inList) (items vs) (items ws)) :
      View place (.list vs) (.list ws)
  | pair {a b c d : Value} : View .inList (.pair a b) (.pair c d)
  | map {place : Standing} {es gs : List (Value × Value)} (hself : entries es = es)
      (hself' : entries gs = gs) (hentries : EntriesReordered es gs) : View place (.map es) (.map gs)

theorem Reordered.view (h : Reordered place v w) : Reordered.View place v w := by
  obtain ⟨htree, htree'⟩ := h.isTree
  cases h with
  | same _ => exact .same htree
  | list hlength hmembers =>
    refine .list ?_
    rw [items_eq_self htree, items_eq_self htree']
    exact List.forall₂_iff_get.mpr ⟨hlength, hmembers⟩
  | pair _ _ => exact .pair
  | map hdistinct hlength hkeys hvalues hperm =>
    refine .map (entries_eq_self htree) (entries_eq_self htree') ⟨hdistinct.texts, _, ?_, hperm⟩
    exact List.forall₂_iff_get.mpr ⟨hlength, fun i hi hi' => ⟨hkeys i hi hi', hvalues i hi hi'⟩⟩

/-- What holds of nothing, of a value twice, and of two lists or mappings of which one is the other
reordered, holds of what stands under a key before and after a reordering. -/
@[elab_as_elim]
theorem reordered_option_cases {motive : Option Value → Option Value → Prop} {o o' : Option Value}
    (h : Option.Rel (Reordered .elsewhere) o o') (none : motive none none)
    (same : ∀ v, v.isTree = true → motive (some v) (some v))
    (list : ∀ vs ws, Reordered .elsewhere (.list vs) (.list ws) →
      List.Forall₂ (Reordered .inList) (items vs) (items ws) → motive (some (.list vs)) (some (.list ws)))
    (map : ∀ es gs, Reordered .elsewhere (.map es) (.map gs) → motive (some (.map es)) (some (.map gs))) :
    motive o o' := by
  cases h with
  | none => exact none
  | some h =>
    cases h.view with
    | same htree => exact same _ htree
    | list hmembers => exact list _ _ h hmembers
    | map _ _ _ => exact map _ _ h

/-! ### What is asked of entries -/

namespace EntriesAligned

variable {fs : List (Value × Value)}

theorem keys_eq (h : EntriesAligned es fs) : es.map (·.1) = fs.map (·.1) := by
  induction h with
  | nil => rfl
  | cons hhead _ ih => rw [List.map_cons, List.map_cons, hhead.1, ih]

theorem filter (h : EntriesAligned es fs) (keep : Value → Bool) :
    EntriesAligned (es.filter (keep ·.1)) (fs.filter (keep ·.1)) := by
  induction h with
  | nil => exact .nil
  | @cons e f es fs hhead _ ih =>
    rw [List.filter_cons, List.filter_cons, ← hhead.1]
    split
    · exact .cons hhead ih
    · exact ih

theorem rel_lookup? (h : EntriesAligned es fs) (name : String) :
    Option.Rel (Reordered .elsewhere) (lookup? name es) (lookup? name fs) := by
  induction h with
  | nil => exact .none
  | @cons e f es fs hhead _ ih =>
    obtain ⟨k, v⟩ := e
    obtain ⟨k', w⟩ := f
    obtain ⟨rfl, hvalue⟩ := hhead
    rw [lookup?_cons, lookup?_cons]
    split
    · exact .some hvalue
    · exact ih

end EntriesAligned

/-- What stands in a mapping that stays as it is. -/
theorem rel_lookup?_self (htree : areEntryTrees es = true) (name : String) :
    Option.Rel (Reordered .elsewhere) (lookup? name es) (lookup? name es) := by
  rw [areEntryTrees_iff] at htree
  induction es with
  | nil => exact .none
  | cons e es ih =>
    obtain ⟨hhead, htail⟩ := List.forall_mem_cons.mp htree
    rw [lookup?_cons]
    split
    · exact .some (.same hhead)
    · exact ih htail

namespace EntriesReordered

/-- The keys are moved and nothing else. -/
theorem keys_perm (h : EntriesReordered es gs) : (es.map (·.1)).Perm (gs.map (·.1)) := by
  obtain ⟨-, fs, haligned, hperm⟩ := h
  rw [haligned.keys_eq]
  exact hperm.map _

theorem isEmpty_eq (h : EntriesReordered es gs) : es.isEmpty = gs.isEmpty := by
  have hlength := h.keys_perm.length_eq
  rw [List.length_map, List.length_map] at hlength
  rw [Bool.eq_iff_iff, List.isEmpty_iff_length_eq_zero, List.isEmpty_iff_length_eq_zero, hlength]

/-- The entries with keys of a kind are reordered alike. -/
theorem filter (h : EntriesReordered es gs) (keep : Value → Bool) :
    EntriesReordered (es.filter (keep ·.1)) (gs.filter (keep ·.1)) := by
  obtain ⟨hdistinct, fs, haligned, hperm⟩ := h
  exact ⟨hdistinct.sublist List.filter_sublist, _, haligned.filter keep, hperm.filter _⟩

/-- What stands under a key is reordered. -/
theorem rel_lookup? (h : EntriesReordered es gs) (name : String) :
    Option.Rel (Reordered .elsewhere) (lookup? name es) (lookup? name gs) := by
  obtain ⟨hdistinct, fs, haligned, hperm⟩ := h
  rw [textKeysDistinct_iff, haligned.keys_eq, ← textKeysDistinct_iff] at hdistinct
  rw [← lookup?_perm hperm hdistinct]
  exact haligned.rel_lookup? name

/-- What stands under a key is reordered, and a key without a value counts as absent in any order. -/
theorem rel_field? (h : EntriesReordered es gs) (name : String) :
    Option.Rel (Reordered .elsewhere) (field? name es) (field? name gs) := by
  unfold field?
  refine reordered_option_cases (h.rel_lookup? name) .none ?_ (fun _ _ h _ => .some h)
    (fun _ _ h => .some h)
  intro v htree
  cases v with
  | null => exact .none
  | _ => exact .some (.same htree)

/-- A mapping has a single entry in every order of its keys, or in none. -/
theorem single_or (h : EntriesReordered es gs) :
    (∃ k v w, es = [(k, v)] ∧ gs = [(k, w)] ∧ Reordered .elsewhere v w) ∨
      es.length ≠ 1 ∧ gs.length ≠ 1 := by
  have hlength := h.keys_perm.length_eq
  rw [List.length_map, List.length_map] at hlength
  by_cases hone : es.length = 1
  · left
    obtain ⟨⟨k, v⟩, rfl⟩ := List.length_eq_one_iff.mp hone
    obtain ⟨-, fs, haligned, hperm⟩ := h
    obtain ⟨⟨k', w⟩, fs, ⟨hkey, hvalue⟩, hnil, rfl⟩ := List.forall₂_cons_left_iff.mp haligned
    obtain rfl := List.forall₂_nil_left_iff.mp hnil
    obtain rfl : k = k' := hkey
    exact ⟨k, v, w, rfl, List.perm_singleton.mp hperm.symm, hvalue⟩
  · exact .inr ⟨hone, hlength ▸ hone⟩

end EntriesReordered
end ThreatTree.Value
