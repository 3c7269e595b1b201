import ThreatTree.Graph.Build
import ThreatTree.Proofs.Document.Acceptance

/-!
# Ways to write a reference

The same reference can be written in many ways. The id stands alone, or it is a key with the remark
under it, or with flags under it; flags also stand beside the id, all or some of them, in any order;
and the remark may be a flag, in either place. The reader tells three kinds of reference apart by the
way they are written, and the graph makes one kind of edge of all three.

What is to be said is a `Ref.Meaning`, and `Ref.Meaning.Written` are the ways to write it.

Main statements: `toEdge_ofValue_of_written`, what comes of a reference depends on its meaning only,
and `exists_edge_iff_of_written`, it is the edge that is meant unless a number cannot be written out.
-/

namespace ThreatTree

open Grammar

variable {owner ref : String}

/-! ### Scalars -/

/-- A value without parts. -/
def Value.IsScalar : Value → Prop
  | .list _ | .pair _ _ | .map _ | .set _ | .enclosing _ _ => False
  | _ => True

theorem Value.IsScalar.isTree {v : Value} (h : v.IsScalar) : v.isTree = true := by
  cases v with
  | list _ | pair _ _ | map _ | enclosing _ _ => exact h.elim
  | _ => rfl

theorem idOfValue_eq {v : Value} (h : IsId v) (owner : Option String) :
    idOfValue owner v = if v.isWritable then .ok v.display else .error .unwritable := by
  split
  · exact idOfValue_eq_ok_iff.mpr ⟨h, ‹_›, rfl⟩
  · cases h with
    | hugeInt n => rfl
    | _ => simp [Value.isWritable] at *

theorem textOfValue_eq {v : Value} (h : v.IsScalar) (role : TextRole) (owner : String) :
    textOfValue role owner v = if v.isWritable then .ok v.display else .error .unwritable := by
  cases v with
  | list _ | pair _ _ | map _ | set _ | enclosing _ _ => exact h.elim
  | _ => rfl

/-! ### Remarks -/

/-- The text of a remark. Null is no remark. -/
def remarkText? : Option Value → Option String
  | none | some .null => none
  | some v => some v.display

theorem underRef_eq {v : Value} (h : v.IsScalar) :
    underRef ref owner v =
      if v.isWritable then .ok ([], remarkText? (some v)) else .error .unwritable := by
  cases v with
  | list _ | pair _ _ | map _ | set _ | enclosing _ _ => exact h.elim
  | null => rfl
  | _ =>
    simp only [underRef, textOfValue_eq h]
    split <;> rfl

theorem underRef_map {fs : List (Value × Value)} (h : ∀ e ∈ fs, isFlagKey e.1 = true) :
    underRef ref owner (.map fs) = .ok (fs, none) := by
  have hunknown : (fs.map (·.1)).filter (!isFlagKey ·) = [] := by
    rw [List.filter_eq_nil_iff, List.forall_mem_map]
    intro e he
    simp [h e he]
  rw [underRef, hunknown]
  rfl

theorem Flags.tag_eq {flags : Flags} {remark : Option Value} (hremark : ∀ v ∈ remark, v.IsScalar)
    (h : flags.get? labelFlag = remark) :
    flags.tag none owner =
      if remark.all (·.isWritable) then .ok (remarkText? remark) else .error .unwritable := by
  rw [Flags.tag, h]
  cases remark with
  | none => rfl
  | some v =>
    have hv := hremark v rfl
    cases v with
    | list _ | pair _ _ | map _ | set _ | enclosing _ _ => exact hv.elim
    | null => rfl
    | _ =>
      simp only [textOfValue_eq hv, Option.all_some]
      split <;> rfl

/-! ### References in mappings -/

/-- What a mapping with one name is read as, whatever the order of its keys. -/
theorem naming_of_perm {es above : List (Value × Value)} {key under : Value}
    (hes : es.Perm ((key, under) :: above)) (hkey : isFlagKey key = false)
    (habove : ∀ e ∈ above, isFlagKey e.1 = true ∧ e.2.isTree = true)
    (hunder : under.isTree = true) :
    namings isFlagKey es = [(key, under)] ∧
      ((Value.entries es).filter (isFlagKey ·.1)).Perm above := by
  have htrees : Value.areEntryTrees es = true := by
    rw [Value.areEntryTrees_iff]
    intro e he
    rcases List.mem_cons.mp (hes.mem_iff.mp he) with rfl | he
    · exact hunder
    · exact (habove e he).2
  rw [namings, Value.entries_eq_self htrees]
  constructor
  · have hnone : above.filter (!isFlagKey ·.1) = [] := by
      rw [List.filter_eq_nil_iff]
      intro e he
      simp [(habove e he).1]
    have hperm := hes.filter (!isFlagKey ·.1)
    rw [List.filter_cons_of_pos (by simp [hkey]), hnone] at hperm
    exact List.perm_singleton.mp hperm
  · have hall : above.filter (isFlagKey ·.1) = above := by
      rw [List.filter_eq_self]
      intro e he
      exact (habove e he).1
    have hperm := hes.filter (isFlagKey ·.1)
    rwa [List.filter_cons_of_neg (by simp [hkey]), hall] at hperm

/-- The three kinds of reference make one kind of edge: a flag that is not given has the value that
references without flags have. -/
theorem Ref.toEdge_finish {flags : Flags} {implemented backwards : Option Bool}
    (himplemented : flags.get? Flag.implemented.name = implemented.map .bool)
    (hbackwards : flags.get? Flag.backwards.name = backwards.map .bool) (tag : Option String) :
    (·.toEdge owner) <$> Ref.finish owner ref flags tag =
      (fun t => ⟨ref, owner, t, backwards.getD false, implemented.getD true⟩) <$>
        flags.tag tag owner := by
  unfold Ref.finish
  split
  · -- no flag is given
    rename_i hempty
    rw [get?_eq_none hempty] at himplemented hbackwards
    rw [Option.map_eq_none_iff.mp himplemented.symm, Option.map_eq_none_iff.mp hbackwards.symm,
      Flags.tag, get?_eq_none hempty]
    cases tag <;> rfl
  · have hbool {flag : Flag} {given : Option Bool} (otherwise : Bool)
        (h : flags.get? flag.name = given.map .bool) :
        flags.bool flag otherwise ref owner = .ok (given.getD otherwise) := by
      rw [Flags.bool, h]
      cases given <;> rfl
    rw [flaggedRef, hbool true himplemented, hbool false hbackwards]
    cases flags.tag tag owner <;> rfl

namespace Ref

/-! ### What is said and how it is written -/

/-- What a reference is to say: the id that it names, two flags and a remark. All but the id may be
left out. -/
structure Meaning where
  name : Value
  implemented : Option Bool
  backwards : Option Bool
  remark : Option Value
  isId : IsId name
  notFlag : isFlagKey name = false
  isScalar : ∀ v ∈ remark, v.IsScalar

namespace Meaning

variable {m : Meaning}

/-- The entries of the flags that are given, with a remark as the third of them. -/
def entries (m : Meaning) (remark : Option Value) : List (Value × Value) :=
  (m.implemented.map fun b => (.text Flag.implemented.name, .bool b)).toList ++
    (m.backwards.map fun b => (.text Flag.backwards.name, .bool b)).toList ++
    (remark.map fun v => (.text labelFlag, v)).toList

/-- The ways to write a reference. The order of the keys is free in all of them. -/
inductive Written (m : Meaning) : Value → Prop where
  /-- The id alone, if there is nothing else to say. -/
  | bare (h : m.entries m.remark = []) : Written m m.name
  /-- The remark under the id, the flags beside it. -/
  | tagged {v : Value} {es : List (Value × Value)} (hv : m.remark = some v)
      (hes : es.Perm ((m.name, v) :: m.entries none)) : Written m (.map es)
  /-- Nothing under the id, all flags beside it. -/
  | beside {es : List (Value × Value)}
      (hes : es.Perm ((m.name, .null) :: m.entries m.remark)) : Written m (.map es)
  /-- Some flags under the id, the others beside it. -/
  | under {es above below : List (Value × Value)}
      (hsplit : (above ++ below).Perm (m.entries m.remark))
      (hes : es.Perm ((m.name, .map below) :: above)) : Written m (.map es)

/-- The edge that is meant. -/
def edge (m : Meaning) (owner : String) : Edge where
  source := m.name.display
  target := owner
  tag := remarkText? m.remark
  backwards := m.backwards.getD false
  implemented := m.implemented.getD true

/-- Whether the id and the remark can be written out. -/
def isWritable (m : Meaning) : Bool := m.name.isWritable && m.remark.all (·.isWritable)

/-! ### Flags in any order -/

theorem isFlagKey_of_mem_entries {remark : Option Value} {e : Value × Value}
    (he : e ∈ m.entries remark) : isFlagKey e.1 = true := by
  simp only [entries, List.mem_append, Option.mem_toList, Option.map_eq_some_iff] at he
  rcases he with (⟨b, -, rfl⟩ | ⟨b, -, rfl⟩) | ⟨v, -, rfl⟩ <;> rfl

theorem isTree_of_mem_entries {remark : Option Value} (hremark : ∀ v ∈ remark, v.IsScalar)
    {e : Value × Value} (he : e ∈ m.entries remark) : e.2.isTree = true := by
  simp only [entries, List.mem_append, Option.mem_toList, Option.map_eq_some_iff] at he
  rcases he with (⟨b, -, rfl⟩ | ⟨b, -, rfl⟩) | ⟨v, hv, rfl⟩
  · rfl
  · rfl
  · exact (hremark v hv).isTree

/-- No flag is written twice. -/
theorem nodup_entries (m : Meaning) (remark : Option Value) :
    ((m.entries remark).map (·.1)).Nodup := by
  unfold entries
  cases m.implemented <;> cases m.backwards <;> cases remark <;>
    simp [Flag.name, labelFlag]

theorem lookup?_entries (m : Meaning) (remark : Option Value) :
    Value.lookup? Flag.implemented.name (m.entries remark) = m.implemented.map .bool ∧
      Value.lookup? Flag.backwards.name (m.entries remark) = m.backwards.map .bool ∧
      Value.lookup? labelFlag (m.entries remark) = remark := by
  unfold entries
  cases m.implemented <;> cases m.backwards <;> cases remark <;>
    simp [Value.lookup?, Flag.name, labelFlag]

/-- Flags that are written in two places are found as if they were all in one. -/
theorem get?_of_perm {above below : List (Value × Value)} {remark : Option Value}
    (h : (above ++ below).Perm (m.entries remark)) (name : String) :
    Flags.get? ⟨above, below⟩ name = Value.lookup? name (m.entries remark) := by
  have hdistinct : ((above ++ below).map (·.1)).Nodup :=
    (h.map _).nodup_iff.mpr (m.nodup_entries remark)
  rw [← lookup?_perm h (textKeysDistinct_of_nodup hdistinct), lookup?_append, Flags.get?]
  cases Value.lookup? name above with
  | none => rfl
  | some v => rfl

/-! ### Reading -/

/-- The edge of a reference whose remark, if there is one, is among its flags. -/
theorem toEdge_finish_none {above below : List (Value × Value)}
    (h : (above ++ below).Perm (m.entries m.remark)) :
    (·.toEdge owner) <$> Ref.finish owner m.name.display ⟨above, below⟩ none =
      if m.remark.all (·.isWritable) then .ok (m.edge owner) else .error .unwritable := by
  obtain ⟨himplemented, hbackwards, hremark⟩ := m.lookup?_entries m.remark
  rw [← get?_of_perm h] at himplemented hbackwards hremark
  rw [toEdge_finish himplemented hbackwards, Flags.tag_eq m.isScalar hremark]
  split <;> rfl

/-- The edge of a reference with its remark under the id. -/
theorem toEdge_finish_some {above : List (Value × Value)} (h : above.Perm (m.entries none)) :
    (·.toEdge owner) <$> Ref.finish owner m.name.display ⟨above, []⟩ (remarkText? m.remark) =
      .ok (m.edge owner) := by
  obtain ⟨himplemented, hbackwards, hnone⟩ := m.lookup?_entries none
  have hperm : (above ++ []).Perm (m.entries none) := by rwa [List.append_nil]
  rw [← get?_of_perm hperm] at himplemented hbackwards hnone
  rw [toEdge_finish himplemented hbackwards, Flags.tag, hnone]
  rfl

/-- The edge of a reference in a mapping. The order of the keys does not matter, and the name is
written out before the rest is looked at. -/
theorem toEdge_ofValue_map {es above : List (Value × Value)} {under : Value}
    (hes : es.Perm ((m.name, under) :: above))
    (habove : ∀ e ∈ above, isFlagKey e.1 = true ∧ e.2.isTree = true) (hunder : under.isTree = true)
    (hrest : ∀ above', above'.Perm above → (·.toEdge owner) <$> (do
        let (below, tag) ← underRef m.name.display owner under
        Ref.finish owner m.name.display ⟨above', below⟩ tag) =
      if m.remark.all (·.isWritable) then .ok (m.edge owner) else .error .unwritable) :
    (·.toEdge owner) <$> Ref.ofValue owner (.map es) =
      if m.isWritable then .ok (m.edge owner) else .error .unwritable := by
  obtain ⟨hnaming, hperm⟩ := naming_of_perm hes m.notFlag habove hunder
  rw [Ref.ofValue_map hnaming, idOfValue_eq m.isId, isWritable]
  cases m.name.isWritable with
  | true => exact hrest _ hperm
  | false => rfl

/-- The edge of a reference that is an id alone. -/
theorem toEdge_ofValue_name (h : m.entries m.remark = []) :
    (·.toEdge owner) <$> Ref.ofValue owner m.name =
      if m.isWritable then .ok (m.edge owner) else .error .unwritable := by
  obtain ⟨himplemented, hbackwards, hremark⟩ := m.lookup?_entries m.remark
  rw [h] at himplemented hbackwards hremark
  have hmap : ∀ es, m.name ≠ .map es := by
    intro es heq
    have hid := m.isId
    rw [heq] at hid
    cases hid
  rw [Ref.ofValue_eq_map hmap, idOfValue_eq m.isId, isWritable, edge, ← hremark,
    Option.map_eq_none_iff.mp himplemented.symm, Option.map_eq_none_iff.mp hbackwards.symm]
  cases m.name.isWritable <;> rfl

/-- **What comes of a reference does not depend on the way it is written.** -/
theorem toEdge_ofValue_of_written {v : Value} (h : m.Written v) (owner : String) :
    (·.toEdge owner) <$> Ref.ofValue owner v =
      if m.isWritable then .ok (m.edge owner) else .error .unwritable := by
  have hentries {remark : Option Value} (hremark : ∀ v ∈ remark, v.IsScalar) :
      ∀ e ∈ m.entries remark, isFlagKey e.1 = true ∧ e.2.isTree = true :=
    fun e he => ⟨isFlagKey_of_mem_entries he, isTree_of_mem_entries hremark he⟩
  cases h with
  | bare hnothing => exact toEdge_ofValue_name hnothing
  | @tagged v es hv hes =>
    have hscalar := m.isScalar v hv
    apply toEdge_ofValue_map hes (hentries nofun) hscalar.isTree
    intro above' hperm
    rw [hv, Option.all_some, underRef_eq hscalar, ← hv]
    cases v.isWritable with
    | true => exact toEdge_finish_some hperm
    | false => rfl
  | @beside es hes =>
    apply toEdge_ofValue_map hes (hentries m.isScalar) rfl
    intro above' hperm
    have hflags : (above' ++ []).Perm (m.entries m.remark) := by rwa [List.append_nil]
    exact toEdge_finish_none hflags
  | @under es above below hsplit hes =>
    have hflags : ∀ e ∈ above ++ below, isFlagKey e.1 = true ∧ e.2.isTree = true :=
      fun e he => hentries m.isScalar e (hsplit.mem_iff.mp he)
    rw [List.forall_mem_append] at hflags
    have htree : (Value.map below).isTree = true := by
      rw [Value.isTree, Value.areEntryTrees_iff]
      exact fun e he => (hflags.2 e he).2
    apply toEdge_ofValue_map hes hflags.1 htree
    intro above' hperm
    rw [underRef_map fun e he => (hflags.2 e he).1]
    exact toEdge_finish_none ((hperm.append_right below).trans hsplit)

/-- **All ways to write a reference lead to the same edge**, and each of them is accepted, exactly if
the id and the remark can be written out. A number too large for that stops the program in whatever
way the reference is written. -/
theorem exists_edge_iff_of_written (m : Meaning) (owner : String) {v : Value} (h : m.Written v) :
    ((∃ r, Ref.ofValue owner v = .ok r ∧ r.toEdge owner = m.edge owner) ↔ m.isWritable = true) ∧
      (m.isWritable = false → Ref.ofValue owner v = .error .unwritable) := by
  have hedge := toEdge_ofValue_of_written h owner
  cases hw : m.isWritable with
  | true =>
    rw [hw, if_pos rfl, map_eq_ok_iff] at hedge
    exact ⟨iff_of_true hedge rfl, nofun⟩
  | false =>
    rw [hw, if_neg Bool.false_ne_true, map_eq_error_iff] at hedge
    refine ⟨iff_of_false ?_ Bool.false_ne_true, fun _ => hedge⟩
    rintro ⟨r, hr, -⟩
    cases hr.symm.trans hedge

/-- A reference to what is not there yet, with its arrow turned and a number as its remark. -/
def planned : Meaning where
  name := .text "a"
  implemented := some false
  backwards := some true
  remark := some (.int 42)
  isId := .text (by decide)
  notFlag := rfl
  isScalar := by
    rintro v ⟨⟩
    trivial

/-- One flag of `planned`, to stand beside the id. -/
def plannedAbove : List (Value × Value) := [(.text "backwards", .bool true)]

/-- The other flag and the remark, to stand under the id. -/
def plannedBelow : List (Value × Value) :=
  [(.text "label", .int 42), (.text "implemented", .bool false)]

/-- The flag beside the id is in front of it. -/
def plannedValue : Value := .map (plannedAbove ++ [(.text "a", .map plannedBelow)])

theorem exists_edge_iff_planned :
    planned.Written plannedValue ∧ planned.isWritable = true ∧
      ∃ r, Ref.ofValue "b" plannedValue = .ok r ∧
        r.toEdge "b" = ⟨"a", "b", some "42", true, false⟩ := by
  have hsplit : (plannedAbove ++ plannedBelow).Perm (planned.entries planned.remark) := by
    show List.Perm ([_, _] ++ [_]) ([_] ++ [_, _])
    exact List.perm_append_comm
  have hwritten : planned.Written plannedValue := .under hsplit List.perm_append_comm
  exact ⟨hwritten, rfl, (exists_edge_iff_of_written planned "b" hwritten).1.mpr rfl⟩

/-- A reference that only has a remark: a number of more digits than any numeral has. -/
def hugeRemark : Meaning where
  name := .text "a"
  implemented := none
  backwards := none
  remark := some (Value.ofInt (Nat.pow 16 3600))
  isId := .text (by decide)
  notFlag := rfl
  isScalar := by
    rw [ofInt_eq_hugeInt isBeyondNumerals_pow]
    rintro v ⟨⟩
    trivial

/-- A reference is refused if its remark has more digits than any numeral. -/
theorem refuses_huge_remark :
    hugeRemark.Written (.map [(.text "a", Value.ofInt (Nat.pow 16 3600))]) ∧
      Ref.ofValue "b" (.map [(.text "a", Value.ofInt (Nat.pow 16 3600))]) = .error .unwritable := by
  refine ⟨.tagged rfl (.refl _), ?_⟩
  rw [ofInt_eq_hugeInt isBeyondNumerals_pow]
  rfl

end Meaning
end Ref
end ThreatTree
