import ThreatTree.Proofs.Document.Ids

/-!
# References

A reference is written as an id or as a mapping, with flags beside the id or under it. The reader
collects both kinds of flag before it looks at any; the grammar asks for one flag at a time
(`Grammar.flag?`). Here the two meet.

Main statements: `exists_ref_iff`, a reference is read exactly from what the grammar allows and can
be written out, and `Ref.id_of_ofValue`, it then refers to what its name says.
-/

namespace ThreatTree

open Grammar

/-! ### Flags -/

theorem lookup?_cons (name : String) (k v : Value) (es : List (Value × Value)) :
    Value.lookup? name ((k, v) :: es) =
      if k.isText name then some v else Value.lookup? name es := by
  cases k <;> simp [Value.lookup?, Value.isText]

theorem lookup?_append (name : String) (es fs : List (Value × Value)) :
    Value.lookup? name (es ++ fs) = (Value.lookup? name es).or (Value.lookup? name fs) := by
  induction es with
  | nil => rfl
  | cons e es ih =>
    obtain ⟨k, v⟩ := e
    rw [List.cons_append, lookup?_cons, lookup?_cons]
    split
    · rfl
    · exact ih

/-- No two keys are the same text. -/
def TextKeysDistinct (es : List (Value × Value)) : Prop :=
  es.Pairwise fun e f => ∀ name, e.1.isText name = true → ¬ f.1.isText name = true

theorem textKeysDistinct_iff {es : List (Value × Value)} :
    TextKeysDistinct es ↔ (es.map (·.1)).Pairwise fun k k' =>
      ∀ name, k.isText name = true → ¬ k'.isText name = true := by
  rw [TextKeysDistinct, List.pairwise_map]

theorem textKeysDistinct_of_nodup {es : List (Value × Value)} (h : (es.map (·.1)).Nodup) :
    TextKeysDistinct es := by
  refine (List.pairwise_map.mp h).imp ?_
  intro e f hne name he hf
  exact hne ((Value.isText_iff.mp he).trans (Value.isText_iff.mp hf).symm)

theorem TextKeysDistinct.perm {es fs : List (Value × Value)} (hdistinct : TextKeysDistinct es)
    (h : es.Perm fs) : TextKeysDistinct fs :=
  (h.pairwise_iff fun hne name hf he => hne name he hf).mp hdistinct

/-- What stands under a key does not depend on the order of the keys, if no two are the same text. -/
theorem lookup?_perm {es fs : List (Value × Value)} (h : es.Perm fs)
    (hdistinct : TextKeysDistinct es) (name : String) :
    Value.lookup? name es = Value.lookup? name fs := by
  induction h with
  | nil => rfl
  | cons e _ ih =>
    obtain ⟨k, v⟩ := e
    rw [lookup?_cons, lookup?_cons, ih (List.pairwise_cons.mp hdistinct).2]
  | swap e f es =>
    obtain ⟨k, v⟩ := e
    obtain ⟨k', v'⟩ := f
    simp only [lookup?_cons]
    by_cases hk : k.isText name = true
    · have hk' : ¬ k'.isText name = true := by
        intro hk'
        exact (List.pairwise_cons.mp hdistinct).1 _ List.mem_cons_self name hk' hk
      rw [if_neg hk', if_pos hk, if_pos hk]
    · rw [if_neg hk, if_neg hk]
  | trans hfirst _ ih ih' => exact (ih hdistinct).trans (ih' (hdistinct.perm hfirst))

/-- Keys that are left out do not change what stands under a key that stays. -/
theorem lookup?_filter {keep : Value → Bool} {name : String}
    (h : ∀ k : Value, k.isText name = true → keep k = true) (es : List (Value × Value)) :
    Value.lookup? name (es.filter (keep ·.1)) = Value.lookup? name es := by
  induction es with
  | nil => rfl
  | cons e es ih =>
    obtain ⟨k, v⟩ := e
    by_cases hk : k.isText name = true
    · simp [lookup?_cons, hk, h k hk]
    · by_cases hkeep : keep k = true
      · simp [lookup?_cons, hk, hkeep, ih]
      · simp [lookup?_cons, hk, hkeep, ih]

theorem isFlagKey_of_isText {k : Value} (flag : Flag) (h : k.isText flag.name = true) :
    isFlagKey k = true := by
  cases flag <;> simp [isFlagKey, h]

theorem isFlagKey_of_isLabel {k : Value} (h : k.isText labelFlag = true) : isFlagKey k = true := by
  simp [isFlagKey, h]

/-- The flags that the reader collects are the flags of the grammar. -/
theorem get?_eq_flag? {es : List (Value × Value)} {key under : Value} {name : String}
    (hnaming : namings isFlagKey es = [(key, under)])
    (hname : ∀ k : Value, k.isText name = true → isFlagKey k = true) :
    Flags.get? ⟨(Value.entries es).filter (isFlagKey ·.1), flagsUnder under⟩ name =
      flag? name (.map es) := by
  rw [Flags.get?, lookup?_filter hname, flag?, naming, hnaming, List.headD_cons]
  cases Value.lookup? name (Value.entries es) with
  | none => rfl
  | some v => rfl

theorem get?_eq_none {flags : Flags} (h : flags.isEmpty = true) (name : String) :
    flags.get? name = none := by
  rw [Flags.isEmpty, Bool.and_eq_true, List.isEmpty_iff, List.isEmpty_iff] at h
  rw [Flags.get?, h.1, h.2]
  rfl

theorem exists_bool_iff {flags : Flags} {flag : Flag} {otherwise : Bool} {ref owner : String} :
    (∃ b, flags.bool flag otherwise ref owner = .ok b) ↔
      ∀ v, flags.get? flag.name = some v → ∃ b, v = .bool b := by
  unfold Flags.bool
  cases flags.get? flag.name with
  | none => simp
  | some v => cases v <;> simp

theorem exists_tag_iff {flags : Flags} {otherwise : Option String} {owner : String} :
    (∃ t, flags.tag otherwise owner = .ok t) ↔
      ∀ v, flags.get? labelFlag = some v → IsText v ∧ v.isWritable = true := by
  unfold Flags.tag
  cases flags.get? labelFlag with
  | none => simp
  | some v =>
    cases v with
    | null => simp [IsText, Value.isWritable]
    | _ => simp [map_eq_ok_iff, textOfValue_eq_ok_iff]

/-- What is asked of the flags of a reference. -/
def Flags.Fits (flags : Flags) : Prop :=
  (∀ (flag : Flag) (v : Value), flags.get? flag.name = some v → ∃ b, v = .bool b) ∧
    ∀ v, flags.get? labelFlag = some v → IsText v ∧ v.isWritable = true

theorem exists_flaggedRef_iff {flags : Flags} {tag : Option String} {ref owner : String} :
    (∃ r, flaggedRef flags tag ref owner = .ok r) ↔ flags.Fits := by
  simp only [flaggedRef, bind_eq_ok_iff, Flags.Fits]
  constructor
  · rintro ⟨r, i, hi, b, hb, t, ht, -⟩
    refine ⟨fun flag => ?_, exists_tag_iff.mp ⟨t, ht⟩⟩
    cases flag with
    | implemented => exact exists_bool_iff.mp ⟨i, hi⟩
    | backwards => exact exists_bool_iff.mp ⟨b, hb⟩
  · rintro ⟨hflags, hlabel⟩
    obtain ⟨i, hi⟩ := exists_bool_iff.mpr (hflags .implemented)
    obtain ⟨b, hb⟩ := exists_bool_iff.mpr (hflags .backwards)
    obtain ⟨t, ht⟩ := exists_tag_iff.mpr hlabel
    exact ⟨_, i, hi, b, hb, t, ht, rfl⟩

theorem id_of_flaggedRef {flags : Flags} {tag : Option String} {ref owner : String} {r : Ref}
    (h : flaggedRef flags tag ref owner = .ok r) : r.id = ref := by
  simp only [flaggedRef, bind_eq_ok_iff] at h
  obtain ⟨i, -, b, -, t, -, h⟩ := h
  cases h
  rfl

/-! ### What stands under a name -/

theorem exists_underRef_iff {v : Value} {ref owner : String} :
    (∃ x, underRef ref owner v = .ok x) ↔ IsUnderRef v ∧ ∀ t ∈ remark v, t.isWritable = true := by
  cases v with
  | null =>
    refine ⟨fun _ => ⟨.text trivial, ?_⟩, fun _ => ⟨_, rfl⟩⟩
    simp [remark, Value.isWritable]
  | map fs =>
    have hfilter : ((fs.map (·.1)).filter (!isFlagKey ·)).isEmpty = true ↔
        ∀ e ∈ fs, isFlagKey e.1 = true := by
      simp [List.filter_eq_nil_iff]
    simp only [underRef, remark, List.not_mem_nil, false_implies, implies_true, and_true]
    constructor
    · intro h
      split at h
      · exact .flags (hfilter.mp ‹_›)
      · obtain ⟨x, ⟨⟩⟩ := h
    · rintro (⟨⟨⟩⟩ | h)
      rw [if_pos (hfilter.mpr h)]
      exact ⟨_, rfl⟩
  | list _ | enclosing _ _ =>
    constructor
    · rintro ⟨x, ⟨⟩⟩
    · rintro ⟨⟨⟨⟩⟩, -⟩
  | _ =>
    constructor
    · rintro ⟨x, h⟩
      obtain ⟨t, ht, -⟩ := bind_eq_ok_iff.mp h
      obtain ⟨htext, hw, -⟩ := textOfValue_eq_ok_iff.mp ht
      refine ⟨.text htext, ?_⟩
      simpa [remark] using hw
    · rintro ⟨-, hw⟩
      have hw := hw _ (List.mem_singleton_self _)
      exact ⟨_, bind_eq_ok_iff.mpr ⟨_, textOfValue_eq_ok_iff.mpr ⟨by trivial, hw, rfl⟩, rfl⟩⟩

theorem flags_of_underRef {v : Value} {ref owner : String} {fs : List (Value × Value)}
    {tag : Option String} (h : underRef ref owner v = .ok (fs, tag)) : fs = flagsUnder v := by
  cases v with
  | null =>
    cases h
    rfl
  | map es =>
    simp only [underRef] at h
    split at h
    · cases h
      rfl
    · cases h
  | _ =>
    simp only [underRef, bind_eq_ok_iff] at h
    obtain ⟨t, -, h⟩ := h
    cases h
    rfl

/-! ### References -/

/-- A reference whose name, flags and remark are read. -/
def Ref.finish (owner ref : String) (flags : Flags) (tag : Option String) :
    Except DocumentError Ref :=
  if flags.isEmpty then
    return match tag with
      | none => .plain ref
      | some t => .tagged ref t
  else flaggedRef flags tag ref owner

theorem exists_finish_iff {owner ref : String} {flags : Flags} {tag : Option String} :
    (∃ r, Ref.finish owner ref flags tag = .ok r) ↔ flags.Fits := by
  unfold Ref.finish
  split
  · -- flags that there are not fit
    have hfits : flags.Fits := by simp [Flags.Fits, get?_eq_none ‹_›]
    exact ⟨fun _ => hfits, fun _ => ⟨_, rfl⟩⟩
  · exact exists_flaggedRef_iff

theorem id_of_finish {owner ref : String} {flags : Flags} {tag : Option String} {r : Ref}
    (h : Ref.finish owner ref flags tag = .ok r) : r.id = ref := by
  unfold Ref.finish at h
  split at h
  · cases h
    cases tag <;> rfl
  · exact id_of_flaggedRef h

theorem Ref.ofValue_map {owner : String} {es : List (Value × Value)} {key under : Value}
    (hnaming : namings isFlagKey es = [(key, under)]) :
    Ref.ofValue owner (.map es) = (do
      let ref ← idOfValue (some owner) key
      let (fs, tag) ← underRef ref owner under
      Ref.finish owner ref ⟨(Value.entries es).filter (isFlagKey ·.1), fs⟩ tag) := by
  rw [namings] at hnaming
  simp only [Ref.ofValue, hnaming]
  rfl

theorem Ref.ofValue_map_eq_ok_iff {owner : String} {es : List (Value × Value)} {r : Ref} :
    Ref.ofValue owner (.map es) = .ok r ↔
      ∃ key under ref fs tag, namings isFlagKey es = [(key, under)] ∧
        idOfValue (some owner) key = .ok ref ∧ underRef ref owner under = .ok (fs, tag) ∧
        Ref.finish owner ref ⟨(Value.entries es).filter (isFlagKey ·.1), fs⟩ tag = .ok r := by
  simp only [Ref.ofValue, namings]
  split
  · rename_i key under hnaming
    simp only [hnaming, bind_eq_ok_iff, Ref.finish]
    constructor
    · rintro ⟨ref, hid, ⟨fs, tag⟩, hunder, h⟩
      exact ⟨key, under, ref, fs, tag, rfl, hid, hunder, h⟩
    · rintro ⟨_, _, ref, fs, tag, ⟨⟩, hid, hunder, h⟩
      exact ⟨ref, hid, (fs, tag), hunder, h⟩
  · rename_i hnaming
    constructor
    · rintro ⟨⟩
    · rintro ⟨key, under, -, -, -, h, -⟩
      exact absurd h (hnaming key under)

theorem Ref.ofValue_eq_map {owner : String} {v : Value} (h : ∀ es, v ≠ .map es) :
    Ref.ofValue owner v = .plain <$> idOfValue (some owner) v := by
  cases v with
  | map es => exact absurd rfl (h es)
  | _ => rfl

theorem naming_eq_self {aside : Value → Bool} {v : Value} (h : ∀ es, v ≠ .map es) :
    naming aside v = (v, .null) := by
  cases v with
  | map es => exact absurd rfl (h es)
  | _ => rfl

theorem refTexts_map {es : List (Value × Value)} {key under : Value}
    (hnaming : namings isFlagKey es = [(key, under)]) :
    refTexts (.map es) = key :: remark under ++ (flag? labelFlag (.map es)).toList := by
  rw [refTexts, refName, naming, hnaming, List.headD_cons]

theorem refTexts_eq {v : Value} (h : ∀ es, v ≠ .map es) : refTexts v = [v, .null] := by
  have hflag : flag? labelFlag v = none := by
    cases v with
    | map es => exact absurd rfl (h es)
    | _ => rfl
  rw [refTexts, refName, naming_eq_self h, hflag]
  rfl

theorem fits_iff {es : List (Value × Value)} {key under : Value}
    (hnaming : namings isFlagKey es = [(key, under)]) :
    Flags.Fits ⟨(Value.entries es).filter (isFlagKey ·.1), flagsUnder under⟩ ↔
      (∀ (flag : Flag) (v : Value), flag? flag.name (.map es) = some v → ∃ b, v = .bool b) ∧
        ∀ v, flag? labelFlag (.map es) = some v → IsText v ∧ v.isWritable = true := by
  simp only [Flags.Fits, get?_eq_flag? hnaming (fun _ => isFlagKey_of_isText _),
    get?_eq_flag? hnaming (fun _ => isFlagKey_of_isLabel)]

/-- A reference refers to what its name says. -/
theorem Ref.id_of_ofValue {owner : String} {v : Value} {r : Ref}
    (h : Ref.ofValue owner v = .ok r) : r.id = (refName v).display := by
  by_cases hmap : ∃ es, v = .map es
  · obtain ⟨es, rfl⟩ := hmap
    obtain ⟨key, under, ref, fs, tag, hnaming, hid, -, hfinish⟩ := Ref.ofValue_map_eq_ok_iff.mp h
    obtain ⟨-, -, rfl⟩ := idOfValue_eq_ok_iff.mp hid
    rw [id_of_finish hfinish, refName, naming, hnaming, List.headD_cons]
  · have hmap := not_exists.mp hmap
    rw [Ref.ofValue_eq_map hmap, map_eq_ok_iff] at h
    obtain ⟨id, hid, rfl⟩ := h
    obtain ⟨-, -, rfl⟩ := idOfValue_eq_ok_iff.mp hid
    rw [refName, naming_eq_self hmap]
    rfl

/-- **A reference is read exactly from what the grammar allows, if its texts can be written out.** -/
theorem exists_ref_iff {owner : String} {v : Value} :
    (∃ r, Ref.ofValue owner v = .ok r) ↔ IsRef v ∧ ∀ t ∈ refTexts v, t.isWritable = true := by
  by_cases hmap : ∃ es, v = .map es
  · obtain ⟨es, rfl⟩ := hmap
    constructor
    · rintro ⟨r, h⟩
      -- name, what stands under it, flags: what the reader checks is what the grammar asks
      obtain ⟨key, under, ref, fs, tag, hnaming, hid, hunder, h⟩ := Ref.ofValue_map_eq_ok_iff.mp h
      obtain ⟨hkey, hwritable, -⟩ := idOfValue_eq_ok_iff.mp hid
      obtain rfl := flags_of_underRef hunder
      obtain ⟨hbool, hlabel⟩ := (fits_iff hnaming).mp (exists_finish_iff.mp ⟨r, h⟩)
      obtain ⟨hunder, hremark⟩ := exists_underRef_iff.mp ⟨_, hunder⟩
      refine ⟨.mapping hnaming hkey hunder hbool fun v hv => (hlabel v hv).1, ?_⟩
      rw [refTexts_map hnaming, List.forall_mem_append, List.forall_mem_cons]
      exact ⟨⟨hwritable, hremark⟩, fun v hv => (hlabel v (Option.mem_toList.mp hv)).2⟩
    · rintro ⟨⟨⟨⟩⟩ | @⟨_, key, under, hnaming, hkey, hunder, hbool, hlabel⟩, htexts⟩
      rw [refTexts_map hnaming, List.forall_mem_append, List.forall_mem_cons] at htexts
      obtain ⟨⟨hwritable, hremark⟩, htext⟩ := htexts
      have hid : idOfValue (some owner) key = .ok key.display :=
        idOfValue_eq_ok_iff.mpr ⟨hkey, hwritable, rfl⟩
      obtain ⟨⟨fs, tag⟩, hunder⟩ : ∃ x, underRef key.display owner under = .ok x :=
        exists_underRef_iff.mpr ⟨hunder, hremark⟩
      have hfits := (fits_iff hnaming).mpr
        ⟨hbool, fun v hv => ⟨hlabel v hv, htext v (Option.mem_toList.mpr hv)⟩⟩
      rw [← flags_of_underRef hunder] at hfits
      obtain ⟨r, h⟩ := exists_finish_iff.mpr hfits
      exact ⟨r, Ref.ofValue_map_eq_ok_iff.mpr ⟨_, _, _, _, _, hnaming, hid, hunder, h⟩⟩
  · have hmap := not_exists.mp hmap
    rw [Ref.ofValue_eq_map hmap, refTexts_eq hmap]
    simp only [map_eq_ok_iff, idOfValue_eq_ok_iff]
    constructor
    · rintro ⟨r, id, ⟨hid, hwritable, -⟩, -⟩
      refine ⟨.id hid, ?_⟩
      simp [hwritable, Value.isWritable]
    · rintro ⟨hid | ⟨-, -, -, -, -⟩, htexts⟩
      · exact ⟨_, _, ⟨hid, htexts v (by simp), rfl⟩, rfl⟩
      · exact absurd rfl (hmap _)

end ThreatTree
