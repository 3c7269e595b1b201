import Mathlib.Tactic.IntervalCases
import ThreatTree.Text.Utf8

/-!
# Texts survive their bytes

The bytes of a character are read as this character and nothing of what follows them is taken
(`exists_encodeChar`), by cases on how many bytes there are. So a text comes back from its bytes,
whether they are read strictly or leniently.

No other bytes are read as a character (`encodeChar_append_of_unit`): the interval of the second
byte leaves out what would be written with fewer bytes or not at all. So strict reading refuses all
bytes but those of texts.

Main statements: `decode?_encode`, `decode?_eq_some_iff` and `decodeLossy_encode`.
-/

namespace ThreatTree.Text.Utf8

theorem toNat_toUInt8 {n : Nat} (h : n < 256) : n.toUInt8.toNat = n := by
  rw [Nat.toUInt8, UInt8.toNat_ofNat', Nat.mod_eq_of_lt h]

/-! ### The bytes after the first -/

theorem tails_cons (n bits : Nat) {k : Nat} (hk : k < 0x40) (bs : Bytes) :
    tails (n + 1) bits ((0x80 + k).toUInt8 :: bs) = tails n (bits * 0x40 + k) bs := by
  have hbyte : (0x80 + k).toUInt8.toNat = 0x80 + k := toNat_toUInt8 (by omega)
  have hin : 0x80 ≤ (0x80 + k).toUInt8 ∧ (0x80 + k).toUInt8 ≤ 0xbf := by
    simp only [UInt8.le_iff_toNat_le, hbyte, UInt8.reduceToNat]
    omega
  rw [tails, if_pos hin, hbyte, Nat.add_sub_cancel_left]

/-- The second byte of a character has an interval of its own. -/
theorem unit_cons {b : UInt8} {l : Lead} (hl : Lead.of? b = some l) {k : Nat} (hk : k < 0x40)
    (hlow : l.low.toNat ≤ 0x80 + k) (hhigh : 0x80 + k ≤ l.high.toNat) (bs : Bytes) :
    unit b ((0x80 + k).toUInt8 :: bs) = tails l.more (l.bits * 0x40 + k) bs := by
  have hbyte : (0x80 + k).toUInt8.toNat = 0x80 + k := toNat_toUInt8 (by omega)
  have hin : l.low ≤ (0x80 + k).toUInt8 ∧ (0x80 + k).toUInt8 ≤ l.high := by
    rw [UInt8.le_iff_toNat_le, UInt8.le_iff_toNat_le, hbyte]
    exact ⟨hlow, hhigh⟩
  have hb : ¬ b < 0x80 := by
    intro hb
    have hb : b < 0xc2 := UInt8.lt_trans hb (by decide)
    rw [Lead.of?, if_pos hb] at hl
    cases hl
  simp only [unit, if_neg hb, hl, if_pos hin, hbyte, Nat.add_sub_cancel_left]

/-! ### Characters by the number of their bytes -/

theorem unit_one {n : Nat} (h : n < 0x80) (rest : Bytes) :
    unit n.toUInt8 rest = (some (Char.ofNat n), rest) := by
  have hbyte : n.toUInt8.toNat = n := toNat_toUInt8 (by omega)
  have hb : n.toUInt8 < 0x80 := by
    rw [UInt8.lt_iff_toNat_lt, hbyte]
    exact h
  rw [unit.eq_def, if_pos hb, hbyte]

theorem lead_two {k : Nat} (h : 2 ≤ k) (hk : k < 0x20) :
    Lead.of? (0xc0 + k).toUInt8 = some ⟨0x80, 0xbf, 0, k⟩ := by
  interval_cases k <;> rfl

theorem unit_two {n : Nat} (h : 0x80 ≤ n) (h' : n < 0x800) (rest : Bytes) :
    unit (0xc0 + n / 0x40).toUInt8 ((0x80 + n % 0x40).toUInt8 :: rest) =
      (some (Char.ofNat n), rest) := by
  have hk : n % 0x40 < 0x40 := Nat.mod_lt _ (by decide)
  have hbits : n / 0x40 * 0x40 + n % 0x40 = n := by omega
  rw [unit_cons (lead_two (by omega) (by omega)) hk, tails, hbits]
  · exact Nat.le_add_right _ _
  · simp only [UInt8.reduceToNat]
    omega

theorem lead_three {k : Nat} (hk : k < 0x10) :
    Lead.of? (0xe0 + k).toUInt8 =
      some ⟨if k = 0 then 0xa0 else 0x80, if k = 0xd then 0x9f else 0xbf, 1, k⟩ := by
  interval_cases k <;> rfl

theorem unit_three {n : Nat} (h : 0x800 ≤ n) (h' : n < 0x10000)
    (hvalid : n < 0xd800 ∨ 0xdfff < n) (rest : Bytes) :
    unit (0xe0 + n / 0x1000).toUInt8
        ((0x80 + n / 0x40 % 0x40).toUInt8 :: (0x80 + n % 0x40).toUInt8 :: rest) =
      (some (Char.ofNat n), rest) := by
  have hk : n / 0x40 % 0x40 < 0x40 := Nat.mod_lt _ (by decide)
  have hk' : n % 0x40 < 0x40 := Nat.mod_lt _ (by decide)
  have hbits : (n / 0x1000 * 0x40 + n / 0x40 % 0x40) * 0x40 + n % 0x40 = n := by omega
  rw [unit_cons (lead_three (by omega)) hk, tails_cons _ _ hk', tails, hbits]
  · -- no overlong form
    dsimp only
    split <;> simp only [UInt8.reduceToNat] <;> omega
  · -- no surrogate
    dsimp only
    split <;> simp only [UInt8.reduceToNat] <;> omega

theorem lead_four {k : Nat} (hk : k < 5) :
    Lead.of? (0xf0 + k).toUInt8 =
      some ⟨if k = 0 then 0x90 else 0x80, if k = 4 then 0x8f else 0xbf, 2, k⟩ := by
  interval_cases k <;> rfl

theorem unit_four {n : Nat} (h : 0x10000 ≤ n) (h' : n < 0x110000) (rest : Bytes) :
    unit (0xf0 + n / 0x40000).toUInt8
        ((0x80 + n / 0x1000 % 0x40).toUInt8 :: (0x80 + n / 0x40 % 0x40).toUInt8 ::
          (0x80 + n % 0x40).toUInt8 :: rest) =
      (some (Char.ofNat n), rest) := by
  have hk : n / 0x1000 % 0x40 < 0x40 := Nat.mod_lt _ (by decide)
  have hk' : n / 0x40 % 0x40 < 0x40 := Nat.mod_lt _ (by decide)
  have hk'' : n % 0x40 < 0x40 := Nat.mod_lt _ (by decide)
  have hbits : ((n / 0x40000 * 0x40 + n / 0x1000 % 0x40) * 0x40 + n / 0x40 % 0x40) * 0x40 +
      n % 0x40 = n := by omega
  rw [unit_cons (lead_four (by omega)) hk, tails_cons _ _ hk', tails_cons _ _ hk'', tails, hbits]
  · -- no overlong form
    dsimp only
    split <;> simp only [UInt8.reduceToNat] <;> omega
  · -- nothing beyond the last code point
    dsimp only
    split <;> simp only [UInt8.reduceToNat] <;> omega

/-- The bytes of a character are read as the character, whatever follows them. -/
theorem exists_encodeChar (c : Char) :
    ∃ b bs, encodeChar c = b :: bs ∧ ∀ rest, unit b (bs ++ rest) = (some c, rest) := by
  have hvalid : c.toNat < 0xd800 ∨ 0xdfff < c.toNat ∧ c.toNat < 0x110000 := c.valid
  have hc : Char.ofNat c.toNat = c := Char.ofNat_toNat c
  unfold encodeChar
  generalize c.toNat = n at hvalid hc
  subst hc
  dsimp only
  by_cases h1 : n < 0x80
  · rw [if_pos h1]
    exact ⟨_, _, rfl, unit_one h1⟩
  by_cases h2 : n < 0x800
  · rw [if_neg h1, if_pos h2]
    exact ⟨_, _, rfl, unit_two (by omega) h2⟩
  by_cases h3 : n < 0x10000
  · rw [if_neg h1, if_neg h2, if_pos h3]
    exact ⟨_, _, rfl, unit_three (by omega) h3 (by omega)⟩
  · rw [if_neg h1, if_neg h2, if_neg h3]
    exact ⟨_, _, rfl, unit_four (by omega) (by omega)⟩

/-! ### Characters that are read -/

theorem toNat_ofNat {n : Nat} (h : n < 0xd800 ∨ 0xdfff < n ∧ n < 0x110000) :
    (Char.ofNat n).toNat = n := by
  rw [Char.ofNat, dif_pos h]
  rfl

/-- The first byte of a longer character, by the number of bytes. -/
theorem lead_cases {b : UInt8} {l : Lead} (h : Lead.of? b = some l) :
    (∃ k, 2 ≤ k ∧ k < 0x20 ∧ b = (0xc0 + k).toUInt8) ∨
      (∃ k, k < 0x10 ∧ b = (0xe0 + k).toUInt8) ∨ ∃ k, k < 5 ∧ b = (0xf0 + k).toUInt8 := by
  have hbyte (m : Nat) (hm : m ≤ b.toNat) : b = (m + (b.toNat - m)).toUInt8 := by
    rw [Nat.add_sub_cancel' hm, Nat.toUInt8, UInt8.ofNat_toNat]
  unfold Lead.of? at h
  simp only [UInt8.lt_iff_toNat_lt, UInt8.reduceToNat] at h
  split at h
  · cases h
  split at h
  · exact .inl ⟨b.toNat - 0xc0, by omega, by omega, hbyte _ (by omega)⟩
  split at h
  · exact .inr (.inl ⟨b.toNat - 0xe0, by omega, hbyte _ (by omega)⟩)
  split at h
  · exact .inr (.inr ⟨b.toNat - 0xf0, by omega, hbyte _ (by omega)⟩)
  · cases h

/-- A byte after the first carries six bits. -/
theorem exists_bits {b : UInt8} (h : 0x80 ≤ b ∧ b ≤ 0xbf) :
    ∃ k < 0x40, b = (0x80 + k).toUInt8 := by
  simp only [UInt8.le_iff_toNat_le, UInt8.reduceToNat] at h
  refine ⟨b.toNat - 0x80, by omega, ?_⟩
  rw [Nat.add_sub_cancel' h.1, Nat.toUInt8, UInt8.ofNat_toNat]

theorem exists_of_tails {n bits : Nat} {bs rest : Bytes} {c : Char}
    (h : tails (n + 1) bits bs = (some c, rest)) :
    ∃ k < 0x40, ∃ bs', bs = (0x80 + k).toUInt8 :: bs' ∧
      tails n (bits * 0x40 + k) bs' = (some c, rest) := by
  cases bs with
  | nil => cases h
  | cons b bs =>
    rw [tails] at h
    split at h
    · next hb =>
      obtain ⟨k, hk, rfl⟩ := exists_bits hb
      rw [toNat_toUInt8 (by omega), Nat.add_sub_cancel_left] at h
      exact ⟨k, hk, bs, rfl, h⟩
    · cases h

/-- A character of more than one byte: its second byte lies in the interval of the first. -/
theorem exists_of_unit {b : UInt8} {l : Lead} {bs rest : Bytes} {c : Char}
    (hl : Lead.of? b = some l) (h : unit b bs = (some c, rest)) (hlow : 0x80 ≤ l.low)
    (hhigh : l.high ≤ 0xbf) :
    ∃ k < 0x40, l.low.toNat ≤ 0x80 + k ∧ 0x80 + k ≤ l.high.toNat ∧
      ∃ bs', bs = (0x80 + k).toUInt8 :: bs' ∧
        tails l.more (l.bits * 0x40 + k) bs' = (some c, rest) := by
  have hb : ¬ b < 0x80 := by
    intro hb
    have hb : b < 0xc2 := UInt8.lt_trans hb (by decide)
    rw [Lead.of?, if_pos hb] at hl
    cases hl
  cases bs with
  | nil => simp [unit, hb] at h
  | cons d bs =>
    simp only [unit, if_neg hb, hl] at h
    split at h
    · next hd =>
      obtain ⟨k, hk, rfl⟩ := exists_bits ⟨UInt8.le_trans hlow hd.1, UInt8.le_trans hd.2 hhigh⟩
      simp only [UInt8.le_iff_toNat_le, toNat_toUInt8 (show 0x80 + k < 256 by omega)] at hd
      rw [toNat_toUInt8 (by omega), Nat.add_sub_cancel_left] at h
      exact ⟨k, hk, hd.1, hd.2, bs, rfl, h⟩
    · cases h

theorem encodeChar_two {k i : Nat} (hk : 2 ≤ k) (hk' : k < 0x20) (hi : i < 0x40) :
    encodeChar (Char.ofNat (k * 0x40 + i)) = [(0xc0 + k).toUInt8, (0x80 + i).toUInt8] := by
  have hbits : (k * 0x40 + i) / 0x40 = k ∧ (k * 0x40 + i) % 0x40 = i := by omega
  rw [encodeChar, toNat_ofNat (by omega)]
  simp only [if_neg (show ¬ k * 0x40 + i < 0x80 by omega),
    if_pos (show k * 0x40 + i < 0x800 by omega), hbits]

theorem encodeChar_three {k i j : Nat} (hk : k < 0x10) (hi : i < 0x40) (hj : j < 0x40)
    (hlong : k = 0 → 0x20 ≤ i) (hvalid : k = 0xd → i < 0x20) :
    encodeChar (Char.ofNat ((k * 0x40 + i) * 0x40 + j)) =
      [(0xe0 + k).toUInt8, (0x80 + i).toUInt8, (0x80 + j).toUInt8] := by
  have hbits : ((k * 0x40 + i) * 0x40 + j) / 0x1000 = k ∧
      ((k * 0x40 + i) * 0x40 + j) / 0x40 % 0x40 = i ∧
      ((k * 0x40 + i) * 0x40 + j) % 0x40 = j := by omega
  have hsize : 0x800 ≤ (k * 0x40 + i) * 0x40 + j ∧ (k * 0x40 + i) * 0x40 + j < 0x10000 := by omega
  rw [encodeChar, toNat_ofNat (by omega)]
  generalize (k * 0x40 + i) * 0x40 + j = n at hbits hsize
  simp only [if_neg (show ¬ n < 0x80 by omega), if_neg (show ¬ n < 0x800 by omega),
    if_pos hsize.2, hbits]

theorem encodeChar_four {k i j m : Nat} (hk : k < 5) (hi : i < 0x40) (hj : j < 0x40)
    (hm : m < 0x40) (hlong : k = 0 → 0x10 ≤ i) (hvalid : k = 4 → i < 0x10) :
    encodeChar (Char.ofNat (((k * 0x40 + i) * 0x40 + j) * 0x40 + m)) =
      [(0xf0 + k).toUInt8, (0x80 + i).toUInt8, (0x80 + j).toUInt8, (0x80 + m).toUInt8] := by
  have hbits : (((k * 0x40 + i) * 0x40 + j) * 0x40 + m) / 0x40000 = k ∧
      (((k * 0x40 + i) * 0x40 + j) * 0x40 + m) / 0x1000 % 0x40 = i ∧
      (((k * 0x40 + i) * 0x40 + j) * 0x40 + m) / 0x40 % 0x40 = j ∧
      (((k * 0x40 + i) * 0x40 + j) * 0x40 + m) % 0x40 = m := by omega
  have hsize : 0x10000 ≤ ((k * 0x40 + i) * 0x40 + j) * 0x40 + m := by omega
  rw [encodeChar, toNat_ofNat (by omega)]
  generalize ((k * 0x40 + i) * 0x40 + j) * 0x40 + m = n at hbits hsize
  simp only [if_neg (show ¬ n < 0x80 by omega), if_neg (show ¬ n < 0x800 by omega),
    if_neg (show ¬ n < 0x10000 by omega), hbits]

/-- A character is written as the bytes that it is read from. -/
theorem encodeChar_append_of_unit {b : UInt8} {bs rest : Bytes} {c : Char}
    (h : unit b bs = (some c, rest)) : encodeChar c ++ rest = b :: bs := by
  by_cases hb : b < 0x80
  · rw [unit.eq_def, if_pos hb] at h
    cases h
    rw [UInt8.lt_iff_toNat_lt] at hb
    have hb' : b.toNat < 0x80 := hb
    rw [encodeChar, toNat_ofNat (by omega)]
    simp only [if_pos hb', Nat.toUInt8, UInt8.ofNat_toNat, List.singleton_append]
  cases hl : Lead.of? b with
  | none => simp [unit, hb, hl] at h
  | some l =>
    rcases lead_cases hl with ⟨k, hk, hk', rfl⟩ | ⟨k, hk, rfl⟩ | ⟨k, hk, rfl⟩
    · -- two bytes
      cases (lead_two hk hk').symm.trans hl
      obtain ⟨i, hi, -, -, bs, rfl, hsecond⟩ :=
        exists_of_unit hl h (UInt8.le_refl _) (UInt8.le_refl _)
      cases hsecond
      rw [encodeChar_two hk hk' hi]
      rfl
    · -- three bytes
      cases (lead_three hk).symm.trans hl
      obtain ⟨i, hi, hlow, hhigh, bs, rfl, hsecond⟩ :=
        exists_of_unit hl h (by dsimp only; split <;> decide) (by dsimp only; split <;> decide)
      obtain ⟨j, hj, bs, rfl, hthird⟩ := exists_of_tails hsecond
      cases hthird
      rw [encodeChar_three hk hi hj]
      · rfl
      · rintro rfl
        exact Nat.le_of_add_le_add_left hlow
      · rintro rfl
        exact Nat.lt_of_add_lt_add_left (Nat.lt_succ_of_le hhigh)
    · -- four bytes
      cases (lead_four hk).symm.trans hl
      obtain ⟨i, hi, hlow, hhigh, bs, rfl, hsecond⟩ :=
        exists_of_unit hl h (by dsimp only; split <;> decide) (by dsimp only; split <;> decide)
      obtain ⟨j, hj, bs, rfl, hthird⟩ := exists_of_tails hsecond
      obtain ⟨m, hm, bs, rfl, hfourth⟩ := exists_of_tails hthird
      cases hfourth
      rw [encodeChar_four hk hi hj hm]
      · rfl
      · rintro rfl
        exact Nat.le_of_add_le_add_left hlow
      · rintro rfl
        exact Nat.lt_of_add_lt_add_left (Nat.lt_succ_of_le hhigh)

/-! ### Texts -/

theorem units_encodeChar_append (c : Char) (rest : Bytes) :
    units (encodeChar c ++ rest) = some c :: units rest := by
  obtain ⟨b, bs, hbytes, hunit⟩ := exists_encodeChar c
  rw [hbytes, List.cons_append, units, hunit]

/-- The bytes of a text have no gap. -/
theorem units_encodeChars (cs : List Char) : units (encodeChars cs) = cs.map some := by
  induction cs with
  | nil => rw [encodeChars, List.flatMap_nil, units]; rfl
  | cons c cs ih =>
    rw [encodeChars, List.flatMap_cons, units_encodeChar_append, ← encodeChars, ih, List.map_cons]

theorem mapM_id_map_some {α : Type} (xs : List α) : (xs.map some).mapM id = some xs := by
  induction xs with
  | nil => rfl
  | cons x xs ih => rw [List.map_cons, List.mapM_cons, ih]; rfl

/-- **A text comes back from its bytes.** -/
theorem decode?_encode (s : String) : decode? (encode s) = some s := by
  rw [decode?, decodeChars?, encode, units_encodeChars, mapM_id_map_some, Option.map_some,
    String.ofList_toList]

/-- Texts have bytes of their own. -/
theorem encode_inj {s t : String} : encode s = encode t ↔ s = t := by
  constructor
  · intro hbytes
    have hdecoded := congrArg decode? hbytes
    rw [decode?_encode, decode?_encode] at hdecoded
    exact Option.some.inj hdecoded
  · rintro rfl
    rfl

theorem encodeChars_of_units {bs : Bytes} {cs : List Char} (h : units bs = cs.map some) :
    encodeChars cs = bs := by
  induction cs generalizing bs with
  | nil =>
    cases bs with
    | nil => rfl
    | cons b bs => rw [units] at h; cases h
  | cons c cs ih =>
    cases bs with
    | nil => rw [units] at h; cases h
    | cons b bs =>
      rw [units, List.map_cons, List.cons.injEq] at h
      rw [encodeChars, List.flatMap_cons, ← encodeChars, ih h.2]
      exact encodeChar_append_of_unit (Prod.ext h.1 rfl)

theorem map_some_of_mapM_id {α : Type} {xs : List (Option α)} {ys : List α}
    (h : xs.mapM id = some ys) : xs = ys.map some := by
  induction xs generalizing ys with
  | nil => cases h; rfl
  | cons x xs ih =>
    simp only [List.mapM_cons, id, Option.pure_def, Option.bind_eq_bind, Option.bind_eq_some_iff,
      Option.some.injEq] at h
    obtain ⟨y, rfl, ys, hys, rfl⟩ := h
    rw [ih hys, List.map_cons]

/-- **The bytes that are read as a text are those that it is written as**, and no others. -/
theorem decode?_eq_some_iff {bs : Bytes} {s : String} : decode? bs = some s ↔ bs = encode s := by
  constructor
  · intro h
    obtain ⟨cs, hcs, rfl⟩ := Option.map_eq_some_iff.mp h
    rw [encode, String.toList_ofList, encodeChars_of_units (map_some_of_mapM_id hcs)]
  · rintro rfl
    exact decode?_encode s

/-- **A text comes back from its bytes**, also where gaps would be filled. -/
theorem decodeLossy_encode (s : String) : decodeLossy (encode s) = s := by
  have hchars : (s.toList.map some).map (·.getD '\uFFFD') = s.toList := by simp
  rw [decodeLossy, encode, units_encodeChars, hchars, String.ofList_toList]

/-- No text starts with a byte that starts no character. -/
theorem head?_encode_ne {b : UInt8} (hb : ∀ bs, (unit b bs).1 = none) (s : String) :
    (encode s).head? ≠ some b := by
  rw [encode, encodeChars]
  cases s.toList with
  | nil => simp
  | cons c cs =>
    obtain ⟨b', bs, hbytes, hunit⟩ := exists_encodeChar c
    rw [List.flatMap_cons, hbytes, List.cons_append, List.head?_cons, ne_eq, Option.some.injEq]
    rintro rfl
    have hgap := hb (bs ++ cs.flatMap encodeChar)
    rw [hunit] at hgap
    cases hgap

end ThreatTree.Text.Utf8
