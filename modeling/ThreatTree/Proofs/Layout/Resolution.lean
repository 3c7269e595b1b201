import ThreatTree.Layout.Resolution
import ThreatTree.Proofs.Dot.ReadBack
import ThreatTree.Proofs.Embed.Dot
import ThreatTree.Proofs.Graph.WellFormed

/-!
# Where a resolution is set

The statement of a resolution stands behind the first opening of a graph
(`withDpi_of_firstOpening`). What an opening is says `IsOpening`, and which one is the first
`FirstOpening`: the scan finds that one and no other (`findOpening?_eq_some_iff`).

The text of a graph begins with an opening, so nothing that the graph is made of comes before the
statement. A document in front of the text does, but all its lines are comments, and these are
passed over one by one (`findOpening?_comments`), also where they look like an opening behind their
marker.

Main statement: `withDpi_in_header`.
-/

namespace ThreatTree.Layout

open Text

/-! ### Openings -/

/-- White space in a row. -/
def IsBlanks (cs : List Char) : Prop := ∀ c ∈ cs, isBlank c = true

/-- The word `digraph`, which ends there, and all up to the next brace, be it lines further down. -/
def IsHead (head : List Char) : Prop :=
  ∃ between, head = "digraph".toList ++ (between ++ ['\x7b']) ∧
    endsWord (between ++ ['\x7b']) = true ∧ '\x7b' ∉ between

/-- What opens a graph where a line starts. White space may come before it, and line ends are white
space, so it need not be on one line. -/
inductive IsOpening : List Char → Prop
  | bare {blanks head : List Char} (hblanks : IsBlanks blanks) (hhead : IsHead head) :
      IsOpening (blanks ++ head)
  | strict {blanks gap head : List Char} (hblanks : IsBlanks blanks) (hgap : IsBlanks gap)
      (hne : gap ≠ []) (hhead : IsHead head) :
      IsOpening (blanks ++ ("strict".toList ++ (gap ++ head)))

theorem IsHead.head?_eq {head : List Char} (h : IsHead head) (rest : List Char) :
    (head ++ rest).head? = some 'd' := by
  obtain ⟨between, rfl, -⟩ := h
  rfl

theorem afterWord?_eq_some_iff {word cs rest : List Char} :
    afterWord? word cs = some rest ↔ cs = word ++ rest ∧ endsWord rest = true := by
  unfold afterWord?
  constructor
  · intro h
    split at h
    · next hword =>
      rw [Bool.and_eq_true] at hword
      cases h
      exact ⟨(append_drop_of_isPrefixOf hword.1).symm, hword.2⟩
    · cases h
  · rintro ⟨rfl, hword⟩
    simp [hword]

/-- The rest of a text behind the head that it begins with. -/
def afterHead? (cs : List Char) : Option (List Char) := do
  let rest ← afterWord? "digraph".toList cs
  match rest.dropWhile (· ≠ '\x7b') with
  | [] => none
  | _ :: rest => some rest

theorem endsWord_append_cons (between rest : List Char) (c : Char) :
    endsWord (between ++ c :: rest) = endsWord (between ++ [c]) := by
  cases between <;> rfl

theorem afterHead?_eq_some_iff {cs rest : List Char} :
    afterHead? cs = some rest ↔ ∃ head, IsHead head ∧ cs = head ++ rest := by
  simp only [afterHead?, Option.bind_eq_bind, Option.bind_eq_some_iff, afterWord?_eq_some_iff]
  constructor
  · rintro ⟨tail, ⟨rfl, hword⟩, hrest⟩
    by_cases hbrace : '\x7b' ∈ tail
    · obtain ⟨between, rest', rfl, hbetween⟩ := List.eq_append_cons_of_mem hbrace
      rw [dropWhile_append_cons hbetween] at hrest
      cases hrest
      rw [endsWord_append_cons] at hword
      exact ⟨_, ⟨between, rfl, hword, hbetween⟩, by simp⟩
    · rw [dropWhile_of_notMem hbrace] at hrest
      cases hrest
  · rintro ⟨_, ⟨between, rfl, hword, hbetween⟩, rfl⟩
    refine ⟨between ++ '\x7b' :: rest, ⟨by simp, ?_⟩, ?_⟩
    · rw [endsWord_append_cons, hword]
    · rw [dropWhile_append_cons hbetween]

theorem exists_blanks (cs : List Char) :
    ∃ blanks, IsBlanks blanks ∧ cs = blanks ++ cs.dropWhile isBlank ∧
      (cs.head?.any isBlank = true → blanks ≠ []) := by
  refine ⟨cs.takeWhile isBlank, List.all_eq_true.mp List.all_takeWhile,
    List.takeWhile_append_dropWhile.symm, fun h => ?_⟩
  cases cs with
  | nil => cases h
  | cons c cs =>
    have hblank : isBlank c = true := h
    simp [hblank]

theorem dropWhile_blanks {blanks rest : List Char} (hblanks : IsBlanks blanks)
    (hrest : ∀ c ∈ rest.head?, isBlank c = false) :
    (blanks ++ rest).dropWhile isBlank = rest :=
  (Dot.span_append hblanks hrest).2

theorem afterStrict_eq_or_exists (cs : List Char) :
    afterStrict cs = cs ∨
      ∃ gap, IsBlanks gap ∧ gap ≠ [] ∧ cs = "strict".toList ++ (gap ++ afterStrict cs) := by
  unfold afterStrict
  dsimp only
  split
  · next h =>
    obtain ⟨hword, hblank⟩ := Bool.and_eq_true_iff.mp h
    obtain ⟨gap, hgap, hcut, hne⟩ := exists_blanks (cs.drop "strict".toList.length)
    refine .inr ⟨gap, hgap, hne hblank, ?_⟩
    rw [← hcut, append_drop_of_isPrefixOf hword]
  · exact .inl rfl

theorem afterStrict_of_head {cs : List Char} (h : cs.head? = some 'd') : afterStrict cs = cs := by
  unfold afterStrict
  dsimp only
  rw [if_neg]
  cases cs with
  | nil => cases h
  | cons c cs =>
    cases h
    simp

theorem afterStrict_strict {gap rest : List Char} (hgap : IsBlanks gap) (hne : gap ≠ [])
    (hrest : ∀ c ∈ rest.head?, isBlank c = false) :
    afterStrict ("strict".toList ++ (gap ++ rest)) = rest := by
  obtain ⟨c, gap, rfl⟩ := List.exists_cons_of_ne_nil hne
  have hblank : isBlank c = true := hgap c List.mem_cons_self
  unfold afterStrict
  dsimp only
  rw [List.drop_left, if_pos]
  · exact dropWhile_blanks hgap hrest
  · simp [hblank]

/-- What opens a text, and no more, is cut off. -/
theorem afterOpening?_eq_some_iff {cs rest : List Char} :
    afterOpening? cs = some rest ↔ ∃ opening, IsOpening opening ∧ cs = opening ++ rest := by
  have heq : afterOpening? cs = afterHead? (afterStrict (cs.dropWhile isBlank)) := rfl
  rw [heq, afterHead?_eq_some_iff]
  constructor
  · rintro ⟨head, hhead, hcut⟩
    obtain ⟨blanks, hblanks, hcs, -⟩ := exists_blanks cs
    rcases afterStrict_eq_or_exists (cs.dropWhile isBlank) with h | ⟨gap, hgap, hne, h⟩
    · refine ⟨_, .bare hblanks hhead, ?_⟩
      rw [List.append_assoc, ← hcut, h, ← hcs]
    · refine ⟨_, .strict hblanks hgap hne hhead, ?_⟩
      simp only [List.append_assoc]
      rw [← hcut, ← h, ← hcs]
  · rintro ⟨_, hopening, rfl⟩
    -- neither word begins with white space, so no more of it is dropped than was there
    cases hopening with
    | @bare blanks head hblanks hhead =>
      have hstart := hhead.head?_eq rest
      refine ⟨head, hhead, ?_⟩
      rw [List.append_assoc, dropWhile_blanks hblanks, afterStrict_of_head hstart]
      rw [hstart]
      rintro c ⟨⟩
      decide
    | @strict blanks gap head hblanks hgap hne hhead =>
      refine ⟨head, hhead, ?_⟩
      rw [List.append_assoc, List.append_assoc, List.append_assoc, dropWhile_blanks hblanks,
        afterStrict_strict hgap hne]
      · rw [hhead.head?_eq rest]
        rintro c ⟨⟩
        decide
      · rintro c ⟨⟩
        decide

/-! ### The first opening -/

/-- Whether a line starts behind `before`; `start` says whether one starts in front of it. -/
def startsLine (start : Bool) (before : List Char) : Bool := before.getLast?.elim start (· = '\n')

@[simp] theorem startsLine_nil (start : Bool) : startsLine start [] = start := rfl

@[simp] theorem startsLine_cons (start : Bool) (c : Char) (before : List Char) :
    startsLine start (c :: before) = startsLine (c = '\n') before := by
  rw [startsLine, startsLine, List.getLast?_cons]
  cases before.getLast? <;> rfl

/-- The first opening of a text, with what stands before and behind it: it starts a line, and no
other one starts a line before it. -/
structure FirstOpening (start : Bool) (cs before opening rest : List Char) : Prop where
  cut : cs = before ++ (opening ++ rest)
  line : startsLine start before = true
  isOpening : IsOpening opening
  first : ∀ p o r, cs = p ++ (o ++ r) → startsLine start p = true → IsOpening o →
    before.length ≤ p.length

theorem IsOpening.ne_nil {opening : List Char} (h : IsOpening opening) : opening ≠ [] := by
  have hhead {head : List Char} (h : IsHead head) : head ≠ [] := by
    obtain ⟨between, rfl, -⟩ := h
    simp
  cases h with
  | bare _ h => simp [hhead h]
  | strict _ _ _ h => simp

namespace FirstOpening

variable {start : Bool} {c : Char} {cs before opening rest : List Char}

theorem here (h : IsOpening opening) : FirstOpening true (opening ++ rest) [] opening rest where
  cut := rfl
  line := rfl
  isOpening := h
  first _ _ _ _ _ _ := Nat.zero_le _

theorem eq_nil (h : FirstOpening true cs before opening rest) {o r : List Char} (ho : IsOpening o)
    (hcs : cs = o ++ r) : before = [] :=
  List.length_eq_zero_iff.mp (Nat.le_zero.mp (h.first [] o r hcs rfl ho))

/-- Where none begins, the first one is that of what comes behind. -/
theorem cons_iff (hnone : ∀ o r, start = true → c :: cs = o ++ r → ¬ IsOpening o) :
    FirstOpening start (c :: cs) before opening rest ↔
      ∃ tail, before = c :: tail ∧ FirstOpening (c = '\n') cs tail opening rest := by
  constructor
  · intro h
    cases before with
    | nil => exact absurd h.isOpening (hnone _ _ h.line h.cut)
    | cons d tail =>
      obtain ⟨rfl, hcut⟩ := List.cons.inj h.cut
      refine ⟨tail, rfl, hcut, by simpa using h.line, h.isOpening, ?_⟩
      intro p o r hcs hline ho
      have := h.first (c :: p) o r (by simp [hcs]) (by simpa using hline) ho
      simpa using this
  · rintro ⟨tail, rfl, h⟩
    refine ⟨by simp [h.cut], by simpa using h.line, h.isOpening, ?_⟩
    intro p o r hcs hline ho
    cases p with
    | nil => exact absurd ho (hnone o r hline hcs)
    | cons d p =>
      obtain ⟨rfl, hrest⟩ := List.cons.inj hcs
      have := h.first p o r hrest (by simpa using hline) ho
      simpa using this

end FirstOpening

/-- **The scan finds the first opening**, if there is one. -/
theorem findOpening?_eq_some_iff {start : Bool} {cs rest : List Char} :
    findOpening? start cs = some rest ↔
      ∃ before opening, FirstOpening start cs before opening rest := by
  induction cs generalizing start with
  | nil =>
    simp only [findOpening?, reduceCtorEq, false_iff]
    rintro ⟨before, opening, h⟩
    have := h.cut
    simp [h.isOpening.ne_nil] at this
  | cons c cs ih =>
    rw [findOpening?]
    cases hhere : if start then afterOpening? (c :: cs) else none with
    | some rest' =>
      obtain ⟨rfl, hopening⟩ : start = true ∧ afterOpening? (c :: cs) = some rest' := by
        simpa using hhere
      obtain ⟨opening, ho, hcs⟩ := afterOpening?_eq_some_iff.mp hopening
      constructor
      · rintro ⟨⟩
        exact ⟨[], opening, hcs ▸ .here ho⟩
      · rintro ⟨before, opening', h⟩
        obtain rfl := h.eq_nil ho hcs
        have := afterOpening?_eq_some_iff.mpr ⟨opening', h.isOpening, h.cut⟩
        rw [← hopening, this]
    | none =>
      have hnone : ∀ o r, start = true → c :: cs = o ++ r → ¬ IsOpening o := by
        intro o r hstart hcs ho
        rw [if_pos hstart, afterOpening?_eq_some_iff.mpr ⟨o, ho, hcs⟩] at hhere
        cases hhere
      rw [ih]
      constructor
      · rintro ⟨tail, opening, h⟩
        exact ⟨c :: tail, opening, (FirstOpening.cons_iff hnone).mpr ⟨tail, rfl, h⟩⟩
      · rintro ⟨before, opening, h⟩
        obtain ⟨tail, -, h⟩ := (FirstOpening.cons_iff hnone).mp h
        exact ⟨tail, opening, h⟩

/-! ### Lines that are passed over -/

theorem findOpening?_false {l : List Char} (hl : '\n' ∉ l) (cs : List Char) :
    findOpening? false (l ++ '\n' :: cs) = findOpening? true cs := by
  induction l with
  | nil => rfl
  | cons c l ih =>
    obtain ⟨hc, hl⟩ : c ≠ '\n' ∧ '\n' ∉ l := by
      simp only [List.mem_cons, not_or] at hl
      exact ⟨Ne.symm hl.1, hl.2⟩
    rw [List.cons_append, findOpening?, decide_eq_false hc]
    exact ih hl

/-- An opening begins with white space or with a letter. -/
theorem afterOpening?_slash (cs : List Char) : afterOpening? ('/' :: cs) = none := rfl

/-- No graph is opened in a comment, whatever it is about. -/
theorem findOpening?_comment {l : List Char} (h : Embed.Dot.IsComment l) (cs : List Char) :
    findOpening? true (l ++ '\n' :: cs) = findOpening? true cs := by
  obtain ⟨⟨tail, rfl⟩, hl⟩ := h
  have htail : '\n' ∉ '/' :: tail := fun h => hl (List.mem_cons_of_mem _ h)
  have hslash : findOpening? true ('/' :: ('/' :: tail ++ '\n' :: cs)) =
      findOpening? false ('/' :: tail ++ '\n' :: cs) := by
    rw [findOpening?, if_pos rfl, afterOpening?_slash]
    rfl
  exact hslash.trans (findOpening?_false htail cs)

/-- Comments in front of a text are passed over. -/
theorem findOpening?_comments {ls : List (List Char)} (h : ∀ l ∈ ls, Embed.Dot.IsComment l)
    (cs : List Char) :
    findOpening? true (ls.flatMap (· ++ ['\n']) ++ cs) = findOpening? true cs := by
  induction ls with
  | nil => rfl
  | cons l ls ih =>
    obtain ⟨hl, hls⟩ := List.forall_mem_cons.mp h
    rw [List.flatMap_cons, List.append_assoc, List.append_assoc, List.singleton_append,
      findOpening?_comment hl, ih hls]

/-! ### The statement -/

/-- **The statement is put behind the first opening.** -/
theorem withDpi_of_firstOpening {dot : String} {before opening rest : List Char}
    (h : FirstOpening true dot.toList before opening rest) (dpi : Int) :
    withDpi dot dpi = String.ofList (before ++ opening ++ resolution dpi ++ rest) := by
  have hfound := findOpening?_eq_some_iff.mpr ⟨before, opening, h⟩
  have hcut : dot.toList = before ++ opening ++ rest := by rw [h.cut, List.append_assoc]
  unfold withDpi
  dsimp only
  rw [hfound]
  dsimp only
  rw [hcut, List.length_append, Nat.add_sub_cancel, List.take_left]

theorem withDpi_eq_self {dot : String} (h : findOpening? true dot.toList = none) (dpi : Int) :
    withDpi dot dpi = dot := by
  unfold withDpi
  dsimp only
  rw [h]

/-- A document in front of a text is no place for the statement. -/
theorem withDpi_embed (dot source : String) (dpi : Int) :
    withDpi (Embed.Dot.embed dot source) dpi = Embed.Dot.embed (withDpi dot dpi) source := by
  have hscan : findOpening? true (Embed.Dot.embed dot source).toList =
      findOpening? true dot.toList := by
    rw [Embed.Dot.toList_embed, findOpening?_comments fun _ => Embed.Dot.isComment_of_mem_block]
  cases hfound : findOpening? true dot.toList with
  | none => rw [withDpi_eq_self (hscan.trans hfound), withDpi_eq_self hfound]
  | some rest =>
    obtain ⟨before, opening, h⟩ := findOpening?_eq_some_iff.mp hfound
    obtain ⟨before', opening', h'⟩ := findOpening?_eq_some_iff.mp (hscan.trans hfound)
    -- both texts are cut in front of the same rest
    have hcut : before' ++ opening' ++ rest =
        (Embed.Dot.block source.toList).flatMap (· ++ ['\n']) ++ (before ++ opening) ++ rest := by
      rw [List.append_assoc, ← h'.cut, Embed.Dot.toList_embed, h.cut]
      simp only [List.append_assoc]
    rw [withDpi_of_firstOpening h' dpi, withDpi_of_firstOpening h dpi, ← String.toList_inj,
      Embed.Dot.toList_embed, String.toList_ofList, String.toList_ofList,
      List.append_cancel_right hcut]
    simp only [List.append_assoc]

/-! ### The statement read -/

theorem mem_toString {n : Int} {c : Char} (h : c ∈ (toString n).toList) :
    c.isDigit = true ∨ c = '-' := by
  have hdigits {m : Nat} (h : c ∈ m.repr.toList) : c.isDigit = true := by
    rw [Nat.toList_repr] at h
    exact Nat.isDigit_of_mem_toDigits (by omega) (by omega) h
  rw [Int.toString_eq_repr, Int.repr_eq_if] at h
  split at h
  · exact .inl (hdigits h)
  · rw [String.toList_append, List.mem_append] at h
    rcases h with h | h
    · exact .inr (by simpa using h)
    · exact .inl (hdigits h)

/-- What a resolution is made of. -/
def resolutionTokens (dpi : Int) : List Dot.Token :=
  Dot.assignmentTokens ("dpi", toString dpi) ++ [.mark ';']

theorem toList_resolution (dpi : Int) :
    resolution dpi = "\n  dpi=\"".toList ++ (toString dpi).toList ++ "\";".toList := by
  rw [← String.toList_append, ← String.toList_append]
  rfl

theorem lex_resolution (dpi : Int) (rest : List Char) :
    Dot.lex (resolution dpi ++ rest) = (Dot.lex rest).map (resolutionTokens dpi ++ ·) := by
  have hvalue : ∀ c ∈ (toString dpi).toList, c ≠ '"' ∧ c ≠ '\\' := by
    intro c hc
    rcases mem_toString hc with h | rfl
    · constructor <;> rintro rfl <;> exact absurd h (by decide)
    · decide
  have htext : resolution dpi ++ rest = '\n' :: ' ' :: ' ' ::
      ("dpi".toList ++ '=' :: '"' :: ((toString dpi).toList ++ '"' :: ';' :: rest)) := by
    rw [toList_resolution, List.append_assoc, List.append_assoc]
    rfl
  have hname : Dot.Reads (Dot.quote "dpi").toList [.id "dpi"] := Dot.reads_quote (by decide)
  have hword : Dot.quote "dpi" = "dpi" := Dot.quote_of_word (by decide) (by decide)
  rw [hword] at hname
  rw [htext, Dot.lex_gap rfl, Dot.lex_gap rfl, Dot.lex_gap rfl,
    hname.2 _ (Dot.Stops.cons (by decide) _), Dot.lex_mark (by decide), Dot.lex_quoted hvalue,
    Dot.lex_mark (by decide), Option.map_map, Option.map_map, Option.map_map]
  rfl

/-! ### Texts of graphs -/

theorem isOpening_header : IsOpening "digraph \x7b".toList :=
  @IsOpening.bare [] _ nofun ⟨[' '], by decide, by decide, by decide⟩

/-- In a text that begins with the header, the statement is the first one behind it. -/
theorem withDpi_header (rest : String) (dpi : Int) :
    withDpi ("digraph \x7b" ++ rest) dpi =
      "digraph \x7b" ++ s!"\n  dpi=\"{dpi}\";" ++ rest := by
  have hfirst : FirstOpening true ("digraph \x7b" ++ rest).toList [] "digraph \x7b".toList
      rest.toList := by
    rw [String.toList_append]
    exact .here isOpening_header
  rw [withDpi_of_firstOpening hfirst, List.nil_append, resolution, ← String.toList_append,
    ← String.toList_append, String.ofList_toList]

/-- What is read behind the header is the same with and without the statement in front of it. -/
theorem lex_withDpi_header {rest : String} {ts : List Dot.Token} (hrest : Dot.Stops rest.toList)
    (hlex : Dot.lex ("digraph \x7b" ++ rest).toList = some (Dot.Statement.opening.tokens ++ ts))
    (dpi : Int) :
    Dot.lex (withDpi ("digraph \x7b" ++ rest) dpi).toList =
      some (Dot.Statement.opening.tokens ++ (resolutionTokens dpi ++ ts)) := by
  rw [String.toList_append, Dot.reads_opening.2 _ hrest] at hlex
  obtain ⟨behind, hbehind, htokens⟩ := Option.map_eq_some_iff.mp hlex
  obtain rfl := List.append_cancel_left htokens
  have hstops : Dot.Stops (resolution dpi ++ rest.toList) := by
    rw [toList_resolution, List.append_assoc, List.append_assoc]
    exact Dot.Stops.cons (by decide) _
  rw [withDpi_header, String.append_assoc, String.toList_append, String.toList_append, ← resolution,
    Dot.reads_opening.2 _ hstops, lex_resolution, hbehind]
  rfl

/-- **A resolution is set in the header of a graph and nowhere else.** In the text of a graph its
statement comes right behind the brace that opens the graph, whatever the title, ids, labels and
tags are made of: read by the rules of DOT, this is one statement more, in front of all others. With
a document in front of any text it comes at the same place of the text, whatever the document looks
like. For resolutions above the longest numerals, which settings cannot have, the program has no such
text: it stops when it is to write out the number. -/
theorem withDpi_in_header (dpi : Int) :
    (∀ g dot, Dot.emit g = .ok dot → ∃ (rest : String) (ss : List Dot.Statement),
      dot = "digraph \x7b" ++ rest ∧
      withDpi dot dpi = "digraph \x7b" ++ s!"\n  dpi=\"{dpi}\";" ++ rest ∧
      Dot.lex dot.toList =
        some (Dot.Statement.opening.tokens ++ ss.flatMap Dot.Statement.tokens) ∧
      Dot.lex (withDpi dot dpi).toList =
        some (Dot.Statement.opening.tokens ++ (resolutionTokens dpi ++
          ss.flatMap Dot.Statement.tokens))) ∧
    ∀ dot source,
      withDpi (Embed.Dot.embed dot source) dpi = Embed.Dot.embed (withDpi dot dpi) source := by
  refine ⟨fun g dot hemit => ?_, fun dot source => withDpi_embed dot source dpi⟩
  obtain ⟨lines, ss, rfl, hlex⟩ := Dot.exists_statements_of_emit hemit
  have hdot : "digraph \x7b\n" ++ lines = "digraph \x7b" ++ ("\n" ++ lines) := by
    rw [← String.append_assoc]
    rfl
  have hstops : Dot.Stops ("\n" ++ lines).toList := by
    rw [String.toList_append]
    exact Dot.Stops.cons (by decide) _
  rw [hdot] at hlex ⊢
  exact ⟨"\n" ++ lines, ss, rfl, withDpi_header _ dpi, hlex, lex_withDpi_header hstops hlex dpi⟩

/-- A graph whose texts look like the opening of a graph. -/
def lookalike : Graph where
  nodes := [⟨"digraph \x7b", "\ndigraph \x7b", .fact, false⟩,
    ⟨"\nstrict digraph", "", .goal, false⟩]
  edges := [⟨"digraph \x7b", "\nstrict digraph", some "\ndigraph \x7b", false, true⟩]
  title := some "\ndigraph \x7b"
  focus := []
  theme := "default"

theorem withDpi_lookalike : ∃ dot rest, Dot.emit lookalike = .ok dot ∧
    dot = "digraph \x7b" ++ rest ∧
    withDpi dot 144 = "digraph \x7b\n  dpi=\"144\";" ++ rest ∧
    withDpi (Embed.Dot.embed dot "strict\ndigraph \x7b\n") 144 =
      Embed.Dot.embed (withDpi dot 144) "strict\ndigraph \x7b\n" := by
  have hwell : lookalike.WellFormed := ⟨by decide, by decide, .default, rfl⟩
  obtain ⟨dot, hdot⟩ := hwell.exists_emit
  obtain ⟨rest, ss, hrest, hset, -⟩ := (withDpi_in_header 144).1 lookalike dot hdot
  exact ⟨dot, rest, hdot, hrest, hset, (withDpi_in_header 144).2 dot _⟩

end ThreatTree.Layout
