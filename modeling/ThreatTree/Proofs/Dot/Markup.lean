import ThreatTree.Proofs.Dot.Statement
import ThreatTree.Proofs.Sequence

/-!
# The title read back

A title stands in markup: `markup` names the characters of markup and writes a newline as a break.
`unmarkup` is the reverse. No title can end the markup that it stands in, since all brackets in what
`markup` writes are those of breaks and balance (`Balanced`).

Main statements: `unmarkup_markup` and `readsLine_title`.
-/

namespace ThreatTree.Dot

/-- The text that some markup shows. A character of markup that stands for itself has no reading, and
neither has a name that `markup` does not write. -/
def unmarkup : List Char → Option (List Char)
  | [] => some []
  | '&' :: 'a' :: 'm' :: 'p' :: ';' :: cs => (unmarkup cs).map ('&' :: ·)
  | '&' :: 'l' :: 't' :: ';' :: cs => (unmarkup cs).map ('<' :: ·)
  | '&' :: 'g' :: 't' :: ';' :: cs => (unmarkup cs).map ('>' :: ·)
  | '&' :: 'q' :: 'u' :: 'o' :: 't' :: ';' :: cs => (unmarkup cs).map ('"' :: ·)
  | '&' :: '#' :: 'x' :: '2' :: '7' :: ';' :: cs => (unmarkup cs).map ('\'' :: ·)
  | '<' :: 'b' :: 'r' :: '/' :: '>' :: cs => (unmarkup cs).map ('\n' :: ·)
  | c :: cs => if ['&', '<', '>'].contains c then none else (unmarkup cs).map (c :: ·)

theorem unmarkup_markupChar (c : Char) (cs : List Char) :
    unmarkup (markupChar c ++ cs) = (unmarkup cs).map (c :: ·) := by
  fun_cases markupChar c with
  | case1 | case2 | case3 | case4 | case5 | case6 => rfl
  | case7 _ hamp hlt hgt =>
    have hc : ['&', '<', '>'].contains c = false := by
      simp only [List.contains_eq_mem, List.mem_cons, List.not_mem_nil, or_false,
        decide_eq_false_iff_not, not_or]
      exact ⟨hamp, hlt, hgt⟩
    rw [List.singleton_append, unmarkup, if_neg (by rw [hc]; simp)]
    all_goals
      intro cs' h
      first | exact absurd h hamp | exact absurd h hlt

/-- **A title is shown as it is.** -/
theorem unmarkup_markup (title : String) :
    unmarkup (markup title).toList = some title.toList := by
  rw [markup, String.toList_ofList]
  induction title.toList with
  | nil => rfl
  | cons c cs ih => rw [List.flatMap_cons, unmarkup_markupChar, ih, Option.map_some]

/-! ### Brackets that balance -/

/-- A part of some markup that closes what it opens and no more: the markup that it stands in goes
on after it. -/
def Balanced (cs : List Char) : Prop :=
  ∀ depth rest, readMarkup depth (cs ++ rest) =
    (readMarkup depth rest).map fun (s, r) => (cs ++ s, r)

namespace Balanced

theorem nil : Balanced [] := by
  intro depth rest
  simp

theorem append {as bs : List Char} (ha : Balanced as) (hb : Balanced bs) :
    Balanced (as ++ bs) := by
  intro depth rest
  rw [List.append_assoc, ha, hb, Option.map_map]
  congr 1
  funext ⟨s, r⟩
  simp

theorem char {c : Char} (hopen : c ≠ '<') (hclose : c ≠ '>') : Balanced [c] := by
  intro depth rest
  rw [List.singleton_append, readMarkup]
  · rfl
  · exact hopen
  · exact fun _ => hclose
  · exact fun _ _ => hclose

/-- A text without brackets. -/
theorem plain {cs : List Char} (hopen : '<' ∉ cs) (hclose : '>' ∉ cs) : Balanced cs := by
  induction cs with
  | nil => exact nil
  | cons c cs ih =>
    rw [List.mem_cons, not_or] at hopen hclose
    exact (char (Ne.symm hopen.1) (Ne.symm hclose.1)).append (ih hopen.2 hclose.2)

/-- What stands between a pair of brackets, and the pair. -/
theorem tag {cs : List Char} (h : Balanced cs) : Balanced ('<' :: cs ++ ['>']) := by
  intro depth rest
  rw [List.append_assoc, List.cons_append, List.singleton_append, readMarkup, h, readMarkup,
    Option.map_map, Option.map_map]
  congr 1
  funext ⟨s, r⟩
  simp

end Balanced

theorem balanced_markup (title : String) : Balanced (markup title).toList := by
  rw [markup, String.toList_ofList]
  induction title.toList with
  | nil => exact Balanced.nil
  | cons c cs ih =>
    rw [List.flatMap_cons]
    refine Balanced.append ?_ ih
    fun_cases markupChar c with
    | case1 | case2 | case3 | case4 | case5 => exact Balanced.plain (by decide) (by decide)
    | case6 =>
      have hbreak : Balanced "br/".toList := Balanced.plain (by decide) (by decide)
      exact hbreak.tag
    | case7 _ _ hlt hgt => exact Balanced.char hlt hgt

/-! ### The line of the title -/

theorem newline_notMem_markup (title : String) : '\n' ∉ (markup title).toList := by
  rw [markup, String.toList_ofList]
  simp only [List.mem_flatMap, not_exists, not_and]
  intro c _
  fun_cases markupChar c with
  | case1 | case2 | case3 | case4 | case5 | case6 => decide
  | case7 _ _ _ _ _ _ hnl => simpa using Ne.symm hnl

theorem Reads.markup {body : List Char} (h : Balanced body) (hnl : '\n' ∉ body) :
    Reads ('<' :: body ++ ['>']) [.markup (String.ofList body)] := by
  refine ⟨by simpa using hnl, fun rest _ => ?_⟩
  have hread : readMarkup 0 (body ++ '>' :: rest) = some (body, rest) := by
    rw [h, readMarkup]
    simp
  rw [List.append_assoc, List.cons_append]
  apply lex_token rfl
  simp [token?, hread]

/-- The markup of a title: the text in its size. -/
def titleMarkup (title : String) : String :=
  "<font POINT-SIZE=\"20\">" ++ markup title ++ "</font>"

theorem toList_titleMarkup (title : String) : (titleMarkup title).toList =
    "<font POINT-SIZE=\"20\">".toList ++ (markup title).toList ++ "</font>".toList := by
  unfold titleMarkup
  rw [String.toList_append, String.toList_append]

theorem balanced_titleMarkup (title : String) : Balanced (titleMarkup title).toList := by
  have hopening : Balanced "font POINT-SIZE=\"20\"".toList := Balanced.plain (by decide) (by decide)
  have hclosing : Balanced "/font".toList := Balanced.plain (by decide) (by decide)
  have := (hopening.tag.append (balanced_markup title)).append hclosing.tag
  rw [toList_titleMarkup]
  simpa using this

theorem newline_notMem_titleMarkup (title : String) : '\n' ∉ (titleMarkup title).toList := by
  rw [toList_titleMarkup]
  simp [newline_notMem_markup title]

theorem readsLine_title (title : String) :
    ReadsLine (statement ("label=<<font POINT-SIZE=\"20\">" ++ markup title ++ "</font>> labelloc=t"))
      (.title (titleMarkup title)) := by
  have hlabel : Reads (quote "label").toList [.id "label"] := reads_quote (by decide)
  have hplace : Reads (assignment "labelloc" "t").toList [.id "labelloc", .mark '=', .id "t"] :=
    @reads_assignment ("labelloc", "t") (by decide)
  have hword : quote "label" = "label" := quote_of_word (by decide) (by decide)
  have hplaceWord : quote "labelloc" = "labelloc" := quote_of_word (by decide) (by decide)
  have hvalueWord : quote "t" = "t" := quote_of_word (by decide) (by decide)
  rw [hword] at hlabel
  rw [assignment, hplaceWord, hvalueWord] at hplace
  have hmarkup := Reads.markup (balanced_titleMarkup title) (newline_notMem_titleMarkup title)
  have hvalue := hmarkup.append (hplace.gap (Or.inl rfl)) (Stops.cons (by decide) _)
  have := hlabel.append (hvalue.mark (c := '=') (by decide)) (Stops.cons (by decide) _)
  apply readsLine_statement
  rw [String.ofList_toList, toList_titleMarkup] at this
  simpa [Statement.tokens] using this

/-! ### The line of the title -/

/-- The line of the title, if there is one, comes right behind the header. -/
theorem exists_of_emit {g : Graph} {dot : String} (h : emit g = .ok dot) :
    ∃ rest, dot.toList =
      header.flatMap String.toList ++ ((titleLine g).flatMap String.toList ++ rest) := by
  obtain ⟨lines, hlines, rfl⟩ := map_eq_ok_iff.mp h
  obtain ⟨nodes, -, hlines⟩ := bind_eq_ok_iff.mp hlines
  obtain ⟨edges, -, hlines⟩ := bind_eq_ok_iff.mp hlines
  refine ⟨(nodes ++ edges ++ ["\x7d\n"]).flatMap String.toList, ?_⟩
  rw [← Except.ok.inj hlines, String.toList_join]
  simp only [List.flatMap_append, List.append_assoc]

/-- A text has one title, at least of those that are as long in markup. -/
theorem title_eq_of_emit {g g' : Graph} {dot title title' : String} (h : emit g = .ok dot)
    (h' : emit g' = .ok dot) (htitle : g.title = some title) (htitle' : g'.title = some title')
    (hne : title ≠ "") (hne' : title' ≠ "")
    (hlength : (markup title).toList.length = (markup title').toList.length) : title = title' := by
  obtain ⟨rest, hrest⟩ := exists_of_emit h
  obtain ⟨rest', hrest'⟩ := exists_of_emit h'
  have hline : titleLine g =
      [statement ("label=<<font POINT-SIZE=\"20\">" ++ markup title ++ "</font>> labelloc=t")] := by
    rw [titleLine, htitle]
    split <;> simp_all
  have hline' : titleLine g' =
      [statement ("label=<<font POINT-SIZE=\"20\">" ++ markup title' ++ "</font>> labelloc=t")] := by
    rw [titleLine, htitle']
    split <;> simp_all
  rw [hline] at hrest
  rw [hrest, hline'] at hrest'
  have hsame := List.append_cancel_left hrest'
  simp only [List.flatMap_cons, List.flatMap_nil, List.append_nil, statement, String.toList_append,
    List.append_assoc] at hsame
  have hmarkup := (List.append_inj
    (List.append_cancel_left (List.append_cancel_left hsame)) hlength).1
  have hread := congrArg unmarkup hmarkup
  rw [unmarkup_markup, unmarkup_markup, Option.some.injEq] at hread
  exact String.toList_inj.mp hread

end ThreatTree.Dot
