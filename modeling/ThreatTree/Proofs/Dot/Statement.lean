import ThreatTree.Dot.Emit
import ThreatTree.Proofs.Dot.Ident
import ThreatTree.Text.Lines
import Mathlib.Data.List.Forall2

/-!
# Statements read back

The lines that `Dot.emit` puts together, as what a layout program reads in them: a `Statement`, with
its names and attributes as texts and no longer as something quoted. `ReadsLine line s` says that a
line holds the statement `s` and nothing else, whatever stands after the line.

Main statements: `readsLine_node` and `readsLine_edge` for the lines that depend on a document, and
`lex_join` and `lines_join` for a text that is made of such lines.
-/

namespace ThreatTree.Dot

/-- A statement of a DOT text. -/
inductive Statement where
  /-- The word `digraph` and the brace that opens it. -/
  | opening
  /-- Attributes that all graphs, nodes or edges have. -/
  | defaults (k : Keyword) (attrs : List (String × String))
  /-- The title of the whole, above it. -/
  | title (markup : String)
  | node (name : String) (attrs : List (String × String))
  | edge (tail head : String) (attrs : List (String × String))
  /-- The brace that closes the text. -/
  | closing
  deriving DecidableEq, Repr

def assignmentTokens (attr : String × String) : List Token :=
  [.id attr.1, .mark '=', .id attr.2]

/-- Attributes in brackets. -/
def attributeTokens (attrs : List (String × String)) : List Token :=
  .mark '[' :: attrs.flatMap assignmentTokens ++ [.mark ']']

/-- What a statement is made of. -/
def Statement.tokens : Statement → List Token
  | opening => [.keyword .digraph, .mark '\x7b']
  | defaults k attrs => .keyword k :: attributeTokens attrs
  | title markup =>
    [.id "label", .mark '=', .markup markup, .id "labelloc", .mark '=', .id "t"]
  | node name attrs => .id name :: attributeTokens attrs
  | edge tail head attrs => .id tail :: .arrow :: .id head :: attributeTokens attrs
  | closing => [.mark '\x7d']

/-! ### Parts of a line -/

/-- A part of a line that is read as the tokens `ts`, whatever follows it. -/
def Reads (cs : List Char) (ts : List Token) : Prop :=
  '\n' ∉ cs ∧ ∀ rest, Stops rest → lex (cs ++ rest) = (lex rest).map (ts ++ ·)

theorem Stops.append {cs rest : List Char} (hcs : Stops cs) (hr : Stops rest) :
    Stops (cs ++ rest) := by
  cases cs with
  | nil => exact hr
  | cons c cs => exact hcs

namespace Reads

theorem nil : Reads [] [] := ⟨by simp, fun rest _ => by simp⟩

theorem append {as bs : List Char} {ts us : List Token} (ha : Reads as ts) (hb : Reads bs us)
    (hs : Stops bs) : Reads (as ++ bs) (ts ++ us) := by
  refine ⟨by simp [ha.1, hb.1], fun rest hr => ?_⟩
  rw [List.append_assoc, ha.2 _ (hs.append hr), hb.2 _ hr, Option.map_map]
  congr 1
  funext vs
  simp

theorem gap {c : Char} (hc : c = ' ' ∨ c = '\t') {cs : List Char} {ts : List Token}
    (h : Reads cs ts) : Reads (c :: cs) ts := by
  refine ⟨?_, fun rest hr => ?_⟩
  · rcases hc with rfl | rfl <;> simpa using h.1
  · have hgap : isGap c = true := by rcases hc with rfl | rfl <;> rfl
    rw [List.cons_append, lex_gap hgap, h.2 _ hr]

theorem mark {c : Char} (hc : c ∈ marks) {cs : List Char} {ts : List Token} (h : Reads cs ts) :
    Reads (c :: cs) (.mark c :: ts) := by
  refine ⟨?_, fun rest hr => ?_⟩
  · have hne : '\n' ≠ c := by rintro rfl; exact absurd hc (by decide)
    simp [hne, h.1]
  · rw [List.cons_append, lex_mark hc, h.2 _ hr, Option.map_map]
    rfl

theorem arrow {cs : List Char} {ts : List Token} (h : Reads cs ts) :
    Reads ('-' :: '>' :: cs) (.arrow :: ts) := by
  refine ⟨by simpa using h.1, fun rest hr => ?_⟩
  rw [List.cons_append, List.cons_append, lex_arrow, h.2 _ hr, Option.map_map]
  rfl

theorem keyword (k : Keyword) : Reads k.name.toList [.keyword k] :=
  ⟨by cases k <;> decide, fun _ hr => lex_keyword k hr.notNamePart⟩

end Reads

/-! ### Identifiers and attributes -/

/-- A text that stays on a line and is read back as it was written. -/
def IsInline (s : String) : Prop := isPaired s.toList = true ∧ '\n' ∉ s.toList

instance (s : String) : Decidable (IsInline s) :=
  inferInstanceAs (Decidable (isPaired s.toList = true ∧ '\n' ∉ s.toList))

theorem isInline_text (s : String) : IsInline (text s) := by
  refine ⟨isPaired_text s, ?_⟩
  rw [text, String.toList_ofList]
  exact lineEnd_notMem_escapeChars (.inl rfl) s.toList

theorem newline_notMem_escapeQuotes {odd : Bool} {cs : List Char} (h : '\n' ∉ cs) :
    '\n' ∉ escapeQuotes odd cs := by
  fun_induction escapeQuotes odd cs with
  | case1 => simp
  | case2 odd cs ih => simpa using ih (by simpa using h)
  | case3 odd c cs _ _ ih | case4 odd c cs _ _ ih =>
    simp only [List.mem_cons, not_or] at h
    simpa [h.1] using ih h.2

theorem reads_quote {s : String} (h : IsInline s) : Reads (quote s).toList [.id s] := by
  refine ⟨?_, fun rest hr => lex_quote h.1 hr⟩
  unfold quote
  split
  · exact h.2
  · simpa using newline_notMem_escapeQuotes h.2

/-- Both texts of an attribute stay on a line. -/
def IsInlineAttr (attr : String × String) : Prop := IsInline attr.1 ∧ IsInline attr.2

instance (attr : String × String) : Decidable (IsInlineAttr attr) :=
  inferInstanceAs (Decidable (IsInline attr.1 ∧ IsInline attr.2))

theorem reads_assignment {attr : String × String} (h : IsInlineAttr attr) :
    Reads (assignment attr.1 attr.2).toList (assignmentTokens attr) := by
  have hvalue : Reads ('=' :: (quote attr.2).toList) [.mark '=', .id attr.2] :=
    (reads_quote h.2).mark (by decide)
  have := (reads_quote h.1).append hvalue (Stops.cons (by decide) _)
  simpa [assignment, assignmentTokens] using this

/-- The inside of the brackets, the closing one included. -/
theorem reads_assignments {attrs : List (String × String)} (h : ∀ a ∈ attrs, IsInlineAttr a) :
    Reads ([' '].intercalate (attrs.map fun a => (assignment a.1 a.2).toList) ++ [']'])
      (attrs.flatMap assignmentTokens ++ [.mark ']']) := by
  have hend : Reads [']'] [.mark ']'] := Reads.nil.mark (by decide)
  induction attrs with
  | nil => exact hend
  | cons a attrs ih =>
    have ha := reads_assignment (h a (by simp))
    have ih := ih fun b hb => h b (by simp [hb])
    -- a blank stands between two attributes, none after the last
    cases attrs with
    | nil => simpa using ha.append hend (Stops.cons (by decide) _)
    | cons b attrs =>
      have := ha.append (ih.gap (Or.inl rfl)) (Stops.cons (by decide) _)
      simpa using this

/-- The attributes in the order in which they are written. -/
def written (label : Option String) (attrs : List (String × String)) : List (String × String) :=
  (label.map fun l => ("label", l)).toList ++ attrs.mergeSort fun a b => a.1 ≤ b.1

theorem reads_attributeList {label : Option String} {attrs : List (String × String)}
    (hne : written label attrs ≠ []) (h : ∀ a ∈ written label attrs, IsInlineAttr a) :
    Reads (attributeList label attrs).toList (attributeTokens (written label attrs)) := by
  have hitems : (label.map (assignment "label")).toList ++ sortedAttributes attrs =
      (written label attrs).map fun a => assignment a.1 a.2 := by
    cases label <;> simp [written, sortedAttributes]
  have hbody := ((reads_assignments h).mark (c := '[') (by decide)).gap (Or.inl rfl)
  unfold attributeList
  simp only [hitems, List.isEmpty_map, List.isEmpty_iff, hne, if_false]
  simpa [attributeTokens, Function.comp_def] using hbody

/-! ### Lines -/

/-- A text that is one line, its end included, and holds one statement. -/
def ReadsLine (text : String) (s : Statement) : Prop :=
  ∃ line, text.toList = line ++ ['\n'] ∧ Reads line s.tokens

theorem readsLine_statement {text : String} {s : Statement} (h : Reads text.toList s.tokens) :
    ReadsLine (statement text) s :=
  ⟨'\t' :: text.toList, by simp [statement], h.gap (Or.inr rfl)⟩

theorem reads_opening : Reads "digraph \x7b".toList Statement.opening.tokens := by
  have hbrace : Reads [' ', '\x7b'] [.mark '\x7b'] :=
    (Reads.nil.mark (by decide)).gap (Or.inl rfl)
  exact (Reads.keyword .digraph).append hbrace (Stops.cons (by decide) _)

theorem readsLine_opening : ReadsLine "digraph \x7b\n" .opening :=
  ⟨"digraph \x7b".toList, by simp, reads_opening⟩

theorem readsLine_closing : ReadsLine "\x7d\n" .closing :=
  ⟨['\x7d'], by simp, Reads.nil.mark (by decide)⟩

/-- An attribute list starts with a blank, so that it ends whatever stands before it. -/
theorem stops_attributeList (label : Option String) (attrs : List (String × String)) :
    Stops (attributeList label attrs).toList := by
  unfold attributeList
  dsimp only
  split
  · intro c hc
    cases hc
  · simpa using Stops.cons (by decide) _

theorem readsLine_defaults (k : Keyword) {attrs : List (String × String)}
    (hne : written none attrs ≠ []) (h : ∀ a ∈ written none attrs, IsInlineAttr a) :
    ReadsLine (statement (k.name ++ attributeList none attrs)) (.defaults k (written none attrs)) := by
  apply readsLine_statement
  have := (Reads.keyword k).append (reads_attributeList hne h) (stops_attributeList none attrs)
  simpa [Statement.tokens] using this

theorem readsLine_node {name : String} (hname : IsInline name) {label : Option String}
    {attrs : List (String × String)} (hne : written label attrs ≠ [])
    (h : ∀ a ∈ written label attrs, IsInlineAttr a) :
    ReadsLine (statement (quote name ++ attributeList label attrs))
      (.node name (written label attrs)) := by
  apply readsLine_statement
  have := (reads_quote hname).append (reads_attributeList hne h) (stops_attributeList label attrs)
  simpa [Statement.tokens] using this

theorem readsLine_edge {tail head : String} (ht : IsInline tail) (hh : IsInline head)
    {label : Option String} {attrs : List (String × String)} (hne : written label attrs ≠ [])
    (h : ∀ a ∈ written label attrs, IsInlineAttr a) :
    ReadsLine (statement (quote tail ++ " -> " ++ quote head ++ attributeList label attrs))
      (.edge tail head (written label attrs)) := by
  apply readsLine_statement
  have hhead := (reads_quote hh).append (reads_attributeList hne h)
    (stops_attributeList label attrs)
  have harrow := ((hhead.gap (Or.inl rfl)).arrow).gap (Or.inl rfl)
  have := (reads_quote ht).append harrow (Stops.cons (by decide) _)
  simpa [Statement.tokens] using this

/-! ### Lines one after the other -/

/-- A text made of lines is read as their statements, with nothing left over. -/
theorem lex_join {texts : List String} {ss : List Statement}
    (h : List.Forall₂ ReadsLine texts ss) :
    lex (String.join texts).toList = some (ss.flatMap Statement.tokens) := by
  induction h with
  | nil => simpa using lex_nil
  | cons hline _ ih =>
    obtain ⟨line, htext, hreads⟩ := hline
    -- the line end stops whatever the line ends with, and is a gap itself
    rw [String.toList_join] at ih ⊢
    rw [List.flatMap_cons, htext, List.append_assoc, List.singleton_append]
    rw [hreads.2 _ (Stops.cons (by decide) _), lex_gap rfl, ih]
    rfl

/-- Each line of such a text, read on its own, is one statement. -/
theorem lines_join {texts : List String} {ss : List Statement}
    (h : List.Forall₂ ReadsLine texts ss) :
    ∃ lines, Text.lines (String.join texts).toList = lines ++ [[]] ∧
      List.Forall₂ (fun line s => lex line = some (Statement.tokens s)) lines ss := by
  have hlines : ∃ lines : List (List Char), (String.join texts).toList =
      lines.flatMap (· ++ ['\n']) ∧ (∀ l ∈ lines, '\n' ∉ l) ∧
      List.Forall₂ (fun line s => lex line = some (Statement.tokens s)) lines ss := by
    simp only [String.toList_join]
    induction h with
    | nil => exact ⟨[], by simp, by simp, .nil⟩
    | cons hline _ ih =>
      obtain ⟨line, htext, hnl, hreads⟩ := hline
      obtain ⟨lines, heq, hnls, hread⟩ := ih
      refine ⟨line :: lines, by simp [htext, heq], ?_, .cons ?_ hread⟩
      · simpa [hnl] using hnls
      · have := hreads [] (by intro c hc; cases hc)
        simpa [lex_nil] using this
  obtain ⟨lines, heq, hnls, hread⟩ := hlines
  exact ⟨lines, by rw [heq, Text.lines_flatMap hnls], hread⟩

end ThreatTree.Dot
