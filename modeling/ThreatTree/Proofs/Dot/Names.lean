import ThreatTree.Proofs.Document.WellFormed
import ThreatTree.Proofs.Dot.Text

/-!
# Names of nodes

A node is written under its id as an escape string. Two ids are written alike exactly if they differ
in the kind of their line ends at most (`text_eq_text_iff`), and the identifiers that a layout program
reads are the same just then.

Main statement: `Document.sameName_iff_of_ofValue`.
-/

namespace ThreatTree.Dot

open Text

/-! ### Names -/

/-- The name that the statement of a node begins with. -/
def nameOf (id : String) : String := quote (text id)

/-- The identifier that a name is read as. -/
def readName (name : String) : Option String :=
  match lex name.toList with
  | some [.id s] => some s
  | _ => none

theorem readName_nameOf (id : String) : readName (nameOf id) = some (text id) := by
  have hlex : lex ((quote (text id)).toList ++ []) = (lex []).map (.id (text id) :: ·) :=
    lex_quote (isPaired_text id) (by simp [Stops])
  rw [List.append_nil, lex_nil] at hlex
  rw [readName, nameOf, hlex]
  rfl

theorem sameName_iff {m n : String} :
    readName (nameOf m) = readName (nameOf n) ↔
      normalizeNewlines m.toList = normalizeNewlines n.toList := by
  rw [readName_nameOf, readName_nameOf, Option.some.injEq, text_eq_text_iff]

/-- The statement of a node begins with its name. -/
theorem exists_of_nodeLine {theme line : String} {n : Node} (h : nodeLine theme n = .ok line) :
    ∃ rest, line = statement (nameOf n.id ++ rest) := by
  obtain ⟨attrs, -, hline⟩ := bind_eq_ok_iff.mp h
  exact ⟨_, (Except.ok.inj hline).symm⟩

/-- Each node has its line. -/
theorem exists_line_of_emitLines {g : Graph} {lines : List String} (h : emitLines g = .ok lines)
    {n : Node} (hn : n ∈ g.nodes) : ∃ line ∈ lines, nodeLine g.theme n = .ok line := by
  obtain ⟨nodes, hnodes, h⟩ := bind_eq_ok_iff.mp h
  obtain ⟨edges, -, h⟩ := bind_eq_ok_iff.mp h
  obtain ⟨line, hline, hnode⟩ := exists_mem_of_mapM hnodes hn
  refine ⟨line, ?_, hnode⟩
  rw [← Except.ok.inj h]
  simp only [List.mem_append, hline, or_true, true_or]

/-- The name of each node is in the text. -/
theorem name_infix_of_emit {g : Graph} {dot : String} (h : emit g = .ok dot) {n : Node}
    (hn : n ∈ g.nodes) : (nameOf n.id).toList <:+: dot.toList := by
  obtain ⟨lines, hlines, rfl⟩ := map_eq_ok_iff.mp h
  obtain ⟨line, hline, hnode⟩ := exists_line_of_emitLines hlines hn
  obtain ⟨rest, rfl⟩ := exists_of_nodeLine hnode
  obtain ⟨before, after, hsplit⟩ := List.append_of_mem hline
  rw [hsplit, String.toList_join, List.flatMap_append, List.flatMap_cons]
  refine ⟨before.flatMap String.toList ++ ['\t'],
    rest.toList ++ '\n' :: after.flatMap String.toList, ?_⟩
  simp [statement]

end ThreatTree.Dot

namespace ThreatTree.Document

open Text Dot

/-! ### The nodes of documents -/

/-- **Nodes of a document have names of their own**, as far as their ids differ in more than the kind
of line ends: each node's statement begins with a name that is read as one identifier, two of them
are read alike exactly if the ids are the same with newlines alone as line ends, and edges lead from
node to node. -/
theorem sameName_iff_of_ofValue {v : Value} {d : Document} (h : ofValue v = .ok d)
    (choice : Option String) (fallback : String) :
    ∃ g, d.toGraph choice fallback = .ok g ∧ g.ids.Nodup ∧
      (∀ n ∈ g.nodes, readName (nameOf n.id) = some (text n.id) ∧
        ∀ line, nodeLine g.theme n = .ok line → ∃ rest, line = statement (nameOf n.id ++ rest)) ∧
      (∀ m ∈ g.ids, ∀ n ∈ g.ids, readName (nameOf m) = readName (nameOf n) ↔
        normalizeNewlines m.toList = normalizeNewlines n.toList) ∧
      ∀ e ∈ g.edges, e.source ∈ g.ids ∧ e.target ∈ g.ids := by
  have hwell := wellFormed_of_ofValue h
  -- which theme it is makes no difference to nodes and edges
  have hgraph := hwell.graph .default
  exact ⟨_, hwell.toGraph_eq choice fallback, hgraph.distinct,
    fun n _ => ⟨readName_nameOf n.id, fun _ => exists_of_nodeLine⟩, fun m _ n _ => sameName_iff,
    hgraph.ends⟩

/-- Ids with a newline, with a carriage return, and with a backslash and the letter `n`. -/
def lineEnds : Value :=
  .map [(.text "facts", .list [.text "a\nb", .text "a\rb", .text "a\\nb"])]

/-- What `lineEnds` is read as. -/
def lineEndsDocument : Document where
  title := none
  theme := none
  facts := [⟨"a\nb", .fact, none, []⟩, ⟨"a\rb", .fact, none, []⟩, ⟨"a\\nb", .fact, none, []⟩]
  attacks := []
  mitigations := []
  goals := []
  focus := []

theorem sameName_iff_lineEnds :
    ofValue lineEnds = .ok lineEndsDocument ∧
      ∃ g, lineEndsDocument.toGraph none "default" = .ok g ∧
        readName (nameOf "a\nb") = readName (nameOf "a\rb") ∧
        readName (nameOf "a\nb") ≠ readName (nameOf "a\\nb") := by
  have hread : ofValue lineEnds = .ok lineEndsDocument := rfl
  obtain ⟨g, hg, -, -, hnames, -⟩ := sameName_iff_of_ofValue hread none "default"
  have hgraph : lineEndsDocument.toGraph none "default" = .ok (lineEndsDocument.graph "default") :=
    rfl
  obtain rfl := Except.ok.inj (hg.symm.trans hgraph)
  refine ⟨hread, _, hg, (hnames _ (by decide) _ (by decide)).mpr (by decide), fun hsame => ?_⟩
  exact absurd ((hnames _ (by decide) _ (by decide)).mp hsame) (by decide)

/-- Two nodes whose ids differ in the kind of a line end have one name. -/
theorem sameName_of_lineEnds :
    ofValue lineEnds = .ok lineEndsDocument ∧
      ∃ g, lineEndsDocument.toGraph none "default" = .ok g ∧ "a\nb" ∈ g.ids ∧ "a\rb" ∈ g.ids ∧
        "a\nb" ≠ "a\rb" ∧ readName (nameOf "a\nb") = readName (nameOf "a\rb") :=
  ⟨rfl, lineEndsDocument.graph "default", rfl, by decide, by decide, by decide,
    sameName_iff.mpr (by decide)⟩

end ThreatTree.Document
