import ThreatTree.Proofs.Document.WellFormed
import ThreatTree.Proofs.Graph.Cone

/-!
# The text of a part of a graph

Focusing comes before writing, and so it could change what is written of the nodes and edges that
are kept: the look of an edge depends on the nodes at its ends, and these are looked up in the part.
It does not. In the text of a part each node and each edge has the line that it has in the text of the
whole graph, and all that is missing are the lines of what is not in the part.

Main statement: `emit_focusOn_deletes`.
-/

namespace ThreatTree

namespace Graph

variable {g : Graph} {focus : List String}

/-- The node of an id that is kept is found in the part as in the graph. -/
theorem node?_induced {id : String} (hid : g.InFocus focus id) :
    (g.induced focus).node? id = g.node? id := by
  unfold node? induced
  rw [← List.filter_reverse, List.find?_filter]
  congr 1
  funext n
  by_cases hn : n.id = id
  · subst hn
    simp [hid]
  · simp [hn]

end Graph

namespace Dot

/-! ### Lines -/

/-- A text that is one line with its end. -/
def IsLine (text : String) : Prop := ∃ line, text.toList = line ++ ['\n'] ∧ '\n' ∉ line

theorem ReadsLine.isLine {text : String} {s : Statement} (h : ReadsLine text s) : IsLine text := by
  obtain ⟨line, htext, hreads⟩ := h
  exact ⟨line, htext, hreads.1⟩

theorem isLine_of_reads {texts : List String} {ss : List Statement}
    (h : List.Forall₂ ReadsLine texts ss) : ∀ text ∈ texts, IsLine text := by
  induction h with
  | nil => simp
  | cons hline _ ih => exact List.forall_mem_cons.mpr ⟨hline.isLine, ih⟩

/-- The lines of a graph, with what is written of its nodes and of its edges. -/
def linesWith (g : Graph) (nodeText : Node → String) (edgeText : Edge → String) : List String :=
  header ++ titleLine g ++ g.nodes.map nodeText ++ g.edges.map edgeText ++ ["\x7d\n"]

variable {g : Graph} {nodeText : Node → String} {edgeText : Edge → String}

/-- Each node and each edge has a line of its own, and there are no others but the frame and the
title. -/
theorem emit_eq_join (hnodes : ∀ n ∈ g.nodes, nodeLine g.theme n = .ok (nodeText n))
    (hedges : ∀ e ∈ g.edges, edgeLine g e = .ok (edgeText e)) :
    emit g = .ok (String.join (linesWith g nodeText edgeText)) := by
  rw [emit, emitLines, mapM_eq_ok_map hnodes, mapM_eq_ok_map hedges]
  rfl

/-- What is written of a graph are lines if what is written of its nodes and edges are. -/
theorem isLine_of_mem_linesWith (hnodes : ∀ n ∈ g.nodes, IsLine (nodeText n))
    (hedges : ∀ e ∈ g.edges, IsLine (edgeText e)) :
    ∀ text ∈ linesWith g nodeText edgeText, IsLine text := by
  obtain ⟨title, htitle, -⟩ := titleLine_reads g
  simp only [linesWith, List.forall_mem_append, List.forall_mem_map, List.forall_mem_singleton]
  exact ⟨⟨⟨⟨isLine_of_reads header_reads, isLine_of_reads htitle⟩, hnodes⟩, hedges⟩,
    readsLine_closing.isLine⟩

/-! ### Parts -/

variable {focus : List String}

/-- An edge with both ends in focus has the same line in the part as in the graph. -/
theorem edgeLine_induced {e : Edge} (he : g.InFocus focus e.source ∧ g.InFocus focus e.target) :
    edgeLine (g.induced focus) e = edgeLine g e := by
  unfold edgeLine endpoint
  rw [Graph.node?_induced he.1, Graph.node?_induced he.2]
  rfl

/-- What is in focus is written as it is written in the whole graph. -/
theorem emit_induced (hnodes : ∀ n ∈ g.nodes, nodeLine g.theme n = .ok (nodeText n))
    (hedges : ∀ e ∈ g.edges, edgeLine g e = .ok (edgeText e)) :
    emit (g.induced focus) = .ok (String.join (linesWith (g.induced focus) nodeText edgeText)) := by
  apply emit_eq_join
  · intro n hn
    exact hnodes n (List.mem_of_mem_filter hn)
  · intro e he
    obtain ⟨he, hends⟩ := List.mem_filter.mp he
    rw [edgeLine_induced (of_decide_eq_true hends)]
    exact hedges e he

/-- The text that a line of a graph is, where there is one. -/
def lineText (r : Except EmitError String) : String := r.toOption.getD ""

/-- In a well-formed graph all nodes and all edges have lines. -/
theorem exists_lines (h : g.WellFormed) :
    (∀ n ∈ g.nodes, nodeLine g.theme n = .ok (lineText (nodeLine g.theme n)) ∧
      IsLine (lineText (nodeLine g.theme n))) ∧
    ∀ e ∈ g.edges, edgeLine g e = .ok (lineText (edgeLine g e)) ∧
      IsLine (lineText (edgeLine g e)) := by
  obtain ⟨t, ht⟩ := h.theme
  constructor
  · intro n _
    obtain ⟨line, s, hline, hreads, -⟩ := nodeLine_reads g ht n
    rw [hline]
    exact ⟨rfl, hreads.isLine⟩
  · intro e he
    obtain ⟨source, hs⟩ := exists_node? (h.ends e he).1
    obtain ⟨target, hd⟩ := exists_node? (h.ends e he).2
    obtain ⟨line, s, hline, hreads, -⟩ := edgeLine_reads ht hs hd
    rw [hline]
    exact ⟨rfl, hreads.isLine⟩

/-- **Focusing before writing deletes lines and does nothing else.** The graph of an accepted
document is written as lines, one for each node and one for each edge between a frame and the title;
the part in focus is written as the same lines in the same order but for those of the nodes that no
path joins to the focus and of the edges with such an end. -/
theorem emit_focusOn_deletes {v : Value} {d : Document} (h : Document.ofValue v = .ok d)
    {choice : Option String}
    (hchoice : choice = none ∨ choice = some "" ∨ ∃ t : Theme, choice = some t.name)
    (fallback : Theme) {g : Graph} (hg : d.toGraph choice fallback.name = .ok g)
    {focus : List String} (hne : focus ≠ []) (hfocus : ∀ id ∈ focus, id ∈ g.nodes.map (·.id)) :
    ∃ (part : Graph) (nodeText : Node → String) (edgeText : Edge → String),
      g.focusOn focus = .ok part ∧
      (∀ n ∈ g.nodes, nodeLine g.theme n = .ok (nodeText n)) ∧
      (∀ e ∈ g.edges, edgeLine g e = .ok (edgeText e)) ∧
      let frame := header ++ titleLine g
      let nodes := g.nodes.filter fun n => g.InFocus focus n.id
      let edges := g.edges.filter fun e => g.InFocus focus e.source ∧ g.InFocus focus e.target
      emit g = .ok (String.join
        (frame ++ g.nodes.map nodeText ++ g.edges.map edgeText ++ ["\x7d\n"])) ∧
      emit part = .ok (String.join
        (frame ++ nodes.map nodeText ++ edges.map edgeText ++ ["\x7d\n"])) ∧
      part.nodes = nodes ∧ part.edges = edges ∧
      ∀ text ∈ frame ++ g.nodes.map nodeText ++ g.edges.map edgeText ++ ["\x7d\n"], IsLine text := by
  obtain ⟨g', hg', hwell, -⟩ := (Document.wellFormed_of_ofValue h).exists_toGraph
    (isThemeChoice_of_known hchoice) fallback
  obtain rfl : g' = g := Except.ok.inj (hg'.symm.trans hg)
  obtain ⟨hnodes, hedges⟩ := exists_lines hwell
  have hvertices : ∀ id ∈ focus, id ∈ g'.vertices :=
    fun id hid => hwell.mem_vertices.mpr (hfocus id hid)
  refine ⟨_, _, _, Graph.focusOn_eq_ok hne hvertices, fun n hn => (hnodes n hn).1,
    fun e he => (hedges e he).1, ?_, ?_, rfl, rfl, ?_⟩
  · exact emit_eq_join (fun n hn => (hnodes n hn).1) fun e he => (hedges e he).1
  · exact emit_induced (fun n hn => (hnodes n hn).1) fun e he => (hedges e he).1
  · exact isLine_of_mem_linesWith (fun n hn => (hnodes n hn).2) fun e he => (hedges e he).2

/-- Two facts and two goals, of which one needs both facts and the other one of them. -/
def forked : Value := .map [
  (.text "title", .text "Two\nways"),
  (.text "facts", .list [.text "a", .text "b"]),
  (.text "goals", .list [
    .map [(.text "g", .null), (.text "from", .list [.text "a", .map [(.text "b", .text "also")]])],
    .map [(.text "h", .null), (.text "from", .list [.text "b"])]])]

/-- What `forked` is read as. -/
def forkedDocument : Document where
  title := some "Two\nways"
  theme := none
  facts := [⟨"a", .fact, none, []⟩, ⟨"b", .fact, none, []⟩]
  attacks := []
  mitigations := []
  goals := [⟨"g", .goal, none, [.plain "a", .tagged "b" "also"]⟩, ⟨"h", .goal, none, [.plain "b"]⟩]
  focus := []

/-- With a focus on one fact, the lines of the other one, of its goal and of its edges go. -/
theorem emit_forked_deletes :
    Document.ofValue forked = .ok forkedDocument ∧
    forkedDocument.toGraph none "default" = .ok (forkedDocument.graph "default") ∧
    "a" ∈ (forkedDocument.graph "default").nodes.map (·.id) ∧
    ∃ (a b g h ag bg bh : String) (part : Graph),
      (forkedDocument.graph "default").focusOn ["a"] = .ok part ∧
      let frame := header ++ titleLine (forkedDocument.graph "default")
      emit (forkedDocument.graph "default") =
        .ok (String.join (frame ++ [a, b, g, h] ++ [ag, bg, bh] ++ ["\x7d\n"])) ∧
      emit part = .ok (String.join (frame ++ [a, g] ++ [ag] ++ ["\x7d\n"])) := by
  have hread : Document.ofValue forked = .ok forkedDocument := rfl
  have hgraph : forkedDocument.toGraph none "default" = .ok (forkedDocument.graph "default") := rfl
  have hfocus : ∀ id ∈ ["a"], id ∈ (forkedDocument.graph "default").nodes.map (·.id) := by decide
  obtain ⟨part, nodeText, edgeText, hpart, -, -, hwhole, hemit, -⟩ :=
    emit_focusOn_deletes hread (.inl rfl) .default hgraph (by decide) hfocus
  have hnodes : ((forkedDocument.graph "default").nodes.filter fun n =>
      (forkedDocument.graph "default").InFocus ["a"] n.id) =
        [⟨"a", "a", .fact, false⟩, ⟨"g", "g", .goal, false⟩] := by decide +kernel
  have hedges : ((forkedDocument.graph "default").edges.filter fun e =>
      (forkedDocument.graph "default").InFocus ["a"] e.source ∧
        (forkedDocument.graph "default").InFocus ["a"] e.target) =
          [⟨"a", "g", none, false, true⟩] := by decide +kernel
  rw [hnodes, hedges] at hemit
  exact ⟨hread, hgraph, hfocus "a" (by simp), _, _, _, _, _, _, _, part, hpart, hwhole, hemit⟩

end Dot
end ThreatTree
