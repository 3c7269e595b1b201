import ThreatTree.Proofs.Dot.Markup
import ThreatTree.Proofs.Sequence

/-!
# A written graph read back

The DOT text of a graph holds the graph and nothing else, whatever its ids, labels, tags and title
are made of: read by the rules of DOT, it is the defaults, the title if there is one, one node
statement for each node and one edge statement for each edge, in their order and each on a line of
its own.

Main statement: `emit_reads_back`.
-/

namespace ThreatTree.Dot

/-! ### What a graph should be read as -/

/-- What stands before the title of every graph. -/
def prologue : List Statement :=
  [.opening,
    .defaults .graph [("fontname", "Arial"), ("nodesep", "0.2"), ("overlap", "false"),
      ("rankdir", "TB"), ("ranksep", "0.4"), ("splines", "true")],
    .defaults .node [("fontname", "Arial")],
    .defaults .edge [("fontname", "Arial")]]

/-- A title that is not empty is shown by one statement, and no other title by any. -/
def ShowsTitle (title : Option String) (ss : List Statement) : Prop :=
  match title with
  | none | some "" => ss = []
  | some t => ∃ body : String, unmarkup body.toList = some t.toList ∧
      ss = [.title ("<font POINT-SIZE=\"20\">" ++ body ++ "</font>")]

/-- A node is shown under its id, with its label and its look. -/
def ShowsNode (g : Graph) (n : Node) (s : Statement) : Prop :=
  ∃ style attrs, resolveNodeStyle (.category n.category) g.theme n.implicit = .ok style ∧
    attrs.Perm style.toList ∧ s = .node (text n.id) (("label", text n.label) :: attrs)

/-- An edge is shown between its ends as they are drawn, with its look. The tag is its label; an
edge without one has no text to colour. -/
def ShowsEdge (g : Graph) (e : Edge) (s : Statement) : Prop :=
  ∃ source target style attrs, g.node? e.source = some source ∧ g.node? e.target = some target ∧
    resolveEdgeStyle (.category source.category) (.category target.category) e.implemented g.theme
      e.backwards = .ok style ∧
    s = .edge (text e.drawn.1) (text e.drawn.2) attrs ∧
    match e.tag with
    | none | some "" => attrs.Perm (style.toList.filter (·.1 ≠ "fontcolor"))
    | some tag => ∃ rest, attrs = ("label", text tag) :: rest ∧ rest.Perm style.toList ∧
        ∃ colour, ("fontcolor", colour) ∈ rest

/-- A DOT text shows a graph: its tokens are those of the statements for the title, the nodes and
the edges, framed by what every graph has, and each statement is a line. -/
def ShowsGraph (g : Graph) (dot : String) : Prop :=
  ∃ title nodes edges lines, ShowsTitle g.title title ∧
    List.Forall₂ (ShowsNode g) g.nodes nodes ∧
    List.Forall₂ (ShowsEdge g) g.edges edges ∧
    let statements := prologue ++ title ++ nodes ++ edges ++ [.closing]
    lex dot.toList = some (statements.flatMap Statement.tokens) ∧
    Text.lines dot.toList = lines ++ [[]] ∧
    List.Forall₂ (fun line s => lex line = some (Statement.tokens s)) lines statements

/-! ### Looks -/

theorem isInlineAttr_nodeStyle (t : Theme) (c : Category) :
    ∀ a ∈ (t.nodeStyle c).toList, IsInlineAttr a := by
  cases t <;> cases c <;> decide

theorem isInlineAttr_realityStyle (t : Theme) : ∀ a ∈ t.realityStyle.toList, IsInlineAttr a := by
  cases t <;> decide

theorem toList_edgeStyle (t : Theme) (source target : Category) (implemented backwards : Bool) :
    (t.edgeStyle source target implemented backwards).toList =
      [("style", if implemented then "solid" else "dashed"), ("fontcolor", t.palette.edgeText),
        ("color", if backwards then t.palette.backwardsEdge else t.palette.edge),
        ("arrowhead", Theme.arrowhead source target)] := rfl

theorem isInline_arrowhead (source target : Category) :
    IsInline (Theme.arrowhead source target) := by
  unfold Theme.arrowhead
  split <;> decide

theorem isInlineAttr_edgeStyle (t : Theme) (source target : Category)
    (implemented backwards : Bool) :
    ∀ a ∈ (t.edgeStyle source target implemented backwards).toList, IsInlineAttr a := by
  have hstyle : IsInline (if implemented then "solid" else "dashed") := by
    cases implemented <;> decide
  have htext : IsInline t.palette.edgeText := by cases t <;> decide
  have hcolour : IsInline (if backwards then t.palette.backwardsEdge else t.palette.edge) := by
    cases t <;> cases backwards <;> decide
  rw [toList_edgeStyle]
  simp only [List.mem_cons, List.not_mem_nil, or_false]
  rintro a (rfl | rfl | rfl | rfl)
  · exact ⟨(by decide : IsInline "style"), hstyle⟩
  · exact ⟨(by decide : IsInline "fontcolor"), htext⟩
  · exact ⟨(by decide : IsInline "color"), hcolour⟩
  · exact ⟨(by decide : IsInline "arrowhead"), isInline_arrowhead source target⟩

/-- Without text there is no colour of the text, and all else stays. -/
theorem toList_edgeStyle_untagged (t : Theme) (source target : Category)
    (implemented backwards : Bool) :
    { t.edgeStyle source target implemented backwards with fontcolor := none }.toList =
      (t.edgeStyle source target implemented backwards).toList.filter (·.1 ≠ "fontcolor") := by
  rw [toList_edgeStyle]
  simp [Attributes.toList, Theme.edgeStyle]

/-! ### Lines -/

theorem isInlineAttr_written {label : Option String} {attrs : List (String × String)}
    (hlabel : ∀ l ∈ label, IsInline l) (h : ∀ a ∈ attrs, IsInlineAttr a) :
    ∀ a ∈ written label attrs, IsInlineAttr a := by
  intro a ha
  simp only [written, List.mem_append, Option.mem_toList, Option.map_eq_some_iff,
    List.mem_mergeSort] at ha
  rcases ha with ⟨l, hl, rfl⟩ | ha
  · exact ⟨(by decide : IsInline "label"), hlabel l hl⟩
  · exact h a ha

theorem nodeLine_name (t : Theme) (n : Node) :
    nodeLine t.name n = .ok (statement (quote (text n.id) ++ attributeList (some (text n.label))
      (if n.implicit then t.realityStyle else t.nodeStyle n.category).toList)) := by
  rw [nodeLine, resolveNodeStyle_name]
  rfl

theorem nodeLine_reads (g : Graph) {t : Theme} (ht : g.theme = t.name) (n : Node) :
    ∃ line s, nodeLine g.theme n = .ok line ∧ ReadsLine line s ∧ ShowsNode g n s := by
  have hinline : ∀ a ∈ (if n.implicit then t.realityStyle else t.nodeStyle n.category).toList,
      IsInlineAttr a := by
    split
    · exact isInlineAttr_realityStyle t
    · exact isInlineAttr_nodeStyle t n.category
  have hlabel : ∀ l ∈ some (text n.label), IsInline l := by
    rintro l ⟨⟩
    exact isInline_text n.label
  rw [ht, nodeLine_name]
  refine ⟨_, _, rfl, readsLine_node (isInline_text n.id) (by simp [written])
    (isInlineAttr_written hlabel hinline), ?_⟩
  refine ⟨_, _, ?_, List.mergeSort_perm _ _, rfl⟩
  rw [ht, resolveNodeStyle_name]

/-- The look of an edge with the text that it shows: an edge without text has no colour for it. -/
theorem edgeLine_eq_ok {g : Graph} {t : Theme} (ht : g.theme = t.name) {e : Edge}
    {source target : Node} (hs : g.node? e.source = some source)
    (hd : g.node? e.target = some target) :
    edgeLine g e = .ok (
      let style := t.edgeStyle source.category target.category e.implemented e.backwards
      statement (quote (text e.drawn.1) ++ " -> " ++ quote (text e.drawn.2) ++
        attributeList ((shownTag e).map text)
          (if (shownTag e).isNone then { style with fontcolor := none } else style).toList)) := by
  rw [edgeLine, endpoint, hs, endpoint, hd, ht]
  simp only [bind, Except.bind, resolveEdgeStyle_name, mapError_ok]
  rfl

theorem shownTag_eq_none {e : Edge} (h : shownTag e = none) : e.tag = none ∨ e.tag = some "" := by
  cases htag : e.tag with
  | none => exact Or.inl rfl
  | some tag =>
    simp only [shownTag, htag, Option.filter_eq_none_iff] at h
    right
    simpa using h tag rfl

theorem shownTag_eq_some {e : Edge} {tag : String} (h : shownTag e = some tag) :
    e.tag = some tag ∧ tag ≠ "" := by
  rw [shownTag, Option.filter_eq_some_iff] at h
  simpa using h

theorem edgeLine_reads {g : Graph} {t : Theme} (ht : g.theme = t.name) {e : Edge}
    {source target : Node} (hs : g.node? e.source = some source)
    (hd : g.node? e.target = some target) :
    ∃ line s, edgeLine g e = .ok line ∧ ReadsLine line s ∧ ShowsEdge g e s := by
  have hlook : resolveEdgeStyle (.category source.category) (.category target.category)
      e.implemented g.theme e.backwards =
        .ok (t.edgeStyle source.category target.category e.implemented e.backwards) := by
    rw [ht, resolveEdgeStyle_name]
  have hinline := isInlineAttr_edgeStyle t source.category target.category e.implemented e.backwards
  have htail := isInline_text e.drawn.1
  have hhead := isInline_text e.drawn.2
  rw [edgeLine_eq_ok ht hs hd]
  cases htag : shownTag e with
  | none =>
    simp only [Option.map_none, Option.isNone_none, if_true, toList_edgeStyle_untagged]
    have hattrs : ∀ a ∈ written none ((t.edgeStyle source.category target.category e.implemented
        e.backwards).toList.filter (·.1 ≠ "fontcolor")), IsInlineAttr a :=
      isInlineAttr_written (by simp) fun a ha => hinline a (List.mem_of_mem_filter ha)
    have hstyle : ("style", if e.implemented then "solid" else "dashed") ∈
        written none ((t.edgeStyle source.category target.category e.implemented
          e.backwards).toList.filter (·.1 ≠ "fontcolor")) := by
      simp [written, toList_edgeStyle]
    refine ⟨_, _, rfl, readsLine_edge htail hhead (List.ne_nil_of_mem hstyle) hattrs, ?_⟩
    refine ⟨source, target, _, _, hs, hd, hlook, rfl, ?_⟩
    rcases shownTag_eq_none htag with h | h
    · rw [h]
      exact List.mergeSort_perm _ _
    · rw [h]
      exact List.mergeSort_perm _ _
  | some tag =>
    obtain ⟨h, hne⟩ := shownTag_eq_some htag
    simp only [Option.map_some, Option.isNone_some]
    have hlabel : ∀ l ∈ some (text tag), IsInline l := by
      rintro l ⟨⟩
      exact isInline_text tag
    refine ⟨_, _, rfl, readsLine_edge htail hhead (by simp [written])
      (isInlineAttr_written hlabel hinline), ?_⟩
    refine ⟨source, target, _, _, hs, hd, hlook, rfl, ?_⟩
    rw [h]
    split
    · next h' => cases h'
    · next h' => exact absurd (Option.some.inj h') hne
    · next h' =>
      cases h'
      exact ⟨_, rfl, List.mergeSort_perm _ _, t.palette.edgeText, by simp [toList_edgeStyle]⟩

theorem written_graphDefaults :
    written none graphDefaults = [("fontname", "Arial"), ("nodesep", "0.2"), ("overlap", "false"),
      ("rankdir", "TB"), ("ranksep", "0.4"), ("splines", "true")] := by
  simp [written, graphDefaults, List.mergeSort, List.MergeSort.Internal.splitInTwo]

theorem written_textDefaults : written none textDefaults = [("fontname", "Arial")] := by
  simp [written, textDefaults]

theorem header_reads : List.Forall₂ ReadsLine header prologue := by
  have hgraph : ReadsLine (statement ("graph" ++ attributeList none graphDefaults))
      (.defaults .graph (written none graphDefaults)) :=
    readsLine_defaults .graph (by simp [written_graphDefaults])
      (by rw [written_graphDefaults]; decide)
  have hnode : ReadsLine (statement ("node" ++ attributeList none textDefaults))
      (.defaults .node (written none textDefaults)) :=
    readsLine_defaults .node (by simp [written_textDefaults])
      (by rw [written_textDefaults]; decide)
  have hedge : ReadsLine (statement ("edge" ++ attributeList none textDefaults))
      (.defaults .edge (written none textDefaults)) :=
    readsLine_defaults .edge (by simp [written_textDefaults])
      (by rw [written_textDefaults]; decide)
  rw [written_graphDefaults] at hgraph
  rw [written_textDefaults] at hnode hedge
  exact .cons readsLine_opening (.cons hgraph (.cons hnode (.cons hedge .nil)))

theorem titleLine_eq {g : Graph} {title : String} (h : g.title = some title) (hne : title ≠ "") :
    titleLine g = [statement
      ("label=<<font POINT-SIZE=\"20\">" ++ markup title ++ "</font>> labelloc=t")] := by
  unfold titleLine
  rw [h]
  split
  · next h => cases h
  · next h => exact absurd (Option.some.inj h) hne
  · next h =>
    cases h
    rfl

theorem showsTitle_some {title : String} (hne : title ≠ "") :
    ShowsTitle (some title) [.title (titleMarkup title)] := by
  unfold ShowsTitle
  split
  · next h => cases h
  · next h => exact absurd (Option.some.inj h) hne
  · next h =>
    cases h
    exact ⟨markup title, unmarkup_markup title, rfl⟩

theorem titleLine_reads (g : Graph) :
    ∃ ss, List.Forall₂ ReadsLine (titleLine g) ss ∧ ShowsTitle g.title ss := by
  cases htitle : g.title with
  | none =>
    refine ⟨[], ?_, rfl⟩
    unfold titleLine
    rw [htitle]
    exact .nil
  | some title =>
    by_cases hne : title = ""
    · refine ⟨[], ?_, ?_⟩
      · unfold titleLine
        rw [htitle, hne]
        exact .nil
      · rw [hne]
        rfl
    · rw [titleLine_eq htitle hne]
      exact ⟨_, .cons (readsLine_title title) .nil, showsTitle_some hne⟩

/-- The node of an id that some node has. -/
theorem exists_node? {g : Graph} {id : String} (h : id ∈ g.nodes.map (·.id)) :
    ∃ n, g.node? id = some n := by
  obtain ⟨n, hn, rfl⟩ := List.mem_map.mp h
  rw [Graph.node?, ← Option.isSome_iff_exists, List.find?_isSome]
  exact ⟨n, by simpa using hn, by simp⟩

/-! ### What is read in the text of a graph -/

/-- A node has a line in a theme that there is only. -/
theorem exists_theme_of_nodeLine {theme line : String} {n : Node}
    (h : nodeLine theme n = .ok line) : ∃ t : Theme, theme = t.name := by
  obtain ⟨attrs, hattrs, -⟩ := bind_eq_ok_iff.mp h
  obtain ⟨t, ht, -⟩ := bind_eq_ok_iff.mp (mapError_eq_ok_iff.mp hattrs)
  exact ⟨t, (Theme.find_eq_ok.mp ht).symm⟩

theorem exists_readsLine_of_nodeLine {g : Graph} {n : Node} {line : String}
    (h : nodeLine g.theme n = .ok line) : ∃ s, ReadsLine line s := by
  obtain ⟨t, ht⟩ := exists_theme_of_nodeLine h
  obtain ⟨_, s, hline, hreads, -⟩ := nodeLine_reads g ht n
  obtain rfl := Except.ok.inj (hline.symm.trans h)
  exact ⟨s, hreads⟩

theorem endpoint_eq_ok_iff {g : Graph} {id : String} {n : Node} :
    endpoint g id = .ok n ↔ g.node? id = some n := by
  unfold endpoint
  cases g.node? id <;> simp

theorem exists_readsLine_of_edgeLine {g : Graph} {e : Edge} {line : String}
    (h : edgeLine g e = .ok line) : ∃ s, ReadsLine line s := by
  obtain ⟨source, hsource, hrest⟩ := bind_eq_ok_iff.mp h
  obtain ⟨target, htarget, hrest⟩ := bind_eq_ok_iff.mp hrest
  obtain ⟨attrs, hattrs, -⟩ := bind_eq_ok_iff.mp hrest
  obtain ⟨t, ht, -⟩ := bind_eq_ok_iff.mp (mapError_eq_ok_iff.mp hattrs)
  obtain ⟨_, s, hline, hreads, -⟩ := edgeLine_reads (Theme.find_eq_ok.mp ht).symm
    (endpoint_eq_ok_iff.mp hsource) (endpoint_eq_ok_iff.mp htarget)
  obtain rfl := Except.ok.inj (hline.symm.trans h)
  exact ⟨s, hreads⟩

/-- Lines that come of steps are statements if each step's line is one. -/
theorem exists_readsLines {α : Type} {f : α → Except EmitError String} {xs : List α}
    {lines : List String} (h : xs.mapM f = .ok lines)
    (hread : ∀ x line, f x = .ok line → ∃ s, ReadsLine line s) :
    ∃ ss, List.Forall₂ ReadsLine lines ss := by
  rw [mapM_eq_ok_iff] at h
  induction h with
  | nil => exact ⟨[], .nil⟩
  | cons hline _ ih =>
    obtain ⟨s, hs⟩ := hread _ _ hline
    obtain ⟨ss, hss⟩ := ih
    exact ⟨s :: ss, .cons hs hss⟩

/-- Whatever is written begins with the line of the opening, and all of it can be read. -/
theorem exists_statements_of_emit {g : Graph} {dot : String} (h : emit g = .ok dot) :
    ∃ rest ss, dot = "digraph \x7b\n" ++ rest ∧
      lex dot.toList = some ((Statement.opening :: ss).flatMap Statement.tokens) := by
  obtain ⟨lines, hlines, rfl⟩ := map_eq_ok_iff.mp h
  obtain ⟨nodeLines, hnodes, hrest⟩ := bind_eq_ok_iff.mp hlines
  obtain ⟨edgeLines, hedges, hrest⟩ := bind_eq_ok_iff.mp hrest
  obtain rfl := Except.ok.inj hrest
  obtain ⟨title, htitle, -⟩ := titleLine_reads g
  obtain ⟨nodes, hnodes⟩ := exists_readsLines hnodes fun _ _ => exists_readsLine_of_nodeLine
  obtain ⟨edges, hedges⟩ := exists_readsLines hedges fun _ _ => exists_readsLine_of_edgeLine
  have hframe := List.rel_append header_reads htitle
  have hbody := List.rel_append (List.rel_append hframe hnodes) hedges
  have hall := List.rel_append hbody (.cons readsLine_closing .nil)
  refine ⟨String.join (header.tail ++ titleLine g ++ nodeLines ++ edgeLines ++ ["\x7d\n"]), _, ?_,
    lex_join hall⟩
  rw [← String.toList_inj]
  simp [header]

/-! ### The whole text -/

/-- **A written graph is read back as the graph.** Its ids, labels, tags and title are arbitrary
texts. -/
theorem emit_reads_back (g : Graph) (htheme : ∃ t : Theme, g.theme = t.name)
    (hends : ∀ e ∈ g.edges, e.source ∈ g.nodes.map (·.id) ∧ e.target ∈ g.nodes.map (·.id)) :
    ∃ dot, emit g = .ok dot ∧ ShowsGraph g dot := by
  obtain ⟨t, ht⟩ := htheme
  obtain ⟨title, htitle, hshowsTitle⟩ := titleLine_reads g
  obtain ⟨nodeLines, nodes, hnodes, hnodeLines, hshowsNodes⟩ :=
    mapM_forall₂ fun n (_ : n ∈ g.nodes) => nodeLine_reads g ht n
  have hedge : ∀ e ∈ g.edges, ∃ line s, edgeLine g e = .ok line ∧ ReadsLine line s ∧
      ShowsEdge g e s := by
    intro e he
    obtain ⟨source, hs⟩ := exists_node? (hends e he).1
    obtain ⟨target, hd⟩ := exists_node? (hends e he).2
    exact edgeLine_reads ht hs hd
  obtain ⟨edgeLines, edges, hedges, hedgeLines, hshowsEdges⟩ := mapM_forall₂ hedge
  have hframe := List.rel_append header_reads htitle
  have hbody := List.rel_append (List.rel_append hframe hnodeLines) hedgeLines
  have hall := List.rel_append hbody (.cons readsLine_closing .nil)
  obtain ⟨lines, hlines, hread⟩ := lines_join hall
  have hemit : emit g = .ok (String.join
      (header ++ titleLine g ++ nodeLines ++ edgeLines ++ ["\x7d\n"])) := by
    rw [emit, emitLines, hnodes, hedges]
    rfl
  exact ⟨_, hemit, title, nodes, edges, lines, hshowsTitle, hshowsNodes, hshowsEdges,
    lex_join hall, hlines, hread⟩

/-- A graph whose texts look like DOT: quotes after backslashes, line ends, brackets, a keyword and
numerals. -/
def awkwardGraph : Graph where
  nodes := [⟨"a\\\"", "\\\r\n\"]; x -> y [", .fact, true⟩, ⟨"Node", "-.5", .attack, false⟩,
    ⟨"1.5.", "", .goal, false⟩]
  edges := [⟨"a\\\"", "Node", some "<br/>\\", true, false⟩, ⟨"Node", "1.5.", some "", false, true⟩,
    ⟨"Node", "Node", none, false, true⟩]
  title := some "</font>> & \"'\n\x7d"
  focus := []
  theme := "classic"

theorem emit_awkwardGraph :
    awkwardGraph.theme = Theme.classic.name ∧
    (∀ e ∈ awkwardGraph.edges, e.source ∈ awkwardGraph.nodes.map (·.id) ∧
      e.target ∈ awkwardGraph.nodes.map (·.id)) ∧
    ∃ dot, emit awkwardGraph = .ok dot ∧ ShowsGraph awkwardGraph dot := by
  have hends : ∀ e ∈ awkwardGraph.edges, e.source ∈ awkwardGraph.nodes.map (·.id) ∧
      e.target ∈ awkwardGraph.nodes.map (·.id) := by decide
  exact ⟨rfl, hends, emit_reads_back awkwardGraph ⟨.classic, rfl⟩ hends⟩

end ThreatTree.Dot
