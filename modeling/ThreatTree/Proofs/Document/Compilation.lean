import ThreatTree.Compile
import ThreatTree.Proofs.Document.WellFormed

/-!
# What is accepted compiles

Between a checked document and its DOT text stand three stages, each with failures of its own: a
reference that leads nowhere, a focus that is not in the graph, a node or a theme that the writer
does not find. None of them is met by a document that was accepted. Only a focus that is chosen from
outside can still miss.

Main statement: `accepted_compiles`.
-/

namespace ThreatTree.Document

theorem compile_eq_ok {d : Document} {focus : Option (List String)} {choice : Option String}
    {fallback : String} {g part : Graph} {dot : String} (hg : d.toGraph choice fallback = .ok g)
    (hpart : g.focusOn (focus.getD d.focus) = .ok part) (hdot : Dot.emit part = .ok dot) :
    d.compile focus choice fallback = .ok ⟨dot, part⟩ := by
  simp only [compile, focusedGraph, bind_eq_ok_iff, mapError_eq_ok_iff]
  exact ⟨part, ⟨g, hg, hpart⟩, dot, hdot, rfl⟩

theorem compile_eq_error {d : Document} {focus : Option (List String)} {choice : Option String}
    {fallback : String} {g : Graph} {e : DocumentError} (hg : d.toGraph choice fallback = .ok g)
    (hfocus : g.focusOn (focus.getD d.focus) = .error e) :
    d.compile focus choice fallback = .error (.document e) := by
  rw [compile, focusedGraph, hg]
  simp only [mapError_ok, mapError_error, bind, Except.bind, hfocus]

/-- **A document that is accepted compiles**, whatever theme is chosen among those that there are:
its graph has distinct ids and joins nodes only, it can be focused as the document wants it and be
written. A focus from outside goes well if it is on nodes of the graph, and else the first id that is
none is the only problem. -/
theorem accepted_compiles {v : Value} {d : Document} (h : ofValue v = .ok d)
    {choice : Option String}
    (hchoice : choice = none ∨ choice = some "" ∨ ∃ t : Theme, choice = some t.name)
    (fallback : Theme) :
    ∃ g, d.toGraph choice fallback.name = .ok g ∧ (g.nodes.map (·.id)).Nodup ∧
      (∀ e ∈ g.edges, e.source ∈ g.nodes.map (·.id) ∧ e.target ∈ g.nodes.map (·.id)) ∧
      (∃ part dot, g.focusOn d.focus = .ok part ∧ Dot.emit part = .ok dot ∧
        d.compile none choice fallback.name = .ok ⟨dot, part⟩) ∧
      ∀ focus : List String,
        ((∀ id ∈ focus, id ∈ g.nodes.map (·.id)) →
          ∃ part dot, g.focusOn focus = .ok part ∧ Dot.emit part = .ok dot ∧
            d.compile (some focus) choice fallback.name = .ok ⟨dot, part⟩) ∧
        ((∃ id ∈ focus, id ∉ g.nodes.map (·.id)) →
          ∃ id ∈ focus, id ∉ g.nodes.map (·.id) ∧
            g.focusOn focus = .error (.undefinedFocus id) ∧
            d.compile (some focus) choice fallback.name =
              .error (.document (.undefinedFocus id))) := by
  obtain ⟨g, hg, hwell, hown⟩ :=
    (wellFormed_of_ofValue h).exists_toGraph (isThemeChoice_of_known hchoice) fallback
  refine ⟨g, hg, hwell.distinct, hwell.ends, ?_, fun focus => ⟨fun hfocus => ?_, ?_⟩⟩
  · obtain ⟨part, hpart, hpartWell⟩ := hwell.exists_focusOn hown
    obtain ⟨dot, hdot⟩ := hpartWell.exists_emit
    exact ⟨part, dot, hpart, hdot, compile_eq_ok hg hpart hdot⟩
  · obtain ⟨part, hpart, hpartWell⟩ := hwell.exists_focusOn hfocus
    obtain ⟨dot, hdot⟩ := hpartWell.exists_emit
    exact ⟨part, dot, hpart, hdot, compile_eq_ok hg hpart hdot⟩
  · rintro ⟨id, hid, hmissing⟩
    obtain ⟨id', hid', hmissing', hfocus⟩ := hwell.focusOn_eq_error hid hmissing
    exact ⟨id', hid', hmissing', hfocus, compile_eq_error hg hfocus⟩

/-- A number as an id, a reference to what no section declares, flags beside an id and under one, a
circle and a focus on `reality`. -/
def circular : Value := .map [
  (.text "title", .int 42),
  (.text "theme", .text "classic"),
  (.text "facts", .list [.int 42]),
  (.text "attacks", .list [.map [(.text "a", .null), (.text "from", .list [.text "reality",
    .map [(.int 42, .text "remark"), (.text "backwards", .bool true)],
    .map [(.text "a", .map [(.text "implemented", .bool false)])]])]]),
  (.text "goals", .null),
  (.text "filter", .list [.text "reality"])]

/-- What `circular` is read as. -/
def circularDocument : Document where
  title := some "42"
  theme := some "classic"
  facts := [⟨"42", .fact, none, []⟩]
  attacks := [⟨"a", .attack, none, [.plain "reality", .flagged "42" true true (some "remark"),
    .flagged "a" false false none]⟩]
  mitigations := []
  goals := []
  focus := ["reality"]

theorem circular_compiles :
    ofValue circular = .ok circularDocument ∧
    ∃ g, circularDocument.toGraph (some "") "default" = .ok g ∧
      (∃ part dot, circularDocument.compile none (some "") "default" = .ok ⟨dot, part⟩) ∧
      (∃ part dot, circularDocument.compile (some ["a", "42"]) (some "") "default" =
        .ok ⟨dot, part⟩) ∧
      ∃ id ∈ ["a", "nowhere"], id ∉ g.nodes.map (·.id) ∧
        circularDocument.compile (some ["a", "nowhere"]) (some "") "default" =
          .error (.document (.undefinedFocus id)) := by
  have hread : ofValue circular = .ok circularDocument := rfl
  obtain ⟨g, hg, -, -, ⟨part, dot, -, -, hown⟩, hfocus⟩ :=
    accepted_compiles hread (.inr (.inl rfl)) .default
  have hgraph : circularDocument.toGraph (some "") "default" =
      .ok (circularDocument.graph "classic") := rfl
  obtain rfl := Except.ok.inj (hg.symm.trans hgraph)
  obtain ⟨part', dot', -, -, hinside⟩ := (hfocus ["a", "42"]).1 (by decide)
  obtain ⟨id, hid, hmissing, -, houtside⟩ :=
    (hfocus ["a", "nowhere"]).2 ⟨"nowhere", by decide, by decide⟩
  exact ⟨hread, _, hg, ⟨part, dot, hown⟩, ⟨part', dot', hinside⟩, id, hid, hmissing, houtside⟩

end ThreatTree.Document
