import ThreatTree.Proofs.Host.Effect
import ThreatTree.Proofs.Layout.Attempt
import ThreatTree.Session.Basic

/-!
# What a new version of a document comes to

A text comes to a snapshot, or to a fault, by what it compiles to and by what the layout program
answers to one request (`Session.shown`). Nothing else of the host matters, and apart from its
journal the host stays as it is (`outcome_refresh`).

Main statements: `outcome_refresh`, `shown_congr` and `coherent_of_shown`.
-/

namespace ThreatTree

open ThreatTree.Action

variable [SetOrder]

/-! ### Logs -/

/-- Compiling notes log lines and nothing else. -/
theorem exists_log_of_mem_compileLog {text : String} {focus : Option (List String)}
    {theme : Option String} {fallback : String} {e : Event}
    (he : e ∈ compileLog text focus theme fallback) :
    ∃ level part message, e = .log level part message := by
  unfold compileLog at he
  split at he
  · cases he
  rcases List.mem_cons.mp he with rfl | he
  · exact ⟨_, _, _, rfl⟩
  split at he
  · cases he
  rcases List.mem_cons.mp he with rfl | he
  · exact ⟨_, _, _, rfl⟩
  split at he
  · cases he
  rcases List.mem_append.mp he with he | he
  · unfold Graph.focusLog at he
    split at he
    · cases he
    · exact ⟨_, _, _, List.mem_singleton.mp he⟩
  · split at he
    · cases he
    · rcases List.mem_cons.mp he with rfl | he
      · exact ⟨_, _, _, rfl⟩
      · exact ⟨_, _, _, List.mem_singleton.mp he⟩

/-- Compiling asks for no picture. -/
theorem requests_compileLog (text : String) (focus : Option (List String)) (theme : Option String)
    (fallback : String) : (compileLog text focus theme fallback).requests = [] := by
  rw [Journal.requests, List.filterMap_eq_nil_iff]
  intro e he
  obtain ⟨_, _, _, rfl⟩ := exists_log_of_mem_compileLog he
  rfl

/-- Compiling alerts nobody. -/
theorem alerts_compileLog (text : String) (focus : Option (List String)) (theme : Option String)
    (fallback : String) : (compileLog text focus theme fallback).alerts = [] := by
  rw [Journal.alerts, List.filterMap_eq_nil_iff]
  intro e he
  obtain ⟨_, _, _, rfl⟩ := exists_log_of_mem_compileLog he
  rfl

namespace Session

variable (s : Session)

/-! ### The snapshot -/

/-- The attempt to lay out what a document's text compiles to. -/
def attempt (engine : Layout.Engine) (source : String) (c : Compiled) : Layout.Attempt :=
  Layout.attemptOf engine c.dot "svg" s.program (Yaml.isWhole source c.dot)

/-- The snapshot of a compiled document after an attempt to lay it out. Only a picture that is no
text leaves none. -/
def laidOut (source : String) (c : Compiled) (a : Layout.Attempt) : Except Fault Snapshot :=
  match a.result with
  | .error e => .ok (.compiled source c "" (some e.message))
  | .ok bytes =>
    match Text.Utf8.decode? bytes with
    | some svg => .ok (.compiled source c svg none)
    | none => .error .notText

/-- What a text comes to. -/
def shown (engine : Layout.Engine) (text : String) : Except Fault Snapshot :=
  match s.compile text with
  | .error e => if e.isReported then .ok (.rejected text e) else .error (.compile e)
  | .ok c =>
    if c.graph.worthRendering then laidOut text c (s.attempt engine text c)
    else .ok (.compiled text c "" none)

/-- The request that a text leads to. -/
def request? (text : String) : Option Layout.Request :=
  match s.compile text with
  | .error _ => none
  | .ok c => if c.graph.worthRendering then Layout.request? c.dot "svg" s.program else none

/-! ### Runs -/

omit [SetOrder] in
/-- Laying out a document, and what it asks for. -/
theorem outcome_layOut (source : String) (c : Compiled) (h : Host) :
    ∃ j : Journal, j.requests =
        (if c.graph.worthRendering then Layout.request? c.dot "svg" s.program else none).toList ∧
      (s.layOut source c).outcome h =
        (if c.graph.worthRendering then laidOut source c (s.attempt h.engine source c)
          else .ok (.compiled source c "" none), h.noted j) := by
  unfold layOut
  split
  · unfold laidOut attempt
    rw [outcome_tryCatch, outcome_bind, outcome_vectorPicture,
      ← @Layout.attemptOf_request h.engine c.dot "svg" s.program (Yaml.isWhole source c.dot),
      ← requests_pictureLog _ "svg" s.program, vectorResult]
    generalize Layout.attemptOf h.engine c.dot "svg" s.program (Yaml.isWhole source c.dot) = a
    generalize pictureLog a "svg" s.program = j
    cases a.result with
    | error e =>
      refine ⟨j ++ [logLine .warning ("Layout failed: " ++ e.message)], ?_, ?_⟩
      · rw [Journal.requests_append]
        exact List.append_nil _
      · simp only [outcome_bind, outcome_note, outcome_pure, Host.noted_noted]
    | ok bytes =>
      dsimp only
      cases Text.Utf8.decode? bytes with
      | none => exact ⟨j, rfl, rfl⟩
      | some svg => exact ⟨j, rfl, rfl⟩
  · exact ⟨[], rfl, by simp [Host.noted]⟩

/-- A refresh comes to what is shown of the text, asks what the text leads to, and leaves the host
as it is but for its journal. -/
theorem outcome_refresh (text : String) (h : Host) :
    ∃ j : Journal, j.requests = (s.request? text).toList ∧
      (s.refresh text).outcome h = (s.shown h.engine text, h.noted j) := by
  have hlog : (s.compileLog text).requests = [] := requests_compileLog _ _ _ _
  unfold refresh shown request?
  rw [outcome_bind_ok (outcome_noteAll _ h)]
  cases s.compile text with
  | error e =>
    dsimp only
    split
    · refine ⟨s.compileLog text ++ [logLine .info ("Document rejected: " ++ e.message)], ?_, ?_⟩
      · rw [Journal.requests_append, hlog]
        rfl
      · simp only [outcome_bind, outcome_note, outcome_pure, Host.noted_noted]
    · exact ⟨s.compileLog text, hlog, outcome_throw _ _⟩
  | ok c =>
    obtain ⟨j, hj, hrun⟩ := s.outcome_layOut text c (h.noted (s.compileLog text))
    refine ⟨s.compileLog text ++ j, ?_, ?_⟩
    · rw [Journal.requests_append, hlog, hj]
      rfl
    · rw [Host.noted_noted, Host.noted_engine] at hrun
      exact hrun

omit [SetOrder] in
theorem quiet_layOut (source : String) (c : Compiled) :
    (s.layOut source c).Quiet fun _ => True := by
  unfold layOut
  split
  · have hpicture : (vectorPicture c.dot s.program (Yaml.isWhole source c.dot)).Quiet
        fun _ => True := by
      apply within_bind
      · exact (quiet_picture _ _ _ _).mono (fun _ _ => id) fun _ _ => trivial
      · intro bytes
        split
        · exact within_pure _
        · exact within_throw trivial
    apply within_tryCatch (within_bind hpicture fun _ => within_pure _)
    intro f
    split
    · exact within_bind (quiet_note rfl) fun _ => within_pure _
    · exact within_throw trivial
  · exact within_pure _

/-- A refresh alerts nobody. -/
theorem alerts_refresh (text : String) (h : Host) :
    ∃ j : Journal, ((s.refresh text).outcome h).2 = h.noted j ∧ j.alerts = [] := by
  have hquiet : (s.refresh text).Quiet fun _ => True := by
    apply within_bind (quiet_noteAll (alerts_compileLog _ _ _ _))
    intro _
    split
    · exact s.quiet_layOut text _
    split
    · exact within_bind (quiet_note rfl) fun _ => within_pure _
    · exact within_throw trivial
  obtain ⟨⟨files, j, hhost, hj⟩, -⟩ := hquiet h
  -- The files stay too, which makes the two descriptions of the host one.
  obtain ⟨k, -, hrun⟩ := s.outcome_refresh text h
  rw [hrun] at hhost ⊢
  have hkj : k = j := List.append_cancel_left (congrArg Host.journal hhost)
  exact ⟨k, rfl, hkj ▸ hj⟩

end Session

/-- A snapshot in which all belongs together: it is what its own text comes to with a layout
program. -/
structure Snapshot.Coherent (s : Session) (engine : Layout.Engine) (shot : Snapshot) : Prop where
  /-- A picture is the one of the compiled document, and everything else is taken from it too. -/
  rendered : shot.hasRender = true → shot.error = none ∧
    ∃ c, s.compile shot.source = .ok c ∧ shot.dot = c.dot ∧ shot.title = c.graph.title ∧
      shot.theme = c.graph.theme ∧ shot.categories = c.graph.categories ∧
      ∃ r output errors, Layout.request? c.dot "svg" s.program = some r ∧
        engine r = .finished 0 output errors ∧ Text.Utf8.decode? output = some shot.svg
  /-- With a problem there is no picture. -/
  failed : shot.error ≠ none → shot.svg = ""
  /-- What comes of the attempt to lay out a compiled document is shown, and there is an attempt
  exactly if the graph has a node. -/
  attempted : ∀ c, s.compile shot.source = .ok c →
    if c.graph.nodes = [] then shot.svg = "" ∧ shot.error = none
    else
      match (s.attempt engine shot.source c).result with
      | .ok output => Text.Utf8.decode? output = some shot.svg ∧ shot.error = none
      | .error e => shot.error = some e.message

namespace Session

omit [SetOrder] in
theorem worthRendering_iff {g : Graph} : g.worthRendering = true ↔ g.nodes ≠ [] := by
  simp [Graph.worthRendering, Graph.isEmpty]

/-- A snapshot without a picture that has its compiled document right. -/
theorem coherent_of_no_svg {engine : Layout.Engine} {shot : Snapshot} (hsvg : shot.svg = "")
    (h : ∀ c, s.compile shot.source = .ok c →
      if c.graph.nodes = [] then shot.error = none
      else ∃ e, (s.attempt engine shot.source c).result = .error e ∧ shot.error = some e.message) :
    shot.Coherent s engine where
  rendered hrender := by simp [Snapshot.hasRender, hsvg] at hrender
  failed _ := hsvg
  attempted c hc := by
    have := h c hc
    split
    · next hnodes =>
      rw [if_pos hnodes] at this
      exact ⟨hsvg, this⟩
    · next hnodes =>
      rw [if_neg hnodes] at this
      obtain ⟨e, he, herror⟩ := this
      rw [he]
      exact herror

theorem coherent_of_laidOut {engine : Layout.Engine} {text : String} {c : Compiled}
    {shot : Snapshot} (hc : s.compile text = .ok c) (hnodes : c.graph.nodes ≠ [])
    (h : laidOut text c (s.attempt engine text c) = .ok shot) :
    shot.source = text ∧ shot.Coherent s engine := by
  have huniq {c' : Compiled} (hc' : s.compile text = .ok c') : c = c' :=
    Except.ok.inj (hc.symm.trans hc')
  unfold laidOut at h
  split at h
  · next e he =>
    cases h
    refine ⟨rfl, s.coherent_of_no_svg rfl fun c' hc' => ?_⟩
    obtain rfl := huniq hc'
    rw [if_neg hnodes]
    exact ⟨e, he, rfl⟩
  next output houtput =>
  split at h
  · next svg hsvg =>
    cases h
    refine ⟨rfl, fun _ => ⟨rfl, c, hc, rfl, rfl, rfl, rfl, ?_⟩, fun hne => absurd rfl hne,
      fun c' hc' => ?_⟩
    · obtain ⟨-, r, errors, hr, hanswer⟩ := Layout.exists_of_attemptOf_eq_ok houtput
      exact ⟨r, output, errors, hr, hanswer, hsvg⟩
    · obtain rfl := huniq hc'
      dsimp only [Snapshot.compiled]
      rw [if_neg hnodes, houtput]
      exact ⟨hsvg, rfl⟩
  · cases h

/-- **A refresh shows its own text, and all of the snapshot belongs together.** -/
theorem coherent_of_shown {engine : Layout.Engine} {text : String} {shot : Snapshot}
    (h : s.shown engine text = .ok shot) : shot.source = text ∧ shot.Coherent s engine := by
  unfold shown at h
  cases hc : s.compile text with
  | error e =>
    rw [hc] at h
    dsimp only at h
    split at h
    · cases h
      refine ⟨rfl, s.coherent_of_no_svg rfl fun c hc' => ?_⟩
      exact absurd (hc.symm.trans hc') (by simp)
    · cases h
  | ok c =>
    rw [hc] at h
    dsimp only at h
    split at h
    · next hworth => exact s.coherent_of_laidOut hc (worthRendering_iff.mp hworth) h
    · next hworth =>
      have hnodes : c.graph.nodes = [] := Classical.not_not.mp (mt worthRendering_iff.mpr hworth)
      cases h
      refine ⟨rfl, s.coherent_of_no_svg rfl fun c' hc' => ?_⟩
      obtain rfl : c = c' := Except.ok.inj (hc.symm.trans hc')
      rw [if_pos hnodes]
      rfl

end Session
end ThreatTree
