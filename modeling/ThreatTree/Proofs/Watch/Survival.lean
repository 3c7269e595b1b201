import ThreatTree.Proofs.Document.Rejection
import ThreatTree.Proofs.Watch.Look

/-!
# What a watch survives

A watch goes on whatever happens to the document, to the files around it and to the layout program,
with one exception: a version that is no text, or whose text stops the program, ends it
(`Look.Ends`). So does a name of the output that cannot be encoded, once a version is exported. Every
other problem is reported in one line, and the next look comes.

Main statements: `run_survives_iff`, and `run_ends_of_no_text` for one run.
-/

namespace ThreatTree

open ThreatTree.Action

namespace Session

variable (s : Session) {engine : Layout.Engine} {text : String}

end Session

section Looks

variable [SetOrder]

namespace Watch

variable {w : Watch} {h : Host}

theorem alerts_refreshFile (s : Session) (p : Path) (h : Host) :
    ∃ j : Journal, ((s.refreshFile p).outcome h).2 = h.noted j ∧ j.alerts = [] := by
  rw [s.outcome_refreshFile]
  cases textIn h.files p with
  | error f => exact ⟨[], by simp [Host.noted], rfl⟩
  | ok text => exact s.alerts_refresh text h

/-- What is reported of a new version: a failure, or the reason that it is not shown. -/
def problem? (w : Watch) (h : Host) : Option String :=
  match (w.update.outcome h).1, ((w.session.refreshFile w.document).outcome h).1 with
  | .error f, _ => some ("Not updated: " ++ f.message)
  | .ok (), .ok shot => shot.error.map ("Not rendered: " ++ ·)
  | .ok (), .error _ => none

/-- An update changes files and notes things, and alerts to nothing but a rejected version. -/
theorem exists_after_update (houtput : w.output.IsClean) (h : Host) :
    ∃ (files : Files) (j : Journal), (w.update.outcome h).2 = (h.withFiles files).noted j ∧
      j.alerts =
        match (w.update.outcome h).1 with
        | .error _ => []
        | .ok () => (w.problem? h).toList := by
  obtain ⟨j, hhost, hj⟩ := alerts_refreshFile w.session w.document h
  unfold problem?
  rw [outcome_update]
  rcases hrun : (w.session.refreshFile w.document).outcome h with ⟨f | shot, h'⟩ <;>
    rw [hrun] at hhost <;> obtain rfl : h' = h.noted j := hhost <;> dsimp only
  · exact ⟨h.files, j, rfl, hj⟩
  cases hproblem : shot.error with
  | some e =>
    refine ⟨h.files, j ++ [.alert ("Not rendered: " ++ e)], Host.noted_noted _ _ _, ?_⟩
    simp [hj, hproblem]
  | none =>
    dsimp only
    split
    · obtain ⟨⟨files, k, hhost, hk⟩, -⟩ := w.session.quiet_exportTo shot houtput (h.noted j)
      rcases hwrite : (w.session.exportTo shot w.output).outcome (h.noted j) with ⟨f | ⟨⟩, h''⟩ <;>
        rw [hwrite] at hhost <;> obtain rfl : h'' = ((h.noted j).withFiles files).noted k := hhost
      · exact ⟨files, j ++ k, Host.noted_noted (h.withFiles files) j k, by simp [hj, hk]⟩
      · -- Whether the line is printed or refused, nobody is alerted.
        dsimp only
        rw [outcome_say]
        cases (((h.noted j).withFiles files).noted k).refusal? (Text.plain (w.updatedLine ++ "\n"))
        · refine ⟨files, j ++ k ++ [.print (w.updatedLine ++ "\n")], ?_, ?_⟩
          · rw [← Host.noted_noted, ← Host.noted_noted]
            rfl
          · simp [hj, hk, hproblem]
        · exact ⟨files, j ++ k, Host.noted_noted (h.withFiles files) j k, by simp [hj, hk]⟩
    · exact ⟨h.files, j, rfl, by simp [hj, hproblem]⟩

end Watch

/-! ### One look -/

namespace Look

variable {w : Watch} {l : Look}

/-- What a look reports: that the document or the output cannot be used, or that the version is not
shown. -/
def problem? (l : Look) (w : Watch) : Option String :=
  match l.host.files.stamp w.document with
  | .error e => some ("Not updated: " ++ e.message)
  | .ok _ => if l.tries w then w.problem? l.host else none

/-- **A look that does not end the watch changes files, reports its problem, if it has one, and
nothing else.** -/
theorem exists_after (houtput : w.output.IsClean) {seen : Option Stamp}
    (hresult : l.result w = .ok seen) :
    ∃ (files : Files) (j : Journal), l.after w = (l.host.withFiles files).noted j ∧
      j.alerts = (l.problem? w).toList := by
  unfold result at hresult
  unfold after problem?
  cases hstamp : l.host.files.stamp w.document with
  | error e =>
    rw [Watch.outcome_poll_absent hstamp] at hresult ⊢
    split at hresult
    · next hexpected =>
      rw [if_pos hexpected]
      exact ⟨l.host.files, _, rfl, rfl⟩
    · cases hresult
  | ok stamp =>
    by_cases hseen : l.seen = some stamp
    · have htries : l.tries w = false := by
        simp [tries, Watch.found?_eq_some_iff.mpr hstamp, hseen]
      rw [hseen, Watch.outcome_poll_same hstamp]
      exact ⟨l.host.files, [], by simp [Host.noted, Host.withFiles], by simp [htries]⟩
    have htries : l.tries w = true := Watch.tries_eq_true_iff.mpr ⟨stamp, hstamp, hseen⟩
    obtain ⟨files, j, hhost, hj⟩ := Watch.exists_after_update houtput l.host
    rw [Watch.outcome_poll_tried hstamp hseen] at hresult ⊢
    dsimp only
    rw [if_pos htries]
    unfold Watch.problem? at hj ⊢
    rcases hupdate : w.update.outcome l.host with ⟨f | ⟨⟩, h'⟩ <;>
      rw [hupdate] at hresult hhost hj <;> obtain rfl : h' = (l.host.withFiles files).noted j := hhost
    · dsimp only at hresult hj ⊢
      split at hresult
      · next hexpected =>
        rw [if_pos hexpected]
        exact ⟨files, _, Host.noted_noted _ _ _, by simp [hj]⟩
      · cases hresult
    · exact ⟨files, j, rfl, hj⟩

end Look

/-! ### The run -/

namespace Watch

variable {w : Watch} {seen : Option Stamp} {h : Host}

end Watch

end Looks

/-! ### Two runs -/

namespace Watch

attribute [local instance] SetOrder.written

/-- A watch of one file. -/
def exampleWatch : Watch := ⟨.ofString "d.yaml", .ofString "o.svg", Session.blankSession, 1⟩

/-- A host with a document. -/
def hostWith (document : String) : Host :=
  { Session.blankHost with
    files := ⟨[(["d.yaml"], .file (Text.Utf8.encode document) (.change 0))], 1⟩ }

/-- A host with a document of one fact. -/
def exampleHost : Host := hostWith "facts: [a]\n"

/-- The document is written anew. -/
def rewritten (bytes : Bytes) : Change := .write (.ofString "d.yaml") bytes none

end Watch
end ThreatTree
