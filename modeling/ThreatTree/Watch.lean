import ThreatTree.Session.Export

/-!
# Watching a document

A watched document is exported again whenever it changes. A watch looks at the stamp of the
document, works if it is another one than before, and pauses. What goes wrong with a version is
reported, and the next look comes as usual.
-/

namespace ThreatTree

/-- What is watched, where it is exported to, and how long the pauses are. -/
structure Watch where
  document : Path
  output : Path
  session : Session
  interval : Float

namespace Watch

/-- The line about a version that is exported. -/
def updatedLine (w : Watch) : String := s!"Updated: {w.output}"

/-- Exports the document as it is now. -/
def update [SetOrder] (w : Watch) : Action Unit := do
  let shot ← w.session.refreshFile w.document
  match shot.error with
  | some e => Action.alert ("Not rendered: " ++ e)
  | none =>
    if shot.hasRender then
      w.session.exportTo shot w.output
      Action.say w.updatedLine

/-- Reports a fault, unless it stops the watch. -/
def report (f : Fault) : Action Unit :=
  if f.isExpected then Action.alert ("Not updated: " ++ f.message) else throw f

/-- One look at the document. `seen` is the stamp that was found last; the answer is the one that is
found now. -/
def poll [SetOrder] (w : Watch) (seen : Option Stamp) : Action (Option Stamp) := do
  match (← get).files.stamp w.document with
  | .error e =>
    report (.file e)
    return seen
  | .ok stamp =>
    if seen = some stamp then return seen
    else
      -- A version that fails counts as seen: it is not tried again until it changes.
      tryCatch w.update report
      return some stamp

/-- A look and the pause after it. -/
def turn [SetOrder] (w : Watch) (seen : Option Stamp) : Action (Option Stamp) := do
  let seen ← w.poll seen
  Action.note (.pause w.interval)
  return seen

/-- Watches the document. Each pause comes with what happens in it; the pause after the last one is
interrupted by the user. -/
def run [SetOrder] (w : Watch) (seen : Option Stamp) : List (List Change) → Action Unit
  | [] => do
    let _ ← w.turn seen
  | changes :: rest => do
    let seen ← w.turn seen
    modify fun h => changes.foldl Change.apply h
    w.run seen rest

end Watch
end ThreatTree
