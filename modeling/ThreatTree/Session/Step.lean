import ThreatTree.Session.Export

/-!
# Steps of a session

A session goes from snapshot to snapshot: a new version of the document replaces the snapshot if
its work comes to an end, and an export leaves it as it is.
-/

namespace ThreatTree.Session

/-- What is done with a session. -/
inductive Step where
  /-- The document has a new text. -/
  | refresh (text : String)
  /-- The document is what a file holds now. -/
  | refreshFile (path : Path)
  /-- The snapshot is written to a file. -/
  | exportTo (path : Path)

/-- What came of a step, and the snapshot after it. -/
structure Progress where
  result : Except Fault Unit
  snapshot : Snapshot

namespace Progress

/-- The progress of a step that makes a snapshot. -/
def ofSnapshot (before : Snapshot) : Except Fault Snapshot → Progress
  | .ok shot => ⟨.ok (), shot⟩
  | .error f => ⟨.error f, before⟩

end Progress

/-- A step from a snapshot. -/
def step [SetOrder] (s : Session) (shot : Snapshot) : Step → StateM Host Progress
  | .refresh text => Progress.ofSnapshot shot <$> (s.refresh text).run
  | .refreshFile path => Progress.ofSnapshot shot <$> (s.refreshFile path).run
  | .exportTo path => (Progress.mk · shot) <$> (s.exportTo shot path).run

end ThreatTree.Session
