import ThreatTree.Files.Lemmas
import ThreatTree.Main
import ThreatTree.Proofs.Dot.ReadBack
import ThreatTree.Proofs.Graph.Cone
import ThreatTree.Proofs.Document.Grammar
import ThreatTree.Session.Step
import ThreatTree.Proofs.Document.Ids
import ThreatTree.Proofs.Document.Entries
import ThreatTree.Proofs.Document.Sections
import ThreatTree.Proofs.Document.Acceptance
import ThreatTree.Proofs.Document.WellFormed
import ThreatTree.Proofs.Document.Compilation
import ThreatTree.Proofs.Embed.Png
import ThreatTree.Proofs.Embed.Svg
import ThreatTree.Proofs.Embed.Dot
import ThreatTree.Proofs.Embed.Artifact
import ThreatTree.Proofs.Session.History
import ThreatTree.Proofs.Dot.Names
import ThreatTree.Proofs.Document.Rejection
import ThreatTree.Proofs.Session.Rejection
import ThreatTree.Proofs.Watch.Survival
import ThreatTree.Proofs.Watch.Retry
import ThreatTree.Proofs.Watch.Mirror
import ThreatTree.Proofs.Dot.Part
import ThreatTree.Proofs.Document.Focus
import ThreatTree.Proofs.Command.Failure
import ThreatTree.Proofs.Command.Embedding
import ThreatTree.Proofs.Embed.Trailer
import ThreatTree.Proofs.Graph.Refocus
import ThreatTree.Proofs.Document.Spelling
import ThreatTree.Proofs.Embed.Xml
import ThreatTree.Proofs.Command.Delivery
import ThreatTree.Proofs.Document.KeyOrder
import ThreatTree.Proofs.Layout.Resolution
