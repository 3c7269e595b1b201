import ThreatTree.Embed.Artifact
import ThreatTree.Page
import ThreatTree.Session.Basic

/-!
# Exports

A snapshot with a picture can be written to a file. The suffix of the file's name chooses the
format, and in every format the document travels with the picture.
-/

namespace ThreatTree

/-- A format of exported files. -/
inductive Format where
  | png
  | dot
  | svg
  | html
  deriving DecidableEq, Repr

namespace Format

def name : Format → String
  | png => "png"
  | dot => "dot"
  | svg => "svg"
  | html => "html"

/-- The format that a suffix in small letters chooses. Without a known suffix it is a picture. -/
def ofSuffix (suffix : String) : Format :=
  if suffix = ".png" then png
  else if suffix = ".dot" || suffix = ".gv" then dot
  else if suffix = ".html" then html
  else svg

/-- The format of a file. -/
def ofPath (p : Path) : Format := ofSuffix p.suffix.toLower

end Format

namespace Snapshot

/-- The page that shows a snapshot. -/
def page (s : Snapshot) (time : String) : Page.Content :=
  ⟨s.title, s.svg, s.source, s.categories, s.theme, time⟩

end Snapshot

namespace Session

/-- Writes a picture of points with the document behind it. -/
def exportPng (s : Session) (shot : Snapshot) (p : Path) : Action Unit := do
  let png ← Action.rasterPicture shot.dot s.program s.settings.pngDpi
  Action.writeBytes p (Embed.Png.append png (Text.Utf8.encode shot.source))

/-- Writes a page. -/
def exportPage (shot : Snapshot) (p : Path) : Action Unit := do
  -- The file is emptied before the page is made, and stays so if none can be made.
  Action.writeBytes p []
  let page ← Action.lift .style (Page.render (shot.page (← get).time))
  Action.writeText p page

/-- Writes a snapshot in a format. -/
def writeFormat (s : Session) (shot : Snapshot) (p : Path) : Format → Action Unit
  | .png => s.exportPng shot p
  | .dot => Action.writeText p (Embed.Dot.embed shot.dot shot.source)
  | .html => exportPage shot p
  | .svg => Action.writeText p (Embed.Svg.embed shot.svg shot.source)

/-- Writes a snapshot to a file, in a directory that is made if it is missing. -/
def exportTo (s : Session) (shot : Snapshot) (p : Path) : Action Unit := do
  if !shot.hasRender then throw .nothingRendered
  Action.makeDirectories p.parent
  let format := Format.ofPath p
  s.writeFormat shot p format
  Action.note (logLine .debug s!"Exported {format.name} to {p}")

end Session
end ThreatTree
