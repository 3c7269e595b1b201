import ThreatTree.Files.Path
import ThreatTree.Text.Quoted
import ThreatTree.Text.Utf8

/-!
# Files

A tree of directories and files around a working directory. A place in it is told by the names
that lead there from the working directory. Every file and directory has a stamp of its latest
change; `read` is what a file holds and `stamp` when it changed.

Paths are followed part by part, and each part but the last has to be a directory. What goes wrong
is a `FileError`, whose wording is that of the operating system.
-/

namespace ThreatTree

/-- When something changed: at a time that somebody set, or as the n-th change of all. -/
inductive Stamp where
  | set (nanoseconds : Int)
  | change (n : Nat)
  deriving DecidableEq, Repr

/-- What a file or a directory is. -/
inductive Item where
  | file (bytes : Bytes) (stamp : Stamp)
  | directory (stamp : Stamp)
  deriving DecidableEq, Repr

/-- The names that lead to a place from the working directory. -/
abbrev Place := List String

/-- A tree of files. `changes` counts what happened to it. -/
structure Files where
  items : List (Place × Item)
  changes : Nat
  deriving DecidableEq, Repr

/-- Why a path leads to nothing that an operation can use. -/
inductive Obstacle where
  | missing
  | taken
  | notDirectory
  | isDirectory
  | nameTooLong
  /-- No path holds the null character. -/
  | nullCharacter
  deriving DecidableEq, Repr

/-- An operation that failed, and where. -/
structure FileError where
  obstacle : Obstacle
  path : String
  deriving DecidableEq, Repr

namespace FileError

/-- The number and the wording of an obstacle. -/
def wording : Obstacle → Nat × String
  | .missing => (2, "No such file or directory")
  | .taken => (17, "File exists")
  | .notDirectory => (20, "Not a directory")
  | .isDirectory => (21, "Is a directory")
  | .nameTooLong => (36, "File name too long")
  | .nullCharacter => (22, "Invalid argument")

/-- The wording of an error. -/
def message (e : FileError) : String :=
  let (number, text) := wording e.obstacle
  s!"[Errno {number}] {text}: {Text.quote e.path}"

end FileError

namespace Files

/-- No files yet. -/
def empty : Files := ⟨[], 0⟩

/-! ### Places -/

/-- The name of the directory above. -/
def up : String := ".."

/-- The name of the root of all places. -/
def root : String := "/"

/-- The places that are always there: the working directory, what is above it, and the root. -/
def isFixed (p : Place) : Bool := p.all (· = up) || p = [root]

/-- The place above a place. -/
def above (p : Place) : Place :=
  if p = [root] then p else if p.all (· = up) then up :: p else p.dropLast

/-- What is at a place. -/
def item? (fs : Files) (p : Place) : Option Item :=
  if isFixed p then some (.directory (.set 0)) else fs.items.lookup p

/-- The longest name. -/
def longestName : Nat := 255

/-- The longest path. -/
def longestPath : Nat := 4095

/-- Follows the names of a path from a place. -/
def walk (fs : Files) (p : Place) : List String → Except Obstacle Place
  | [] => .ok p
  | name :: names =>
    match fs.item? p with
    | none => .error .missing
    | some (.file _ _) => .error .notDirectory
    | some (.directory _) =>
      if name = "" || name = "." then fs.walk p names
      else if name = up then fs.walk (above p) names
      else if longestName < name.utf8ByteSize then .error .nameTooLong
      else fs.walk (p ++ [name]) names

/-- The place that a text leads to as a path. -/
def resolve (fs : Files) (s : String) : Except Obstacle Place :=
  let cs := s.toList
  if cs.contains '\x00' then .error .nullCharacter
  else if s = "" then .error .missing
  else if longestPath < s.utf8ByteSize then .error .nameTooLong
  else
    fs.walk (if cs.head? = some '/' then [root] else []) ((Text.splitAt '/' cs).map String.ofList)

/-- What a text leads to as a path. -/
def find (fs : Files) (s : String) : Except Obstacle Item :=
  match fs.resolve s with
  | .error o => .error o
  | .ok p =>
    match fs.item? p with
    | some i => .ok i
    | none => .error .missing

/-! ### Reading -/

/-- Whether a text leads to a directory. -/
def isDirectory (fs : Files) (s : String) : Bool :=
  match fs.find s with
  | .ok (.directory _) => true
  | _ => false

/-- Whether a text leads to a file. -/
def isFile (fs : Files) (s : String) : Bool :=
  match fs.find s with
  | .ok (.file _ _) => true
  | _ => false

/-- Whether something is at a path. A path that cannot be followed leads to nothing, unless a name
in it is too long for any file. -/
def pathExists (fs : Files) (p : Path) : Except FileError Bool :=
  match fs.find p.toString with
  | .ok _ => .ok true
  | .error .nameTooLong => .error ⟨.nameTooLong, p.toString⟩
  | .error _ => .ok false

/-- When what is at a path changed. -/
def stamp (fs : Files) (p : Path) : Except FileError Stamp :=
  match fs.find p.toString with
  | .ok (.file _ s) | .ok (.directory s) => .ok s
  | .error o => .error ⟨o, p.toString⟩

/-- What the file at a path holds. -/
def read (fs : Files) (p : Path) : Except FileError Bytes :=
  match fs.find p.toString with
  | .ok (.file bytes _) => .ok bytes
  | .ok (.directory _) => .error ⟨.isDirectory, p.toString⟩
  | .error o => .error ⟨o, p.toString⟩

/-! ### Changing -/

/-- Puts an item at a place. -/
def put (fs : Files) (p : Place) (i : Item) : Files :=
  { fs with items := (p, i) :: fs.items.filter (·.1 ≠ p) }

/-- The stamp of the next change. -/
def nextStamp (fs : Files) : Stamp := .change fs.changes

/-- Counts a change. -/
def count (fs : Files) : Files := { fs with changes := fs.changes + 1 }

/-- Notes a change of a directory's list of names. -/
def touch (fs : Files) (p : Place) : Files :=
  match fs.items.lookup p with
  | some (.directory _) => fs.put p (.directory fs.nextStamp)
  | _ => fs

/-- Puts an item at a place; the directory changes if the place was free. -/
def place (fs : Files) (p : Place) (i : Item) : Files :=
  (if (fs.item? p).isNone then (fs.touch (above p)).put p i else fs.put p i).count

/-- Writes a file with a given stamp. -/
def writeStamped (fs : Files) (p : Path) (bytes : Bytes) (stamp : Stamp) : Except FileError Files :=
  match fs.resolve p.toString with
  | .error o => .error ⟨o, p.toString⟩
  | .ok place =>
    match fs.item? place with
    | some (.directory _) => .error ⟨.isDirectory, p.toString⟩
    | _ => .ok (fs.place place (.file bytes stamp))

/-- Writes a file. -/
def write (fs : Files) (p : Path) (bytes : Bytes) : Except FileError Files :=
  fs.writeStamped p bytes fs.nextStamp

/-- Makes one directory. -/
def makeDirectory (fs : Files) (p : Path) : Except FileError Files :=
  match fs.resolve p.toString with
  | .error o => .error ⟨o, p.toString⟩
  | .ok place =>
    match fs.item? place with
    | some _ => .error ⟨.taken, p.toString⟩
    | none => .ok (fs.place place (.directory fs.nextStamp))

/-- Makes one directory unless it is there. -/
def ensureDirectory (fs : Files) (p : Path) : Except FileError Files :=
  match fs.makeDirectory p with
  | .ok fs' => .ok fs'
  | .error e =>
    if fs.isDirectory p.toString then .ok fs else .error e

/-- Makes the directory whose parts are given from the last to the first, and the missing ones above
it. What is made before an error stays. -/
def ensureDirectories (fs : Files) (root : String) : List String → Files × Except FileError Unit
  | [] =>
    match fs.ensureDirectory ⟨root, []⟩ with
    | .ok fs' => (fs', .ok ())
    | .error e => (fs, .error e)
  | part :: parts =>
    let p : Path := ⟨root, (part :: parts).reverse⟩
    match fs.makeDirectory p with
    | .ok fs' => (fs', .ok ())
    | .error e =>
      -- Only now the ones above are made, and then this one once more.
      if e.obstacle = .missing then
        match fs.ensureDirectories root parts with
        | (fs', .error e') => (fs', .error e')
        | (fs', .ok _) =>
          match fs'.ensureDirectory p with
          | .ok fs'' => (fs'', .ok ())
          | .error e' => (fs', .error e')
      else if fs.isDirectory p.toString then (fs, .ok ())
      else (fs, .error e)

/-- Makes the directory at a path and the missing ones above it. -/
def makeDirectories (fs : Files) (p : Path) : Files × Except FileError Unit :=
  fs.ensureDirectories p.root p.parts.reverse

/-- Removes a file, or a directory with all that is in it. -/
def delete (fs : Files) (p : Path) : Files :=
  match fs.resolve p.toString with
  | .error _ => fs
  | .ok place =>
    if (fs.item? place).isNone || isFixed place then fs
    else
      let fs := fs.touch (above place)
      { fs with items := fs.items.filter fun (q, _) => !place.isPrefixOf q }.count

/-! ### What changed -/

/-- The files below the working directory, by path. -/
def contents (fs : Files) : List (String × Bytes) :=
  fs.items.filterMap fun (p, i) =>
    match i with
    | .file bytes _ =>
      if p.head? = some up || p.head? = some root then none
      else some (String.intercalate "/" p, bytes)
    | .directory _ => none

/-- The files that are new or hold other bytes than before. -/
def changed (before after : Files) : List (String × Bytes) :=
  let old := before.contents
  after.contents.filter fun (p, bytes) => old.lookup p ≠ some bytes

end Files
end ThreatTree
