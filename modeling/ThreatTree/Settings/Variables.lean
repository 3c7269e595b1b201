import ThreatTree.Text.Blank
import ThreatTree.Text.Lines

/-!
# Variables

Variables are names with texts. A file of variables has one on a line: a name, an equals sign and
a value, after an optional `export`. A value in quotation marks may hold escapes and newlines; any
other value ends at a comment or with its line. A `$` before a name in braces stands for the value
of another variable. What cannot be read is skipped up to the end of its line.
-/

namespace ThreatTree

/-- Names with texts, at most one for each name. -/
abbrev Variables := List (String × String)

namespace Variables

/-- Sets a variable; a variable that is there already keeps its place. -/
def put {α : Type} (name : String) (value : α) : List (String × α) → List (String × α)
  | [] => [(name, value)]
  | (n, v) :: vs => if n = name then (n, value) :: vs else (n, v) :: put name value vs

/-- The value of the last variable whose name, in small letters, is `name`. -/
def find? {α : Type} (vs : List (String × α)) (name : String) : Option α :=
  (vs.reverse.find? (·.1.toLower = name)).map (·.2)

/-! ### Lines of a file -/

/-- What one line of a file says. -/
inductive Entry where
  /-- Nothing but blanks or a comment. -/
  | nothing
  /-- A variable, with no value if the line has no equals sign. -/
  | binding (name : String) (value : Option String)
  /-- What cannot be read. -/
  | unreadable
  deriving DecidableEq, Repr

/-- White space inside a line. -/
def isInnerBlank (c : Char) : Bool := Text.isBlank c && c ≠ '\n'

/-- A text without the white space that its first line starts with. -/
def skipBlanks (cs : List Char) : List Char := cs.dropWhile isInnerBlank

/-- A text after the word `export` and white space, or the text itself. -/
def skipExport (cs : List Char) : List Char :=
  let word := "export".toList
  let rest := cs.drop word.length
  if word.isPrefixOf cs && rest.head?.any isInnerBlank then skipBlanks rest else cs

/-- A character of a name without quotation marks. -/
def isNameChar (c : Char) : Bool := c ≠ '=' && c ≠ '#' && !Text.isBlank c

/-- The name at the start of a text, `none` inside for a comment. -/
def name? (cs : List Char) : Option (Option (List Char) × List Char) :=
  match cs with
  | '#' :: _ => some (none, cs)
  | '\'' :: rest =>
    match rest.takeWhile (· ≠ '\''), rest.dropWhile (· ≠ '\'') with
    | c :: cs, _ :: after => some (some (c :: cs), after)
    | _, _ => none
  | _ =>
    let name := cs.takeWhile isNameChar
    if name.isEmpty then none else some (some name, cs.dropWhile isNameChar)

/-- The inside of a quotation and what follows it. A backslash takes the character after it along,
so that a mark there does not close the quotation. -/
def quotation? (mark : Char) : List Char → Option (List Char × List Char)
  | [] => none
  | '\\' :: c :: cs =>
    (quotation? mark cs).map fun (inside, after) => ('\\' :: c :: inside, after)
  | c :: cs =>
    if c = mark then some ([], cs)
    else (quotation? mark cs).map fun (inside, after) => (c :: inside, after)

/-- The characters that an escape in single marks stands for. -/
def singleEscape? (c : Char) : Option Char := if c = '\\' || c = '\'' then some c else none

/-- The characters that an escape in double marks stands for. -/
def doubleEscape? (c : Char) : Option Char :=
  if c = '\\' || c = '\'' || c = '"' then some c
  else if c = 'a' then some '\x07'
  else if c = 'b' then some '\x08'
  else if c = 'f' then some '\x0c'
  else if c = 'n' then some '\n'
  else if c = 'r' then some '\r'
  else if c = 't' then some '\t'
  else if c = 'v' then some '\x0b'
  else none

/-- A text with its escapes replaced. -/
def unescape (escape? : Char → Option Char) : List Char → List Char
  | '\\' :: c :: cs =>
    match escape? c with
    | some d => d :: unescape escape? cs
    | none => '\\' :: unescape escape? (c :: cs)
  | c :: cs => c :: unescape escape? cs
  | [] => []

/-- A line without the comment that white space and a hash mark open. -/
def dropComment : List Char → List Char
  | [] => []
  | c :: cs =>
    if Text.isBlank c && (cs.dropWhile Text.isBlank).head? = some '#' then []
    else c :: dropComment cs

/-- A text without the white space at its end. -/
def trimEnd (cs : List Char) : List Char := (cs.reverse.dropWhile Text.isBlank).reverse

/-- The value at the start of a text. -/
def value? (cs : List Char) : Option (List Char × List Char) :=
  match cs with
  | '\'' :: rest => (quotation? '\'' rest).map fun (v, after) => (unescape singleEscape? v, after)
  | '"' :: rest => (quotation? '"' rest).map fun (v, after) => (unescape doubleEscape? v, after)
  | _ => some (trimEnd (dropComment (cs.takeWhile (· ≠ '\n'))), cs.dropWhile (· ≠ '\n'))

/-- A text without a comment at its start. -/
def skipComment (cs : List Char) : List Char :=
  let rest := skipBlanks cs
  if rest.head? = some '#' then rest.dropWhile (· ≠ '\n') else cs

/-- A text after the end of its line, if nothing but white space comes before that. -/
def endOfLine? (cs : List Char) : Option (List Char) :=
  match skipBlanks cs with
  | [] => some []
  | c :: rest => if c = '\n' then some rest else none

/-- A text after its first line. -/
def skipLine (cs : List Char) : List Char := (cs.dropWhile (· ≠ '\n')).drop 1

/-- Whether a comment comes next: white space and then a hash mark. -/
def isComment (cs : List Char) : Bool :=
  cs.head?.any isInnerBlank && (skipBlanks cs).head? = some '#'

/-- The value behind a name and what follows it; what is left of the line if the value cannot be
read. There is an empty value before a comment. -/
def assigned (cs : List Char) : Except (List Char) (Option (List Char) × List Char) :=
  match cs with
  | '=' :: after =>
    if isComment after then .ok (some [], after)
    else
      match value? (skipBlanks after) with
      | some (v, rest) => .ok (some v, rest)
      | none => .error (skipBlanks after)
  | _ => .ok (none, cs)

/-- The entry of a name and a value, and what follows their line. -/
def finish (name : Option (List Char)) (v : Option (List Char)) (cs : List Char) :
    Entry × List Char :=
  let rest := skipComment cs
  match endOfLine? rest, name with
  | some after, some name => (.binding (String.ofList name) (v.map String.ofList), after)
  | some after, none => (.nothing, after)
  | none, _ => (.unreadable, skipLine rest)

/-- The first entry of a text and what follows it. -/
def entry (cs : List Char) : Entry × List Char :=
  let start := cs.dropWhile Text.isBlank
  if start.isEmpty then (.nothing, [])
  else
    let start := skipExport start
    match name? start with
    | none => (.unreadable, skipLine start)
    | some (name, rest) =>
      match assigned (skipBlanks rest) with
      | .error rest => (.unreadable, skipLine rest)
      | .ok (v, rest) => finish name v rest

/-- The entries of a text, each with the number of the line after the entry before it. -/
def entries (line : Nat) (cs : List Char) : List (Nat × Entry) :=
  if cs.isEmpty then []
  else
    let (e, rest) := entry cs
    -- Every entry takes something, so the test never fails; termination rests on it.
    if rest.length < cs.length then
      let passed := (cs.take (cs.length - rest.length)).countP (· = '\n')
      (line, e) :: entries (line + passed) rest
    else [(line, e)]
termination_by cs.length

/-! ### References to other variables -/

/-- The name and the default of a reference whose opening comes before the text. -/
def reference? (cs : List Char) : Option (List Char × List Char × List Char) :=
  let isPlain := fun c => c ≠ '\x7d' && c ≠ ':'
  let name := cs.takeWhile isPlain
  match cs.dropWhile isPlain with
  | ':' :: '-' :: rest =>
    match rest.dropWhile (· ≠ '\x7d') with
    | _ :: after => some (name, rest.takeWhile (· ≠ '\x7d'), after)
    | [] => none
  | '\x7d' :: after => some (name, [], after)
  | _ => none

theorem length_dropWhile_le (p : Char → Bool) (cs : List Char) :
    (cs.dropWhile p).length ≤ cs.length := (List.dropWhile_sublist p).length_le

/-- A reference ends inside the text. -/
theorem length_reference? {cs name default after : List Char}
    (h : reference? cs = some (name, default, after)) : after.length ≤ cs.length := by
  unfold reference? at h
  have h1 := length_dropWhile_le (fun c => c ≠ '\x7d' && c ≠ ':') cs
  simp only at h
  split at h
  · next rest heq =>
    rw [heq] at h1
    have h2 := length_dropWhile_le (· ≠ '\x7d') rest
    split at h
    · next heq2 =>
      cases h
      rw [heq2] at h2
      simp only [List.length_cons] at h1 h2
      omega
    · exact absurd h (by simp)
  · next heq =>
    cases h
    rw [heq] at h1
    simp only [List.length_cons] at h1
    omega
  · exact absurd h (by simp)

/-- The reference that a text opens behind a dollar sign. -/
def opened? (c : Char) (rest : List Char) : Option (List Char × List Char × List Char) :=
  if c = '$' && rest.head? = some '\x7b' then reference? (rest.drop 1) else none

theorem length_opened? {c : Char} {rest name default after : List Char}
    (h : opened? c rest = some (name, default, after)) : after.length ≤ rest.length := by
  unfold opened? at h
  split at h
  · have := length_reference? h
    simp only [List.length_drop] at this
    omega
  · exact absurd h (by simp)

/-- A text with its references replaced by what `look` finds. -/
def expand (look : String → Option String) (cs : List Char) : List Char :=
  match cs with
  | [] => []
  | c :: rest =>
    match _h : opened? c rest with
    | some (name, default, after) =>
      ((look (String.ofList name)).map String.toList).getD default ++ expand look after
    | none => c :: expand look rest
termination_by cs.length
decreasing_by
  · have := length_opened? _h
    simp only [List.length_cons]
    omega
  · simp

/-! ### Files of variables -/

/-- What a reference to a variable stands for: a variable of the file so far, empty if it has no
value there, or else a variable of the surroundings. -/
def look (surroundings : Variables) (sofar : List (String × Option String)) (name : String) :
    Option String :=
  match sofar.lookup name with
  | some v => some (v.getD "")
  | none => surroundings.lookup name

/-- The variables of some entries, with references replaced. -/
def resolve (surroundings : Variables) (entries : List Entry) : List (String × Option String) :=
  entries.foldl (fun sofar e =>
    match e with
    | .binding name value =>
      let value := value.map fun v =>
        String.ofList (expand (look surroundings sofar) v.toList)
      put name value sofar
    | _ => sofar) []

/-- What a file says: its variables, and the numbers of the lines where something is skipped. -/
structure Listing where
  vars : List (String × Option String)
  skipped : List Nat
  deriving Repr

/-- A text without the byte order mark that it may begin with. -/
def dropOrderMark : List Char → List Char
  | '\ufeff' :: cs => cs
  | cs => cs

/-- What a text says as a file of variables. -/
def ofText (surroundings : Variables) (text : String) : Listing :=
  let found := entries 1 (Text.normalizeNewlines (dropOrderMark text.toList))
  ⟨resolve surroundings (found.map (·.2)),
    (found.filter (·.2 = .unreadable)).map (·.1)⟩

end Variables
end ThreatTree
