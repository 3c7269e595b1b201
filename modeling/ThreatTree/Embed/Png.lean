import ThreatTree.Bytes

/-!
# Documents after PNG pictures

A picture is a signature and a walk of chunks: a length, a name, as many bytes of data, a check sum.
It ends with the chunk named `IEND`, and readers ignore what follows. There a document travels: a
marker, the length of its UTF-8 form in four bytes, the form itself. Bytes without a complete walk
count as a picture without an end, and the document is put behind all of them.
-/

namespace ThreatTree.Embed.Png

/-- The bytes that every picture starts with. -/
def signature : Bytes := [0x89, 0x50, 0x4e, 0x47, 0x0d, 0x0a, 0x1a, 0x0a]

/-- The name of the chunk that ends a picture. -/
def endName : Bytes := [0x49, 0x45, 0x4e, 0x44]

/-- What a document inside a picture starts with: a comment line that names it, with a newline
on either side. -/
def marker : Bytes := Text.Utf8.encode "\n#deciduous-source\n"

/-- The number of bytes of a chunk whose data has the length `n`. -/
def chunkSize (n : Nat) : Nat := 12 + n

/-- How far the walk of chunks gets in `bs`: to the end of the first chunk that ends a picture, or
of the bytes if that comes first. `none` if there is no such chunk. -/
def walk? (bs : Bytes) : Option Nat :=
  if bs.length < 8 then none
  else
    let size := chunkSize (beNat (bs.take 4))
    if (bs.drop 4).take 4 = endName then some (min size bs.length)
    else (walk? (bs.drop size)).map (size + ·)
termination_by bs.length
decreasing_by simp only [List.length_drop, chunkSize]; omega

/-- The number of bytes of the picture that `bs` starts with; all of them if it is none. -/
def imageSize (bs : Bytes) : Nat :=
  if signature.isPrefixOf bs then
    match walk? (bs.drop signature.length) with
    | some n => signature.length + n
    | none => bs.length
  else bs.length

/-- The picture without what follows it. -/
def strip (bs : Bytes) : Bytes := bs.take (imageSize bs)

/-- What follows the picture. -/
def trailer (bs : Bytes) : Bytes := bs.drop (imageSize bs)

/-- The bytes in which a document travels. -/
def packet (source : Bytes) : Bytes := marker ++ be32 source.length ++ source

/-- A picture with the document right behind it. -/
def append (bs source : Bytes) : Bytes := strip bs ++ packet source ++ trailer bs

/-- The bytes of the document right behind a picture. A document that is cut short is what is
left of it. -/
def extractBytes? (bs : Bytes) : Option Bytes :=
  let t := trailer bs
  if marker.isPrefixOf t then
    let rest := t.drop marker.length
    if rest.length < 4 then none else some ((rest.drop 4).take (beNat (rest.take 4)))
  else none

/-- What is found right behind a picture. -/
inductive Found where
  | nothing
  | document (source : String)
  /-- Bytes that are no text. -/
  | illFormed
  deriving DecidableEq, Repr

/-- What is found right behind a picture. -/
def extract (bs : Bytes) : Found :=
  match extractBytes? bs with
  | none => .nothing
  | some source =>
    match Text.Utf8.decode? source with
    | some s => .document s
    | none => .illFormed

end ThreatTree.Embed.Png
