import ThreatTree.Embed.Dot
import ThreatTree.Embed.Png
import ThreatTree.Embed.Svg

/-!
# Documents inside any artifact

An artifact is told by its bytes: the signature of a PNG picture, the root tag of an SVG picture
anywhere in the text, or else DOT.
-/

namespace ThreatTree.Embed

/-- What an SVG picture holds somewhere. -/
def svgTag : List Char := "<svg".toList

/-- The document of an artifact. -/
def extract (bs : Bytes) : Png.Found :=
  if Png.signature.isPrefixOf bs then Png.extract bs
  else
    let text := Text.Utf8.decodeLossy bs
    let found :=
      if Text.occurs svgTag text.toList then Svg.extract? text else Dot.extract? text
    match found with
    | some s => .document s
    | none => .nothing

end ThreatTree.Embed
