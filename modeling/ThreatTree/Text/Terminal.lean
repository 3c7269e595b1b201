/-!
# Text for a plain stream

A stream that is no terminal gets text without colour and cursor commands: an escape character, an
opening bracket, parameters, intermediate characters and one final character are left out together
(`plain`).
-/

namespace ThreatTree.Text

/-- A character of the parameters of a terminal command. -/
def isParameter (c : Char) : Bool := '0' ≤ c && c ≤ '?'

/-- A character between the parameters and the end of a terminal command. -/
def isIntermediate (c : Char) : Bool := ' ' ≤ c && c ≤ '/'

/-- A character that ends a terminal command. -/
def isFinal (c : Char) : Bool := '@' ≤ c && c ≤ '~'

/-- What follows the parameters and the intermediate characters at the start of a text. -/
def afterParameters (cs : List Char) : List Char :=
  (cs.dropWhile isParameter).dropWhile isIntermediate

theorem length_afterParameters_le (cs : List Char) :
    (afterParameters cs).length ≤ cs.length :=
  Nat.le_trans (List.dropWhile_sublist isIntermediate).length_le
    (List.dropWhile_sublist isParameter).length_le

/-- The text after the terminal command that starts a text, if one does. -/
def afterCommand? : List Char → Option (List Char)
  | '\x1b' :: '[' :: cs =>
    match afterParameters cs with
    | c :: rest => if isFinal c then some rest else none
    | [] => none
  | _ => none

theorem length_afterCommand? {cs rest : List Char} (h : afterCommand? cs = some rest) :
    rest.length < cs.length := by
  unfold afterCommand? at h
  split at h
  · next cs =>
    split at h
    · next c r hd =>
      split at h
      · cases h
        have := length_afterParameters_le cs
        rw [hd] at this
        simp only [List.length_cons] at this ⊢
        omega
      · exact absurd h (by simp)
    · exact absurd h (by simp)
  · exact absurd h (by simp)

/-- A text without terminal commands. -/
def plainChars : List Char → List Char
  | [] => []
  | c :: cs =>
    match _h : afterCommand? (c :: cs) with
    | some rest => plainChars rest
    | none => c :: plainChars cs
termination_by cs => cs.length
decreasing_by
  · exact length_afterCommand? (by assumption)
  · simp

/-- A text without terminal commands. -/
def plain (s : String) : String := String.ofList (plainChars s.toList)

end ThreatTree.Text
