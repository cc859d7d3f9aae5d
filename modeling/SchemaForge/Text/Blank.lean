namespace SchemaForge

/-! # Blanks

The white space of texts, and the cutting of it. A character is a blank when Unicode gives it the
property White_Space; U+200B, the zero width space, is therefore not one.
-/

namespace Chars

/-- The characters with the Unicode property White_Space. -/
def isSpace (c : Char) : Bool :=
  let n := c.toNat
  (9 ≤ n && n ≤ 13) || n == 0x20 || n == 0x85 || n == 0xA0 || n == 0x1680
    || (0x2000 ≤ n && n ≤ 0x200A) || n == 0x2028 || n == 0x2029 || n == 0x202F || n == 0x205F
    || n == 0x3000

/-- The text without the leading characters that satisfy `p`. -/
def dropStart (p : Char → Bool) (cs : List Char) : List Char :=
  cs.dropWhile p

/-- The text without the trailing characters that satisfy `p`. -/
def dropEnd (p : Char → Bool) : List Char → List Char
  | [] => []
  | c :: cs =>
    match dropEnd p cs with
    | [] => if p c then [] else [c]
    | rest => c :: rest

/-- The text without the blanks at its ends. -/
def trim (cs : List Char) : List Char :=
  dropEnd isSpace (dropStart isSpace cs)

end Chars

namespace Text

/-- The text without the blanks at its ends. -/
def trim (s : String) : String :=
  String.ofList (Chars.trim s.toList)

/-- The text without the blanks at its end. -/
def trimEnd (s : String) : String :=
  String.ofList (Chars.dropEnd Chars.isSpace s.toList)

/-- Holds when a text has nothing but blanks. -/
def isBlank (s : String) : Bool :=
  s.toList.all Chars.isSpace

/-- An optional text, trimmed; nothing when it is absent or blank. -/
def filled? (s : Option String) : Option String :=
  match s with
  | some t => if isBlank t then none else some (trim t)
  | none => none

end Text

end SchemaForge
