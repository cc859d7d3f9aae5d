namespace SchemaForge

/-! # ASCII letters

Keywords and SQL names are compared without regard to the case of ASCII letters. Every other
character stands for itself, so `É` and `é` are different names.
-/

namespace Chars

/-- The character, an ASCII capital letter made small. -/
def lowerAscii (c : Char) : Char :=
  if 'A' ≤ c ∧ c ≤ 'Z' then Char.ofNat (c.toNat + 32) else c

/-- The character, an ASCII small letter made capital. -/
def upperAscii (c : Char) : Char :=
  if 'a' ≤ c ∧ c ≤ 'z' then Char.ofNat (c.toNat - 32) else c

end Chars

namespace Text

/-- The text with its ASCII capital letters made small. -/
def lowerAscii (s : String) : String :=
  String.ofList (s.toList.map Chars.lowerAscii)

/-- The text with its ASCII small letters made capital. -/
def upperAscii (s : String) : String :=
  String.ofList (s.toList.map Chars.upperAscii)

/-- Two texts are the same name when they differ at most in the case of ASCII letters. -/
def sameName (s t : String) : Bool :=
  lowerAscii s == lowerAscii t

theorem sameName_iff {s t : String} : sameName s t = true ↔ lowerAscii s = lowerAscii t := by
  simp [sameName]

end Text

end SchemaForge
