import SchemaForge.Text.Alphanumeric
import SchemaForge.Text.Pieces

namespace SchemaForge

/-! # XML characters and names

Which characters a document may hold, which of them make up names, and names with a prefix.
-/

namespace Xml

/-- The blanks of the notation: space, tab, line feed and carriage return. -/
def isSpace (c : Char) : Bool :=
  c = ' ' || c = '\t' || c = '\n' || c = '\r'

/-- The characters that a document may hold. -/
def isChar (c : Char) : Bool :=
  isSpace c || (32 ≤ c.toNat && c.toNat ≠ 0xFFFE && c.toNat ≠ 0xFFFF)

/-- The code points beyond ASCII that may begin a name. -/
def nameStartRanges : List (Nat × Nat) :=
  [(0xC0, 0xD6), (0xD8, 0xF6), (0xF8, 0x2FF), (0x370, 0x37D), (0x37F, 0x1FFF), (0x200C, 0x200D),
  (0x2070, 0x218F), (0x2C00, 0x2FEF), (0x3001, 0xD7FF), (0xF900, 0xFDCF), (0xFDF0, 0xFFFD),
  (0x10000, 0xEFFFF)]

/-- The characters that may begin a name, the colon apart. -/
def isNameStart (c : Char) : Bool :=
  ('A' ≤ c && c ≤ 'Z') || ('a' ≤ c && c ≤ 'z') || c = '_' || Chars.inRanges c.toNat nameStartRanges

/-- The characters that a name may hold, the colon apart. -/
def isNameChar (c : Char) : Bool :=
  isNameStart c || c.isDigit || c = '-' || c = '.' || c.toNat = 0xB7
    || (0x300 ≤ c.toNat && c.toNat ≤ 0x36F) || (0x203F ≤ c.toNat && c.toNat ≤ 0x2040)

/-- A name as it is written; the prefix is empty when there is none. -/
structure QName where
  space : String
  name : String
deriving DecidableEq, Repr

/-- Holds for a text that begins as a name does. -/
def startsName (cs : List Char) : Bool :=
  match cs with
  | c :: _ => isNameStart c
  | [] => false

/-- Reads a name from the front of a text. At most one colon divides it. -/
def qname? (cs : List Char) : Option (QName × List Char) :=
  let inName (c : Char) := isNameChar c || c = ':'
  let rest := cs.dropWhile inName
  match Chars.splitOn ':' (cs.takeWhile inName) with
  | [name] => if startsName name then some (⟨"", String.ofList name⟩, rest) else none
  | [space, name] =>
    if (space.isEmpty || startsName space) && startsName name then
      some (⟨String.ofList space, String.ofList name⟩, rest)
    else none
  | _ => none

/-- Reads a name in which a colon is a letter like any other. -/
def plainName? (cs : List Char) : Option (String × List Char) :=
  match cs with
  | [] => none
  | c :: rest =>
    let inName (d : Char) := isNameChar d || d = ':'
    if isNameStart c || c = ':' then
      some (String.ofList (c :: rest.takeWhile inName), rest.dropWhile inName)
    else none

end Xml

end SchemaForge
