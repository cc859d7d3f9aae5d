import SchemaForge.Text.Blank

namespace SchemaForge

/-! # Cutting and joining texts

Splitting at a separator, splitting into lines, and replacing single characters.
-/

namespace Chars

/-- The pieces between the separators: one more than there are separators. -/
def splitOn (sep : Char) : List Char → List (List Char)
  | [] => [[]]
  | c :: cs =>
    if c = sep then [] :: splitOn sep cs
    else
      match splitOn sep cs with
      | [] => [[c]]
      | piece :: pieces => (c :: piece) :: pieces

/-- The parts before and after the first separator, if there is one. -/
def splitOnce? (sep : Char) : List Char → Option (List Char × List Char)
  | [] => none
  | c :: cs =>
    if c = sep then some ([], cs)
    else (splitOnce? sep cs).map fun parts => (c :: parts.1, parts.2)

/-- The lines of a text. A line ends at a line feed, or at a carriage return and a line feed; the
end of the last line may be missing. -/
def lines : List Char → List (List Char)
  | [] => []
  | '\n' :: cs => [] :: lines cs
  | '\r' :: '\n' :: cs => [] :: lines cs
  | c :: cs =>
    match lines cs with
    | [] => [[c]]
    | line :: rest => (c :: line) :: rest

end Chars

namespace Text

/-- The pieces between the separators: one more than there are separators. -/
def splitOn (sep : Char) (s : String) : List String :=
  (Chars.splitOn sep s.toList).map String.ofList

/-- The lines of a text, without the characters that end them. -/
def lines (s : String) : List String :=
  (Chars.lines s.toList).map String.ofList

/-- The text with every occurrence of `c` written as `new`. -/
def replaceChar (c : Char) (new : String) (s : String) : String :=
  String.ofList (s.toList.flatMap fun d => if d = c then new.toList else [d])

/-- The text without the character `c`. -/
def removeChar (c : Char) (s : String) : String :=
  String.ofList (s.toList.filter (· ≠ c))

/-- The text without the `c`s that it ends with. -/
def dropEndChar (c : Char) (s : String) : String :=
  String.ofList (Chars.dropEnd (· = c) s.toList)

/-- Holds when the text ends with `c`. -/
def endsWithChar (c : Char) (s : String) : Bool :=
  s.toList.getLast? == some c

/-- Holds for a text that begins with `start`. -/
def beginsWith (start s : String) : Bool :=
  start.toList.isPrefixOf s.toList

/-- The texts one after the other. -/
def concat (ss : List String) : String :=
  ss.foldr (· ++ ·) ""

/-- The text `s`, `n` times. -/
def repeated (s : String) : Nat → String
  | 0 => ""
  | n + 1 => s ++ repeated s n

end Text

end SchemaForge
