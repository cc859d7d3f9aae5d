import SchemaForge.Language
import SchemaForge.Text.Pieces

namespace SchemaForge

/-! # Quoted literals

String and character literals of the generated sources: the characters between two quotes, where a
backslash takes away the meaning of the character behind it. A literal is recognised by its form, so
that a text that already is one can be left alone.
-/

namespace Literal

/-- Holds for the rest of a literal from behind its first quote: pieces, each a character other than
the quote and the backslash or a backslash and the character it escapes, and then the last quote. -/
def closes (quote : Char) : List Char → Bool
  | [] => false
  | [c] => c = quote
  | '\\' :: _ :: rest => closes quote rest
  | c :: next :: rest => c ≠ quote && closes quote (next :: rest)

/-- Holds for a literal between these quotes. -/
def isQuotedChars (quote : Char) : List Char → Bool
  | [] => false
  | c :: rest => c = quote && closes quote rest

/-- Holds for a text that is a literal between these quotes. -/
def isQuoted (quote : Char) (s : String) : Bool :=
  isQuotedChars quote s.toList

/-- A character as it stands in a string literal. Only Kotlin gives the dollar a meaning there. -/
def escapeChar (l : Language) (c : Char) : List Char :=
  if c = '"' ∨ c = '\\' then ['\\', c]
  else if c = '$' ∧ l = .kotlin then ['\\', '$']
  else if c = '\n' then ['\\', 'n']
  else [c]

/-- The string literal of a text. -/
def quote (l : Language) (s : String) : String :=
  "\"" ++ String.ofList (s.toList.flatMap (escapeChar l)) ++ "\""

/-- The literal between apostrophes that holds a text; the text itself if it is such a literal. -/
def character (s : String) : String :=
  if isQuoted '\'' s then s
  else
    let escape (c : Char) : List Char := if c = '\\' ∨ c = '\'' then ['\\', c] else [c]
    "'" ++ String.ofList (s.toList.flatMap escape) ++ "'"

end Literal

end SchemaForge
