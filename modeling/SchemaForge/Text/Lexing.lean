namespace SchemaForge

/-! # Cutting a text into tokens

A lexer reads one token from the front of a text and gives back the rest. Every token has a
character at least, so a text has no more tokens than characters.
-/

namespace Chars

/-- The tokens of a text that has at most `bound` of them. -/
def tokensUpTo? {α : Type} (token? : List Char → Option (α × List Char)) :
    Nat → List Char → Option (List α)
  | _, [] => some []
  | 0, _ => none
  | bound + 1, cs => do
    let (token, rest) ← token? cs
    return token :: (← tokensUpTo? token? bound rest)

/-- The tokens of a text; nothing when some part of it is no token. -/
def tokens? {α : Type} (token? : List Char → Option (α × List Char)) (cs : List Char) :
    Option (List α) :=
  tokensUpTo? token? cs.length cs

/-- The text after `start`, if the text begins with it. -/
def after? (start : String) (cs : List Char) : Option (List Char) :=
  if start.toList <+: cs then some (cs.drop start.length) else none

/-- The text before and after the first occurrence of `stop`. -/
def until? (stop : List Char) : List Char → Option (List Char × List Char)
  | [] => if stop.isEmpty then some ([], []) else none
  | c :: cs =>
    if stop <+: c :: cs then some ([], (c :: cs).drop stop.length)
    else (until? stop cs).map fun parts => (c :: parts.1, parts.2)

/-- Whether `part` occurs in a text. -/
def holds (part cs : List Char) : Bool :=
  (until? part cs).isSome

end Chars

end SchemaForge
