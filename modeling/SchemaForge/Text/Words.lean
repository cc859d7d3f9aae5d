import SchemaForge.Text.Alphanumeric
import SchemaForge.Text.LetterCase

namespace SchemaForge

/-! # Words of a name

A name such as `FIRST_NAME`, `firstName` or `HTTPServer` is a sequence of words. Every character
that is no letter or digit separates words, and so does a change of case: a word ends before a
capital that follows a small letter, and before the last capital of a row of capitals that a small
letter follows.
-/

namespace Chars

/-- The case of a character: neither, for digits and for scripts without case. -/
inductive LetterKind where
  | small
  | capital
  | neither
deriving DecidableEq, Repr

/-- The case of a character. -/
def letterKind (c : Char) : LetterKind :=
  if isLowercase c then .small else if isUppercase c then .capital else .neither

/-- The words in a run of letters and digits. Here `word` is the word read so far and `last` is
the case of its last letter, `neither` at the beginning of a word. A cut in front of a character
leaves that character without influence on `last`. -/
def humps (word : List Char) (last : LetterKind) : List Char → List (List Char)
  | [] => if word.isEmpty then [] else [word]
  | [c] => [word ++ [c]]
  | c :: next :: cs =>
    let current := if letterKind c = .neither then last else letterKind c
    if current = .small ∧ isUppercase next then
      (word ++ [c]) :: humps [] .neither (next :: cs)
    else if last = .capital ∧ isUppercase c ∧ isLowercase next then
      word :: humps [c] .neither (next :: cs)
    else humps (word ++ [c]) current (next :: cs)

/-- The maximal runs of letters and digits; empty between two neighbouring separators. -/
def runs : List Char → List (List Char)
  | [] => [[]]
  | c :: cs =>
    if isAlphanumeric c then
      match runs cs with
      | [] => [[c]]
      | run :: rest => (c :: run) :: rest
    else [] :: runs cs

/-- The words of a name. -/
def words (cs : List Char) : List (List Char) :=
  (runs cs).flatMap (humps [] .neither)

/-- The word in small letters; a sigma that ends it is final. -/
def lowerWord : List Char → List Char
  | [] => []
  | ['Σ'] => ['ς']
  | c :: cs => lowerChar c ++ lowerWord cs

/-- The word with a capital first letter and small letters after it. -/
def capitalize : List Char → List Char
  | [] => []
  | c :: cs => upperChar c ++ lowerWord cs

end Chars

end SchemaForge
