import SchemaForge.Json.Value
import SchemaForge.Text.Lexing

namespace SchemaForge

/-! # Reading JSON

A text is cut into tokens, and the tokens are read one by one with a stack of the arrays and
objects that are still open. Blanks are the space, the tab, the line feed and the carriage return.
-/

namespace Json

/-! ## Tokens -/

/-- A token: a bracket, a separator, or a value that is no array and no object. -/
inductive Token where
  | openArray
  | closeArray
  | openObject
  | closeObject
  | comma
  | colon
  | scalar (value : Json)

/-- The value of a hexadecimal digit. -/
def hexDigit? (c : Char) : Option Nat :=
  if '0' ≤ c ∧ c ≤ '9' then some (c.toNat - 48)
  else if 'a' ≤ c ∧ c ≤ 'f' then some (c.toNat - 87)
  else if 'A' ≤ c ∧ c ≤ 'F' then some (c.toNat - 55)
  else none

/-- The code unit with these four hexadecimal digits. -/
def unit? (a b c d : Char) : Option Nat := do
  return 4096 * (← hexDigit? a) + 256 * (← hexDigit? b) + 16 * (← hexDigit? c) + (← hexDigit? d)

/-- The character that a one-letter escape stands for. -/
def escaped? (c : Char) : Option Nat :=
  match c with
  | '"' => some 34
  | '\\' => some 92
  | '/' => some 47
  | 'b' => some 8
  | 'f' => some 12
  | 'n' => some 10
  | 'r' => some 13
  | 't' => some 9
  | _ => none

/-- The code points of a string up to its closing quote, and the text after it. An escape may
give half of a surrogate pair. -/
def stringUnits? : List Char → Option (List Nat × List Char)
  | [] => none
  | '"' :: rest => some ([], rest)
  | '\\' :: 'u' :: a :: b :: c :: d :: rest => do
    let unit ← unit? a b c d
    let (units, after) ← stringUnits? rest
    return (unit :: units, after)
  | '\\' :: c :: rest => do
    let unit ← escaped? c
    let (units, after) ← stringUnits? rest
    return (unit :: units, after)
  | c :: rest =>
    if c.toNat < 32 ∨ c = '\\' then none
    else do
      let (units, after) ← stringUnits? rest
      return (c.toNat :: units, after)

/-- The text with these code points. A high and a low half of a surrogate pair give one
character; a half alone gives none. -/
def textOfUnits? : List Nat → Option (List Char)
  | [] => some []
  | [u] => if 0xD800 ≤ u ∧ u < 0xE000 then none else some [Char.ofNat u]
  | u :: v :: rest =>
    if 0xD800 ≤ u ∧ u < 0xDC00 then
      if 0xDC00 ≤ v ∧ v < 0xE000 then
        (textOfUnits? rest).map (Char.ofNat (0x10000 + (u - 0xD800) * 1024 + (v - 0xDC00)) :: ·)
      else none
    else if 0xDC00 ≤ u ∧ u < 0xE000 then none
    else (textOfUnits? (v :: rest)).map (Char.ofNat u :: ·)

/-- The longest beginning that consists of decimal digits, and the rest. -/
def digits (cs : List Char) : List Char × List Char :=
  (cs.takeWhile Char.isDigit, cs.dropWhile Char.isDigit)

/-- The whole part of a number: a zero alone, or digits that start with another one. -/
def wholePart? (cs : List Char) : Option (List Char × List Char) :=
  match digits cs with
  | ([], _) => none
  | (['0'], rest) => some (['0'], rest)
  | ('0' :: _, _) => none
  | parts => some parts

/-- The fraction of a number, if one begins here. -/
def fraction? (cs : List Char) : Option (List Char × List Char) :=
  match cs with
  | '.' :: rest =>
    match digits rest with
    | ([], _) => none
    | (ds, after) => some ('.' :: ds, after)
  | _ => some ([], cs)

/-- The sign of an exponent, if one stands here. -/
def sign (cs : List Char) : List Char × List Char :=
  match cs with
  | '+' :: rest => (['+'], rest)
  | '-' :: rest => (['-'], rest)
  | _ => ([], cs)

/-- The exponent of a number, if one begins here. -/
def exponent? (cs : List Char) : Option (List Char × List Char) :=
  match cs with
  | c :: rest =>
    if c = 'e' ∨ c = 'E' then
      match digits (sign rest).2 with
      | ([], _) => none
      | (ds, after) => some (c :: (sign rest).1 ++ ds, after)
    else some ([], cs)
  | [] => some ([], [])

/-- A number without its sign: whole part, fraction and exponent. -/
def unsigned? (cs : List Char) : Option (List Char × List Char) := do
  let (whole, rest) ← wholePart? cs
  let (fraction, rest) ← fraction? rest
  let (exponent, rest) ← exponent? rest
  return (whole ++ fraction ++ exponent, rest)

/-- The token that begins with the character `c`, and the text after it. -/
def token? (c : Char) (cs : List Char) : Option (Token × List Char) :=
  match c with
  | '[' => some (.openArray, cs)
  | ']' => some (.closeArray, cs)
  | '\x7b' => some (.openObject, cs)
  | '\x7d' => some (.closeObject, cs)
  | ',' => some (.comma, cs)
  | ':' => some (.colon, cs)
  | '"' => do
    let (units, rest) ← stringUnits? cs
    return (.scalar (.string ((textOfUnits? units).map String.ofList)), rest)
  | '-' => do
    let (figures, rest) ← unsigned? cs
    return (.scalar (.number (String.ofList ('-' :: figures))), rest)
  | 't' => if "rue".toList <+: cs then some (.scalar (.bool true), cs.drop 3) else none
  | 'f' => if "alse".toList <+: cs then some (.scalar (.bool false), cs.drop 4) else none
  | 'n' => if "ull".toList <+: cs then some (.scalar .null, cs.drop 3) else none
  | _ => do
    let (figures, rest) ← unsigned? (c :: cs)
    return (.scalar (.number (String.ofList figures)), rest)

/-- The blanks that may stand between tokens. -/
def isBlank (c : Char) : Bool :=
  c = ' ' || c = '\t' || c = '\n' || c = '\r'

/-- The first token of a text that begins with one, and the text after it and the blanks behind
it. -/
def firstToken? : List Char → Option (Token × List Char)
  | [] => none
  | c :: cs => (token? c cs).map fun found => (found.1, found.2.dropWhile isBlank)

/-! ## Values -/

/-- An array or object that is still open, with what has been read of it. An `entry` is a key
whose value is to come; it lies on top of its object. -/
inductive Open where
  | array (items : List Json)
  | object (entries : List (Option String × Json))
  | entry (key : Option String)

/-- What may come next, with the open containers, the innermost first. -/
inductive State where
  | value (stack : List Open)
  | firstItem (stack : List Open)
  | key (stack : List Open)
  | firstKey (stack : List Open)
  | colon (stack : List Open)
  | afterItem (stack : List Open)
  | finished (value : Json)

/-- Puts a complete value into the innermost open container. -/
def State.complete? (v : Json) : List Open → Option State
  | [] => some (.finished v)
  | .array items :: stack => some (.afterItem (.array (items ++ [v]) :: stack))
  | .entry k :: .object entries :: stack =>
    some (.afterItem (.object (entries ++ [(k, v)]) :: stack))
  | _ => none

/-- Reads a token at the beginning of a value. -/
def State.begin? (stack : List Open) : Token → Option State
  | .openArray => some (.firstItem (.array [] :: stack))
  | .openObject => some (.firstKey (.object [] :: stack))
  | .scalar v => complete? v stack
  | _ => none

/-- Reads the token that closes the innermost container. -/
def State.close? : List Open → Token → Option State
  | .array items :: stack, .closeArray => complete? (.array items) stack
  | .object entries :: stack, .closeObject => complete? (.object entries) stack
  | _, _ => none

/-- Reads a token as the key of an entry. -/
def State.key? (stack : List Open) : Token → Option State
  | .scalar (.string k) => some (.colon (.entry k :: stack))
  | _ => none

/-- Reads one token. -/
def State.step : State → Token → Option State
  | .value stack, token => begin? stack token
  | .firstItem stack, .closeArray => close? stack .closeArray
  | .firstItem stack, token => begin? stack token
  | .firstKey stack, .closeObject => close? stack .closeObject
  | .firstKey stack, token => key? stack token
  | .key stack, token => key? stack token
  | .colon stack, .colon => some (.value stack)
  | .afterItem (.array items :: stack), .comma => some (.value (.array items :: stack))
  | .afterItem (.object entries :: stack), .comma => some (.key (.object entries :: stack))
  | .afterItem stack, token => close? stack token
  | _, _ => none

/-- Reads a JSON document: one value with nothing but blanks around it. -/
def read? (s : String) : Option Json := do
  let tokens ← Chars.tokens? firstToken? (s.toList.dropWhile isBlank)
  match ← tokens.foldlM State.step (.value []) with
  | .finished v => some v
  | _ => none

end Json

end SchemaForge
