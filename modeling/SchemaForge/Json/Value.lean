namespace SchemaForge

/-! # JSON values

A number is kept as it is written, and an object keeps its entries in order, also when a key
occurs twice. A string is absent where an escape names half of a surrogate pair alone: the
notation is well formed, but it denotes no text.
-/

/-- A JSON value. -/
inductive Json where
  | null
  | bool (b : Bool)
  | number (digits : String)
  | string (text : Option String)
  | array (items : List Json)
  | object (entries : List (Option String × Json))
deriving Repr, Inhabited

namespace Json

/-- The string with the given text. -/
def text (s : String) : Json :=
  .string (some s)

/-- The number that counts `n` things. -/
def nat (n : Nat) : Json :=
  .number (toString n)

/-- The object with the given entries. -/
def record (entries : List (String × Json)) : Json :=
  .object (entries.map fun entry => (some entry.1, entry.2))

/-- The value of the last entry with this key. -/
def field? (key : String) : Json → Option Json
  | .object entries => (entries.reverse.find? (·.1 == some key)).map (·.2)
  | _ => none

/-! ## Writing -/

/-- The four hexadecimal digits of a code unit. -/
def hex4 (n : Nat) : List Char :=
  [n / 4096 % 16, n / 256 % 16, n / 16 % 16, n % 16].map Nat.digitChar

/-- A character as it stands between the quotes of a string. -/
def escapeChar (c : Char) : List Char :=
  if c = '"' then ['\\', '"']
  else if c = '\\' then ['\\', '\\']
  else if c = '\n' then ['\\', 'n']
  else if c = '\r' then ['\\', 'r']
  else if c = '\t' then ['\\', 't']
  else if c = Char.ofNat 8 then ['\\', 'b']
  else if c = Char.ofNat 12 then ['\\', 'f']
  else if c.toNat < 32 then ['\\', 'u'] ++ hex4 c.toNat
  else [c]

/-- A text between quotes. -/
def quoted (s : String) : String :=
  String.ofList ('"' :: (s.toList.flatMap escapeChar ++ ['"']))

mutual

/-- The value on one line without blanks. -/
def compact : Json → String
  | .null => "null"
  | .bool b => if b then "true" else "false"
  | .number digits => digits
  | .string none => "\"\""
  | .string (some s) => quoted s
  | .array items => "[" ++ compactItems items ++ "]"
  | .object entries => "\x7b" ++ compactEntries entries ++ "\x7d"

/-- The items of an array, separated by commas. -/
def compactItems : List Json → String
  | [] => ""
  | [item] => compact item
  | item :: next :: rest => compact item ++ "," ++ compactItems (next :: rest)

/-- The entries of an object, separated by commas. -/
def compactEntries : List (Option String × Json) → String
  | [] => ""
  | [(key, value)] => quoted (key.getD "") ++ ":" ++ compact value
  | (key, value) :: next :: rest =>
    quoted (key.getD "") ++ ":" ++ compact value ++ "," ++ compactEntries (next :: rest)

end

/-- An object of scalar values with one entry to a line, indented by two spaces. -/
def lines (entries : List (String × Json)) : String :=
  let line (entry : String × Json) := "  " ++ quoted entry.1 ++ ": " ++ compact entry.2
  "\x7b\n" ++ ",\n".intercalate (entries.map line) ++ "\n\x7d"

end Json

end SchemaForge
