import SchemaForge.Literal.Quoted
import SchemaForge.Text.Ascii

namespace SchemaForge

/-! # Default values

The expression that a property starts with, made from the default that the schema declares. The rule
depends on the declared type of the property. A default that is blank or `NULL` gives the zero value
of the type, and a default that already is an expression of the type is left alone.
-/

namespace Literal

/-- How the default of a property is written. -/
inductive Rule where
  | text
  | integral
  | long
  | float
  | double
  | boolean
  | character
  | date
  | number (className : String)
  | bytes
deriving DecidableEq, Repr

/-- The rules that both languages have for the same types. -/
def commonRules : List (String × Rule) :=
  [("String", .text), ("Short", .integral), ("Byte", .integral), ("Float", .float),
    ("Double", .double), ("Boolean", .boolean), ("Date", .date), ("java.util.Date", .date),
    ("BigInteger", .number "BigInteger"), ("java.math.BigInteger", .number "BigInteger"),
    ("BigDecimal", .number "BigDecimal"), ("java.math.BigDecimal", .number "BigDecimal")]

/-- The rules that only Kotlin has. -/
def kotlinRules : List (String × Rule) :=
  [("Int", .integral), ("Long", .integral), ("Char", .character), ("ByteArray", .bytes)]

/-- The rules that only Java has. -/
def javaRules : List (String × Rule) :=
  [("int", .integral), ("Integer", .integral), ("short", .integral), ("byte", .integral),
    ("long", .long), ("Long", .long), ("float", .float), ("double", .double),
    ("boolean", .boolean), ("char", .character), ("Character", .character), ("byte[]", .bytes)]

/-- The rule for a declared type; none for a type without literals. Kotlin marks a type that may be
null by a question mark, which does not matter here. -/
def rule? (l : Language) (type : String) : Option Rule :=
  match l with
  | .kotlin => (commonRules ++ kotlinRules).lookup (Text.dropEndChar '?' (Text.trim type))
  | .java => (commonRules ++ javaRules).lookup (Text.trim type)

/-- The text, or another one in its place when it is empty. -/
def orElse (other s : String) : String :=
  if s = "" then other else s

/-- The text with a suffix, unless it ends in one of these characters. -/
def withSuffix (suffix : String) (endings : List Char) (s : String) : String :=
  if endings.any (Text.endsWithChar · s) then s else s ++ suffix

/-- A truth value: `1` and `true` in any case, `0` and `false` in any case, or the text itself. -/
def truth (s : String) : String :=
  if s = "1" ∨ Text.sameName s "true" then "true"
  else if s = "0" ∨ s = "" ∨ Text.sameName s "false" then "false"
  else s

/-- A number with a point. -/
def double (s : String) : String :=
  if s.toList.any ['.', 'e', 'E'].contains then s
  else withSuffix ".0" ['f', 'F', 'd', 'D'] s

/-- The construction of a number of unlimited size from its digits, unless the text already is
one. -/
def bigNumber (l : Language) (name s : String) : String :=
  let full := "java.math." ++ name
  match l with
  | .kotlin =>
    if Text.beginsWith full s || Text.beginsWith (name ++ "(") s then s
    else full ++ "(\"" ++ orElse "0" s ++ "\")"
  | .java =>
    if Text.beginsWith "new " s then s else "new " ++ full ++ "(\"" ++ orElse "0" s ++ "\")"

/-- Writes a trimmed default by a rule; it is empty when there is none. -/
def Rule.write (l : Language) (s : String) : Rule → String
  | text => if isQuoted '"' s then s else quote l s
  | integral => orElse "0" s
  | long => if s = "" then "0L" else withSuffix "L" ['l', 'L'] s
  | float => if s = "" then "0.0f" else withSuffix "f" ['f', 'F'] s
  | double => if s = "" then "0.0" else Literal.double s
  | boolean => truth s
  | character => if s = "" then "'\\u0000'" else Literal.character s
  | date =>
    if Text.sameName s "now" then
      match l with
      | .kotlin => "java.util.Date()"
      | .java => "new java.util.Date()"
    else orElse "null" s
  | number name => bigNumber l name s
  | bytes =>
    match l with
    | .kotlin => orElse "ByteArray(0)" s
    | .java => orElse "new byte[0]" s

/-- The default that a text declares: nothing when it is blank or `NULL`. -/
def declared (s : String) : String :=
  if Text.sameName (Text.trim s) "null" then "" else Text.trim s

/-- The expression for the default of a property of a declared type. -/
def ofDefault (l : Language) (type s : String) : String :=
  match rule? l type with
  | some rule => rule.write l (declared s)
  | none => orElse "null" (declared s)

end Literal

end SchemaForge
