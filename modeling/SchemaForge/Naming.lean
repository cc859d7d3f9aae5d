import SchemaForge.Text.Pieces
import SchemaForge.Text.Words

namespace SchemaForge

/-! # Names in generated sources

Names of tables and columns are turned into names of classes, variables and constants by taking
them apart into words and joining the words in another style.
-/

namespace Naming

open Chars

/-- Capitalised words without separator: `INDIVIDUAL_TYPE` names the class `IndividualType`. -/
def className (name : String) : String :=
  String.ofList ((words name.toList).flatMap capitalize)

/-- The first word small, the others capitalised: `FIRST_NAME` names the variable `firstName`. -/
def variableName (name : String) : String :=
  match words name.toList with
  | [] => ""
  | word :: rest => String.ofList (lowerWord word ++ rest.flatMap capitalize)

/-- Words in capitals, joined by underscores: `firstName` names the constant `FIRST_NAME`. -/
def constantName (name : String) : String :=
  String.ofList (['_'].intercalate ((words name.toList).map upper))

/-- The first letter as a capital and the rest as small letters. -/
def titleCase : List Char → List Char
  | [] => []
  | c :: cs => upperChar c ++ lower cs

/-- The text shown for an enumeration literal: the pieces between the underscores in title case,
with a space between them. `HEAD_OF_HOUSE` is shown as `Head Of House`. -/
def displayName (name : String) : String :=
  let pieces := (splitOn '_' name.toList).filter (!·.isEmpty)
  String.ofList ([' '].intercalate (pieces.map titleCase))

/-- The text with its first character as a capital and the rest unchanged. -/
def upperFirst (name : String) : String :=
  match name.toList with
  | [] => ""
  | c :: cs => String.ofList (upperChar c ++ cs)

end Naming

end SchemaForge
