import SchemaForge.Code.Access
import SchemaForge.Code.Annotation
import SchemaForge.Code.Style
import SchemaForge.Literal.Default

namespace SchemaForge

/-! # Java variables

Fields, constants and parameters.
-/

/-- Whether a reference may be null. -/
inductive Nullability where
  | never
  | possible
deriving DecidableEq, Repr

/-- The annotation that tells whether a reference may be null. -/
def Nullability.marker : Nullability → String
  | never => "@Nonnull"
  | possible => "@Nullable"

/-- The primitive types, whose values are no references. -/
def isPrimitiveType (type : String) : Bool :=
  ["boolean", "byte", "char", "short", "int", "long", "float", "double"].contains (Text.trim type)

/-- A field, constant or parameter. -/
structure JavaVariable where
  name : String
  type : String
  /-- The expression it starts with; blank when there is none. -/
  value : String := ""
  access : Access := .owner
  isStatic : Bool := false
  isFinal : Bool := false
  nullability? : Option Nullability := none
  hasGetter : Bool := false
  hasSetter : Bool := false
  /-- Holds when getter and setter hand out copies. -/
  copied : Bool := false
  annotations : List String := []
deriving DecidableEq, Repr, Inhabited

namespace JavaVariable

/-- A public constant. -/
def constant (name type value : String) : JavaVariable :=
  { name, type, value, access := .everyone, isStatic := true, isFinal := true }

/-- The variable with the default that a schema declares. -/
def withDefault (v : JavaVariable) (declared : String) : JavaVariable :=
  { v with value := Literal.ofDefault .java v.type declared }

/-- The variable with getter and setter. -/
def withAccessors (v : JavaVariable) : JavaVariable :=
  { v with hasGetter := true, hasSetter := true }

/-- The variable with a nullability, unless its type is primitive. -/
def withNullability (v : JavaVariable) (n : Nullability) : JavaVariable :=
  if isPrimitiveType v.type then v else { v with nullability? := some n }

/-- The variable with an annotation more. -/
def addAnnotation (v : JavaVariable) (text : String) : Except Fault JavaVariable := do
  return { v with annotations := v.annotations ++ [← Code.annotation text] }

/-- The name of the method that reads the variable: `isActive` for a truth value, else
`getName`. -/
def getterName (v : JavaVariable) : String :=
  let type := Text.trim v.type
  (if type = "boolean" ∨ type = "Boolean" then "is" else "get") ++ Naming.upperFirst v.name

/-- The name of the method that sets the variable. -/
def setterName (v : JavaVariable) : String :=
  "set" ++ Naming.upperFirst v.name

/-- The annotations, with the one for the nullability at the end. -/
def allAnnotations (v : JavaVariable) : List String :=
  v.annotations ++ (v.nullability?.map (·.marker)).toList

/-- The declaration, without annotations. -/
def declaration (v : JavaVariable) : String :=
  v.access.keyword .java ++ Code.keyword v.isStatic "static" ++ Code.keyword v.isFinal "final"
    ++ Text.trim v.type ++ " " ++ v.name ++ Code.orNothing v.value (" = " ++ ·) ++ ";"

/-- The text of a field. -/
def render (style : Style) (depth : Nat) (v : JavaVariable) : String :=
  Text.concat (v.allAnnotations.map (style.pad depth ++ · ++ "\n"))
    ++ style.indentBlock depth v.declaration

/-- A parameter as it stands between the parentheses. -/
def renderParameter (v : JavaVariable) : String :=
  Text.concat (v.allAnnotations.map (· ++ " ")) ++ Text.trim v.type ++ " " ++ v.name

end JavaVariable

end SchemaForge
