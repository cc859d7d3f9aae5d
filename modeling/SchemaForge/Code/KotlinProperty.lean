import SchemaForge.Code.Access
import SchemaForge.Code.Annotation
import SchemaForge.Code.Style
import SchemaForge.Literal.Default

namespace SchemaForge

/-! # Kotlin properties

Properties, constants and parameters.
-/

/-- A property, constant or parameter. -/
structure KotlinProperty where
  name : String
  /-- The declared type; blank when it is inferred. -/
  type : String := ""
  /-- The expression it starts with; blank when there is none. -/
  value : String := ""
  /-- Holds for a parameter, which has neither keyword nor access. -/
  isParameter : Bool := false
  access : Access := .everyone
  mutable : Bool := false
  isOpen : Bool := false
  overrides : Bool := false
  isInline : Bool := false
  isLate : Bool := false
  isConstant : Bool := false
  privateSetter : Bool := false
  annotations : List String := []
deriving DecidableEq, Repr, Inhabited

namespace KotlinProperty

/-- A parameter. -/
def parameter (name type : String) : KotlinProperty :=
  { name, type, isParameter := true }

/-- A constant with an inferred type. -/
def constant (name value : String) : KotlinProperty :=
  { name, value, isConstant := true }

/-- The property with the default that a schema declares. -/
def withDefault (p : KotlinProperty) (declared : String) : KotlinProperty :=
  { p with value := Literal.ofDefault .kotlin p.type declared }

/-- The property with an annotation more. -/
def addAnnotation (p : KotlinProperty) (text : String) : Except Fault KotlinProperty := do
  return { p with annotations := p.annotations ++ [← Code.annotation text] }

/-- The name of the function that reads the property: `isActive` for a truth value, else
`getName`. -/
def getterName (p : KotlinProperty) : String :=
  (if Text.dropEndChar '?' p.type = "Boolean" then "is" else "get") ++ Naming.upperFirst p.name

/-- Name, type and value. -/
def signature (p : KotlinProperty) : String :=
  p.name ++ Code.orNothing p.type (fun type => ": " ++ Text.trim type)
    ++ Code.orNothing p.value (" = " ++ ·)

/-- The declaration of a property. -/
def renderDeclaration (style : Style) (depth : Nat) (p : KotlinProperty) : String :=
  let pad := style.pad depth
  Text.concat (p.annotations.map (pad ++ · ++ "\n"))
    ++ pad ++ p.access.keyword .kotlin ++ Code.keyword p.isOpen "open"
    ++ Code.keyword p.overrides "override" ++ Code.keyword p.isInline "inline"
    ++ Code.keyword p.isLate "lateinit" ++ Code.keyword p.isConstant "const"
    ++ (if p.mutable then "var " else "val ") ++ p.signature ++ "\n"
    ++ (if p.privateSetter then style.pad (depth + 1) ++ "private set\n" else "")

/-- A parameter as it stands between the parentheses. -/
def renderParameter (p : KotlinProperty) : String :=
  Text.concat (p.annotations.map (· ++ " ")) ++ p.signature

/-- The text of a property or parameter. -/
def render (style : Style) (depth : Nat) (p : KotlinProperty) : String :=
  if p.isParameter then p.renderParameter else p.renderDeclaration style depth

end KotlinProperty

end SchemaForge
