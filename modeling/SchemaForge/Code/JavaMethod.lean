import SchemaForge.Code.JavaVariable

namespace SchemaForge

/-! # Java methods

Methods and constructors, and the methods that read and set a field. The body is a block of text.
-/

/-- A method or constructor. -/
structure JavaMethod where
  name : String
  /-- The type of the result; empty for a constructor. -/
  result : String := ""
  parameters : List JavaVariable := []
  content : String := ""
  access : Access := .everyone
  isStatic : Bool := false
  isAbstract : Bool := false
  isConstructor : Bool := false
  nullability? : Option Nullability := none
  annotations : List String := []
  exceptions : List String := []
deriving DecidableEq, Repr, Inhabited

namespace JavaMethod

/-- The annotation of a method that overrides another. -/
def overrideMark : String :=
  "@Override"

/-- The method with a parameter more. -/
def addParameter (m : JavaMethod) (v : JavaVariable) : JavaMethod :=
  { m with parameters := m.parameters ++ [v] }

/-- The method with an annotation more. -/
def addAnnotation (m : JavaMethod) (text : String) : Except Fault JavaMethod := do
  return { m with annotations := m.annotations ++ [← Code.annotation text] }

/-- The method with a thrown exception more. -/
def addException (m : JavaMethod) (name : String) : Except Fault JavaMethod := do
  return { m with exceptions := m.exceptions ++ [← Code.exception name] }

/-- The method with its annotations and exceptions as they are when each is checked. -/
def checked (m : JavaMethod) : Except Fault JavaMethod := do
  return { m with
    annotations := ← Code.annotations m.annotations
    exceptions := ← m.exceptions.mapM Code.exception }

/-- The annotations, with the one for the nullability at the end. -/
def allAnnotations (m : JavaMethod) : List String :=
  m.annotations ++ (m.nullability?.map (·.marker)).toList

/-- Result, name, parameters and exceptions. -/
def signature (m : JavaMethod) : String :=
  (if m.isConstructor then "" else Text.trim m.result ++ " ") ++ m.name ++ "("
    ++ ", ".intercalate (m.parameters.map (·.renderParameter)) ++ ")"
    ++ (if m.exceptions.isEmpty then "" else " throws " ++ ", ".intercalate m.exceptions)

/-- The body with its braces. Where only the signature is wanted, or the method is abstract, a
semicolon stands in its place. -/
def renderBody (style : Style) (depth : Nat) (signatureOnly : Bool) (m : JavaMethod) : String :=
  if signatureOnly || m.isAbstract then ";\n"
  else " \x7b\n" ++ style.indentBlock (depth + 1) m.content ++ style.pad depth ++ "\x7d\n"

/-- The text of a method. -/
def render (style : Style) (depth : Nat) (signatureOnly : Bool) (m : JavaMethod) : String :=
  let pad := style.pad depth
  Text.concat (m.allAnnotations.map (pad ++ · ++ "\n"))
    ++ pad ++ (if signatureOnly then "" else m.access.keyword .java)
    ++ Code.keyword m.isStatic "static" ++ Code.keyword (m.isAbstract && !signatureOnly) "abstract"
    ++ m.signature ++ m.renderBody style depth signatureOnly

end JavaMethod

namespace JavaVariable

/-- The body of a getter. A copy is handed out where that is asked for. -/
def getterContent (v : JavaVariable) : String :=
  if v.copied then
    "if (" ++ v.name ++ " != null) \x7b\n\treturn (" ++ Text.trim v.type ++ ") " ++ v.name
      ++ ".clone();\n\x7d else \x7b\n\treturn null;\n\x7d"
  else "return " ++ v.name ++ ";"

/-- The method that reads a variable. -/
def getter (v : JavaVariable) : JavaMethod :=
  { name := v.getterName, result := Text.trim v.type, content := v.getterContent
    nullability? := v.nullability?, isStatic := v.isStatic }

/-- The variable as it is named in its setter. -/
def target (v : JavaVariable) : String :=
  if v.isStatic then v.name else "this." ++ v.name

/-- The body of a setter. A copy is kept where that is asked for. -/
def setterContent (v : JavaVariable) : String :=
  if v.copied then
    "if (" ++ v.name ++ " != null) \x7b\n\t" ++ v.target ++ " = (" ++ Text.trim v.type ++ ") "
      ++ v.name ++ ".clone();\n\x7d else \x7b\n\t" ++ v.target ++ " = null;\n\x7d"
  else v.target ++ " = " ++ v.name ++ ";"

/-- The method that sets a variable. -/
def setter (v : JavaVariable) : JavaMethod :=
  { name := v.setterName, result := "void", content := v.setterContent, isStatic := v.isStatic
    parameters := [{ name := v.name, type := Text.trim v.type, nullability? := v.nullability? }] }

/-- The methods that read and set a variable, as far as it asks for them; a final variable is not
set. -/
def accessors (v : JavaVariable) : List JavaMethod :=
  (if v.hasGetter then [v.getter] else []) ++ (if v.hasSetter && !v.isFinal then [v.setter] else [])

end JavaVariable

end SchemaForge
