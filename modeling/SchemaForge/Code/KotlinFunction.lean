import SchemaForge.Code.KotlinProperty

namespace SchemaForge

/-! # Kotlin functions

Functions and secondary constructors. The body is a block of text.
-/

/-- A function or secondary constructor. -/
structure KotlinFunction where
  name : String := ""
  isConstructor : Bool := false
  parameters : List KotlinProperty := []
  /-- The type of the result; blank when there is none. -/
  result : String := ""
  content : String := ""
  access : Access := .everyone
  isAbstract : Bool := false
  isOpen : Bool := false
  overrides : Bool := false
  isInline : Bool := false
  /-- The call of another constructor that a constructor begins with. -/
  delegate : String := ""
  annotations : List String := []
  exceptions : List String := []
deriving DecidableEq, Repr, Inhabited

namespace KotlinFunction

/-- The function with a parameter more. -/
def addParameter (f : KotlinFunction) (p : KotlinProperty) : KotlinFunction :=
  { f with parameters := f.parameters ++ [{ p with isParameter := true }] }

/-- The function with an annotation more. -/
def addAnnotation (f : KotlinFunction) (text : String) : Except Fault KotlinFunction := do
  return { f with annotations := f.annotations ++ [← Code.annotation text] }

/-- The function with a thrown exception more. -/
def addException (f : KotlinFunction) (name : String) : Except Fault KotlinFunction := do
  return { f with exceptions := f.exceptions ++ [← Code.exception name] }

/-- The function with its annotations and exceptions as they are when each is checked. -/
def checked (f : KotlinFunction) : Except Fault KotlinFunction := do
  return { f with
    annotations := ← Code.annotations f.annotations
    exceptions := ← f.exceptions.mapM Code.exception }

/-- The annotation that names the thrown exceptions. -/
def renderExceptions (pad : String) (f : KotlinFunction) : String :=
  if f.exceptions.isEmpty then ""
  else pad ++ "@Throws(" ++ ", ".intercalate (f.exceptions.map (· ++ "::class")) ++ ")\n"

/-- Keyword, name, parameters and result. -/
def signature (style : Style) (f : KotlinFunction) : String :=
  let parameters := "(" ++ ", ".intercalate (f.parameters.map (·.render style 0)) ++ ")"
  if f.isConstructor then
    "constructor" ++ parameters ++ (if f.delegate = "" then "" else " : " ++ f.delegate)
  else
    "fun " ++ f.name ++ parameters ++ Code.orNothing f.result (fun type => ": " ++ Text.trim type)

/-- The body with its braces. A constructor that does nothing has none, and where only the
signature is wanted, or the function is abstract, a semicolon stands in its place. -/
def renderBody (style : Style) (depth : Nat) (signatureOnly : Bool) (f : KotlinFunction) :
    String :=
  if signatureOnly || f.isAbstract then ";\n"
  else if f.isConstructor && Text.isBlank f.content then "\n"
  else " \x7b\n" ++ style.indentBlock (depth + 1) f.content ++ style.pad depth ++ "\x7d\n"

/-- The text of a function. -/
def render (style : Style) (depth : Nat) (signatureOnly : Bool) (f : KotlinFunction) : String :=
  let pad := style.pad depth
  Text.concat (f.annotations.map (pad ++ · ++ "\n")) ++ f.renderExceptions pad
    ++ pad ++ f.access.keyword .kotlin ++ Code.keyword f.isOpen "open"
    ++ Code.keyword f.overrides "override" ++ Code.keyword f.isAbstract "abstract"
    ++ Code.keyword f.isInline "inline" ++ f.signature style
    ++ f.renderBody style depth signatureOnly

end KotlinFunction

end SchemaForge
