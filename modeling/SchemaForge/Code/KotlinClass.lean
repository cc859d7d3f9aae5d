import SchemaForge.Code.Building
import SchemaForge.Code.KotlinFunction

namespace SchemaForge

/-! # Kotlin classes

A source file with one class at its top, and the enums within it. The operations that add a part
check it first: a class that is built by them has trimmed imports without repetition, annotations
that say something, and enums with literals.
-/

/-- An enum within a class. -/
structure KotlinEnum where
  name : String
  access : Access := .everyone
  values : List String
deriving DecidableEq, Repr, Inhabited

namespace KotlinEnum

/-- An enum with these literals, of which there must be one. -/
def ofValues (name : String) (values : List String) : Except Fault KotlinEnum := do
  return { name, values := ← Code.literals name values }

/-- The enum with its literals checked. -/
def checked (e : KotlinEnum) : Except Fault KotlinEnum := do
  return { e with values := ← Code.literals e.name e.values }

/-- The text of an enum. -/
def render (style : Style) (depth : Nat) (e : KotlinEnum) : String :=
  let pad := style.pad depth
  pad ++ e.access.keyword .kotlin ++ "enum class " ++ e.name ++ " \x7b\n" ++ style.pad (depth + 1)
    ++ ", ".intercalate e.values ++ "\n" ++ pad ++ "\x7d\n"

end KotlinEnum

/-- What a class at the top of a file is. -/
inductive KotlinKind where
  | ordinary
  | interface
  | enum (values : List String)
  | object
  | data
deriving DecidableEq, Repr, Inhabited

/-- The keywords that declare a class of this kind. -/
def KotlinKind.keyword : KotlinKind → String
  | ordinary => "class"
  | interface => "interface"
  | enum _ => "enum class"
  | object => "object"
  | data => "data class"

/-- The kind of a class with this name, whose literals are checked. -/
def KotlinKind.checked (name : String) : KotlinKind → Except Fault KotlinKind
  | enum values => return .enum (← Code.literals name values)
  | kind => return kind

/-- A source file with one class. -/
structure KotlinClass where
  name : String
  package : String := ""
  kind : KotlinKind := .ordinary
  access : Access := .everyone
  isAbstract : Bool := false
  generics : String := ""
  /-- The parameters of the primary constructor, with their parentheses. -/
  primaryConstructor : String := ""
  /-- The class that is extended, with the call of its constructor. -/
  parent : String := ""
  fileHeader : String := ""
  classHeader : String := ""
  staticInit : String := ""
  imports : List String := []
  annotations : List String := []
  interfaces : List String := []
  enums : List KotlinEnum := []
  properties : List KotlinProperty := []
  constants : List KotlinProperty := []
  staticFunctions : List KotlinFunction := []
  constructors : List KotlinFunction := []
  functions : List KotlinFunction := []
deriving DecidableEq, Repr, Inhabited

namespace KotlinClass

/-- A class without parts. The literals of an enum are taken as they are. -/
def new (name package : String) (kind : KotlinKind) : KotlinClass :=
  { name, package, kind }

/-- An enum at the top of a file, with these literals, of which there must be one. -/
def ofValues (name package : String) (values : List String) : Except Fault KotlinClass := do
  return new name package (.enum (← Code.literals name values))

/-- The name of the file that holds a class. -/
def fileName (c : KotlinClass) : String :=
  c.name ++ "." ++ Language.kotlin.extension

/-- Whether the class is an interface. -/
def isInterface (c : KotlinClass) : Bool :=
  c.kind == .interface

/-! ## Adding parts -/

/-- The class with an import more; repeated imports are passed over. -/
def addImport (c : KotlinClass) (name : String) : KotlinClass :=
  { c with imports := Code.addImport c.imports name }

/-- Adds an annotation. -/
def annotate (text : String) : Building KotlinClass Unit := do
  let mark ← Code.annotation text
  modify fun c => { c with annotations := c.annotations ++ [mark] }

/-- The class with an annotation more. -/
def addAnnotation (c : KotlinClass) (text : String) : Except Fault KotlinClass :=
  (annotate text).result c

/-- Adds an implemented interface. -/
def implement (name : String) : Building KotlinClass Unit := do
  let interface ← Code.interface name
  modify fun c => { c with interfaces := c.interfaces ++ [interface] }

/-- The class with an implemented interface more. -/
def addInterface (c : KotlinClass) (name : String) : Except Fault KotlinClass :=
  (implement name).result c

/-- The class with an enum more. -/
def addEnum (c : KotlinClass) (e : KotlinEnum) : KotlinClass :=
  { c with enums := c.enums ++ [e] }

/-- The class with a property more. -/
def addProperty (c : KotlinClass) (p : KotlinProperty) : KotlinClass :=
  { c with properties := c.properties ++ [p] }

/-- The class with a constant more. -/
def addConstant (c : KotlinClass) (p : KotlinProperty) : KotlinClass :=
  { c with constants := c.constants ++ [p] }

/-- The class with a function more that belongs to no instance. -/
def addStaticFunction (c : KotlinClass) (f : KotlinFunction) : KotlinClass :=
  { c with staticFunctions := c.staticFunctions ++ [f] }

/-- The class with a text more at the end of its initialisation. -/
def appendStaticInit (c : KotlinClass) (text : String) : KotlinClass :=
  { c with
    staticInit := if c.staticInit = "" then text else c.staticInit ++ "\n" ++ text }

/-- Adds a constructor, which an interface cannot have. -/
def construct (f : KotlinFunction) : Building KotlinClass Unit := do
  if (← get).isInterface then
    throw (.interfaceConstructor (← get).name)
  modify fun c => { c with constructors := c.constructors ++ [{ f with isConstructor := true }] }

/-- The class with a constructor more. -/
def addConstructor (c : KotlinClass) (f : KotlinFunction) : Except Fault KotlinClass :=
  (construct f).result c

/-- The class with a function more. -/
def addFunction (c : KotlinClass) (f : KotlinFunction) : KotlinClass :=
  { c with functions := c.functions ++ [f] }

/-- The first function with this name. -/
def function? (c : KotlinClass) (name : String) : Option KotlinFunction :=
  c.functions.find? (·.name == name)

/-! ## Putting a class together -/

/-- A constructor of the class, checked. -/
def checkedConstructor (c : KotlinClass) (f : KotlinFunction) : Except Fault KotlinFunction :=
  if c.isInterface then .error (.interfaceConstructor c.name) else f.checked

/-- The class put together from its parts, each of which is checked as it is when it is added. -/
def assembled (c : KotlinClass) : Except Fault KotlinClass := do
  return { c with
    kind := ← c.kind.checked c.name
    annotations := ← Code.annotations c.annotations
    interfaces := ← c.interfaces.mapM Code.interface
    enums := ← c.enums.mapM (·.checked)
    constructors := ← c.constructors.mapM c.checkedConstructor
    functions := ← c.functions.mapM (·.checked) }

/-! ## Text -/

/-- The sections of what belongs to no instance: constants, functions and initialisation. -/
def staticSections (style : Style) (depth : Nat) (c : KotlinClass) : List String :=
  Code.joined (c.constants.map (·.render style depth))
    ++ c.staticFunctions.map (·.render style depth false)
    ++ (if Text.isBlank c.staticInit then []
        else [style.pad depth ++ "init \x7b\n" ++ style.indentBlock (depth + 1) c.staticInit
          ++ style.pad depth ++ "\x7d\n"])

/-- The sections of what belongs to no instance, in a companion object unless the class is an
object itself. -/
def companionSections (style : Style) (c : KotlinClass) : List String :=
  if c.kind = .object then c.staticSections style 1
  else if (c.staticSections style 2).isEmpty then []
  else
    [style.pad 1 ++ "companion object \x7b\n" ++ "\n".intercalate (c.staticSections style 2)
      ++ style.pad 1 ++ "\x7d\n"]

/-- The sections of the body of a class, in the order in which they are written. -/
def sections (style : Style) (c : KotlinClass) : List String :=
  (match c.kind with
    | .enum values => [style.pad 1 ++ ", ".intercalate values ++ ";\n"]
    | _ => [])
    ++ c.enums.map (·.render style 1)
    ++ c.companionSections style
    ++ Code.joined ((c.properties.filter (!·.mutable)).map (·.render style 1))
    ++ Code.joined ((c.properties.filter (·.mutable)).map (·.render style 1))
    ++ (if c.isInterface then [] else c.constructors.map (·.render style 1 false))
    ++ c.functions.map (·.render style 1 c.isInterface)

/-- The classes and interfaces that the class extends. -/
def parents (c : KotlinClass) : List String :=
  (if c.parent = "" then [] else [c.parent]) ++ c.interfaces

/-- The line that declares the class. -/
def headerLine (c : KotlinClass) : String :=
  c.access.keyword .kotlin ++ Code.keyword (c.isAbstract && !c.isInterface) "abstract"
    ++ c.kind.keyword ++ " " ++ c.name ++ (if c.generics = "" then "" else "<" ++ c.generics ++ ">")
    ++ c.primaryConstructor
    ++ (if c.parents.isEmpty then "" else " : " ++ ", ".intercalate c.parents)

/-- The text of the source file. -/
def render (style : Style) (c : KotlinClass) : String :=
  (if c.fileHeader = "" then "" else Text.trimEnd c.fileHeader ++ "\n\n")
    ++ (if c.package = "" then "" else "package " ++ c.package ++ "\n\n")
    ++ (if c.imports.isEmpty then ""
        else Text.concat (c.imports.map ("import " ++ · ++ "\n")) ++ "\n")
    ++ (if c.classHeader = "" then "" else Text.trimEnd c.classHeader ++ "\n")
    ++ Text.concat (c.annotations.map (· ++ "\n")) ++ c.headerLine ++ " \x7b\n"
    ++ "\n".intercalate (c.sections style) ++ "\x7d\n"

end KotlinClass

end SchemaForge
