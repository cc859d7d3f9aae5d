import SchemaForge.Code.Building
import SchemaForge.Code.JavaMethod

namespace SchemaForge

/-! # Java classes

A source file with one class at its top, and the enums within it. The operations that add a part
check it first: a class that is built by them has trimmed imports without repetition, annotations
that say something, and enums with literals and different names.
-/

/-- What a class at the top of a file is. -/
inductive JavaKind where
  | ordinary
  | interface
  | enum (values : List String)
deriving DecidableEq, Repr, Inhabited

/-- The keyword that declares a class of this kind. -/
def JavaKind.keyword : JavaKind → String
  | ordinary => "class"
  | interface => "interface"
  | enum _ => "enum"

/-- An enum within a class. -/
structure JavaEnum where
  name : String
  values : List String
deriving DecidableEq, Repr, Inhabited

namespace JavaEnum

/-- An enum with these literals, of which there must be one. -/
def ofValues (name : String) (values : List String) : Except Fault JavaEnum := do
  return { name, values := ← Code.literals name values }

/-- The enum with its literals checked. -/
def checked (e : JavaEnum) : Except Fault JavaEnum := do
  return { e with values := ← Code.literals e.name e.values }

/-- The text of an enum. -/
def render (style : Style) (e : JavaEnum) : String :=
  style.pad 1 ++ "public enum " ++ e.name ++ " \x7b\n" ++ style.pad 2
    ++ ", ".intercalate e.values ++ "\n" ++ style.pad 1 ++ "\x7d\n"

/-- The enums with one more; one whose name is taken is passed over. -/
def add (enums : List JavaEnum) (e : JavaEnum) : List JavaEnum :=
  if enums.any (·.name == e.name) then enums else enums ++ [e]

end JavaEnum

/-- The kind of a class with this name, whose literals are checked. -/
def JavaKind.checked (name : String) : JavaKind → Except Fault JavaKind
  | enum values => return .enum (← Code.literals name values)
  | kind => return kind

/-- A source file with one class. -/
structure JavaClass where
  name : String
  package : String := ""
  kind : JavaKind := .ordinary
  access : Access := .everyone
  isAbstract : Bool := false
  isFinal : Bool := false
  /-- The class that is extended. -/
  parent : String := ""
  fileHeader : String := ""
  classHeader : String := ""
  staticInit : String := ""
  imports : List String := []
  annotations : List String := []
  interfaces : List String := []
  enums : List JavaEnum := []
  constants : List JavaVariable := []
  fields : List JavaVariable := []
  constructors : List JavaMethod := []
  methods : List JavaMethod := []
deriving DecidableEq, Repr, Inhabited

namespace JavaClass

/-- A class without parts. The literals of an enum are taken as they are. -/
def new (name package : String) (kind : JavaKind) : JavaClass :=
  { name, package, kind }

/-- An enum at the top of a file, with these literals, of which there must be one. -/
def ofValues (name package : String) (values : List String) : Except Fault JavaClass := do
  return new name package (.enum (← Code.literals name values))

/-- The name of the file that holds a class. -/
def fileName (c : JavaClass) : String :=
  c.name ++ "." ++ Language.java.extension

/-- Whether the class is an interface. -/
def isInterface (c : JavaClass) : Bool :=
  c.kind == .interface

/-! ## Adding parts -/

/-- The class with an import more; repeated imports are passed over. -/
def addImport (c : JavaClass) (name : String) : JavaClass :=
  { c with imports := Code.addImport c.imports name }

/-- Adds an annotation. -/
def annotate (text : String) : Building JavaClass Unit := do
  let mark ← Code.annotation text
  modify fun c => { c with annotations := c.annotations ++ [mark] }

/-- The class with an annotation more. -/
def addAnnotation (c : JavaClass) (text : String) : Except Fault JavaClass :=
  (annotate text).result c

/-- Adds an implemented interface. -/
def implement (name : String) : Building JavaClass Unit := do
  let interface ← Code.interface name
  modify fun c => { c with interfaces := c.interfaces ++ [interface] }

/-- The class with an implemented interface more. -/
def addInterface (c : JavaClass) (name : String) : Except Fault JavaClass :=
  (implement name).result c

/-- Adds an enum; one whose name is taken is passed over. -/
def declareEnum (name : String) (values : List String) : Building JavaClass Unit := do
  let e ← JavaEnum.ofValues name values
  modify fun c => { c with enums := JavaEnum.add c.enums e }

/-- The class with an enum more. -/
def addEnum (c : JavaClass) (name : String) (values : List String) : Except Fault JavaClass :=
  (declareEnum name values).result c

/-- The class with a constant more. -/
def addConstant (c : JavaClass) (v : JavaVariable) : JavaClass :=
  { c with constants := c.constants ++ [v] }

/-- The class with a field more. -/
def addField (c : JavaClass) (v : JavaVariable) : JavaClass :=
  { c with fields := c.fields ++ [v] }

/-- The class with a text more at the end of its initialisation. -/
def appendStaticInit (c : JavaClass) (text : String) : JavaClass :=
  { c with
    staticInit := if c.staticInit = "" then text else c.staticInit ++ "\n" ++ text }

/-- Adds a constructor, which an interface cannot have. It gets the name of its class. -/
def construct (m : JavaMethod) : Building JavaClass Unit := do
  if (← get).isInterface then
    throw (.interfaceConstructor (← get).name)
  modify fun c => { c with
    constructors := c.constructors ++ [{ m with isConstructor := true, name := c.name }] }

/-- The class with a constructor more. -/
def addConstructor (c : JavaClass) (m : JavaMethod) : Except Fault JavaClass :=
  (construct m).result c

/-- The class with a method more. -/
def addMethod (c : JavaClass) (m : JavaMethod) : JavaClass :=
  { c with methods := c.methods ++ [m] }

/-- The first method with this name. -/
def method? (c : JavaClass) (name : String) : Option JavaMethod :=
  c.methods.find? (·.name == name)

/-! ## Putting a class together -/

/-- A constructor of the class, checked. -/
def checkedConstructor (c : JavaClass) (m : JavaMethod) : Except Fault JavaMethod :=
  if c.isInterface then .error (.interfaceConstructor c.name) else m.checked

/-- The class put together from its parts, each of which is checked as it is when it is added. -/
def assembled (c : JavaClass) : Except Fault JavaClass := do
  return { c with
    kind := ← c.kind.checked c.name
    annotations := ← Code.annotations c.annotations
    interfaces := ← c.interfaces.mapM Code.interface
    enums := ← c.enums.mapM (·.checked)
    constructors := ← c.constructors.mapM c.checkedConstructor
    methods := ← c.methods.mapM (·.checked) }

/-! ## Text -/

/-- The sections of the body of a class, in the order in which they are written. -/
def sections (style : Style) (c : JavaClass) : List String :=
  (match c.kind with
    | .enum values => [style.pad 1 ++ ", ".intercalate values ++ ";\n"]
    | _ => [])
    ++ c.enums.map (·.render style)
    ++ Code.joined (c.constants.map (·.render style 1))
    ++ (if Text.isBlank c.staticInit then []
        else [style.pad 1 ++ "static \x7b\n" ++ style.indentBlock 2 c.staticInit ++ style.pad 1
          ++ "\x7d\n"])
    ++ Code.joined (c.fields.map (·.render style 1))
    ++ (if c.isInterface then [] else c.constructors.map (·.render style 1 false))
    ++ c.methods.map (·.render style 1 c.isInterface)
    ++ (c.fields.flatMap (·.accessors)).map (·.render style 1 c.isInterface)

/-- The line that declares the class. -/
def headerLine (c : JavaClass) : String :=
  c.access.keyword .java ++ Code.keyword (c.isAbstract && !c.isInterface) "abstract"
    ++ Code.keyword c.isFinal "final" ++ c.kind.keyword ++ " " ++ c.name
    ++ (if c.parent = "" then "" else " extends " ++ c.parent)
    ++ (if c.interfaces.isEmpty then ""
        else (if c.isInterface then " extends " else " implements ")
          ++ ", ".intercalate c.interfaces)

/-- The text of the source file. -/
def render (style : Style) (c : JavaClass) : String :=
  (if c.fileHeader = "" then "" else Text.trimEnd c.fileHeader ++ "\n\n")
    ++ (if c.package = "" then "" else "package " ++ c.package ++ ";\n\n")
    ++ (if c.imports.isEmpty then ""
        else Text.concat (c.imports.map ("import " ++ · ++ ";\n")) ++ "\n")
    ++ (if c.classHeader = "" then "" else Text.trimEnd c.classHeader ++ "\n")
    ++ Text.concat (c.annotations.map (· ++ "\n")) ++ c.headerLine ++ " \x7b\n"
    ++ (if (c.sections style).isEmpty then "" else "\n" ++ "\n".intercalate (c.sections style))
    ++ "\x7d\n"

end JavaClass

end SchemaForge
