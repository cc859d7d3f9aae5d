import SchemaForge.Text.Ascii
import SchemaForge.Text.Blank

namespace SchemaForge

/-! # Output languages -/

/-- The languages in which sources are generated. -/
inductive Language where
  | kotlin
  | java
deriving DecidableEq, Repr, Inhabited

namespace Language

/-- The name of a language in options. -/
def name : Language → String
  | kotlin => "KOTLIN"
  | java => "JAVA"

/-- The extension of source files. -/
def extension : Language → String
  | kotlin => "kt"
  | java => "java"

/-- All languages. -/
def all : List Language :=
  [kotlin, java]

/-- The language with exactly this name. -/
def ofName? (s : String) : Option Language :=
  all.find? (·.name == s)

/-- The language that a text names, in any case and with blanks around it. -/
def ofText? (s : String) : Option Language :=
  match Text.lowerAscii (Text.trim s) with
  | "kotlin" => some kotlin
  | "kt" => some kotlin
  | "java" => some java
  | _ => none

/-- What ends a statement. -/
def terminator : Language → String
  | kotlin => ""
  | java => ";"

/-- A statement on a line of its own. -/
def line (l : Language) (statement : String) : String :=
  statement ++ l.terminator ++ "\n"

/-- What stands before the name of a class to make a new object of it. -/
def creation : Language → String
  | kotlin => ""
  | java => "new "

end Language

end SchemaForge
