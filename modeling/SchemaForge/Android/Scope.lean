import SchemaForge.Code.Style
import SchemaForge.Files.Path
import SchemaForge.Options
import SchemaForge.Schema.Basic
import SchemaForge.Text.LetterCase

namespace SchemaForge

/-! # Names of generated classes

Every entity has a package of its own, which holds the classes made for it, and the directory of a
package has its parts as names.
-/

/-- What a run of the generator is asked for. -/
structure Run where
  /-- The package above all packages of the run. -/
  package : String
  options : Options := {}
  style : Style := {}
  /-- The time that editable files give as the time of their creation. -/
  created : String
deriving DecidableEq, Repr

namespace Run

/-- The package of a database. -/
def packageOf (run : Run) (d : Database) : String :=
  if run.options.databaseInPackage then run.package ++ "." ++ Text.lower d.name else run.package

/-- The directory of a database. -/
def directoryOf (run : Run) (d : Database) : String :=
  if run.options.databaseInPackage then Text.lower d.name else ""

end Run

/-- An entity in its place: the run and the database it belongs to. -/
structure Scope where
  run : Run
  database : Database
  entity : Entity
deriving DecidableEq, Repr

namespace Scope

/-- The options of the run. -/
def options (s : Scope) : Options :=
  s.run.options

/-- The class of the records. -/
def className (s : Scope) : String :=
  s.entity.className

/-- The package of a class of the same database. -/
def packageOf (s : Scope) (className : String) : String :=
  s.run.packageOf s.database ++ "." ++ Text.lower className

/-- The package of the entity. -/
def package (s : Scope) : String :=
  s.packageOf s.className

/-- The record's class with its package. -/
def fullName (s : Scope) : String :=
  s.package ++ "." ++ s.className

/-- The directory of the entity. -/
def directory (s : Scope) : String :=
  Path.join (s.run.directoryOf s.database) (Text.lower s.className)

/-- The class of the constants. -/
def constantsName (s : Scope) : String :=
  s.className ++ "Const"

/-- The class that the record extends. -/
def baseRecordName (s : Scope) : String :=
  s.className ++ "BaseRecord"

/-- The class that the manager extends. -/
def baseManagerName (s : Scope) : String :=
  s.className ++ "BaseManager"

/-- The class of the manager. -/
def managerName (s : Scope) : String :=
  s.className ++ "Manager"

/-- The language of the sources. -/
def language (s : Scope) : Language :=
  s.options.language

end Scope

/-! ## Headers -/

/-- The comment at the top of a file that every run writes anew. -/
def generatedHeader (fileName : String) : String :=
  "/*\n * " ++ fileName ++ "\n *\n * GENERATED FILE - DO NOT EDIT\n * CHECKSTYLE:OFF\n * \n */\n"

/-- The comment at the top of a file that is written once and then edited by hand. -/
def editableHeader (fileName created : String) : String :=
  "/*\n * " ++ fileName ++ "\n *\n * Created: " ++ created ++ "\n */\n"

end SchemaForge
