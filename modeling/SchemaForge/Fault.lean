import SchemaForge.Schema.Basic

namespace SchemaForge

/-! # Faults

Every way in which an operation fails, with the text that reports it, and the failures that a
program shows: a fault and the activities in which it happened.
-/

/-- The cause of a failure. -/
inductive Fault where
  /-- A document is not well formed. -/
  | malformedXml
  /-- A text is no JSON, or a value has the wrong shape. -/
  | malformedJson
  /-- A file or directory cannot be read or made. -/
  | inaccessible
  | unexpectedRoot (element : String)
  | missingAttribute (element name : String)
  | unknownType (text : String)
  | invalidAttribute (name value : String)
  | duplicateEntity (database : String) (kind : EntityKind) (name : String)
  | duplicateField (entity field : String)
  | duplicateConstant (entity field constant : String)
  | duplicateKey (entity field : String)
  | misplacedEnumeration (entity field : String)
  | emptyEnumeration (entity field : String)
  | emptyEnum (name : String)
  | annotationBlank
  | blankException
  | blankInterface
  | interfaceConstructor (interface : String)
  | unknownDateLibrary (text : String)
  | unknownLanguage (text : String)
  | unknownDatabase (name : String)
  | noDatabase
  | unwritten (count : Nat)
deriving DecidableEq, Repr

/-- The text that reports a fault. -/
def Fault.message : Fault → String
  | malformedXml => "XML parse error"
  | malformedJson => "JSON parse error"
  | inaccessible => "I/O error"
  | unexpectedRoot element => "expected root element <dbSchema>, found <" ++ element ++ ">"
  | missingAttribute element name =>
    "element <" ++ element ++ "> is missing required attribute '" ++ name ++ "'"
  | unknownType text => "unknown jdbcDataType '" ++ text ++ "'"
  | invalidAttribute name value =>
    "invalid value '" ++ value ++ "' for attribute '" ++ name ++ "'"
  | duplicateEntity database kind name =>
    "duplicate " ++ kind.word ++ " name '" ++ name ++ "' in database '" ++ database ++ "'"
  | duplicateField entity field => "duplicate field name [" ++ entity ++ "." ++ field ++ "]"
  | duplicateConstant entity field constant =>
    "field [" ++ entity ++ "." ++ field ++ "] maps to column constant C_" ++ constant
      ++ ", which is already taken"
  | duplicateKey entity field =>
    "cannot have more than 1 primary key [" ++ entity ++ "." ++ field ++ "]"
  | misplacedEnumeration entity field =>
    "enumerations are only allowed on number or VARCHAR fields [" ++ entity ++ "." ++ field ++ "]"
  | emptyEnumeration entity field =>
    "invalid argument: enumeration field " ++ entity ++ "." ++ field ++ " declares no values"
  | emptyEnum name => "invalid argument: enum " ++ name ++ " must declare at least one value"
  | annotationBlank => "invalid argument: annotation cannot be empty"
  | blankException => "invalid argument: exception name cannot be empty"
  | blankInterface => "invalid argument: implemented interface name cannot be empty"
  | interfaceConstructor name => "invalid state: cannot add a constructor to interface " ++ name
  | unknownDateLibrary text => "unknown date type '" ++ text ++ "'"
  | unknownLanguage text => "unknown output language '" ++ text ++ "'"
  | unknownDatabase name => "no database named " ++ name
  | noDatabase => "schema declares no database"
  | unwritten count => toString count ++ " file(s) could not be written"

/-- What a program was doing when a fault stopped it. -/
inductive Activity where
  | validating
  | generating (kind : EntityKind) (entity : String)
  | generatingSources (language : String)
  | runningGenerator
  | readingSchema (path : String)
  | readingOptions (path : String)
  | parsingOptions (path : String)
  | creatingDirectory (path : String)
deriving DecidableEq, Repr

/-- The text that names an activity. -/
def Activity.message : Activity → String
  | validating => "validating schema"
  | generating kind entity => "generating " ++ kind.word ++ " " ++ entity
  | generatingSources language => "generating " ++ language ++ " sources"
  | runningGenerator => "running Android generator"
  | readingSchema path => "reading schema " ++ path
  | readingOptions path => "reading generator config " ++ path
  | parsingOptions path => "parsing generator config " ++ path
  | creatingDirectory path => "creating output directory " ++ path

/-- A fault and the activities around it, the outermost first. -/
structure Failure where
  activities : List Activity := []
  fault : Fault
deriving DecidableEq, Repr

namespace Failure

/-- The texts of a failure, the outermost first. -/
def messages (f : Failure) : List String :=
  f.activities.map (·.message) ++ [f.fault.message]

/-- The whole text of a failure. -/
def message (f : Failure) : String :=
  ": ".intercalate f.messages

end Failure

/-- A result whose failure is told as part of an activity. -/
def during {α : Type} (activity : Activity) : Except Failure α → Except Failure α
  | .ok a => .ok a
  | .error f => .error { f with activities := activity :: f.activities }

/-- A result whose fault becomes a failure. -/
def failing {α : Type} : Except Fault α → Except Failure α
  | .ok a => .ok a
  | .error fault => .error { fault }

end SchemaForge
