import SchemaForge.Fault

namespace SchemaForge

/-! # Valid schemas

A schema is valid when no two entities that share a name space have the same name, and every entity
is valid: its columns have different names and different constants, at most one of them is the
primary key, and literals are declared for numbers and texts only. Each check reports its first
violation, reading from the front.
-/

namespace Entity

/-- A column that declares literals although its type cannot hold them. -/
def misplacesEnumeration (f : Field) : Bool :=
  !Text.isBlank f.enumerations && !f.type.isNumber && f.type != .varchar

/-- Checks one column against the columns before it. -/
def checkField (entity : String) (before : List Field) (f : Field) : Except Fault Unit :=
  if before.any (Text.sameName ·.name f.name) then .error (.duplicateField entity f.name)
  else if before.any (·.constantName == f.constantName) then
    .error (.duplicateConstant entity f.name f.constantName)
  else if f.primaryKey && before.any (·.primaryKey) then .error (.duplicateKey entity f.name)
  else if misplacesEnumeration f then .error (.misplacedEnumeration entity f.name)
  else .ok ()

/-- Checks the columns one by one; `before` holds those that have passed. -/
def checkFields (entity : String) (before : List Field) : List Field → Except Fault Unit
  | [] => .ok ()
  | f :: fs => do
    checkField entity before f
    checkFields entity (before ++ [f]) fs

/-- Checks an entity. -/
def validate (e : Entity) : Except Fault Unit :=
  checkFields e.name [] e.fields

end Entity

namespace Database

/-- Checks that no entity has the name of one before it. -/
def checkNames (database : String) (before : List Entity) : List Entity → Except Fault Unit
  | [] => .ok ()
  | e :: es =>
    if before.any (Text.sameName ·.name e.name) then
      .error (.duplicateEntity database e.kind e.name)
    else checkNames database (before ++ [e]) es

/-- Checks a database. Tables and views share a name space; queries have one of their own. -/
def validate (d : Database) : Except Fault Unit := do
  checkNames d.name [] (d.tables ++ d.views)
  checkNames d.name [] d.queries
  d.entities.forM (·.validate)

end Database

/-- Checks a schema. -/
def Schema.validate (s : Schema) : Except Fault Unit :=
  s.databases.forM (·.validate)

end SchemaForge
