import SchemaForge.Android.Column

namespace SchemaForge

/-! # Resolved entities

An entity whose fields are resolved, of which one at most is the primary key. The classes of an
entity are made of a resolved entity.
-/

/-- An entity with its columns. -/
structure Resolved extends Scope where
  columns : List Column
deriving DecidableEq, Repr

/-- Checks that there is at most one primary key. -/
def Scope.checkKeys (s : Scope) (columns : List Column) : Except Fault Unit :=
  match columns.filter (·.isKey) with
  | _ :: second :: _ => .error (.duplicateKey s.entity.name second.variableName)
  | _ => .ok ()

/-- Resolves an entity. -/
def Scope.resolve (s : Scope) : Except Fault Resolved := do
  let columns ← s.entity.fields.mapM s.column
  s.checkKeys columns
  return { toScope := s, columns }

namespace Resolved

/-- The primary key. -/
def key? (r : Resolved) : Option Column :=
  r.columns.find? (·.isKey)

/-- The columns that are written. The database chooses the values of the others. -/
def written (r : Resolved) : List Column :=
  r.columns.filter (!·.isAutomatic)

/-- The enumerations that have to be imported. -/
def enumImports (r : Resolved) : List String :=
  r.columns.filterMap (·.enumImport?)

/-- Names and literals of the enumerations that the base record declares. Of several with one name
the first counts. -/
def nestedEnums (r : Resolved) : List (String × List String) :=
  (r.columns.filterMap (·.nestedEnum?)).foldl
    (fun enums e => if enums.any (·.1 == e.1) then enums else enums ++ [e]) []

/-- The reference to a constant of the entity. -/
def reference (r : Resolved) (constant : String) : String :=
  r.constantsName ++ "." ++ constant

/-! ## Prepared statements -/

/-- What stands for the key of an entity that has none. -/
def noKey : String :=
  "NO_PRIMARY_KEY"

/-- The statement that inserts a row, with a parameter for every written column. -/
def insertStatement (r : Resolved) : String :=
  "INSERT INTO " ++ r.entity.name ++ " (" ++ ",".intercalate (r.written.map (·.field.name))
    ++ ") VALUES (" ++ ",".intercalate (r.written.map fun _ => "?") ++ ")"

/-- The name of the key column, or what stands for it. -/
def keyName (r : Resolved) : String :=
  match r.key? with
  | some key => key.field.name
  | none => noKey

/-- The statement that updates a row, with a parameter for every written column and one for the
key. -/
def updateStatement (r : Resolved) : String :=
  "UPDATE " ++ r.entity.name ++ " SET " ++ ", ".intercalate (r.written.map (·.field.name ++ "=?"))
    ++ " WHERE " ++ r.keyName ++ " = ?"

end Resolved

end SchemaForge
