import SchemaForge.DateLibrary
import SchemaForge.Fault
import SchemaForge.Json.Decode
import SchemaForge.Json.Reader

namespace SchemaForge

/-! # Options

What shapes the generated sources beside the schema. Options are read from a JSON object, whose
missing keys keep their defaults, or from an array that gives the values in the order of the keys.
-/

/-- The options of a generator. -/
structure Options where
  /-- The name of the database is part of the packages. -/
  databaseInPackage : Bool := false
  /-- The managers extend those for reactive streams. -/
  reactive : Bool := false
  /-- Getters tell whether they may return null. -/
  nullAnnotations : Bool := false
  /-- Managers are injected, so no holder object is needed. -/
  injection : Bool := false
  /-- The statements of views and queries are put together by a builder. -/
  queryBuilder : Bool := false
  dates : DateLibrary := .standard
  language : Language := .kotlin
deriving DecidableEq, Repr, Inhabited

namespace Options

/-- The options as they are written, in order. -/
def entries (o : Options) : List (String × Json) :=
  [("includeDatabaseNameInPackage", .bool o.databaseInPackage), ("rxJavaSupport", .bool o.reactive),
    ("jsr305Support", .bool o.nullAnnotations), ("injectionSupport", .bool o.injection),
    ("sqlQueryBuilderSupport", .bool o.queryBuilder), ("dateType", .text o.dates.name),
    ("language", .text o.language.name)]

/-- The names of the options, in order. -/
def keys : List String :=
  (({} : Options).entries).map (·.1)

/-- The options with one of them set; nothing when the value has the wrong shape. Keys that are not
known are passed over. -/
def set? (o : Options) (key : String) (value : Json) : Option Options :=
  match key with
  | "includeDatabaseNameInPackage" => value.bool?.map ({ o with databaseInPackage := · })
  | "rxJavaSupport" => value.bool?.map ({ o with reactive := · })
  | "jsr305Support" => value.bool?.map ({ o with nullAnnotations := · })
  | "injectionSupport" => value.bool?.map ({ o with injection := · })
  | "sqlQueryBuilderSupport" => value.bool?.map ({ o with queryBuilder := · })
  | "dateType" => (value.alternative?.bind DateLibrary.ofName?).map ({ o with dates := · })
  | "language" => (value.alternative?.bind Language.ofName?).map ({ o with language := · })
  | _ => some o

/-- Sets options one after the other. A key that is known may occur once. -/
def setAll? (o : Options) (seen : List String) : List (Option String × Json) → Option Options
  | [] => some o
  | (none, _) :: _ => none
  | (some key, value) :: rest =>
    if key ∈ keys ∧ key ∈ seen then none
    else (o.set? key value).bind (setAll? · (key :: seen) rest)

/-- The options that a JSON value gives. -/
def ofJson? : Json → Option Options
  | .object entries => setAll? {} [] entries
  | .array items =>
    if items.length ≤ keys.length then
      setAll? {} [] ((keys.map some).zip items)
    else none
  | _ => none

/-- The options that a JSON document gives. -/
def ofText (text : String) : Except Fault Options :=
  match (Json.read? text).bind ofJson? with
  | some o => .ok o
  | none => .error .malformedJson

end Options

end SchemaForge
