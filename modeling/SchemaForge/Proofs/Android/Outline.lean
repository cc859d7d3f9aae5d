import SchemaForge.Proofs.Android.Constants
import SchemaForge.Proofs.Code.Snippet

namespace SchemaForge

/-! # The members of the classes of an entity

Base record, record and base manager refer to the constants of their entity through the class that
declares these, and the managers to statements through the record. The members of these classes are
outlined here as code in which such references are left open. An outline is made of the columns, the
kind of the entity and the options, and knows the name of no class: whatever the members say of a
class that is made for the entity, they say in one of their references. All code is written out, but
for what comes from the schema: variables, types, and what properties start with.
-/

/-! ## References -/

/-- What the code of an entity can refer to by the name of a class that is made for it. -/
inductive Reference where
  /-- The class of the records. -/
  | record
  /-- A constant that the record declares. -/
  | own (name : String)
  /-- A constant with a fixed name. -/
  | constant (name : String)
  /-- The constant with the name of a column. -/
  | column (f : Field)
  /-- The constant with the name of a column and its table before it. -/
  | fullColumn (f : Field)
deriving DecidableEq

/-- The text of a reference. -/
def Scope.referenceText (s : Scope) : Reference → String
  | .record => s.className
  | .own name => s.className ++ "." ++ name
  | .constant name => s.constantsName ++ "." ++ name
  | .column f => s.constantsName ++ "." ++ f.columnConstant
  | .fullColumn f => s.constantsName ++ "." ++ f.fullColumnConstant

/-! ## Members -/

/-- The members of a class with what they hold or do: constants and properties with the expressions
that they start with, the initialisation, constructors and functions with their bodies. -/
def SourceClass.members : SourceClass → List (String × String)
  | .kotlin c => c.constants.map (fun p => (p.name, p.value)) ++ [("init", c.staticInit)]
      ++ c.properties.map (fun p => (p.name, p.value))
      ++ c.constructors.map (fun f => ("constructor", f.content))
      ++ c.functions.map (fun f => (f.name, f.content))
  | .java c => c.constants.map (fun v => (v.name, v.value)) ++ [("init", c.staticInit)]
      ++ c.fields.map (fun v => (v.name, v.value))
      ++ c.constructors.map (fun m => ("constructor", m.content))
      ++ c.methods.map (fun m => (m.name, m.content))

/-- A member whose references are open. -/
structure Member where
  name : String
  code : Snippet Reference

/-- The member with its references filled in. -/
def Member.fill (refs : Reference → String) (m : Member) : String × String :=
  (m.name, m.code.text refs)

namespace Outline

open Snippet

/-- A reference alone. -/
def ref (x : Reference) : Snippet Reference :=
  reference x

/-! ## Base records -/

/-- The columns that are written. -/
def written (columns : List Column) : List Column :=
  columns.filter (!·.isAutomatic)

/-- Gives the name of the key column. -/
def keyColumn (l : Language) (columns : List Column) : Snippet Reference :=
  match columns.find? (·.isKey) with
  | some key => "return " ++ ref (.column key.field) ++ l.terminator
  | none => "return \"NO_PRIMARY_KEY\"" ++ l.terminator

/-- Gives the key. -/
def keyValue (l : Language) (columns : List Column) : String :=
  match columns.find? (·.isKey) with
  | some key => "return " ++ key.variableName ++ l.terminator
  | none => "return 0" ++ l.terminator

/-- Sets the key; in Java the number is converted to the type of the key. -/
def setKey (l : Language) (columns : List Column) : String :=
  match columns.find? (·.isKey), l with
  | none, _ => "// NO_PRIMARY_KEY"
  | some key, .kotlin => "this." ++ key.variableName ++ " = id"
  | some key, .java =>
    "this." ++ key.variableName ++ " = "
      ++ (if key.typeName .java = "long" then "id" else "(" ++ key.typeName .java ++ ") id") ++ ";"

/-- Gives a copy of an array of constants. -/
def cloned (l : Language) (constant : String) : Snippet Reference :=
  "return " ++ ref (.constant constant) ++ ".clone()" ++ l.terminator

/-- Puts the value of a column into content values. -/
def put (l : Language) (c : Column) : Snippet Reference :=
  "values.put(" ++ ref (.column c.field) ++ ", " ++ Expression.stored l c ++ ")" ++ l.terminator
    ++ "\n"

/-- The items of the array of all values. The key that the database chooses is not converted. -/
def arrayItem (l : Language) (c : Column) : String :=
  "\t" ++ if c.isAutomatic then c.variableName else Expression.stored l c

/-- Gives the values of all columns. -/
def valueArray (l : Language) (columns : List Column) : String :=
  let items := ",\n".intercalate (columns.map (arrayItem l))
  match l with
  | .kotlin => "return arrayOf(\n" ++ items ++ ")\n"
  | .java => "Object[] values = new Object[]\x7b\n" ++ items ++ "\n\x7d;\nreturn values;"

/-- Gives the value of a column to a copy. -/
def copyColumn (l : Language) (c : Column) : String :=
  match l with
  | .kotlin =>
    "copy." ++ c.variableName ++ " = " ++ Expression.copied c c.variableName ++ l.terminator ++ "\n"
  | .java =>
    "copy." ++ ("set" ++ Naming.upperFirst c.variableName) ++ "(" ++ c.variableName ++ ")"
      ++ l.terminator ++ "\n"

/-- Makes a copy of the record. -/
def copied (l : Language) (columns : List Column) : Snippet Reference :=
  (match l with
    | .kotlin => "val copy"
    | .java => ref .record ++ " copy") ++ " = " ++ l.creation ++ ref .record ++ "()" ++ l.terminator
    ++ "\n" ++ Text.concat (columns.map (copyColumn l)) ++ "return copy" ++ l.terminator

/-- The method that binds a value of a column. -/
def bindMethod? (c : Column) : Option String :=
  match c.content with
  | .enumeration _ _ => some "bindLong"
  | .date _ | .plain =>
    match c.field.type with
    | .boolean | .bit | .tinyint | .smallint | .integer | .bigint | .bigInteger | .timestamp =>
      some "bindLong"
    | .real | .float | .double | .decimal | .numeric | .bigDecimal => some "bindDouble"
    | .char | .varchar | .longvarchar | .clob | .date | .datetime | .time => some "bindString"
    | .blob => some "bindBlob"
    | .javaObject | .money | .fraction | .unknown => none

/-- Binds a column to the parameter with this number, null where the variable is null. -/
def bind (l : Language) (index : Nat) (c : Column) : String :=
  let mark := unhandled c.field.type
  match bindMethod? c, l, Expression.known? l c c.variableName with
  | none, _, _ | some _, .java, none => mark ++ "\n"
  | some method, _, value? =>
    let line := bindLine l method index (value?.getD mark)
    if c.isNullable then
      "if (" ++ c.variableName ++ " != null) \x7b\n\t" ++ line ++ "\x7d else \x7b\n\t"
        ++ bindNullLine l index ++ "\x7d\n"
    else line

/-- Binds the written columns, from one on. -/
def bound (l : Language) (columns : List Column) : String :=
  Text.concat ((written columns).mapIdx fun i c => bind l (i + 1) c)

/-- Binds the key of the row to update, behind the written columns. -/
def bindKey (l : Language) (columns : List Column) : String :=
  match columns.find? (·.isKey) with
  | some key => bindLine l "bindLong" ((written columns).length + 1) key.variableName
  | none => ""

/-- Takes a column out of content values. -/
def takeValue (l : Language) (c : Column) : Snippet Reference :=
  c.variableName ++ " = "
    ++ Expression.orMark c (Expression.fromValues? l c (ref (.column c.field))) ++ l.terminator
    ++ "\n"

/-- Takes a column out of a cursor. -/
def takeCursor (l : Language) (c : Column) : Snippet Reference :=
  c.variableName ++ " = "
    ++ Expression.orMark c (Expression.fromCursor? l c (ref (.column c.field))) ++ l.terminator
    ++ "\n"

/-- Tells whether a record is not stored yet. -/
def newTest : Language → String
  | .kotlin => "return primaryKeyId <= 0"
  | .java => "return getPrimaryKeyId() <= 0;"

/-- The members of a base record. -/
def baseRecord (l : Language) (columns : List Column) : List Member :=
  [⟨"init", ""⟩] ++ columns.map (fun c => ⟨c.variableName, c.initial l⟩)
    ++ [⟨"getIdColumnName", keyColumn l columns⟩,
      ⟨"getPrimaryKeyId", keyValue l columns⟩,
      ⟨"setPrimaryKeyId", setKey l columns⟩,
      ⟨"getAllColumns", cloned l "ALL_COLUMNS"⟩,
      ⟨"getAllColumnsFull", cloned l "ALL_COLUMNS_FULL"⟩,
      ⟨"getContentValues", each (put l) (written columns)⟩,
      ⟨"getValues", valueArray l columns⟩,
      ⟨"copy", copied l columns⟩,
      ⟨"bindInsertStatement", bound l columns⟩,
      ⟨"bindUpdateStatement", bound l columns ++ bindKey l columns⟩,
      ⟨"setContent", each (takeValue l) (written columns)⟩,
      ⟨"setContent", each (takeCursor l) columns⟩,
      ⟨"isNewRecord", newTest l⟩]

/-! ## Records -/

/-- The expression for the list of all columns. -/
def selection (columns : List Column) : Snippet Reference :=
  separated " + \", \" + "
    (fun c => ref (.fullColumn c.field) ++ " + \" AS \" + " ++ ref (.column c.field)) columns

/-- The calls that give all columns to a query builder. -/
def builderFields (columns : List Column) : Snippet Reference :=
  each (fun c => "\t.field(" ++ ref (.fullColumn c.field) ++ ", " ++ ref (.column c.field) ++ ")\n")
    columns

/-- The statements of a view and their initialisation. -/
def viewStatements (l : Language) (o : Options) (columns : List Column) : List Member :=
  let table := ref (.constant "TABLE")
  let drop := ⟨"DROP_VIEW", "\"DROP VIEW IF EXISTS \" + " ++ table⟩
  let create : Snippet Reference := "\"CREATE VIEW IF NOT EXISTS \" + " ++ table
  if o.queryBuilder then
    [drop, ⟨"CREATE_VIEW", ""⟩,
      ⟨"init", "CREATE_VIEW = " ++ create ++ " + \" AS \" +\n\t" ++ l.creation
        ++ "SQLQueryBuilder()\n" ++ builderFields columns ++ "\t.table(" ++ table
        ++ ")\n\t.buildQuery()" ++ l.terminator⟩]
  else
    [drop, ⟨"CREATE_VIEW", create ++ " + \" AS SELECT \" + " ++ selection columns
      ++ " + \" FROM \" + " ++ table⟩, ⟨"init", ""⟩]

/-- The statements of a query and their initialisation. -/
def queryStatements (l : Language) (o : Options) (columns : List Column) : List Member :=
  let raw := ⟨"QUERY_RAW", "\"SELECT * FROM \" + QUERY"⟩
  if o.queryBuilder then
    [⟨"QUERY", ""⟩, raw,
      ⟨"init", "QUERY = " ++ l.creation ++ "SQLQueryBuilder()\n" ++ builderFields columns
        ++ "\t.table(\"SOME_TABLE\")\n\t.buildQuery()" ++ l.terminator⟩]
  else
    [⟨"QUERY", "\"(\" + \"SELECT \" + " ++ selection columns
      ++ " + \" FROM SOME TABLE(S)\" + \")\""⟩, raw, ⟨"init", ""⟩]

/-- The statements of a record and their initialisation; a table has none. -/
def statements (l : Language) (o : Options) (kind : EntityKind) (columns : List Column) :
    List Member :=
  match kind with
  | .table => [⟨"init", ""⟩]
  | .view => viewStatements l o columns
  | .query => queryStatements l o columns

/-- The members of a record. -/
def record (l : Language) (o : Options) (kind : EntityKind) (columns : List Column) : List Member :=
  statements l o kind columns
    ++ [⟨"constructor", ""⟩, ⟨"constructor", "setContent(cursor)" ++ l.terminator⟩,
      ⟨"constructor", "setContent(values)" ++ l.terminator⟩]

/-! ## Managers -/

/-- The expressions of a manager for the key column and the statements of its entity. -/
structure SqlCode where
  key : Snippet Reference
  drop : Snippet Reference := "\"\""
  create : Snippet Reference := "\"\""
  insert : Snippet Reference := "\"\""
  update : Snippet Reference := "\"\""

/-- The expressions with their references filled in. -/
def SqlCode.text (sql : SqlCode) (refs : Reference → String) : ManagerSql where
  key := sql.key.text refs
  drop := sql.drop.text refs
  create := sql.create.text refs
  insert := sql.insert.text refs
  update := sql.update.text refs

/-- What stands for the key of an entity that is no table. -/
def missingKey : Language → EntityKind → String
  | .kotlin, .view => "\"<NO_PRIMARY_KEY_ON_VIEWS>\""
  | .kotlin, _ => "\"<NO_PRIMARY_KEY_ON_QUERIES>\""
  | .java, _ => "null"

/-- The expressions for an entity of a kind, which a table has for its key only if it has one. -/
def sqlCode (l : Language) (kind : EntityKind) (hasKey : Bool) : SqlCode :=
  match kind with
  | .table =>
    { key := if hasKey then ref (.constant "PRIMARY_KEY_COLUMN") else "\"NO_PRIMARY_KEY\""
      drop := ref (.constant "DROP_TABLE"), create := ref (.constant "CREATE_TABLE")
      insert := ref (.constant "INSERT_STATEMENT"), update := ref (.constant "UPDATE_STATEMENT") }
  | .view =>
    { key := missingKey l kind, drop := ref (.own "DROP_VIEW")
      create := ref (.own "CREATE_VIEW") }
  | .query => { key := missingKey l kind }

/-- The members of a base manager in Kotlin. -/
def kotlinBaseManager (kind : EntityKind) (hasKey : Bool) : List Member :=
  let sql := sqlCode .kotlin kind hasKey
  [⟨"init", ""⟩, ⟨"allColumns", ref (.constant "ALL_COLUMNS")⟩, ⟨"primaryKey", sql.key⟩,
    ⟨"dropSql", sql.drop⟩, ⟨"createSql", sql.create⟩, ⟨"insertSql", sql.insert⟩,
    ⟨"updateSql", sql.update⟩,
    ⟨"getDatabaseName", "return " ++ ref (.constant "DATABASE")⟩,
    ⟨"newRecord", "return " ++ ref .record ++ "()"⟩]
    ++ if kind = .query then [⟨"getQuery", ""⟩, ⟨"getTableName", "return getQuery()"⟩]
      else [⟨"getTableName", "return " ++ ref (.constant "TABLE")⟩]

/-- Gives something in Java. -/
def javaReturn (expression : Snippet Reference) : Snippet Reference :=
  "return " ++ expression ++ ";"

/-- The members of a base manager in Java. -/
def javaBaseManager (kind : EntityKind) (hasKey : Bool) : List Member :=
  let sql := sqlCode .java kind hasKey
  [⟨"init", ""⟩, ⟨"databaseManager", ""⟩,
    ⟨"constructor", "this.databaseManager = databaseManager;"⟩,
    ⟨"getDatabaseName", javaReturn (ref (.constant "DATABASE"))⟩,
    ⟨"newRecord", javaReturn ("new " ++ ref .record ++ "()")⟩]
    ++ (if kind = .query then []
      else [⟨"getTableName", javaReturn (ref (.constant "TABLE"))⟩])
    ++ [⟨"getAllColumns", javaReturn (ref (.constant "ALL_COLUMNS"))⟩,
      ⟨"getReadableDatabase", javaReturn "databaseManager.getReadableDatabase(databaseName)"⟩,
      ⟨"getReadableDatabase", javaReturn "databaseManager.getReadableDatabase(getDatabaseName())"⟩,
      ⟨"getWritableDatabase", javaReturn "databaseManager.getWritableDatabase(databaseName)"⟩,
      ⟨"getWritableDatabase", javaReturn "databaseManager.getWritableDatabase(getDatabaseName())"⟩,
      ⟨"getAndroidDatabase", javaReturn "databaseManager.getDatabase(databaseName)"⟩,
      ⟨"getDatabaseConfig", "return databaseManager.getDatabaseConfig();"⟩]
    ++ (if kind = .query then [⟨"getQuery", ""⟩, ⟨"getTableName", javaReturn "getQuery()"⟩] else [])
    ++ [⟨"getPrimaryKey", javaReturn sql.key⟩, ⟨"getDropSql", javaReturn sql.drop⟩,
      ⟨"getCreateSql", javaReturn sql.create⟩, ⟨"getInsertSql", javaReturn sql.insert⟩,
      ⟨"getUpdateSql", javaReturn sql.update⟩]

/-- The members of a base manager. -/
def baseManager (l : Language) (kind : EntityKind) (columns : List Column) : List Member :=
  match l with
  | .kotlin => kotlinBaseManager kind (columns.any (·.isKey))
  | .java => javaBaseManager kind (columns.any (·.isKey))

/-- Gives the statement of a query, which the record declares. -/
def query (l : Language) : Snippet Reference :=
  "return " ++ ref (.own "QUERY") ++ l.terminator

/-- Constructs a manager; in Kotlin there is nothing left to do. -/
def construction : Language → String
  | .kotlin => ""
  | .java => "super(databaseManager);"

/-- The members of a manager. -/
def manager (l : Language) (kind : EntityKind) : List Member :=
  [⟨"init", ""⟩, ⟨"constructor", construction l⟩]
    ++ if kind = .query then [⟨"getQuery", query l⟩] else []

end Outline

/-! ## Members of the generated classes -/

namespace Resolved

variable {r : Resolved}

/-- The record. -/
def recordSource (r : Resolved) : SourceClass :=
  match r.language with
  | .kotlin => .kotlin r.kotlinRecord
  | .java => .java r.javaRecord

/-- The base manager. -/
def baseManagerSource (r : Resolved) : SourceClass :=
  match r.language with
  | .kotlin => .kotlin r.kotlinBaseManager
  | .java => .java r.javaBaseManager

/-- The manager. -/
def managerSource (r : Resolved) : SourceClass :=
  match r.language with
  | .kotlin => .kotlin r.kotlinManager
  | .java => .java r.javaManager

theorem keyColumnBody_eq (l : Language) :
    r.keyColumnBody l = (Outline.keyColumn l r.columns).text r.referenceText := by
  unfold keyColumnBody Outline.keyColumn key?
  cases r.columns.find? (·.isKey) <;> rfl

theorem keyBody_eq (l : Language) : r.keyBody l = Outline.keyValue l r.columns := by
  unfold keyBody Outline.keyValue key?
  cases r.columns.find? (·.isKey) <;> rfl

theorem setKeyBody_eq (l : Language) : r.setKeyBody l = Outline.setKey l r.columns := by
  unfold setKeyBody Outline.setKey key?
  cases r.columns.find? (·.isKey) <;> cases l <;> rfl

theorem putContent_eq (l : Language) :
    r.putContent l =
      (Snippet.each (Outline.put l) (Outline.written r.columns)).text r.referenceText := by
  rw [Snippet.text_each, putContent]
  refine congrArg Text.concat (List.map_congr_left fun c _ => ?_)
  rw [Expression.storedValue_eq]
  rfl

theorem valuesBody_eq (l : Language) : r.valuesBody l = Outline.valueArray l r.columns := by
  have hitem : (fun c => "\t" ++ arrayItem l c) = Outline.arrayItem l := by
    funext c
    rw [arrayItem, Outline.arrayItem, Expression.storedValue_eq]
  unfold valuesBody Outline.valueArray
  cases l <;> rw [hitem]

theorem copyColumn_eq (l : Language) (c : Column) : copyColumn l c = Outline.copyColumn l c := by
  unfold copyColumn Outline.copyColumn
  rw [Expression.copied_eq]
  cases l <;> rfl

theorem copyBody_eq (l : Language) :
    r.copyBody l = (Outline.copied l r.columns).text r.referenceText := by
  unfold copyBody Outline.copied
  rw [funext (copyColumn_eq l)]
  cases l <;> rfl

theorem render_binding_eq (l : Language) (index : Nat) (c : Column) :
    (c.binding l index).render l = Outline.bind l index c := by
  have hmethod : c.bindMethod? = Outline.bindMethod? c := by
    unfold Column.bindMethod? Outline.bindMethod?
    cases c.content <;> cases c.field.type <;> rfl
  unfold Column.binding Outline.bind
  rw [hmethod, Expression.knownValue?_eq]
  cases Outline.bindMethod? c <;> cases l <;>
    cases Expression.known? _ c c.variableName <;> cases c.isNullable <;>
    simp only [Binding.render, BindCall.render_value, BindCall.render_null] <;> rfl

theorem insertBody_eq_bound (l : Language) : r.insertBody l = Outline.bound l r.columns := by
  have hbound : Outline.bound l r.columns = Text.concat
      ((Outline.written r.columns).mapIdx fun i c => (c.binding l (i + 1)).render l) := by
    simp only [Outline.bound, render_binding_eq]
  rw [hbound, insertBody_eq]
  rfl

theorem updateBody_eq_append (l : Language) :
    r.updateBody l = Outline.bound l r.columns ++ Outline.bindKey l r.columns := by
  rw [updateBody, List.map_append, Text.concat_append, ← insertBody, insertBody_eq_bound,
    keyBindings, key?]
  unfold Outline.bindKey
  cases r.columns.find? (·.isKey) with
  | none => rfl
  | some key =>
    simp only [Option.toList_some, List.map_singleton, Binding.render, BindCall.render_value,
      Text.concat_cons, Text.concat_nil, String.append_empty]
    rfl

theorem takeValues_eq (l : Language) :
    r.takeValues l =
      (Snippet.each (Outline.takeValue l) (Outline.written r.columns)).text r.referenceText := by
  rw [Snippet.text_each, takeValues]
  refine congrArg Text.concat (List.map_congr_left fun c _ => ?_)
  have hread := Expression.text_orMark r.referenceText l (c := c)
    (Expression.fromValues?_eq r.referenceText l c (Outline.ref (.column c.field)))
  simp only [Outline.takeValue, Snippet.text_append, Snippet.text_plain, hread]
  rfl

theorem takeCursor_eq (l : Language) :
    r.takeCursor l = (Snippet.each (Outline.takeCursor l) r.columns).text r.referenceText := by
  rw [Snippet.text_each, takeCursor]
  refine congrArg Text.concat (List.map_congr_left fun c _ => ?_)
  have hread := Expression.text_orMark r.referenceText l (c := c)
    (Expression.fromCursor?_eq r.referenceText l c (Outline.ref (.column c.field)))
  simp only [Outline.takeCursor, Snippet.text_append, Snippet.text_plain, hread]
  rfl

/-- The annotations of a field change neither its name nor what it starts with. -/
theorem name_value_javaVariable (annotated : Bool) (c : Column) :
    ((c.javaVariable annotated).name, (c.javaVariable annotated).value) =
      (c.variableName, c.initial .java) := by
  unfold Column.javaVariable JavaVariable.withNullability
  cases annotated with
  | false => rfl
  | true =>
    simp only [if_true]
    split <;> rfl

theorem members_baseRecordSource :
    r.baseRecordSource.members =
      (Outline.baseRecord r.language r.columns).map (·.fill r.referenceText) := by
  unfold baseRecordSource
  -- the bodies are those of the outline; constants and annotations play no part in them
  cases r.language with
  | kotlin =>
    simp only [SourceClass.members, kotlinBaseRecord, kotlinRecordFunctions, Outline.baseRecord,
      keyColumnBody_eq, keyBody_eq, setKeyBody_eq, putContent_eq, valuesBody_eq, copyBody_eq,
      insertBody_eq_bound, updateBody_eq_append, takeValues_eq, takeCursor_eq, List.map_append,
      List.map_map, List.map_cons, List.map_nil, List.append_nil]
    rfl
  | java =>
    simp only [SourceClass.members, javaBaseRecord, javaRecordMethods, Outline.baseRecord,
      keyColumnBody_eq, keyBody_eq, setKeyBody_eq, putContent_eq, valuesBody_eq, copyBody_eq,
      insertBody_eq_bound, updateBody_eq_append, takeValues_eq, takeCursor_eq, List.map_append,
      List.map_map, List.map_cons, List.map_nil, List.append_nil, Function.comp_def,
      name_value_javaVariable]
    rfl

theorem columnPair_eq (c : Column) :
    r.columnPair c =
      (r.referenceText (.fullColumn c.field), r.referenceText (.column c.field)) := by
  rw [columnPair, c.fullConstant_eq]
  rfl

theorem selection_eq : r.selection = (Outline.selection r.columns).text r.referenceText := by
  rw [Outline.selection, Snippet.text_separated]
  simp only [selection, columnPair_eq]
  rfl

theorem builderFields_eq :
    r.builderFields = (Outline.builderFields r.columns).text r.referenceText := by
  rw [Outline.builderFields, Snippet.text_each]
  simp only [builderFields, columnPair_eq]
  rfl

/-- The statements of a record, with their references filled in. -/
theorem sqlTemplate_eq (l : Language) :
    (r.sqlTemplate l).constants ++ [("init", (r.sqlTemplate l).init)] =
      (Outline.statements l r.options r.entity.kind r.columns).map (·.fill r.referenceText) := by
  unfold sqlTemplate Outline.statements
  cases r.entity.kind with
  | table => rfl
  | view =>
    simp only [viewTemplate, Outline.viewStatements, selection_eq, builderFields_eq]
    cases r.options.queryBuilder <;> rfl
  | query =>
    simp only [queryTemplate, Outline.queryStatements, selection_eq, builderFields_eq]
    cases r.options.queryBuilder <;> rfl

theorem members_recordSource :
    r.recordSource.members =
      (Outline.record r.language r.options r.entity.kind r.columns).map
        (·.fill r.referenceText) := by
  unfold recordSource Outline.record
  rw [List.map_append, ← sqlTemplate_eq]
  -- constants and initialisation are those of the template, and the constructors the same for all
  cases r.language with
  | kotlin =>
    simp only [SourceClass.members, kotlinRecord, List.map_map, Function.comp_def, List.map_id',
      List.map_nil, List.append_nil]
    rfl
  | java =>
    simp only [SourceClass.members, javaRecord, JavaVariable.constant, List.map_map,
      Function.comp_def, List.map_id', List.map_nil, List.append_nil]
    rfl

/-- The constants of a record are referred to by their names. -/
theorem referenceText_own (name : String) :
    r.referenceText (.own name) = r.className ++ ("." ++ name) :=
  String.append_assoc

/-- The expressions of a manager, with their references filled in. -/
theorem managerSql_eq :
    r.managerSql =
      (Outline.sqlCode r.language r.entity.kind (r.columns.any (·.isKey))).text
        r.referenceText := by
  unfold managerSql Outline.sqlCode
  rw [key?, List.isSome_find?]
  cases r.entity.kind with
  | table => cases r.columns.any (·.isKey) <;> rfl
  | view =>
    -- the manager has the point before the statement's name in one piece with it
    simp only [Outline.SqlCode.text, Outline.ref, Snippet.text_reference, referenceText_own]
    cases r.language <;> rfl
  | query => cases r.language <;> rfl

theorem members_baseManagerSource :
    r.baseManagerSource.members =
      (Outline.baseManager r.language r.entity.kind r.columns).map (·.fill r.referenceText) := by
  have hsql := r.managerSql_eq
  unfold baseManagerSource Outline.baseManager
  cases hlanguage : r.language with
  | kotlin =>
    rw [hlanguage] at hsql
    simp only [SourceClass.members, kotlinBaseManager, kotlinManagerProperties,
      kotlinManagerFunctions, Outline.kotlinBaseManager, isQuery, beq_iff_eq, List.map_append, hsql]
    split <;> rfl
  | java =>
    rw [hlanguage] at hsql
    simp only [SourceClass.members, javaBaseManager, javaManagerMethods, javaQueryMethods,
      Outline.javaBaseManager, isQuery, beq_iff_eq, List.map_append, hsql]
    split <;> rfl

/-- A manager gives the statement of its query by the constant of the record. -/
theorem query_eq (l : Language) :
    (Outline.query l).text r.referenceText =
      "return " ++ r.className ++ (match l with
        | .kotlin => ".QUERY"
        | .java => ".QUERY;") := by
  have htext : (Outline.query l).text r.referenceText =
      "return " ++ (r.className ++ "." ++ "QUERY") ++ l.terminator := rfl
  rw [htext]
  simp only [String.append_assoc]
  cases l <;> rfl

theorem members_managerSource :
    r.managerSource.members =
      (Outline.manager r.language r.entity.kind).map (·.fill r.referenceText) := by
  unfold managerSource Outline.manager
  by_cases hkind : r.entity.kind = .query
  · cases r.language <;>
      simp only [SourceClass.members, kotlinManager, javaManager, isQuery, hkind, beq_self_eq_true,
        if_true, List.map_append, List.map_cons, List.map_nil, Member.fill, query_eq] <;> rfl
  · cases r.language <;>
      simp only [SourceClass.members, kotlinManager, javaManager, isQuery, beq_iff_eq, if_neg hkind,
        List.map_append, List.map_nil] <;> rfl

end Resolved

end SchemaForge
