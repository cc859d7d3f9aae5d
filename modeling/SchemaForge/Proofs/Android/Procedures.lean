import SchemaForge.Android.Lifecycle
import SchemaForge.Proofs.Text.Pieces

namespace SchemaForge

/-! # Functions for all databases as calls

The functions that create databases, drop their views and make them known are generated as texts.
Here they are put together of calls, each with what it refers to, and of fixed code that is the same
for every schema. The text of such a procedure is that of the function that is generated, so that
the calls are all that a function does for a schema.
-/

namespace Lifecycle

/-! ## Calls -/

/-- What the functions for all databases refer to. -/
inductive Target where
  /-- The statement that creates a table. -/
  | tableScript (d : Database) (table : Entity)
  /-- The statement that creates a view. -/
  | viewScript (d : Database) (view : Entity)
  /-- The statement that drops a view. -/
  | viewDrop (d : Database) (view : Entity)
  /-- A function of the same class. -/
  | function (name : String)
  | databaseName (d : Database)
  | tablesVersion (d : Database)
  | viewsVersion (d : Database)
deriving DecidableEq

/-- The text of a reference. -/
def Target.text (run : Run) (l : Language) : Target → String
  | tableScript d table =>
    (Scope.mk run d table).package ++ "." ++ (Scope.mk run d table).constantsName ++ ".CREATE_TABLE"
  | viewScript d view =>
    (Scope.mk run d view).package ++ "." ++ (Scope.mk run d view).className ++ ".CREATE_VIEW"
  | viewDrop d view =>
    (Scope.mk run d view).package ++ "." ++ (Scope.mk run d view).className ++ ".DROP_VIEW"
  | function name => name
  | databaseName d => "DatabaseManagerConst" ++ "." ++ d.nameConstant
  | tablesVersion d => "DatabaseManager" ++ "." ++ d.tablesVersion l
  | viewsVersion d => "DatabaseManager" ++ "." ++ d.viewsVersion l

/-- A call with what it refers to. -/
inductive Call where
  /-- Creates a table or a view. -/
  | create (statement : Target)
  /-- Drops a view. -/
  | drop (statement : Target)
  /-- Calls a function if the database has this name. -/
  | dispatch (name function : Target)
  /-- Makes a database known. -/
  | add (name tablesVersion viewsVersion : Target)
deriving DecidableEq

/-- The references of a call. -/
def Call.targets : Call → List Target
  | create statement => [statement]
  | drop statement => [statement]
  | dispatch name function => [name, function]
  | add name tablesVersion viewsVersion => [name, tablesVersion, viewsVersion]

/-- The text of a call, given what stands for its references. -/
def Call.text (l : Language) (refs : Target → String) : Call → String
  | create statement =>
    l.line ("AndroidBaseManager.createTable(database, " ++ refs statement ++ ")")
  | drop statement => l.line ("AndroidBaseManager.dropTable(database, " ++ refs statement ++ ")")
  | dispatch name function =>
    "if (" ++ (match l with
      | .kotlin => currentName l ++ " == " ++ refs name
      | .java => currentName l ++ ".equals(" ++ refs name ++ ")")
      ++ ") \x7b\n\t" ++ l.line (refs function ++ "(androidDatabase)") ++ "\x7d\n"
  | add name tablesVersion viewsVersion =>
    l.line ("databaseManager.addDatabase(application, " ++ refs name ++ ", "
      ++ refs tablesVersion ++ ", " ++ refs viewsVersion ++ ")")

/-! ## Procedures -/

/-- Code that is the same for every schema, or a call. -/
inductive Statement where
  | fixed (code : String)
  | call (c : Call)
deriving DecidableEq

/-- The text of a statement, given what stands for its references. -/
def Statement.text (l : Language) (refs : Target → String) : Statement → String
  | fixed code => code
  | call c => c.text l refs

/-- The call that a statement is, if it is one. -/
def Statement.call? : Statement → Option Call
  | fixed _ => none
  | call c => some c

/-- The code of a statement that is no call. -/
def Statement.fixed? : Statement → Option String
  | fixed code => some code
  | call _ => none

@[simp] theorem Statement.call?_fixed (code : String) : (fixed code).call? = none := rfl

@[simp] theorem Statement.call?_call (c : Call) : (call c).call? = some c := rfl

@[simp] theorem Statement.fixed?_fixed (code : String) : (fixed code).fixed? = some code := rfl

@[simp] theorem Statement.fixed?_call (c : Call) : (call c).fixed? = none := rfl

/-- A function as a list of statements. -/
structure Procedure where
  name : String
  body : List Statement
deriving DecidableEq

namespace Procedure

/-- The calls of a procedure. -/
def calls (p : Procedure) : List Call :=
  p.body.filterMap Statement.call?

/-- The code of a procedure beside its calls. -/
def fixedCode (p : Procedure) : List String :=
  p.body.filterMap Statement.fixed?

/-- The references of a procedure. -/
def targets (p : Procedure) : List Target :=
  p.calls.flatMap (·.targets)

/-- The function that is generated for a procedure. -/
def function (run : Run) (l : Language) (p : Procedure) : DatabaseFunction :=
  { name := p.name, content := Text.concat (p.body.map (Statement.text l (Target.text run l))) }

end Procedure

/-- A call for each member of a list. -/
def each {α : Type} (xs : List α) (c : α → Call) : List Statement :=
  xs.map fun x => .call (c x)

variable {α : Type}

theorem filterMap_call?_each (xs : List α) (c : α → Call) :
    (each xs c).filterMap Statement.call? = xs.map c := by
  simp [each, Function.comp_def]

theorem filterMap_fixed?_each (xs : List α) (c : α → Call) :
    (each xs c).filterMap Statement.fixed? = [] := by
  simp [each]

theorem concat_text_each (l : Language) (refs : Target → String) (xs : List α) (c : α → Call) :
    Text.concat ((each xs c).map (Statement.text l refs)) =
      Text.concat (xs.map fun x => (c x).text l refs) := by
  rw [each, List.map_map]
  rfl

/-! ## Procedures of a database -/

/-- The code that begins a transaction. -/
def opening (l : Language) : String :=
  (match l with
    | .kotlin => l.line "val database = androidDatabase.databaseWrapper"
    | .java => l.line "DatabaseWrapper database = androidDatabase.getDatabaseWrapper()")
    ++ l.line "database.beginTransaction()"

/-- The code that ends a transaction. -/
def closing (l : Language) : String :=
  "\n" ++ l.line "database.setTransactionSuccessful()" ++ l.line "database.endTransaction()"

theorem transaction_eq (l : Language) (body : String) :
    transaction l body = opening l ++ body ++ closing l := by
  unfold transaction closing
  rw [← String.append_assoc, ← String.append_assoc]
  rfl

/-- Statements in a transaction. -/
def inTransaction (l : Language) (body : List Statement) : List Statement :=
  .fixed (opening l) :: (body ++ [.fixed (closing l)])

theorem concat_text_inTransaction (l : Language) (refs : Target → String) (body : List Statement) :
    Text.concat ((inTransaction l body).map (Statement.text l refs)) =
      transaction l (Text.concat (body.map (Statement.text l refs))) := by
  rw [transaction_eq, inTransaction, List.map_cons, List.map_append, List.map_singleton,
    Text.concat_cons, Text.concat_append, Text.concat_cons, Text.concat_nil, String.append_empty,
    ← String.append_assoc]
  rfl

/-- The function that creates the tables of a database. -/
def tablesProcedure (l : Language) (d : Database) : Procedure where
  name := "create" ++ d.functionPart ++ "Tables"
  body := inTransaction l (.fixed "\n// Enum Tables\n"
    :: (each d.enumerationTables (fun table => .create (.tableScript d table))
      ++ .fixed "\n// Tables\n"
        :: each (d.tables.filter (!·.isEnumeration)) fun table => .create (.tableScript d table)))

/-- The function that creates the views of a database. -/
def createViewsProcedure (l : Language) (d : Database) : Procedure where
  name := "create" ++ d.functionPart ++ "Views"
  body := inTransaction l
    (.fixed "\n// Views\n" :: each d.views fun view => .create (.viewScript d view))

/-- The function that drops the views of a database. -/
def dropViewsProcedure (l : Language) (d : Database) : Procedure where
  name := "drop" ++ d.functionPart ++ "Views"
  body := inTransaction l
    (.fixed "\n// Views\n" :: each d.views fun view => .drop (.viewDrop d view))

/-- The functions of a database. -/
def proceduresOf (l : Language) (d : Database) : List Procedure :=
  tablesProcedure l d
    :: if d.views.isEmpty then [] else [createViewsProcedure l d, dropViewsProcedure l d]

theorem mem_proceduresOf {l : Language} {d : Database} {p : Procedure} (h : p ∈ proceduresOf l d) :
    p = tablesProcedure l d ∨ p = createViewsProcedure l d ∨ p = dropViewsProcedure l d := by
  unfold proceduresOf at h
  split at h
  · exact .inl (List.mem_singleton.1 h)
  · simpa using h

/-! ## Texts of the procedures -/

theorem createTable_eq (run : Run) (l : Language) (d : Database) (table : Entity) :
    createTable run l d table =
      (Call.create (.tableScript d table)).text l (Target.text run l) := by
  unfold createTable Call.text Target.text
  apply congrArg l.line
  rw [← String.toList_inj]
  simp only [String.toList_append, List.append_assoc, Scope.fullName, Scope.constantsName]
  rfl

theorem createView_eq (run : Run) (l : Language) (d : Database) (view : Entity) :
    createView run l d view = (Call.create (.viewScript d view)).text l (Target.text run l) := by
  unfold createView Call.text Target.text
  apply congrArg l.line
  rw [← String.toList_inj]
  simp only [String.toList_append, List.append_assoc, Scope.fullName]
  rfl

theorem dropView_eq (run : Run) (l : Language) (d : Database) (view : Entity) :
    dropView run l d view = (Call.drop (.viewDrop d view)).text l (Target.text run l) := by
  unfold dropView Call.text Target.text
  apply congrArg l.line
  rw [← String.toList_inj]
  simp only [String.toList_append, List.append_assoc, Scope.fullName]
  rfl

theorem identify_eq (run : Run) (l : Language) (d : Database) :
    identify l d = (Call.add (.databaseName d) (.tablesVersion d) (.viewsVersion d)).text l
      (Target.text run l) := by
  unfold identify nameReference constantsName Call.text Target.text
  apply congrArg l.line
  rw [← String.toList_inj]
  simp only [String.toList_append, List.append_assoc]
  rfl

theorem dispatch_eq (run : Run) (l : Language) (d : Database) (function : DatabaseFunction) :
    dispatch l d function =
      (Call.dispatch (.databaseName d) (.function function.name)).text l (Target.text run l) := by
  cases l <;> rfl

theorem function_tablesProcedure (run : Run) (l : Language) (d : Database) :
    (tablesProcedure l d).function run l = tablesFunction run l d := by
  have hcalls : ∀ tables : List Entity,
      Text.concat ((each tables fun table => .create (.tableScript d table)).map
        (Statement.text l (Target.text run l))) =
      Text.concat (tables.map (createTable run l d)) := by
    intro tables
    rw [concat_text_each]
    simp only [← createTable_eq]
  unfold Procedure.function tablesFunction tablesProcedure
  rw [concat_text_inTransaction, List.map_cons, List.map_append, List.map_cons, Text.concat_cons,
    Text.concat_append, Text.concat_cons, hcalls, hcalls, ← String.append_assoc,
    ← String.append_assoc]
  rfl

theorem function_createViewsProcedure (run : Run) (l : Language) (d : Database) :
    (createViewsProcedure l d).function run l = createViewsFunction run l d := by
  unfold Procedure.function createViewsFunction createViewsProcedure
  rw [concat_text_inTransaction, List.map_cons, Text.concat_cons, concat_text_each]
  simp only [← createView_eq]
  rfl

theorem function_dropViewsProcedure (run : Run) (l : Language) (d : Database) :
    (dropViewsProcedure l d).function run l = dropViewsFunction run l d := by
  unfold Procedure.function dropViewsFunction dropViewsProcedure
  rw [concat_text_inTransaction, List.map_cons, Text.concat_cons, concat_text_each]
  simp only [← dropView_eq]
  rfl

/-- The functions of a database are generated for its procedures. -/
theorem map_function_proceduresOf (run : Run) (l : Language) (d : Database) :
    (proceduresOf l d).map (·.function run l) = functionsOf run l d := by
  unfold proceduresOf functionsOf
  split <;> simp [function_tablesProcedure, function_createViewsProcedure,
    function_dropViewsProcedure]

/-! ## Procedures for all databases -/

/-- Reports something and then calls a function for each of some databases. -/
def eventProcedure (l : Language) (name action : String) (databases : List Database)
    (function : Database → String) : Procedure where
  name := name
  body := .fixed (report l action)
    :: each databases fun d => .dispatch (.databaseName d) (.function (function d))

/-- What is done when a database is created. -/
def onCreate (l : Language) (s : Schema) : Procedure :=
  eventProcedure l "onCreate" "Creating database" s.databases fun d => (tablesProcedure l d).name

/-- What is done when the views of a database are created. -/
def onCreateViews (l : Language) (s : Schema) : Procedure :=
  eventProcedure l "onCreateViews" "Creating database views" (withViews s)
    fun d => (createViewsProcedure l d).name

/-- What is done when the views of a database are dropped. -/
def onDropViews (l : Language) (s : Schema) : Procedure :=
  eventProcedure l "onDropViews" "Dropping database views" (withViews s)
    fun d => (dropViewsProcedure l d).name

/-- All functions that create or drop something. -/
def procedures (l : Language) (s : Schema) : List Procedure :=
  [onCreate l s, onCreateViews l s, onDropViews l s] ++ s.databases.flatMap (proceduresOf l)

/-- What makes the databases known. -/
def identification (s : Schema) : Procedure where
  name := "identifyDatabases"
  body := each s.databases fun d =>
    .add (.databaseName d) (.tablesVersion d) (.viewsVersion d)

theorem function_eventProcedure (run : Run) (l : Language) (name action : String)
    (databases : List Database) (function : Database → DatabaseFunction) :
    (eventProcedure l name action databases fun d => (function d).name).function run l =
      { name, content := report l action
          ++ Text.concat (databases.map fun d => dispatch l d (function d)) } := by
  unfold Procedure.function eventProcedure
  rw [List.map_cons, Text.concat_cons, concat_text_each]
  simp only [← dispatch_eq]
  rfl

/-- The functions for the events are generated for these procedures. -/
theorem map_function_events (run : Run) (l : Language) (s : Schema) :
    [onCreate l s, onCreateViews l s, onDropViews l s].map (·.function run l) =
      eventFunctions run l s := by
  simp only [List.map_cons, List.map_nil]
  rw [eventFunctions]
  congr 1
  · exact function_eventProcedure run l _ _ _ (tablesFunction run l)
  congr 1
  · exact function_eventProcedure run l _ _ _ (createViewsFunction run l)
  congr 1
  · exact function_eventProcedure run l _ _ _ (dropViewsFunction run l)

theorem map_function_procedures (run : Run) (l : Language) (s : Schema) :
    (procedures l s).map (·.function run l) =
      eventFunctions run l s ++ s.databases.flatMap (functionsOf run l) := by
  rw [procedures, List.map_append, map_function_events, List.map_flatMap]
  simp only [map_function_proceduresOf]

theorem content_identification (run : Run) (l : Language) (s : Schema) :
    ((identification s).function run l).content = Text.concat (s.databases.map (identify l)) := by
  unfold Procedure.function identification
  rw [concat_text_each]
  simp only [← identify_eq]

/-! ## Calls of the procedures -/

theorem filterMap_call?_inTransaction (l : Language) (body : List Statement) :
    (inTransaction l body).filterMap Statement.call? = body.filterMap Statement.call? := by
  simp [inTransaction, List.filterMap_cons]

/-- A call creates each table, those whose rows are literals before the others. -/
theorem calls_tablesProcedure (l : Language) (d : Database) :
    (tablesProcedure l d).calls =
      (d.enumerationTables ++ d.tables.filter (!·.isEnumeration)).map
        fun table => .create (.tableScript d table) := by
  rw [Procedure.calls, tablesProcedure, filterMap_call?_inTransaction, List.map_append,
    List.filterMap_cons_none rfl, List.filterMap_append, List.filterMap_cons_none rfl,
    filterMap_call?_each, filterMap_call?_each]

theorem calls_createViewsProcedure (l : Language) (d : Database) :
    (createViewsProcedure l d).calls = d.views.map fun view => .create (.viewScript d view) := by
  rw [Procedure.calls, createViewsProcedure, filterMap_call?_inTransaction,
    List.filterMap_cons_none rfl, filterMap_call?_each]

theorem calls_dropViewsProcedure (l : Language) (d : Database) :
    (dropViewsProcedure l d).calls = d.views.map fun view => .drop (.viewDrop d view) := by
  rw [Procedure.calls, dropViewsProcedure, filterMap_call?_inTransaction,
    List.filterMap_cons_none rfl, filterMap_call?_each]

theorem calls_eventProcedure (l : Language) (name action : String) (databases : List Database)
    (function : Database → String) :
    (eventProcedure l name action databases function).calls =
      databases.map fun d => .dispatch (.databaseName d) (.function (function d)) := by
  rw [Procedure.calls, eventProcedure, List.filterMap_cons_none rfl, filterMap_call?_each]

theorem calls_identification (s : Schema) : (identification s).calls =
    s.databases.map fun d => .add (.databaseName d) (.tablesVersion d) (.viewsVersion d) := by
  rw [Procedure.calls, identification, filterMap_call?_each]

/-- The code beside the calls, whatever the schema is: transactions, comments and messages. -/
def fixedTexts : Language → List String
  | .kotlin => [
      "val database = androidDatabase.databaseWrapper\ndatabase.beginTransaction()\n",
      "\ndatabase.setTransactionSuccessful()\ndatabase.endTransaction()\n",
      "\n// Enum Tables\n", "\n// Tables\n", "\n// Views\n",
      "getLogger().i(TAG, \"Creating database: $\x7bandroidDatabase.name\x7d\")\n",
      "getLogger().i(TAG, \"Creating database views: $\x7bandroidDatabase.name\x7d\")\n",
      "getLogger().i(TAG, \"Dropping database views: $\x7bandroidDatabase.name\x7d\")\n"]
  | .java => [
      "DatabaseWrapper database = androidDatabase.getDatabaseWrapper();\n"
        ++ "database.beginTransaction();\n",
      "\ndatabase.setTransactionSuccessful();\ndatabase.endTransaction();\n",
      "\n// Enum Tables\n", "\n// Tables\n", "\n// Views\n",
      "getLogger().i(TAG, \"Creating database: \" + androidDatabase.getName());\n",
      "getLogger().i(TAG, \"Creating database views: \" + androidDatabase.getName());\n",
      "getLogger().i(TAG, \"Dropping database views: \" + androidDatabase.getName());\n"]

theorem fixedTexts_eq (l : Language) : fixedTexts l =
    [opening l, closing l, "\n// Enum Tables\n", "\n// Tables\n", "\n// Views\n",
      report l "Creating database", report l "Creating database views",
      report l "Dropping database views"] := by
  cases l <;> rfl

/-- Beside its calls a procedure has nothing that depends on the schema. -/
theorem fixedCode_subset {l : Language} {s : Schema} {p : Procedure}
    (h : p ∈ procedures l s ++ [identification s]) : p.fixedCode ⊆ fixedTexts l := by
  have hevent : ∀ name action databases function,
      (eventProcedure l name action databases function).fixedCode = [report l action] := by
    intro name action databases function
    simp [Procedure.fixedCode, eventProcedure, filterMap_fixed?_each]
  simp only [procedures, List.mem_append, List.mem_cons, List.not_mem_nil, or_false,
    List.mem_flatMap] at h
  rw [fixedTexts_eq]
  rcases h with ((rfl | rfl | rfl) | ⟨d, -, hp⟩) | rfl
  · rw [onCreate, hevent]
    simp
  · rw [onCreateViews, hevent]
    simp
  · rw [onDropViews, hevent]
    simp
  · rcases mem_proceduresOf hp with rfl | rfl | rfl
    · simp [Procedure.fixedCode, tablesProcedure, inTransaction, filterMap_fixed?_each]
    · simp [Procedure.fixedCode, createViewsProcedure, inTransaction, filterMap_fixed?_each]
    · simp [Procedure.fixedCode, dropViewsProcedure, inTransaction, filterMap_fixed?_each]
  · rw [Procedure.fixedCode, identification, filterMap_fixed?_each]
    exact List.nil_subset _

end Lifecycle

end SchemaForge
