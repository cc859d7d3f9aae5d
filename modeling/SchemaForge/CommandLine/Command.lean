import SchemaForge.Android.Project
import SchemaForge.CommandLine.Arguments
import SchemaForge.Sql.Ddl

namespace SchemaForge

/-! # Commands

The program has three commands: `generate` writes the sources of a schema, `validate` reads one and
counts its entities, and `sql` prints the statements that create a database. It ends with code 0,
with code 1 and a report when the command fails, and with code 2 when its arguments make no command.
-/

/-- What `generate` is asked for. -/
structure GenerateCommand where
  schema : String
  output : String
  package : String
  optionsFile? : Option String
  /-- The options that are switched on. -/
  switches : Options
  dates? : Option DateLibrary
  language? : Option Language
  /-- Holds when only the options are to be shown. -/
  showsOptions : Bool
deriving DecidableEq, Repr

/-- What `sql` is asked for. -/
structure SqlCommand where
  schema : String
  /-- The name of the database; the first one if there is none. -/
  database? : Option String
  withDrops : Bool
deriving DecidableEq, Repr

/-- A command. -/
inductive Command where
  | generate (c : GenerateCommand)
  | validate (schema : String)
  | sql (c : SqlCommand)
deriving DecidableEq, Repr

/-! ## Arguments -/

namespace Command

/-- The options that every command has. -/
def commonSpecs : List OptionSpec :=
  [{ name := "log-level" }, { name := "json-logs", takesValue := false }]

/-- The option for the schema file. -/
def schemaSpec : OptionSpec :=
  { name := "schema", letter? := some 's' }

/-- The options of `generate`. -/
def generateSpecs : List OptionSpec :=
  commonSpecs ++ [schemaSpec, { name := "output", letter? := some 'o' },
    { name := "package", letter? := some 'p' }, { name := "config", letter? := some 'c' },
    { name := "include-database-name", takesValue := false }, { name := "rx-java", takesValue := false },
    { name := "jsr305", takesValue := false }, { name := "injection", takesValue := false },
    { name := "sql-query-builder", takesValue := false }, { name := "date-type" },
    { name := "language", letter? := some 'l' }, { name := "print-config", takesValue := false }]

/-- The options of `sql`. -/
def sqlSpecs : List OptionSpec :=
  commonSpecs
    ++ [schemaSpec, { name := "database", letter? := some 'd' }, { name := "drops", takesValue := false }]

/-- The options and operands of a command that takes so many operands at most. -/
def arguments? (specs : List OptionSpec) (operands : Nat) (texts : List String) :
    Option (List Argument) := do
  let arguments ← Argument.readAll? specs none texts
  guard (Argument.unrepeated arguments ∧ (arguments.filterMap (·.operand?)).length ≤ operands)
  return arguments

/-- A path, which is not empty. -/
def path? (text : String) : Option String :=
  if text = "" then none else some text

/-- The value of an option that may be missing, read in some way. -/
def optional? {α : Type} (read? : String → Option α) : Option String → Option (Option α)
  | none => some none
  | some text => (read? text).map some

/-- The schema file, or the usual one if none is given. -/
def schema? (given? : Option String) : Option String :=
  path? (given?.getD "schema.xml")

/-- The command `generate` that its arguments make. -/
def generate? (texts : List String) : Option Command := do
  let arguments ← arguments? generateSpecs 0 texts
  let value? (name : String) := Argument.value? arguments name
  let given (name : String) := Argument.given arguments name
  return .generate {
    schema := ← schema? (value? "schema")
    output := ← path? (← value? "output")
    package := ← value? "package"
    optionsFile? := ← optional? path? (value? "config")
    switches := {
      databaseInPackage := given "include-database-name", reactive := given "rx-java"
      nullAnnotations := given "jsr305", injection := given "injection"
      queryBuilder := given "sql-query-builder" }
    dates? := ← optional? DateLibrary.ofText? (value? "date-type")
    language? := ← optional? Language.ofText? (value? "language")
    showsOptions := given "print-config" }

/-- The command `validate` that its arguments make. -/
def validate? (texts : List String) : Option Command := do
  let arguments ← arguments? commonSpecs 1 texts
  return .validate (← schema? (arguments.filterMap (·.operand?)).head?)

/-- The command `sql` that its arguments make. -/
def sql? (texts : List String) : Option Command := do
  let arguments ← arguments? sqlSpecs 0 texts
  return .sql {
    schema := ← schema? (Argument.value? arguments "schema")
    database? := Argument.value? arguments "database"
    withDrops := Argument.given arguments "drops" }

/-- The command that the arguments of the program make. -/
def ofArguments? (texts : List String) : Option Command := do
  let (front, name, rest) ← Argument.readFront? commonSpecs none texts
  guard (Argument.unrepeated front)
  match name with
  | "generate" => generate? rest
  | "validate" => validate? rest
  | "sql" => sql? rest
  | _ => none

end Command

/-! ## Effects -/

/-- The options in effect: those of the file, changed by those of the command. -/
def GenerateCommand.effective (c : GenerateCommand) (base : Options) : Options :=
  { databaseInPackage := base.databaseInPackage || c.switches.databaseInPackage
    reactive := base.reactive || c.switches.reactive
    nullAnnotations := base.nullAnnotations || c.switches.nullAnnotations
    injection := base.injection || c.switches.injection
    queryBuilder := base.queryBuilder || c.switches.queryBuilder
    dates := c.dates?.getD base.dates
    language := c.language?.getD base.language }

variable {m : Type → Type} [Monad m]

/-- Does what `generate` asks for, and gives what is printed. -/
def GenerateCommand.perform (disk : Disk m) (created : String) (c : GenerateCommand) :
    ExceptT Failure m String := do
  let base ← match c.optionsFile? with
    | some path => disk.options path
    | none => pure {}
  let options := c.effective base
  if c.showsOptions then return Json.lines options.entries ++ "\n"
  let schema ← disk.schema c.schema
  let report ← disk.generate (.generatingSources options.language.name)
    { package := c.package, options, created } schema c.output
  if report.isSuccess then return ""
  throw ⟨[], .unwritten (report.paths .failed).length⟩

/-- The line that counts the entities of a database. -/
def Database.summary (d : Database) : String :=
  d.name ++ ": " ++ toString d.tables.length ++ " tables, " ++ toString d.views.length ++ " views, "
    ++ toString d.queries.length ++ " queries\n"

/-- The database that `sql` is to print. -/
def SqlCommand.choose (c : SqlCommand) (s : Schema) : Except Fault Database :=
  match c.database? with
  | some name =>
    match s.database? name with
    | some d => .ok d
    | none => .error (.unknownDatabase name)
  | none =>
    match s.databases.head? with
    | some d => .ok d
    | none => .error .noDatabase

/-- Does what a command asks for, and gives what is printed. -/
def Command.perform (disk : Disk m) (created : String) : Command → ExceptT Failure m String
  | generate c => c.perform disk created
  | validate path => return Text.concat ((← disk.schema path).databases.map (·.summary))
  | sql c => do
    let d ← MonadExcept.ofExcept (failing (c.choose (← disk.schema c.schema)))
    return Sql.createDatabase d c.withDrops

/-- How the program ends. -/
structure Ending where
  code : UInt8
  /-- What is printed. -/
  output : String := ""
  /-- What is reported about a failure. -/
  report : String := ""
deriving DecidableEq, Repr

/-- The ending of a command with this result. -/
def Ending.ofResult : Except Failure String → Ending
  | .ok output => { code := 0, output }
  | .error f => { code := 1, report := "Error: " ++ "\n".intercalate f.messages ++ "\n" }

/-- Runs the program. Files that it makes give `created` as the time of their creation. -/
def runProgram (disk : Disk m) (created : String) (texts : List String) : m Ending :=
  match Command.ofArguments? texts with
  | some command => return Ending.ofResult (← (command.perform disk created).run)
  | none => return { code := 2, report := "the arguments make no command\n" }

end SchemaForge
