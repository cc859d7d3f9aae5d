import SchemaForge.Android.Generator
import SchemaForge.Files.Disk
import SchemaForge.Schema.Document

namespace SchemaForge

/-! # Schemas and sources in files

Everything is read and generated before anything is written, so that a fault leaves all files as
they are.
-/

namespace Disk

variable {m : Type → Type} [Monad m]

/-- The schema in a file. -/
def schema (disk : Disk m) (path : String) : ExceptT Failure m Schema := do
  match ← disk.read? path with
  | some text => MonadExcept.ofExcept (during (.readingSchema path) (failing (Schema.ofText text)))
  | none => throw ⟨[.readingSchema path], .inaccessible⟩

/-- The options in a file. -/
def options (disk : Disk m) (path : String) : ExceptT Failure m Options := do
  match ← disk.read? path with
  | some text => MonadExcept.ofExcept (during (.parsingOptions path) (failing (Options.ofText text)))
  | none => throw ⟨[.readingOptions path], .inaccessible⟩

/-- Generates the sources of a schema, as part of an activity, and writes them below a directory. -/
def generate (disk : Disk m) (activity : Activity) (run : Run) (s : Schema) (directory : String) :
    ExceptT Failure m WriteReport := do
  let files ← MonadExcept.ofExcept (during activity (run.generate s))
  disk.deliverAll directory files

/-- Generates the sources of the schema in a file. -/
def generateFrom (disk : Disk m) (path : String) (run : Run) (directory : String) :
    ExceptT Failure m WriteReport := do
  disk.generate .runningGenerator run (← disk.schema path) directory

end Disk

end SchemaForge
