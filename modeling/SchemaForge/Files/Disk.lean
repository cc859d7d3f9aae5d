import SchemaForge.Fault
import SchemaForge.Files.Source
import SchemaForge.Files.Walk

namespace SchemaForge

/-! # Writing sources

What the program needs of a file system, as a record of operations. A directory tree gives them as
changes of a state, the system that the program runs on as actions. Writing goes through the files
one by one and does not stop at one that cannot be written.
-/

/-- The operations of a file system on paths. -/
structure Disk (m : Type → Type) where
  /-- The contents of a file that can be read. -/
  read? (path : String) : m (Option String)
  /-- Whether there is a file or directory. -/
  has (path : String) : m Bool
  /-- Makes a directory and those above it, and tells whether that is done. -/
  makeDirectory (path : String) : m Bool
  /-- Writes a file, with the directories above it, and tells whether that is done. -/
  write (path contents : String) : m Bool

namespace FileTree

/-- A directory tree as a file system. -/
def disk : Disk (StateM FileTree) where
  read? path := return (← get).read? path
  has path := return ((← get).find? path).isSome
  makeDirectory path := modifyGet (·.makeDirectory path)
  write path contents := modifyGet (·.write path contents)

end FileTree

/-- What became of a file. -/
inductive WriteResult where
  | written
  /-- It was there already and may have been edited. -/
  | skipped
  | failed
deriving DecidableEq, Repr

/-- What became of each file, in order. -/
structure WriteReport where
  entries : List (String × WriteResult) := []
deriving DecidableEq, Repr

namespace WriteReport

/-- The paths with this result, in order. -/
def paths (report : WriteReport) (result : WriteResult) : List String :=
  (report.entries.filter (·.2 == result)).map (·.1)

/-- Whether no file failed. -/
def isSuccess (report : WriteReport) : Bool :=
  (report.paths .failed).isEmpty

end WriteReport

namespace Disk

variable {m : Type → Type} [Monad m]

/-- Writes a file, unless it is there already and is to be kept. -/
def deliver (disk : Disk m) (directory : String) (f : SourceFile) : m (String × WriteResult) := do
  let path := Path.join directory f.path
  if f.policy = .createOnly then
    if ← disk.has path then return (path, .skipped)
  if ← disk.write path f.contents then return (path, .written)
  return (path, .failed)

/-- Writes files below a directory, which is made if there is none. -/
def deliverAll (disk : Disk m) (directory : String) (files : List SourceFile) :
    ExceptT Failure m WriteReport := do
  if ← disk.makeDirectory directory then
    return ⟨← files.mapM (fun f => disk.deliver directory f)⟩
  else throw ⟨[.creatingDirectory directory], .inaccessible⟩

end Disk

end SchemaForge
