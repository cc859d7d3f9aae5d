import SchemaForge.Files.Path

namespace SchemaForge

/-! # Source files -/

/-- What happens to a file that is already there. -/
inductive Policy where
  | overwrite
  /-- It is kept, because it may have been edited by hand. -/
  | createOnly
deriving DecidableEq, Repr

/-- A generated file. -/
structure SourceFile where
  /-- The path below the directory of all generated files. -/
  path : String
  policy : Policy
  contents : String
deriving DecidableEq, Repr

/-- The first file whose name, without extension, is this one. -/
def SourceFile.named? (files : List SourceFile) (name : String) : Option SourceFile :=
  files.find? (Path.stem? ·.path == some name)

end SchemaForge
