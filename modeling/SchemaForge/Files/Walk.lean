import SchemaForge.Files.Tree

namespace SchemaForge

/-! # Paths in a directory tree

A path is followed from the tree itself step by step, and each step is taken in a directory. An
absolute path and one that goes up from the tree itself lead out of it, where nothing is.
Directories are made as a path needs them, the tree itself first and then one after the other, and
stay when a later step fails. A file can be written in a directory where there is no directory with
its name.
-/

/-- Where a step leads to from a place, unless out of the tree. -/
def PathStep.target? (step : PathStep) (place : Place) : Option Place :=
  match step with
  | .blank | .here => some place
  | .up => if place = [] then none else some place.dropLast
  | .down name => some (place ++ [name])

namespace FileTree

/-- Where a step leads to from a place, in which there must be a directory. -/
def step? (t : FileTree) (place : Place) (step : PathStep) : Option Place :=
  if t.node? place = some .directory then
    (step.target? place).filter fun target => (t.node? target).isSome
  else none

/-- Whether a path is one on which anything can be in a tree. -/
def admits (path : String) : Bool :=
  Path.isValid path && !Path.isAbsolute path

/-- The place that a path leads to. -/
def place? (t : FileTree) (path : String) : Option Place :=
  if admits path then (Path.steps path).foldlM t.step? [] else none

/-- What a path leads to. -/
def find? (t : FileTree) (path : String) : Option FileNode :=
  (t.place? path).bind t.node?

/-- The contents of the file that a path leads to. -/
def read? (t : FileTree) (path : String) : Option String :=
  match t.find? path with
  | some (.file contents) => some contents
  | _ => none

/-- The tree with a directory in a place and the directories that steps from there lead to. When one
of them cannot be made, those after it are not made. -/
def withDirectories (t : FileTree) (place : Place) : List PathStep → FileTree
  | [] => (t.directory? place).getD t
  | step :: steps =>
    match t.directory? place with
    | none => t
    | some t =>
      match step.target? place with
      | none => t
      | some target => t.withDirectories target steps

/-- The directories of a path are made, and it is told whether it leads to a directory then. -/
def makeDirectory (t : FileTree) (path : String) : Bool × FileTree :=
  if admits path then
    let t := match Path.made? path with
      | some made => t.withDirectories [] (Path.steps made)
      | none => t
    (t.find? path == some .directory, t)
  else (false, t)

/-- The tree with a file where the last step of a path leads to from a directory. -/
def putFile? (t : FileTree) (path contents : String) : Option FileTree :=
  if admits path then do
    let name ← (Path.steps path).getLast?.bind (·.name?)
    let place ← (Path.steps path).dropLast.foldlM t.step? []
    t.put? (place ++ [name]) (.file contents)
  else none

/-- The tree with the directory of a path. -/
def withParent (t : FileTree) (path : String) : FileTree :=
  match Path.directory? path with
  | some directory => (t.makeDirectory directory).2
  | none => t

/-- A file is written and its directory made, and it is told whether that is done. -/
def write (t : FileTree) (path contents : String) : Bool × FileTree :=
  let t := t.withParent path
  match t.putFile? path contents with
  | some t => (true, t)
  | none => (false, t)

/-- What a path leads to is removed with all below it, and it is told whether that is done. A path
that ends in dots only clears its directory, which is a failure unless it leads nowhere then. -/
def remove (t : FileTree) (path : String) : Bool × FileTree :=
  match t.place? path with
  | none => (false, t)
  | some place =>
    if (Path.lastStep? path).all (·.name?.isSome) then (true, t.erase place)
    else
      let t := t.clear place
      ((t.place? path).isNone, t)

end FileTree

end SchemaForge
