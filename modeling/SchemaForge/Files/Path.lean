import SchemaForge.Text.Pieces

namespace SchemaForge

/-! # Paths

Paths of files and directories as texts. A path is a row of steps, one for each part between its
slashes: an empty part and a single dot stay where they are, two dots go up, and every other part is
a name to go down to. A step can only be taken in a directory, so a slash or a dot at the end of a
path asks for one.
-/

/-- What a part of a path says. -/
inductive PathStep where
  /-- Nothing, as between two slashes in a row: stay here. -/
  | blank
  /-- A single dot: stay here. -/
  | here
  /-- Two dots: go to the directory above. -/
  | up
  /-- A name: go to what has this name in the directory. -/
  | down (name : String)
deriving DecidableEq, Repr

namespace PathStep

/-- The step that a part of a path says. -/
def ofPart : String → PathStep
  | "" => .blank
  | "." => .here
  | ".." => .up
  | name => .down name

/-- Whether the step leads away. -/
def isMove : PathStep → Bool
  | .blank | .here => false
  | .up | .down _ => true

/-- The name that the step goes to. -/
def name? : PathStep → Option String
  | .down name => some name
  | _ => none

end PathStep

namespace Path

/-- Whether a path says where it leads on its own, and not from the directory where the program
runs. -/
def isAbsolute (path : String) : Bool :=
  Text.beginsWith "/" path

/-- The path `name` as seen from a directory. An absolute path stays as it is, and the empty
directory is the one where the program runs. -/
def join (directory name : String) : String :=
  if isAbsolute name then name
  else if directory = "" ∨ Text.endsWithChar '/' directory then directory ++ name
  else directory ++ "/" ++ name

/-- The parts of a path between its slashes. -/
def parts (path : String) : List String :=
  Text.splitOn '/' path

/-- The path with these parts. -/
def ofParts (parts : List String) : String :=
  "/".intercalate parts

/-- The steps of a path. -/
def steps (path : String) : List PathStep :=
  (parts path).map .ofPart

/-- Whether a part of a path leads away. -/
def isMove (part : String) : Bool :=
  (PathStep.ofPart part).isMove

/-- The path without the parts at its front that stay where they are. An absolute path is left as it
is. -/
def trimStart (path : String) : String :=
  if isAbsolute path then path else ofParts ((parts path).dropWhile (!isMove ·))

/-- The parts up to the last one that leads away. -/
def upToMove (parts : List String) : List String :=
  (parts.reverse.dropWhile (!isMove ·)).reverse

/-- The path of the directory from which a path makes its last move, if it makes one. -/
def directory? (path : String) : Option String :=
  match upToMove (parts path) with
  | [] => none
  | moves => some (ofParts (upToMove moves.dropLast))

/-- The last step of a path, slashes behind it aside. -/
def lastStep? (path : String) : Option PathStep :=
  ((steps path).filter (· ≠ .blank)).getLast?

/-- The path of the directories that are made for a path. A dot at its end asks for a directory that
is there without being made. -/
def made? (path : String) : Option String :=
  if lastStep? path = some .here then directory? path else some path

/-- The name at the end of a path; a path that leads upwards at its end has none. -/
def name? (path : String) : Option String :=
  ((steps path).filter (·.isMove)).getLast?.bind (·.name?)

/-- A name without its extension, which is what stands behind the last dot. A dot at the front of a
name begins no extension. -/
def withoutExtension (name : String) : String :=
  let before := ".".intercalate (Text.splitOn '.' name).dropLast
  if before = "" then name else before

/-- The name at the end of a path, without its extension. -/
def stem? (path : String) : Option String :=
  (name? path).map withoutExtension

/-- Whether a file system takes a path: it has less than 4096 bytes and no zero character. -/
def isValid (path : String) : Bool :=
  path.utf8ByteSize < 4096 && !path.toList.contains '\x00'

/-- Whether a file or directory can have a name, which has at most 255 bytes. -/
def isValidName (name : String) : Bool :=
  name.utf8ByteSize ≤ 255

end Path

end SchemaForge
