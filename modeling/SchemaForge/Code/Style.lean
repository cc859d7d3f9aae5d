import SchemaForge.Text.Pieces

namespace SchemaForge

/-! # Layout of sources

The unit of indentation, and the indentation of blocks. A block is a text in which the tabs at the
front of a line tell how deep the line is nested within the block.
-/

/-- How generated sources are laid out. -/
structure Style where
  /-- One level of indentation. -/
  unit : String := "    "
deriving DecidableEq, Repr, Inhabited

namespace Style

/-- The indentation of a depth. -/
def pad (style : Style) (depth : Nat) : String :=
  Text.repeated style.unit depth

/-- A line of a block at a depth: its leading tabs are turned into levels, and a line of blanks
becomes empty. -/
def indentLine (style : Style) (depth : Nat) (line : List Char) : String :=
  let body := line.dropWhile (· = '\t')
  if body.all Chars.isSpace then "\n"
  else style.pad (depth + (line.takeWhile (· = '\t')).length) ++ String.ofList body ++ "\n"

/-- The lines of a block at a depth, each with its end. -/
def indentBlock (style : Style) (depth : Nat) (block : String) : String :=
  Text.concat ((Chars.lines block.toList).map (style.indentLine depth))

end Style

/-- The texts as one section of a source file; no section if there is nothing in them. -/
def Code.joined (texts : List String) : List String :=
  let text := Text.concat texts
  if text = "" then [] else [text]

end SchemaForge
