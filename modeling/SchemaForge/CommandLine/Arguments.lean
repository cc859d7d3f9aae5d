import SchemaForge.Text.Pieces

namespace SchemaForge

/-! # Options and operands

The arguments of a program are options, each of which takes a value or is a flag, and operands. The
value of an option stands behind an equals sign, directly behind a short name, or as the next
argument, which then must not look like an option. All arguments behind two hyphens are operands. An
option may be given once.
-/

/-- An option that a program knows. -/
structure OptionSpec where
  /-- The name behind two hyphens. -/
  name : String
  /-- The letter behind one hyphen. -/
  letter? : Option Char := none
  takesValue : Bool := true
deriving DecidableEq, Repr

/-- One argument, read. -/
inductive Argument where
  /-- An option with its value; a flag has none. -/
  | option (name : String) (value? : Option String)
  | operand (text : String)
deriving DecidableEq, Repr

namespace Argument

/-- The first reading of an argument. -/
inductive Form where
  /-- Complete in itself. -/
  | whole (argument : Argument)
  /-- An option whose value is the next argument. -/
  | awaits (name : String)
deriving DecidableEq, Repr

/-- An option without a value of its own. -/
def bareOption (spec : OptionSpec) : Form :=
  if spec.takesValue then .awaits spec.name else .whole (.option spec.name none)

/-- An option with a value of its own, which a flag cannot have. -/
def valuedOption? (spec : OptionSpec) (value : List Char) : Option Form :=
  if spec.takesValue then some (.whole (.option spec.name (some (String.ofList value)))) else none

/-- Reads an argument that begins with two hyphens, from behind them. -/
def longForm? (specs : List OptionSpec) (cs : List Char) : Option Form :=
  match Chars.splitOnce? '=' cs with
  | some (name, value) => do valuedOption? (← specs.find? (·.name.toList == name)) value
  | none => (specs.find? (·.name.toList == cs)).map bareOption

/-- Reads an argument that begins with one hyphen, from behind it. -/
def shortForm? (specs : List OptionSpec) (letter : Char) (cs : List Char) : Option Form := do
  let spec ← specs.find? (·.letter? == some letter)
  match cs with
  | [] => some (bareOption spec)
  | '=' :: value => valuedOption? spec value
  | value => valuedOption? spec value

/-- Reads an argument; a single hyphen is an operand. -/
def form? (specs : List OptionSpec) (text : String) : Option Form :=
  match text.toList with
  | '-' :: '-' :: cs => longForm? specs cs
  | '-' :: letter :: cs => shortForm? specs letter cs
  | _ => some (.whole (.operand text))

/-- Whether an argument looks like an option, so that it is no value. -/
def looksLikeOption (text : String) : Bool :=
  match text.toList with
  | '-' :: _ :: _ => true
  | _ => false

/-- Reads all arguments. `awaiting?` is the option whose value comes next. -/
def readAll? (specs : List OptionSpec) (awaiting? : Option String) :
    List String → Option (List Argument)
  | [] => if awaiting?.isNone then some [] else none
  | text :: rest =>
    match awaiting? with
    | some name =>
      if looksLikeOption text then none
      else (readAll? specs none rest).map (.option name (some text) :: ·)
    | none =>
      if text = "--" then some (rest.map .operand)
      else
        match form? specs text with
        | none => none
        | some (.awaits name) => readAll? specs (some name) rest
        | some (.whole argument) => (readAll? specs none rest).map (argument :: ·)

/-- Reads the arguments before the first operand, and gives it and the arguments behind it
unread. -/
def readFront? (specs : List OptionSpec) (awaiting? : Option String) :
    List String → Option (List Argument × String × List String)
  | [] => none
  | text :: rest =>
    match awaiting? with
    | some name =>
      if looksLikeOption text then none
      else (readFront? specs none rest).map fun found =>
        (.option name (some text) :: found.1, found.2)
    | none =>
      if text = "--" then none
      else
        match form? specs text with
        | none => none
        | some (.awaits name) => readFront? specs (some name) rest
        | some (.whole (.operand name)) => some ([], name, rest)
        | some (.whole argument) => (readFront? specs none rest).map fun found =>
          (argument :: found.1, found.2)

/-- The name of an option. -/
def optionName? : Argument → Option String
  | option name _ => some name
  | operand _ => none

/-- The text of an operand. -/
def operand? : Argument → Option String
  | option _ _ => none
  | operand text => some text

/-- Whether no option is given twice. -/
def unrepeated (arguments : List Argument) : Bool :=
  decide (arguments.filterMap optionName?).Nodup

/-- Whether an option is given. -/
def given (arguments : List Argument) (name : String) : Bool :=
  arguments.any (·.optionName? == some name)

/-- The value of an option. -/
def value? (arguments : List Argument) (name : String) : Option String :=
  arguments.findSome? fun
    | option n v => if n = name then v else none
    | operand _ => none

end Argument

end SchemaForge
