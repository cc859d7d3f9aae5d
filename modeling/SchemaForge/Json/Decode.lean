import SchemaForge.Json.Value

namespace SchemaForge

/-! # Values of known shape

Reading the Lean value that a JSON value denotes.
-/

namespace Json

/-- The truth value. -/
def bool? : Json → Option Bool
  | bool b => some b
  | _ => none

/-- The text. -/
def text? : Json → Option String
  | string s => s
  | _ => none

/-- The items of an array. -/
def items? : Json → Option (List Json)
  | array items => some items
  | _ => none

/-- The name of an alternative without content: a string, or an object whose only entry has the
name as key and null as value. -/
def alternative? : Json → Option String
  | string s => s
  | object [(key, null)] => key
  | _ => none

end Json

end SchemaForge
