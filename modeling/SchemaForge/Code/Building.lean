import SchemaForge.Fault

namespace SchemaForge

/-! # Operations on what is being built

An operation changes a thing in its place and may fail on the way. What it has changed until then
stays changed, so that it has to check what it is given before it changes anything.
-/

/-- An operation on a thing, which gives a result or fails. -/
abbrev Building (σ α : Type) : Type :=
  ExceptT Fault (StateM σ) α

namespace Building

variable {σ α : Type}

/-- Performs an operation on a thing: how it ends, and the thing as it is left. -/
def perform (op : Building σ α) (a : σ) : Except Fault α × σ :=
  Id.run (StateT.run (ExceptT.run op) a)

/-- The thing as an operation leaves it, unless it fails. -/
def result (op : Building σ α) (a : σ) : Except Fault σ :=
  match op.perform a with
  | (.ok _, b) => .ok b
  | (.error fault, _) => .error fault

end Building

end SchemaForge
