import SchemaForge.Proofs.Text.Pieces

namespace SchemaForge

/-! # Code with references

Generated code is a text, in which what it refers to can no longer be told from the rest. Here it is
kept apart: code is made of plain texts and references, and its text is known as soon as it is known
what stands for each reference.
-/

/-- Code that refers to things by names that are still open. -/
inductive Snippet (ρ : Type) where
  | plain (s : String)
  | reference (x : ρ)
  /-- Code and what comes behind it. -/
  | append (c d : Snippet ρ)
deriving DecidableEq

namespace Snippet

variable {ρ α : Type}

instance : Coe String (Snippet ρ) :=
  ⟨plain⟩

instance : Append (Snippet ρ) :=
  ⟨append⟩

/-- The text of the code, given what stands for each reference. -/
def text (refs : ρ → String) : Snippet ρ → String
  | plain s => s
  | reference x => refs x
  | append c d => c.text refs ++ d.text refs

/-- What the code refers to, as often as it does. -/
def references : Snippet ρ → List ρ
  | plain _ => []
  | reference x => [x]
  | append c d => c.references ++ d.references

/-- A piece of code for each member of a list, one behind the other. -/
def each (piece : α → Snippet ρ) : List α → Snippet ρ
  | [] => ""
  | x :: xs => piece x ++ each piece xs

/-- A piece of code for each member of a list, with a text between them. -/
def separated (separator : String) (piece : α → Snippet ρ) : List α → Snippet ρ
  | [] => ""
  | [x] => piece x
  | x :: y :: xs => piece x ++ separator ++ separated separator piece (y :: xs)

variable {refs : ρ → String}

@[simp] theorem text_plain (s : String) : (plain s : Snippet ρ).text refs = s := rfl

@[simp] theorem text_reference (x : ρ) : (reference x).text refs = refs x := rfl

@[simp] theorem text_append (c d : Snippet ρ) : (c ++ d).text refs = c.text refs ++ d.text refs :=
  rfl

theorem text_each (piece : α → Snippet ρ) (xs : List α) :
    (each piece xs).text refs = Text.concat (xs.map fun x => (piece x).text refs) := by
  induction xs with
  | nil => rfl
  | cons x xs ih => rw [each, text_append, ih, List.map_cons, Text.concat_cons]

theorem text_separated (separator : String) (piece : α → Snippet ρ) (xs : List α) :
    (separated separator piece xs).text refs =
      separator.intercalate (xs.map fun x => (piece x).text refs) := by
  induction xs with
  | nil => rfl
  | cons x xs ih =>
    cases xs with
    | nil => simp [separated]
    | cons y xs =>
      rw [separated, text_append, text_append, ih]
      simp [String.intercalate_cons_cons]

@[simp] theorem references_plain (s : String) : (plain s : Snippet ρ).references = [] := rfl

@[simp] theorem references_reference (x : ρ) : (reference x).references = [x] := rfl

@[simp] theorem references_append (c d : Snippet ρ) :
    (c ++ d).references = c.references ++ d.references := rfl

theorem mem_references_each {piece : α → Snippet ρ} {xs : List α} {r : ρ} :
    r ∈ (each piece xs).references ↔ ∃ x ∈ xs, r ∈ (piece x).references := by
  induction xs with
  | nil => simp [each]
  | cons x xs ih => simp [each, ih]

theorem mem_references_separated {separator : String} {piece : α → Snippet ρ} {xs : List α}
    {r : ρ} :
    r ∈ (separated separator piece xs).references ↔ ∃ x ∈ xs, r ∈ (piece x).references := by
  induction xs with
  | nil => simp [separated]
  | cons x xs ih =>
    cases xs with
    | nil => simp [separated]
    | cons y xs => simp [separated, ih]

end Snippet

end SchemaForge
