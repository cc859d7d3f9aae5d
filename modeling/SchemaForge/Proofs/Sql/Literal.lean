import Mathlib.Data.List.Basic
import SchemaForge.Sql.Ddl

namespace SchemaForge

/-! # What string literals of SQL stand for

Between the apostrophes of a literal every character stands for itself, and two apostrophes stand
for one. A single one closes the literal. So every text has exactly one literal, in which its own
apostrophes are doubled.

The default of a column of texts is written as such a literal. That of a column of dates stands
between apostrophes as it is, so that an apostrophe in it closes the literal or gets lost.
-/

namespace Sql

/-! ## Reading and writing -/

/-- The characters that the rest of a literal stands for, from behind its first apostrophe. -/
def decodeRest? : List Char → Option (List Char)
  | [] => none
  | ['\''] => some []
  | '\'' :: '\'' :: rest => (decodeRest? rest).map ('\'' :: ·)
  | '\'' :: _ => none
  | c :: rest => (decodeRest? rest).map (c :: ·)

/-- The text that a string literal stands for. -/
def decode? (literal : String) : Option String :=
  match literal.toList with
  | '\'' :: rest => (decodeRest? rest).map String.ofList
  | _ => none

/-- Characters as they stand in a literal, where an apostrophe is written twice. -/
def doubled (cs : List Char) : List Char :=
  cs.flatMap fun c => if c = '\'' then ['\'', '\''] else [c]

theorem doubled_cons (c : Char) (cs : List Char) :
    doubled (c :: cs) = (if c = '\'' then ['\'', '\''] else [c]) ++ doubled cs := rfl

theorem toList_literal (s : String) :
    (literal s).toList = '\'' :: (doubled s.toList ++ ['\'']) := by
  simp [literal, doubled, Text.replaceChar]

/-- Characters of which the apostrophes are doubled are read back up to the apostrophe behind
them. -/
theorem decodeRest?_doubled (cs : List Char) : decodeRest? (doubled cs ++ ['\'']) = some cs := by
  induction cs with
  | nil => rfl
  | cons c cs ih =>
    rw [doubled_cons, List.append_assoc]
    by_cases hc : c = '\''
    · subst hc
      rw [if_pos rfl, List.cons_append, List.singleton_append, decodeRest?, ih, Option.map_some]
    · rw [if_neg hc, List.singleton_append, decodeRest?, ih, Option.map_some]
      · rintro rfl
        exact absurd rfl hc
      · rintro _ rfl
        exact absurd rfl hc
      · rintro rfl
        exact absurd rfl hc

/-- Nothing else is read as these characters. -/
theorem eq_doubled_of_decodeRest? {rest cs : List Char} (h : decodeRest? rest = some cs) :
    rest = doubled cs ++ ['\''] := by
  fun_induction decodeRest? rest generalizing cs with
  | case1 => cases h
  | case2 =>
    cases h
    rfl
  | case3 rest ih =>
    obtain ⟨inner, hinner, rfl⟩ := Option.map_eq_some_iff.1 h
    rw [doubled_cons, if_pos rfl, List.append_assoc, ← ih hinner]
    rfl
  | case4 => cases h
  | case5 c rest hend hpair hsingle ih =>
    have hc : c ≠ '\'' := by
      rintro rfl
      exact hsingle rfl
    obtain ⟨inner, hinner, rfl⟩ := Option.map_eq_some_iff.1 h
    rw [doubled_cons, if_neg hc, List.append_assoc, ← ih hinner]
    rfl

/-- The literal of a text stands for that text. -/
theorem decode?_literal (s : String) : decode? (literal s) = some s := by
  rw [decode?, toList_literal]
  simp only [decodeRest?_doubled, Option.map_some, String.ofList_toList]

/-- A literal that stands for a text is the literal of that text. -/
theorem decode?_eq_some_iff {t s : String} : decode? t = some s ↔ t = literal s := by
  constructor
  · intro h
    unfold decode? at h
    split at h
    · next rest hchars =>
      obtain ⟨cs, hcs, rfl⟩ := Option.map_eq_some_iff.1 h
      rw [← String.toList_inj, toList_literal, hchars, eq_doubled_of_decodeRest? hcs,
        String.toList_ofList]
    · cases h
  · rintro rfl
    exact decode?_literal s

/-! ## Apostrophes -/

/-- An apostrophe is written twice. -/
theorem count_doubled (cs : List Char) : (doubled cs).count '\'' = 2 * cs.count '\'' := by
  induction cs with
  | nil => rfl
  | cons c cs ih =>
    rw [doubled_cons, List.count_append, ih]
    by_cases hc : c = '\''
    · subst hc
      have hpair : ['\'', '\''].count '\'' = 2 := rfl
      rw [if_pos rfl, hpair, List.count_cons_self]
      omega
    · have hnone : [c].count '\'' = 0 := List.count_eq_zero.2 (by simpa using Ne.symm hc)
      rw [if_neg hc, hnone, List.count_cons_of_ne hc, Nat.zero_add]

/-- Only characters without an apostrophe stand in a literal as they are. -/
theorem doubled_eq_self_iff {cs : List Char} : doubled cs = cs ↔ '\'' ∉ cs := by
  constructor
  · intro h
    have hcount := count_doubled cs
    rw [h] at hcount
    exact List.count_eq_zero.1 (by omega)
  · intro h
    have hsingle : ∀ c ∈ cs, (if c = '\'' then ['\'', '\''] else [c]) = [c] := by
      intro c hc
      rw [if_neg]
      rintro rfl
      exact h hc
    rw [doubled, List.flatMap_congr hsingle, List.flatMap_singleton']

/-- A text between apostrophes is its literal when it has none of its own. -/
theorem between_eq_literal_iff {s : String} : "'" ++ s ++ "'" = literal s ↔ '\'' ∉ s.toList := by
  have hbetween : ("'" ++ s ++ "'").toList = '\'' :: (s.toList ++ ['\'']) := by
    simp
  rw [← String.toList_inj, hbetween, toList_literal, List.cons_inj_right, List.append_left_inj,
    eq_comm, doubled_eq_self_iff]

/-! ## Defaults -/

/-- The default of a text is written as a literal, and that of a date as it is. -/
theorem defaultLiteral_eq {f : Field} (htype : f.type.isText ∨ f.type.isDate)
    (hnull : Text.sameName (Text.trim f.defaultText) "null" = false)
    (hnow : f.type.isDate → Text.sameName (Text.trim f.defaultText) "now" = false) :
    defaultLiteral f =
      if f.type.isDate then "'" ++ Text.trim f.defaultText ++ "'"
      else literal (Text.trim f.defaultText) := by
  have hboolean : f.type.isBoolean = false := by
    revert htype
    cases f.type <;> decide
  unfold defaultLiteral
  simp only [hnull, hboolean, Bool.false_eq_true, if_false]
  cases hdate : f.type.isDate with
  | true => simp [hnow hdate]
  | false =>
    have htext : f.type.isText = true := by simpa [hdate] using htype
    simp [htext]

/-- The default of a column of texts or dates that is neither `NULL` nor the current date is written
as the literal that stands for it, unless the column is one of dates and there is an apostrophe in
the default. -/
theorem default_stands_iff {f : Field} (htype : f.type.isText ∨ f.type.isDate)
    (hnull : Text.sameName (Text.trim f.defaultText) "null" = false)
    (hnow : f.type.isDate → Text.sameName (Text.trim f.defaultText) "now" = false) :
    (decode? (defaultLiteral f) = some (Text.trim f.defaultText) ↔
        (f.type.isDate → '\'' ∉ (Text.trim f.defaultText).toList))
      ∧ (f.type.isDate → defaultLiteral f = "'" ++ Text.trim f.defaultText ++ "'") := by
  have hwritten := defaultLiteral_eq htype hnull hnow
  rw [decode?_eq_some_iff, hwritten]
  cases hdate : f.type.isDate with
  | true =>
    rw [if_pos rfl, between_eq_literal_iff]
    simp
  | false => simp

/-- A time at which something starts. -/
def startField : Field :=
  { name := "STARTS", type := .time, defaultText := " 5 o'clock " }

/-- The apostrophe in the time closes the literal, and what is behind it belongs to none. -/
theorem default_open_startField :
    (startField.type.isText ∨ startField.type.isDate)
    ∧ Text.sameName (Text.trim startField.defaultText) "null" = false
    ∧ Text.sameName (Text.trim startField.defaultText) "now" = false
    ∧ defaultLiteral startField = "'5 o'clock'"
    ∧ decode? (defaultLiteral startField) = none
    ∧ ¬ decode? (defaultLiteral startField) = some (Text.trim startField.defaultText) := by
  have htype : startField.type.isText ∨ startField.type.isDate := by decide
  have hnull : Text.sameName (Text.trim startField.defaultText) "null" = false := by decide
  have hnow : Text.sameName (Text.trim startField.defaultText) "now" = false := by decide
  obtain ⟨hstands, hwritten⟩ := default_stands_iff htype hnull fun _ => hnow
  refine ⟨htype, hnull, hnow, ?_, by decide, ?_⟩
  · rw [hwritten rfl]
    decide
  · rw [hstands]
    exact fun hapart => absurd (hapart rfl) (by decide)

end Sql

end SchemaForge
