import Mathlib.Data.List.Infix
import SchemaForge.Android.Binding

namespace SchemaForge

/-! # Marks in generated code

A conversion that no rule covers leaves a mark in the code. Code that is put together of parts without
marks has none itself, as long as no mark comes about where two parts meet. A mark stands between
brackets and is written in capitals, so that it cannot begin in a part without an opening bracket,
nor end in one without a closing bracket, nor go across any other kind of character.
-/

/-- The mark of some type stands in the text. -/
def Marked (s : String) : Prop :=
  ∃ type, (unhandled type).toList <:+: s.toList

/-- The characters that marks are made of. -/
def isMarkChar (c : Char) : Bool :=
  c.isUpper || [' ', ':', '_', '[', ']'].contains c

theorem toList_unhandled (type : ColumnType) : (unhandled type).toList =
    "[[UNHANDLED FIELD TYPE: ".toList ++ (type.name.toList ++ "]]".toList) := by
  have hparts : ∀ a b c : String, (a ++ b ++ c).toList = a.toList ++ (b.toList ++ c.toList) := by
    intro a b c
    rw [String.append_assoc, String.toList_append, String.toList_append]
  exact hparts _ _ _

theorem head?_unhandled (type : ColumnType) : (unhandled type).toList.head? = some '[' := by
  rw [toList_unhandled, List.head?_append_of_ne_nil _ (by decide)]
  decide

theorem getLast?_unhandled (type : ColumnType) : (unhandled type).toList.getLast? = some ']' := by
  rw [toList_unhandled, List.getLast?_append_of_ne_nil _ (by simp),
    List.getLast?_append_of_ne_nil _ (by decide)]
  decide

theorem isMarkChar_of_mem {type : ColumnType} {c : Char} (h : c ∈ (unhandled type).toList) :
    isMarkChar c := by
  rw [toList_unhandled, List.mem_append, List.mem_append] at h
  rcases h with h | h | h
  · have hstart : "[[UNHANDLED FIELD TYPE: ".toList.all isMarkChar := by decide
    exact List.all_eq_true.1 hstart c h
  · have hname : type.name.toList.all isMarkChar := by cases type <;> decide
    exact List.all_eq_true.1 hname c h
  · have hend : "]]".toList.all isMarkChar := by decide
    exact List.all_eq_true.1 hend c h

/-- The digits of a number are not among other characters. -/
theorem notMem_toDigits {c : Char} (hc : c.isDigit = false) (n : Nat) : c ∉ Nat.toDigits 10 n := by
  intro h
  rw [Nat.isDigit_of_mem_toDigits (by omega) (by omega) h] at hc
  cases hc

/-! ## Texts with marks -/

theorem marked_unhandled (type : ColumnType) : Marked (unhandled type) :=
  ⟨type, List.infix_rfl⟩

namespace Marked

variable {s t : String}

/-- A mark stays where more is put behind it. -/
theorem append_right (h : Marked s) (t : String) : Marked (s ++ t) := by
  obtain ⟨type, hin⟩ := h
  refine ⟨type, ?_⟩
  rw [String.toList_append]
  exact hin.trans (List.prefix_append _ _).isInfix

/-- A mark stays where more is put before it. -/
theorem append_left (h : Marked t) (s : String) : Marked (s ++ t) := by
  obtain ⟨type, hin⟩ := h
  refine ⟨type, ?_⟩
  rw [String.toList_append]
  exact hin.trans (List.suffix_append _ _).isInfix

/-- A mark in two texts is in one of them, or it begins in the first and ends in the second. -/
theorem cases_append (h : Marked (s ++ t)) :
    Marked s ∨ Marked t ∨ ∃ type start rest, (unhandled type).toList = start ++ rest
      ∧ start ≠ [] ∧ rest ≠ [] ∧ start <:+ s.toList ∧ rest <+: t.toList := by
  obtain ⟨type, hin⟩ := h
  rw [String.toList_append, List.infix_append_iff] at hin
  rcases hin with hs | ht | ⟨start, rest, hmark, hstart, hrest⟩
  · exact .inl ⟨type, hs⟩
  · exact .inr (.inl ⟨type, ht⟩)
  · by_cases hempty : start = []
    · subst hempty
      refine .inr (.inl ⟨type, ?_⟩)
      rw [hmark]
      exact hrest.isInfix
    by_cases hemptyRest : rest = []
    · subst hemptyRest
      refine .inl ⟨type, ?_⟩
      rw [hmark, List.append_nil]
      exact hstart.isInfix
    · exact .inr (.inr ⟨type, start, rest, hmark, hempty, hemptyRest, hstart, hrest⟩)

end Marked

/-! ## Texts without marks -/

/-- No mark goes across the text: it has no brackets, but a character that is in no mark. -/
def KeepsApart (s : String) : Prop :=
  '[' ∉ s.toList ∧ ']' ∉ s.toList ∧ ∃ c ∈ s.toList, isMarkChar c = false

instance (s : String) : Decidable (KeepsApart s) :=
  decidable_of_iff (!s.toList.contains '[' && !s.toList.contains ']' && s.toList.any (!isMarkChar ·))
    (by simp [KeepsApart, and_assoc])

/-- No mark stands in the text. -/
def Unmarked (s : String) : Prop :=
  ¬ Marked s

namespace Unmarked

variable {s t : String}

theorem of_notMem_open (h : '[' ∉ s.toList) : Unmarked s := by
  rintro ⟨type, hin⟩
  exact h (hin.mem (List.mem_of_mem_head? (head?_unhandled type)))

theorem of_notMem_close (h : ']' ∉ s.toList) : Unmarked s := by
  rintro ⟨type, hin⟩
  exact h (hin.mem (List.mem_of_mem_getLast? (getLast?_unhandled type)))

/-- No mark comes about where no bracket closes behind the text. -/
theorem append_right (hs : Unmarked s) (ht : ']' ∉ t.toList) : Unmarked (s ++ t) := by
  intro h
  rcases h.cases_append with hmarked | hmarked | ⟨type, start, rest, hmark, -, hrest, -, hbegin⟩
  · exact hs hmarked
  · exact of_notMem_close ht hmarked
  · have hlast : rest.getLast? = some ']' := by
      rw [← getLast?_unhandled type, hmark, List.getLast?_append_of_ne_nil _ hrest]
    exact ht (hbegin.mem (List.mem_of_mem_getLast? hlast))

/-- No mark comes about where no bracket opens before the text. -/
theorem append_left (ht : Unmarked t) (hs : '[' ∉ s.toList) : Unmarked (s ++ t) := by
  intro h
  rcases h.cases_append with hmarked | hmarked | ⟨type, start, rest, hmark, hstart, -, hend, -⟩
  · exact of_notMem_open hs hmarked
  · exact ht hmarked
  · have hfirst : start.head? = some '[' := by
      rw [← head?_unhandled type, hmark, List.head?_append_of_ne_nil _ hstart]
    exact hs (hend.mem (List.mem_of_mem_head? hfirst))

/-- No mark goes across a text that keeps others apart. -/
theorem apart {middle : String} (hs : Unmarked s) (ht : Unmarked t) (hmiddle : KeepsApart middle) :
    Unmarked (s ++ middle ++ t) := by
  obtain ⟨hopen, hclose, c, hc, hchar⟩ := hmiddle
  intro h
  rcases h.cases_append with hmarked | hmarked |
    ⟨type, start, rest, hmark, hstart, -, hend, -⟩
  · exact hs.append_right hclose hmarked
  · exact ht hmarked
  · -- the mark begins in `s`, as no bracket opens in the middle, and so has all of it as a part
    rw [String.toList_append] at hend
    have hall : middle.toList <:+ start := by
      rcases List.suffix_or_suffix_of_suffix hend (List.suffix_append _ _) with hshort | hlong
      · have hfirst : start.head? = some '[' := by
          rw [← head?_unhandled type, hmark, List.head?_append_of_ne_nil _ hstart]
        exact absurd (hshort.mem (List.mem_of_mem_head? hfirst)) hopen
      · exact hlong
    have hmem : c ∈ (unhandled type).toList := by
      rw [hmark]
      exact List.mem_append_left _ (hall.mem hc)
    rw [isMarkChar_of_mem hmem] at hchar
    cases hchar

/-- Brackets around a text make no mark of it where other code stands between them and the text. -/
theorem inBrackets {before after : String} (hs : Unmarked s) (hbefore : KeepsApart before)
    (hafter : KeepsApart after) : Unmarked ("[" ++ (before ++ s ++ after) ++ "]") := by
  have hstart : Unmarked ("[" ++ before ++ s) := apart (of_notMem_close (by decide)) hs hbefore
  have hall : Unmarked ("[" ++ before ++ s ++ after ++ "]") :=
    apart hstart (of_notMem_open (by decide)) hafter
  simpa only [String.append_assoc] using hall

end Unmarked

/-! ## Calls -/

namespace BindCall

variable {method value : String}

/-- A call binds a value with a mark by code with that mark. -/
theorem marked_render (h : Marked value) (l : Language) (method : String) (index : Nat) :
    Marked ((BindCall.mk method index (some value)).render l) :=
  ((((h.append_left ", ").append_left _).append_right ")").append_right _).append_right "\n"

/-- A call adds no mark to the value that it binds. -/
theorem unmarked_render (h : Unmarked value) (hmethod : '[' ∉ method.toList) (l : Language)
    (index : Nat) : Unmarked ((BindCall.mk method index (some value)).render l) := by
  have hstart : Unmarked ("statement." ++ method ++ "(" ++ toString index ++ (", " ++ value)) := by
    refine (h.append_left (by decide)).append_left ?_
    simp [hmethod, notMem_toDigits]
  have hend : ']' ∉ l.terminator.toList := by cases l <;> decide
  exact ((hstart.append_right (by decide)).append_right hend).append_right (by decide)

theorem notMem_render_null (l : Language) (index : Nat) :
    ']' ∉ ((BindCall.null index).render l).toList := by
  have hend : ']' ∉ l.terminator.toList := by cases l <;> decide
  simp [render, null, Language.line, hend, notMem_toDigits]

end BindCall

end SchemaForge
