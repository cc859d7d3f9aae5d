import Mathlib.Data.List.DropRight
import SchemaForge.Text.Blank

namespace SchemaForge

/-! # Trimmed texts

Cutting the blanks at the ends of a text leaves a text without such blanks, and leaves nothing only
of a blank text. An optional text that counts as given is therefore trimmed and not empty.
-/

namespace Chars

variable {p : Char → Bool}

/-- Trailing characters are dropped as from the reversed text. -/
theorem dropEnd_eq_rdropWhile (cs : List Char) : dropEnd p cs = cs.rdropWhile p := by
  induction cs with
  | nil => rfl
  | cons c cs ih =>
    have hcons : (c :: cs).rdropWhile p =
        if (cs.rdropWhile p).isEmpty then (if p c then [] else [c]) else c :: cs.rdropWhile p := by
      by_cases hempty : cs.rdropWhile p = []
      · have hreverse : cs.reverse.dropWhile p = [] := by simpa [List.rdropWhile] using hempty
        cases hc : p c <;> simp [List.rdropWhile, List.dropWhile_append, hreverse, hc]
      · have hreverse : cs.reverse.dropWhile p ≠ [] := by simpa [List.rdropWhile] using hempty
        simp [List.rdropWhile, List.dropWhile_append, hreverse]
    rw [dropEnd, hcons, ih]
    cases cs.rdropWhile p <;> rfl

/-- What is dropped at the end of a text reaches into its first part only when nothing is left of the
second. -/
theorem dropEnd_append (first second : List Char) :
    dropEnd p (first ++ second) =
      if dropEnd p second = [] then dropEnd p first else first ++ dropEnd p second := by
  split
  · next hsecond =>
    induction first with
    | nil => exact hsecond
    | cons c first ih => rw [List.cons_append, dropEnd, ih, dropEnd]
  · next hsecond =>
    induction first with
    | nil => rfl
    | cons c first ih =>
      obtain ⟨d, rest, hrest⟩ := List.exists_cons_of_ne_nil
        (List.append_ne_nil_of_right_ne_nil first hsecond)
      rw [List.cons_append, dropEnd, ih, hrest, List.cons_append, hrest]

/-- What is left begins with a character that is no blank. -/
theorem dropWhile_trim (cs : List Char) : (trim cs).dropWhile isSpace = trim cs := by
  rw [List.dropWhile_eq_self_iff]
  intro hlength
  have hprefix : trim cs <+: cs.dropWhile isSpace := by
    rw [trim, dropEnd_eq_rdropWhile, dropStart]
    exact List.rdropWhile_prefix isSpace _
  have hstart := List.dropWhile_eq_self_iff.1
    (List.dropWhile_idempotent (p := isSpace) (l := cs)) (hlength.trans_le hprefix.length_le)
  rwa [← hprefix.getElem hlength] at hstart

theorem trim_trim (cs : List Char) : trim (trim cs) = trim cs := by
  have hstart := dropWhile_trim cs
  have hend : dropEnd isSpace (trim cs) = trim cs := by
    simp only [trim, dropEnd_eq_rdropWhile]
    exact List.rdropWhile_idempotent isSpace _
  calc trim (trim cs) = dropEnd isSpace ((trim cs).dropWhile isSpace) := rfl
    _ = trim cs := by rw [hstart, hend]

/-- Nothing is left only of blanks. -/
theorem trim_eq_nil_iff (cs : List Char) : trim cs = [] ↔ cs.all isSpace := by
  rw [trim, dropEnd_eq_rdropWhile, dropStart, List.rdropWhile_eq_nil_iff, List.all_eq_true]
  constructor
  · intro h
    rw [← List.dropWhile_eq_nil_iff, ← List.dropWhile_idempotent]
    exact List.dropWhile_eq_nil_iff.2 h
  · intro h x hx
    exact h x ((List.dropWhile_suffix isSpace).mem hx)

/-- Blanks are cut off only at the ends: what stands behind a text and neither begins nor ends with
a blank is left as it is. -/
theorem trim_append (start : List Char) {c last : Char} {cs : List Char} (hc : isSpace c = false)
    (hend : (c :: cs).getLast? = some last) (hlast : isSpace last = false) :
    trim (start ++ c :: cs) = start.dropWhile isSpace ++ c :: cs := by
  have hstart : (start ++ c :: cs).dropWhile isSpace = start.dropWhile isSpace ++ c :: cs := by
    rw [List.dropWhile_append]
    split
    · next hempty => simp [List.isEmpty_iff.1 hempty, hc]
    · rfl
  rw [trim, dropStart, hstart, dropEnd_eq_rdropWhile, List.rdropWhile_eq_self_iff]
  intro hne
  have hsame : (start.dropWhile isSpace ++ c :: cs).getLast hne = last := by
    rw [List.getLast_append_of_ne_nil _ (List.cons_ne_nil c cs)]
    rw [List.getLast?_eq_some_getLast (List.cons_ne_nil c cs)] at hend
    exact Option.some_inj.1 hend
  rw [hsame, hlast]
  simp

/-- What is left stands in the text as it was. -/
theorem trim_infix (cs : List Char) : trim cs <:+: cs := by
  rw [trim, dropEnd_eq_rdropWhile, dropStart]
  exact (List.rdropWhile_prefix isSpace _).isInfix.trans (List.dropWhile_suffix isSpace).isInfix

/-- Blanks around a text are cut off with those of the text. -/
theorem trim_around {before after : List Char} (hbefore : before.all isSpace)
    (hafter : after.all isSpace) (cs : List Char) : trim (before ++ cs ++ after) = trim cs := by
  by_cases hblank : cs.all isSpace = true
  · have hall : (before ++ cs ++ after).all isSpace = true := by
      simp only [List.all_append, hbefore, hblank, hafter, Bool.and_self]
    rw [(trim_eq_nil_iff _).2 hall, (trim_eq_nil_iff _).2 hblank]
  · have hrest : cs.dropWhile isSpace ≠ [] := by
      rwa [Ne, List.dropWhile_eq_nil_iff, ← List.all_eq_true]
    have hstart : (before ++ cs ++ after).dropWhile isSpace = cs.dropWhile isSpace ++ after := by
      rw [List.append_assoc, List.dropWhile_append_of_pos (List.all_eq_true.1 hbefore),
        List.dropWhile_append, if_neg (by simpa using hrest)]
    have hreverse : ∀ c ∈ after.reverse, isSpace c = true := by
      intro c hc
      exact List.all_eq_true.1 hafter c (List.mem_reverse.1 hc)
    rw [trim, trim, dropStart, dropStart, hstart, dropEnd_eq_rdropWhile, dropEnd_eq_rdropWhile,
      List.rdropWhile, List.reverse_append, List.dropWhile_append_of_pos hreverse]
    rfl

/-- Nothing is cut off from a text that neither begins nor ends with a blank. -/
theorem trim_eq_self_iff {cs : List Char} :
    trim cs = cs ↔ (∀ c ∈ cs.head?, isSpace c = false) ∧ ∀ c ∈ cs.getLast?, isSpace c = false := by
  constructor
  · intro h
    constructor
    · intro c hc
      have hkept := dropWhile_trim cs
      rw [h, List.dropWhile_eq_self_iff] at hkept
      obtain ⟨rest, rfl⟩ := List.head?_eq_some_iff.1 hc
      simpa using hkept
    · intro c hc
      have hkept : cs.rdropWhile isSpace = cs := by
        rw [trim, dropEnd_eq_rdropWhile] at h
        have htwice := List.rdropWhile_idempotent isSpace (dropStart isSpace cs)
        rwa [h] at htwice
      obtain ⟨start, rfl⟩ := List.getLast?_eq_some_iff.1 hc
      rw [List.rdropWhile_eq_self_iff] at hkept
      simpa using hkept
  · rintro ⟨hfirst, hlast⟩
    cases cs with
    | nil => rfl
    | cons c cs =>
      have hend := List.getLast?_eq_some_getLast (List.cons_ne_nil c cs)
      simpa using trim_append [] (hfirst c rfl) hend (hlast _ hend)

/-- Leaving out one kind of blanks keeps what is no blank. -/
theorem decide_ne_of_isSpace {c : Char} (hc : isSpace c) :
    ∀ d, isSpace d = false → decide (d ≠ c) = true := by
  intro d hd
  rw [decide_eq_true_iff]
  rintro rfl
  rw [hc] at hd
  cases hd

/-- What is left of a text without its blanks at the ends has none at its ends when some blanks
inside are left out. -/
theorem trim_filter_trim {p : Char → Bool} (hp : ∀ c, isSpace c = false → p c = true)
    (cs : List Char) : trim ((trim cs).filter p) = (trim cs).filter p := by
  obtain ⟨hfirst, hlast⟩ := trim_eq_self_iff.1 (trim_trim cs)
  rw [trim_eq_self_iff]
  constructor
  · intro c hc
    cases htrim : trim cs with
    | nil => simp [htrim] at hc
    | cons first rest =>
      have hspace : isSpace first = false := hfirst first (by simp [htrim])
      rw [htrim, List.filter_cons_of_pos (hp first hspace)] at hc
      cases hc
      exact hspace
  · intro c hc
    rcases List.eq_nil_or_concat (trim cs) with htrim | ⟨start, last, htrim⟩
    · simp [htrim] at hc
    · have hspace : isSpace last = false := hlast last (by simp [htrim])
      rw [htrim, List.concat_eq_append, List.filter_append,
        List.filter_cons_of_pos (hp last hspace), List.filter_nil, List.getLast?_concat] at hc
      cases hc
      exact hspace

end Chars

namespace Text

theorem toList_trim (s : String) : (trim s).toList = Chars.trim s.toList := by
  rw [trim, String.toList_ofList]

theorem trim_trim (s : String) : trim (trim s) = trim s := by
  simp [trim, Chars.trim_trim]

theorem trim_around {before after : String} (hbefore : isBlank before) (hafter : isBlank after)
    (s : String) : trim (before ++ s ++ after) = trim s := by
  rw [trim, String.toList_append, String.toList_append, Chars.trim_around hbefore hafter]
  rfl

theorem trim_eq_empty_iff (s : String) : trim s = "" ↔ isBlank s := by
  rw [isBlank, ← Chars.trim_eq_nil_iff, trim, ← String.toList_inj, String.toList_ofList]
  rfl

/-- A text that has no blanks at its ends and is not empty. -/
structure Trimmed (s : String) : Prop where
  trim_eq : trim s = s
  ne_empty : s ≠ ""

theorem Trimmed.isBlank {s : String} (h : Trimmed s) : isBlank s = false := by
  rw [← Bool.not_eq_true, ← trim_eq_empty_iff, h.trim_eq]
  exact h.ne_empty

theorem Trimmed.toList_ne_nil {s : String} (h : Trimmed s) : s.toList ≠ [] := by
  simpa using h.ne_empty

theorem Trimmed.ite {p : Prop} [Decidable p] {s t : String} (hs : Trimmed s) (ht : Trimmed t) :
    Trimmed (if p then s else t) := by
  split
  · exact hs
  · exact ht

/-- A text ends like one that stands at its end. -/
theorem getLast?_append (s : String) {suffix : String} {last : Char}
    (h : suffix.toList.getLast? = some last) : (s ++ suffix).toList.getLast? = some last := by
  rw [String.toList_append, List.getLast?_append, h, Option.some_or]

/-- Only a text that neither begins nor ends with a blank is left as it is. -/
theorem trim_eq_self_iff {s : String} :
    trim s = s ↔ (∀ c ∈ s.toList.head?, Chars.isSpace c = false)
      ∧ ∀ c ∈ s.toList.getLast?, Chars.isSpace c = false := by
  rw [← Chars.trim_eq_self_iff, ← toList_trim, String.toList_inj]

theorem trim_eq_self {s : String} {first last : Char} (hfirst : s.toList.head? = some first)
    (hlast : s.toList.getLast? = some last) (hspace : Chars.isSpace first = false)
    (hspaceEnd : Chars.isSpace last = false) : trim s = s := by
  rw [trim_eq_self_iff, hfirst, hlast]
  simp [hspace, hspaceEnd]

/-- A text without blanks is trimmed. -/
theorem trimmed_of_noSpace {s : String} (hne : s ≠ "")
    (h : ∀ c ∈ s.toList, Chars.isSpace c = false) : Trimmed s := by
  have hchars : s.toList ≠ [] := by simpa using hne
  have hfirst := List.head?_eq_some_head hchars
  have hlast := List.getLast?_eq_some_getLast hchars
  exact ⟨trim_eq_self hfirst hlast (h _ (List.head_mem hchars)) (h _ (List.getLast_mem hchars)), hne⟩

/-- Trimming the end cuts off the end of a line behind a character that is no blank. -/
theorem trimEnd_append_newline {s : String} {last : Char} (hs : [last, '\n'] <:+ s.toList)
    (hspace : Chars.isSpace last = false) : trimEnd s ++ "\n" = s := by
  obtain ⟨start, hstart⟩ := hs
  have htrim : (trimEnd s).toList = start ++ [last] := by
    rw [trimEnd, String.toList_ofList, ← hstart, Chars.dropEnd_eq_rdropWhile, ← List.concat_append,
      List.concat_eq_append, List.rdropWhile_concat_pos _ _ _ (by decide),
      List.rdropWhile_concat_neg _ _ _ (by simp [hspace])]
  rw [← String.toList_inj, String.toList_append, htrim, ← hstart, List.append_assoc]
  rfl

/-- An optional text that is there and not blank. -/
def Filled (s : Option String) : Prop :=
  ∃ t, s = some t ∧ isBlank t = false

theorem filled?_eq_some_iff {s : Option String} {t : String} :
    filled? s = some t ↔ ∃ u, s = some u ∧ isBlank u = false ∧ trim u = t := by
  cases s with
  | none => simp [filled?]
  | some u => cases h : isBlank u <;> simp [filled?, h]

theorem isSome_filled?_iff {s : Option String} : (filled? s).isSome ↔ Filled s := by
  cases s with
  | none => simp [filled?, Filled]
  | some u => cases h : isBlank u <;> simp [filled?, Filled, h]

theorem filled?_eq_none_iff {s : Option String} : filled? s = none ↔ ¬ Filled s := by
  rw [← isSome_filled?_iff, Option.not_isSome_iff_eq_none]

/-- A trimmed text counts as given, as it is. -/
theorem filled?_of_trimmed {s : String} (h : Trimmed s) : filled? (some s) = some s :=
  filled?_eq_some_iff.2 ⟨s, rfl, h.isBlank, h.trim_eq⟩

/-- A text that counts as given is trimmed. -/
theorem trimmed_of_filled? {s : Option String} {t : String} (h : filled? s = some t) :
    Trimmed t := by
  obtain ⟨u, -, hblank, rfl⟩ := filled?_eq_some_iff.1 h
  refine ⟨trim_trim u, ?_⟩
  rw [Ne, trim_eq_empty_iff, hblank]
  simp

end Text

end SchemaForge
