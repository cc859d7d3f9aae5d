import SchemaForge.Proofs.Text.Lines
import SchemaForge.Proofs.Text.Pieces

namespace SchemaForge

/-! # Visible characters

What is left of a text without all of its blanks. Cutting blanks off and leaving them out changes the
layout of a text and keeps its visible characters. Two ways to cut one text in front of a visible
character, or behind one, are the same when as much is visible before the cut.
-/

namespace Chars

/-- The characters of a text that are no blanks. -/
def visible (cs : List Char) : List Char :=
  cs.filter (!isSpace ·)

@[simp] theorem visible_nil : visible [] = [] :=
  rfl

@[simp] theorem visible_append (first second : List Char) :
    visible (first ++ second) = visible first ++ visible second :=
  List.filter_append first second

theorem visible_cons_of_not_isSpace {c : Char} (h : isSpace c = false) (cs : List Char) :
    visible (c :: cs) = c :: visible cs :=
  List.filter_cons_of_pos (by simp [h])

theorem visible_cons_of_isSpace {c : Char} (h : isSpace c = true) (cs : List Char) :
    visible (c :: cs) = visible cs :=
  List.filter_cons_of_neg (by simp [h])

theorem visible_eq_nil_iff {cs : List Char} : visible cs = [] ↔ cs.all isSpace := by
  simp [visible]

/-- Leaving out some blanks leaves the visible characters as they are. -/
theorem visible_filter {p : Char → Bool} (hp : ∀ c, isSpace c = false → p c = true)
    (cs : List Char) : visible (cs.filter p) = visible cs := by
  have hboth : ∀ c ∈ cs, ((!isSpace c) && p c) = !isSpace c := by
    intro c _
    cases hc : isSpace c with
    | true => rfl
    | false => simp [hp c hc]
  rw [visible, List.filter_filter, List.filter_congr hboth]
  rfl

theorem visible_dropEnd (cs : List Char) : visible (dropEnd isSpace cs) = visible cs := by
  have htail : visible (cs.rtakeWhile isSpace) = [] := by
    rw [visible_eq_nil_iff, List.all_eq_true]
    exact fun c hc => List.mem_rtakeWhile_imp hc
  calc visible (dropEnd isSpace cs)
      = visible (cs.rdropWhile isSpace ++ cs.rtakeWhile isSpace) := by
        rw [visible_append, htail, List.append_nil, dropEnd_eq_rdropWhile]
    _ = visible cs := by rw [List.rdropWhile_append_rtakeWhile]

theorem visible_dropReturns (cs : List Char) : visible (dropReturns cs) = visible cs := by
  induction cs using lineEnd_induction with
  | nil => rfl
  | lineEnd cs ih =>
    rw [dropReturns_lineEnd, visible_cons_of_isSpace (by decide),
      visible_cons_of_isSpace (by decide), visible_cons_of_isSpace (by decide), ih]
  | cons c cs hreturn ih =>
    rw [dropReturns_cons hreturn]
    cases hc : isSpace c with
    | true => rw [visible_cons_of_isSpace hc, visible_cons_of_isSpace hc, ih]
    | false => rw [visible_cons_of_not_isSpace hc, visible_cons_of_not_isSpace hc, ih]

/-! ## Cutting a text -/

/-- Nothing but blanks stands before a visible character only when nothing does. -/
theorem eq_nil_of_head?_append {cs rest : List Char} (h : visible cs = [])
    (hfirst : ∀ c ∈ (cs ++ rest).head?, isSpace c = false) : cs = [] := by
  cases cs with
  | nil => rfl
  | cons c cs =>
    rw [visible_cons_of_not_isSpace (hfirst c rfl)] at h
    cases h

theorem eq_nil_of_getLast?_append {start cs : List Char} (h : visible cs = [])
    (hlast : ∀ c ∈ (start ++ cs).getLast?, isSpace c = false) : cs = [] := by
  rcases List.eq_nil_or_concat cs with hnil | ⟨front, last, rfl⟩
  · exact hnil
  · have hspace : isSpace last = false := hlast last (by simp)
    rw [List.concat_eq_append, visible_append, visible_cons_of_not_isSpace hspace] at h
    simp at h

/-- Two beginnings of one text with the same visible characters differ by blanks only. -/
theorem exists_blanks_of_append_eq {first second rest other : List Char}
    (h : first ++ rest = second ++ other) (hvisible : visible first = visible second) :
    ∃ blanks, visible blanks = [] ∧
      (second = first ++ blanks ∧ rest = blanks ++ other
        ∨ first = second ++ blanks ∧ other = blanks ++ rest) := by
  rcases List.append_eq_append_iff.1 h with ⟨blanks, rfl, hrest⟩ | ⟨blanks, rfl, hother⟩
  · rw [visible_append, List.self_eq_append_right] at hvisible
    exact ⟨blanks, hvisible, .inl ⟨rfl, hrest⟩⟩
  · rw [visible_append, List.append_right_eq_self] at hvisible
    exact ⟨blanks, hvisible, .inr ⟨rfl, hother⟩⟩

/-- They are the same when no blank stands behind either. -/
theorem eq_of_append_eq_of_head? {first second rest other : List Char}
    (h : first ++ rest = second ++ other) (hvisible : visible first = visible second)
    (hrest : ∀ c ∈ rest.head?, isSpace c = false) (hother : ∀ c ∈ other.head?, isSpace c = false) :
    first = second := by
  obtain ⟨blanks, hblanks, ⟨rfl, rfl⟩ | ⟨rfl, rfl⟩⟩ := exists_blanks_of_append_eq h hvisible
  · rw [eq_nil_of_head?_append hblanks hrest, List.append_nil]
  · rw [eq_nil_of_head?_append hblanks hother, List.append_nil]

/-- They are the same when neither ends with a blank. -/
theorem eq_of_append_eq_of_getLast? {first second rest other : List Char}
    (h : first ++ rest = second ++ other) (hvisible : visible first = visible second)
    (hfirst : ∀ c ∈ first.getLast?, isSpace c = false)
    (hsecond : ∀ c ∈ second.getLast?, isSpace c = false) : first = second := by
  obtain ⟨blanks, hblanks, ⟨rfl, rfl⟩ | ⟨rfl, rfl⟩⟩ := exists_blanks_of_append_eq h hvisible
  · rw [eq_nil_of_getLast?_append hblanks hsecond, List.append_nil]
  · rw [eq_nil_of_getLast?_append hblanks hfirst, List.append_nil]

/-! ## Carriage returns in texts -/

/-- A visible character is no part of the end of a line. -/
theorem dropReturns_cons_of_not_isSpace {c : Char} (hc : isSpace c = false) (cs : List Char) :
    dropReturns (c :: cs) = c :: dropReturns cs := by
  refine dropReturns_cons fun hreturn => ?_
  rw [List.cons_prefix_cons] at hreturn
  rw [← hreturn.1] at hc
  exact absurd hc (by decide)

theorem dropReturns_concat_of_not_isSpace {c : Char} (hc : isSpace c = false) (cs : List Char) :
    dropReturns (cs ++ [c]) = dropReturns cs ++ [c] := by
  have hfeed : [c].head? ≠ some '\n' := by
    rintro ⟨⟩
    exact absurd hc (by decide)
  rw [dropReturns_append (.inr hfeed), dropReturns_cons_of_not_isSpace hc]
  rfl

/-- A text loses no more than the carriage return at its end to a line feed behind it. -/
theorem exists_dropReturns_append (first second : List Char) : ∃ start,
    dropReturns (first ++ second) = start ++ dropReturns second
      ∧ visible start = visible first := by
  by_cases h : first.getLast? ≠ some '\r' ∨ second.head? ≠ some '\n'
  · exact ⟨dropReturns first, dropReturns_append h, visible_dropReturns first⟩
  · rw [not_or, not_not, not_not] at h
    obtain ⟨start, rfl⟩ := List.getLast?_eq_some_iff.1 h.1
    obtain ⟨rest, rfl⟩ := List.head?_eq_some_iff.1 h.2
    refine ⟨dropReturns start, ?_, ?_⟩
    · have hreturn : ('\r' :: '\n' :: rest).head? ≠ some '\n' := by simp
      have hfeed : dropReturns ('\r' :: '\n' :: rest) = dropReturns ('\n' :: rest) := by
        have hplain : ¬ ['\r', '\n'] <+: '\n' :: rest := by simp
        rw [dropReturns_lineEnd, dropReturns_cons hplain]
      rw [List.append_assoc, List.singleton_append, dropReturns_append (.inr hreturn), hfeed]
    · rw [visible_append, visible_dropReturns, visible_cons_of_isSpace (by decide), visible_nil,
        List.append_nil]

end Chars

namespace Text

theorem visible_removeChar {c : Char} (hc : Chars.isSpace c) (s : String) :
    Chars.visible (removeChar c s).toList = Chars.visible s.toList := by
  rw [removeChar, String.toList_ofList]
  exact Chars.visible_filter (Chars.decide_ne_of_isSpace hc) s.toList

theorem visible_trimEnd (s : String) :
    Chars.visible (trimEnd s).toList = Chars.visible s.toList := by
  rw [trimEnd, String.toList_ofList, Chars.visible_dropEnd]

theorem visible_dropReturns (s : String) :
    Chars.visible (dropReturns s).toList = Chars.visible s.toList := by
  rw [dropReturns, String.toList_ofList, Chars.visible_dropReturns]

/-! ## Texts that begin and end with visible characters -/

theorem trimmed_iff {s : String} : Trimmed s ↔ Chars.visible s.toList ≠ []
    ∧ (∀ c ∈ s.toList.head?, Chars.isSpace c = false)
    ∧ ∀ c ∈ s.toList.getLast?, Chars.isSpace c = false := by
  rw [← trim_eq_self_iff, Ne, Chars.visible_eq_nil_iff]
  constructor
  · intro h
    have hblank := h.isBlank
    rw [isBlank] at hblank
    exact ⟨by rw [hblank]; exact Bool.false_ne_true, h.trim_eq⟩
  · rintro ⟨hvisible, heq⟩
    refine ⟨heq, ?_⟩
    rintro rfl
    exact hvisible rfl

/-- Leaving out the blanks of one kind leaves a text that begins and ends as before. -/
theorem trimmed_removeChar {c : Char} (hc : Chars.isSpace c) {s : String} (h : Trimmed s) :
    Trimmed (removeChar c s) := by
  have hvisible := (trimmed_iff.1 h).1
  rw [← visible_removeChar hc] at hvisible
  refine ⟨?_, ?_⟩
  · have htrim := Chars.trim_filter_trim (Chars.decide_ne_of_isSpace hc) s.toList
    rw [← toList_trim, h.trim_eq] at htrim
    rw [trim, removeChar, String.toList_ofList, htrim]
  · intro hempty
    rw [hempty] at hvisible
    exact hvisible rfl

/-- What stands at the ends of such a text is no end of a line. -/
theorem trimmed_dropReturns {s : String} (h : Trimmed s) : Trimmed (dropReturns s) := by
  obtain ⟨hvisible, hfirst, hlast⟩ := trimmed_iff.1 h
  rw [trimmed_iff, visible_dropReturns, dropReturns, String.toList_ofList]
  refine ⟨hvisible, ?_, ?_⟩
  · obtain ⟨c, rest, hs⟩ := List.exists_cons_of_ne_nil h.toList_ne_nil
    rw [hs] at hfirst ⊢
    rwa [Chars.dropReturns_cons_of_not_isSpace (hfirst c rfl)]
  · obtain ⟨start, c, hs⟩ := (List.eq_nil_or_concat s.toList).resolve_left h.toList_ne_nil
    rw [hs, List.concat_eq_append, List.getLast?_concat] at hlast
    rwa [hs, List.concat_eq_append, Chars.dropReturns_concat_of_not_isSpace (hlast c rfl),
      List.getLast?_concat]

theorem Trimmed.trimEnd_eq {s : String} (h : Trimmed s) : trimEnd s = s := by
  obtain ⟨-, -, hlast⟩ := trimmed_iff.1 h
  have hkept : s.toList.rdropWhile Chars.isSpace = s.toList := by
    rw [List.rdropWhile_eq_self_iff]
    intro hne
    rw [hlast _ (List.getLast?_eq_some_getLast hne)]
    exact Bool.false_ne_true
  rw [trimEnd, Chars.dropEnd_eq_rdropWhile, hkept, String.ofList_toList]

/-! ## Texts one after the other -/

/-- Cutting blanks off the end reaches into the first text only when the second is blank. -/
theorem trimEnd_append (first second : String) : trimEnd (first ++ second) =
    if trimEnd second = "" then trimEnd first else first ++ trimEnd second := by
  unfold trimEnd
  simp only [String.toList_append, Chars.dropEnd_append, String.ofList_eq_empty_iff]
  split
  · rfl
  · rw [String.ofList_append, String.ofList_toList]

theorem exists_dropReturns_append (first second : String) : ∃ start,
    dropReturns (first ++ second) = start ++ dropReturns second
      ∧ Chars.visible start.toList = Chars.visible first.toList := by
  obtain ⟨start, happend, hvisible⟩ :=
    Chars.exists_dropReturns_append first.toList second.toList
  refine ⟨String.ofList start, ?_, by rwa [String.toList_ofList]⟩
  rw [dropReturns, dropReturns, String.toList_append, happend, String.ofList_append]

theorem Trimmed.dropReturns_append {first : String} (h : Trimmed first) (second : String) :
    dropReturns (first ++ second) = dropReturns first ++ dropReturns second := by
  obtain ⟨-, -, hlast⟩ := trimmed_iff.1 h
  have hreturn : first.toList.getLast? ≠ some '\r' := fun hr => absurd (hlast _ hr) (by decide)
  rw [dropReturns, dropReturns, dropReturns, String.toList_append,
    Chars.dropReturns_append (.inl hreturn), String.ofList_append]

/-- No blank stands between what is before such a text and the text. -/
theorem Trimmed.head?_append {s : String} (h : Trimmed s) (rest : List Char) :
    ∀ c ∈ (s.toList ++ rest).head?, Chars.isSpace c = false := by
  obtain ⟨-, hfirst, -⟩ := trimmed_iff.1 h
  rwa [List.head?_append_of_ne_nil _ h.toList_ne_nil]

end Text

end SchemaForge
