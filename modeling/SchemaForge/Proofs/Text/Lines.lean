import SchemaForge.Proofs.Text.Blank
import SchemaForge.Text.Pieces

namespace SchemaForge

/-! # Texts and their lines

The lines of a text, joined by line feeds, are the text itself without the carriage returns that
belong to the ends of its lines. A line feed at the very end is lost, as no line stands behind it.
A text goes on with the lines of another one that is put behind it, unless its own last line lacks
its end.
-/

namespace Chars

/-- The text without every carriage return that stands directly before a line feed. -/
def dropReturns : List Char → List Char
  | [] => []
  | '\r' :: '\n' :: cs => '\n' :: dropReturns cs
  | c :: cs => c :: dropReturns cs

theorem lines_ne_nil {cs : List Char} (h : cs ≠ []) : lines cs ≠ [] := by
  fun_cases lines cs with
  | case1 => exact absurd rfl h
  | case2 cs => simp
  | case3 cs => simp
  | case4 c cs _ _ hlines => simp
  | case5 c cs _ _ line rest hlines => simp

/-- An empty line before other lines is a line feed before their text. -/
theorem intercalate_nil_cons {lines : List (List Char)} (h : lines ≠ []) :
    ['\n'].intercalate ([] :: lines) = '\n' :: ['\n'].intercalate lines := by
  obtain ⟨line, rest, rfl⟩ := List.exists_cons_of_ne_nil h
  simp [List.intercalate_cons_cons]

/-- A character before a line is a character before the text. -/
theorem intercalate_cons_line (c : Char) (line : List Char) (rest : List (List Char)) :
    ['\n'].intercalate ((c :: line) :: rest) = c :: ['\n'].intercalate (line :: rest) := by
  cases rest <;> simp [List.intercalate_cons_cons]

/-- Behind a line feed that is not at the end there is a text that does not end with one either. -/
theorem getLast?_of_lineFeed {cs : List Char} (h : ('\n' :: cs).getLast? ≠ some '\n') :
    cs ≠ [] ∧ cs.getLast? ≠ some '\n' := by
  have hne : cs ≠ [] := by
    rintro rfl
    exact h rfl
  exact ⟨hne, by rwa [List.getLast?_cons_of_ne_nil hne] at h⟩

/-- The lines of a text that does not end with a line feed make up that text, apart from the carriage
returns before its line feeds. -/
theorem intercalate_lines {cs : List Char} (h : cs.getLast? ≠ some '\n') :
    ['\n'].intercalate (lines cs) = dropReturns cs := by
  fun_induction lines cs with
  | case1 => rfl
  | case2 cs ih =>
    have hrest := getLast?_of_lineFeed h
    rw [intercalate_nil_cons (lines_ne_nil hrest.1), ih hrest.2]
    simp [dropReturns]
  | case3 cs ih =>
    rw [List.getLast?_cons_of_ne_nil (List.cons_ne_nil _ _)] at h
    have hrest := getLast?_of_lineFeed h
    rw [intercalate_nil_cons (lines_ne_nil hrest.1), ih hrest.2, dropReturns]
  | case4 c cs _ hreturn hlines ih =>
    -- only the empty text has no lines
    have hnil : cs = [] := by
      by_contra hne
      exact lines_ne_nil hne hlines
    subst hnil
    simp [dropReturns]
  | case5 c cs _ hreturn line rest hlines ih =>
    have hne : cs ≠ [] := by
      rintro rfl
      cases hlines
    rw [List.getLast?_cons_of_ne_nil hne] at h
    rw [intercalate_cons_line, ← hlines, ih h, dropReturns]
    exact hreturn

/-! ## Carriage returns -/

/-- A text is read from the front, with a carriage return and its line feed at once. -/
@[elab_as_elim]
theorem lineEnd_induction {motive : List Char → Prop} (nil : motive [])
    (lineEnd : ∀ cs, motive cs → motive ('\r' :: '\n' :: cs))
    (cons : ∀ c cs, ¬ ['\r', '\n'] <+: c :: cs → motive cs → motive (c :: cs))
    (cs : List Char) : motive cs := by
  fun_induction dropReturns cs with
  | case1 => exact nil
  | case2 cs ih => exact lineEnd cs ih
  | case3 c cs hreturn ih =>
    refine cons c cs ?_ ih
    rintro ⟨more, hmore⟩
    cases hmore
    exact hreturn more rfl rfl

theorem dropReturns_lineEnd (cs : List Char) :
    dropReturns ('\r' :: '\n' :: cs) = '\n' :: dropReturns cs :=
  rfl

theorem dropReturns_cons {c : Char} {cs : List Char} (h : ¬ ['\r', '\n'] <+: c :: cs) :
    dropReturns (c :: cs) = c :: dropReturns cs := by
  rw [dropReturns]
  rintro more rfl rfl
  exact h ⟨more, rfl⟩

/-- Texts are without their carriage returns what each of them is, unless one ends in a carriage
return whose line feed the other begins with. -/
theorem dropReturns_append {first second : List Char}
    (h : first.getLast? ≠ some '\r' ∨ second.head? ≠ some '\n') :
    dropReturns (first ++ second) = dropReturns first ++ dropReturns second := by
  induction first using lineEnd_induction with
  | nil => rfl
  | lineEnd cs ih =>
    have hrest : cs.getLast? ≠ some '\r' ∨ second.head? ≠ some '\n' := by
      refine h.imp_left fun hlast => ?_
      cases cs with
      | nil => simp
      | cons c cs => simpa using hlast
    rw [List.cons_append, List.cons_append, dropReturns_lineEnd, dropReturns_lineEnd, ih hrest,
      List.cons_append]
  | cons c cs hreturn ih =>
    have hrest : cs.getLast? ≠ some '\r' ∨ second.head? ≠ some '\n' := by
      refine h.imp_left fun hlast => ?_
      cases cs with
      | nil => simp
      | cons c cs => simpa using hlast
    have hseam : ¬ ['\r', '\n'] <+: c :: (cs ++ second) := by
      rintro ⟨more, hmore⟩
      cases cs with
      | nil =>
        cases hmore
        simp at h
      | cons d cs =>
        cases hmore
        exact hreturn ⟨cs, rfl⟩
    rw [List.cons_append, dropReturns_cons hseam, dropReturns_cons hreturn, ih hrest,
      List.cons_append]

theorem length_dropReturns_le (cs : List Char) : (dropReturns cs).length ≤ cs.length := by
  induction cs using lineEnd_induction with
  | nil => exact Nat.le_refl 0
  | lineEnd cs ih =>
    simp only [dropReturns_lineEnd, List.length_cons]
    omega
  | cons c cs hreturn ih =>
    simp only [dropReturns_cons hreturn, List.length_cons]
    omega

/-- A text is left as it is only when no carriage return in it stands before a line feed. -/
theorem dropReturns_eq_self_iff {cs : List Char} : dropReturns cs = cs ↔ ¬ ['\r', '\n'] <:+: cs := by
  induction cs using lineEnd_induction with
  | nil => exact iff_of_true rfl (by simp)
  | lineEnd cs _ =>
    have hle := length_dropReturns_le cs
    refine iff_of_false (fun h => ?_) (fun h => h ⟨[], cs, rfl⟩)
    have hlength := congrArg List.length h
    simp only [dropReturns_lineEnd, List.length_cons] at hlength
    omega
  | cons c cs hreturn ih =>
    rw [dropReturns_cons hreturn, List.cons_inj_right, ih, List.infix_cons_iff, not_or]
    exact ⟨fun h => ⟨hreturn, h⟩, And.right⟩

/-! ## One line after the other -/

/-- Holds for what ends a line. A carriage return before the line feed belongs to the end, so that a
line with only a line feed behind it does not end with one itself. -/
inductive LineEnd (line : List Char) : List Char → Prop
  | lineFeed (h : line.getLast? ≠ some '\r') : LineEnd line ['\n']
  | returned : LineEnd line ['\r', '\n']

/-- Holds for a text and its lines. No line feed is in a line, and each line has its end behind it,
which may be missing at the end of the text. -/
inductive IsLines : List Char → List (List Char) → Prop
  | nil : IsLines [] []
  | last {line : List Char} (hne : line ≠ []) (hline : '\n' ∉ line) : IsLines line [line]
  | cons {line ending rest : List Char} {more : List (List Char)} (hline : '\n' ∉ line)
      (hend : LineEnd line ending) (hrest : IsLines rest more) :
      IsLines (line ++ (ending ++ rest)) (line :: more)

theorem IsLines.notMem {cs : List Char} {found : List (List Char)} (h : IsLines cs found) :
    ∀ line ∈ found, '\n' ∉ line := by
  induction h with
  | nil => simp
  | last hne hline => simpa using hline
  | cons hline hend hrest ih =>
    intro line hmem
    rcases List.mem_cons.1 hmem with rfl | hmem
    · exact hline
    · exact ih line hmem

/-- A line of which a character is taken away has the same end. -/
theorem LineEnd.of_cons {c : Char} {line ending : List Char} (h : LineEnd (c :: line) ending) :
    LineEnd line ending := by
  cases h with
  | returned => exact .returned
  | lineFeed hlast =>
    refine .lineFeed fun hreturn => hlast ?_
    have hne : line ≠ [] := by
      rintro rfl
      cases hreturn
    rwa [List.getLast?_cons_of_ne_nil hne]

/-- A line feed at the front of a text is the whole end of an empty line. -/
theorem LineEnd.head?_append {line ending rest : List Char} (hend : LineEnd line ending)
    (hline : '\n' ∉ line) (h : (line ++ (ending ++ rest)).head? = some '\n') :
    line = [] ∧ ending = ['\n'] := by
  cases line with
  | cons c line =>
    simp only [List.cons_append, List.head?_cons, Option.some_inj] at h
    exact absurd (h ▸ List.mem_cons_self) hline
  | nil =>
    cases hend with
    | lineFeed _ => exact ⟨rfl, rfl⟩
    | returned => cases h

/-- A character that is no part of an end goes before the first line. -/
theorem lines_cons {c : Char} {cs line : List Char} {more : List (List Char)} (hc : c ≠ '\n')
    (hreturn : cs.head? = some '\n' → c ≠ '\r') (h : lines cs = line :: more) :
    lines (c :: cs) = (c :: line) :: more := by
  rw [lines, h]
  · exact hc
  · rintro rest rfl rfl
    exact hreturn rfl rfl

/-- A text without line feeds is one line. -/
theorem lines_of_notMem {line : List Char} (hne : line ≠ []) (hline : '\n' ∉ line) :
    lines line = [line] := by
  induction line with
  | nil => exact absurd rfl hne
  | cons c line ih =>
    rw [List.mem_cons, not_or] at hline
    cases line with
    | nil =>
      rw [lines, lines]
      · exact Ne.symm hline.1
      · rintro rest rfl hrest
        cases hrest
    | cons d line =>
      refine lines_cons (Ne.symm hline.1) ?_ (ih (List.cons_ne_nil d line) hline.2)
      intro hhead
      cases hhead
      exact absurd List.mem_cons_self hline.2

/-- A line and its end before a text are its first line. -/
theorem lines_append_end {line ending rest : List Char} (hline : '\n' ∉ line)
    (hend : LineEnd line ending) : lines (line ++ (ending ++ rest)) = line :: lines rest := by
  induction line with
  | nil => cases hend <;> rfl
  | cons c line ih =>
    rw [List.mem_cons, not_or] at hline
    refine lines_cons (Ne.symm hline.1) ?_ (ih hline.2 hend.of_cons)
    -- a carriage return before the end of the line would belong to that end
    rintro hhead rfl
    rcases hend.of_cons.head?_append hline.2 hhead with ⟨rfl, rfl⟩
    cases hend with
    | lineFeed hlast => exact hlast rfl

/-- Where a line begins with a character that is no part of an end, the lines are still those of the
text. -/
theorem IsLines.of_cons {c : Char} {cs line : List Char} {more : List (List Char)} (hc : c ≠ '\n')
    (hreturn : cs.head? = some '\n' → c ≠ '\r') (h : IsLines cs (line :: more)) :
    IsLines (c :: cs) ((c :: line) :: more) := by
  cases h with
  | last hne hline =>
    exact .last (List.cons_ne_nil c _) (by simp [hline, Ne.symm hc])
  | cons hline hend hrest =>
    have hcons : '\n' ∉ c :: line := by simp [hline, Ne.symm hc]
    rw [← List.cons_append]
    refine .cons hcons ?_ hrest
    cases hend with
    | returned => exact .returned
    | lineFeed hlast =>
      refine .lineFeed ?_
      cases line with
      | nil =>
        intro hsame
        cases hsame
        exact hreturn rfl rfl
      | cons d line => rwa [List.getLast?_cons_cons]

theorem isLines_lines (cs : List Char) : IsLines cs (lines cs) := by
  fun_induction lines cs with
  | case1 => exact .nil
  | case2 cs ih =>
    show IsLines ([] ++ (['\n'] ++ cs)) ([] :: lines cs)
    exact .cons (by simp) (.lineFeed (by simp)) ih
  | case3 cs ih =>
    show IsLines ([] ++ (['\r', '\n'] ++ cs)) ([] :: lines cs)
    exact .cons (by simp) .returned ih
  | case4 c cs hc _ hlines ih =>
    have hnil : cs = [] := by
      by_contra hne
      exact lines_ne_nil hne hlines
    subst hnil
    exact .last (List.cons_ne_nil c []) (by simpa using Ne.symm hc)
  | case5 c cs hc hreturn line rest hlines ih =>
    rw [hlines] at ih
    refine ih.of_cons hc ?_
    rintro hhead rfl
    rcases List.head?_eq_some_iff.1 hhead with ⟨behind, rfl⟩
    exact hreturn behind rfl rfl

/-- A text has one list of lines. -/
theorem isLines_iff {cs : List Char} {found : List (List Char)} :
    IsLines cs found ↔ lines cs = found := by
  constructor
  · intro h
    induction h with
    | nil => rfl
    | last hne hline => exact lines_of_notMem hne hline
    | cons hline hend hrest ih => rw [lines_append_end hline hend, ih]
  · rintro rfl
    exact isLines_lines cs

/-- Holds for a text none of whose lines lacks its end. -/
def Ended (cs : List Char) : Prop :=
  cs = [] ∨ cs.getLast? = some '\n'

instance (cs : List Char) : Decidable (Ended cs) :=
  inferInstanceAs (Decidable (cs = [] ∨ cs.getLast? = some '\n'))

/-- What is behind the first line ends as the text does. -/
theorem Ended.of_append {start rest : List Char} (h : Ended (start ++ rest)) : Ended rest := by
  by_cases hrest : rest = []
  · exact .inl hrest
  · rcases h with hnil | hlast
    · exact absurd (List.append_eq_nil_iff.1 hnil).2 hrest
    · right
      rwa [List.getLast?_append_of_ne_nil _ hrest] at hlast

/-- The lines of a text go on in a second one where none of them lacks its end. -/
theorem IsLines.append {first second : List Char} {found more : List (List Char)}
    (hfirst : IsLines first found) (hended : Ended first) (hsecond : IsLines second more) :
    IsLines (first ++ second) (found ++ more) := by
  induction hfirst with
  | nil => exact hsecond
  | last hne hline =>
    rcases hended with hnil | hlast
    · exact absurd hnil hne
    · exact absurd (List.mem_of_getLast? hlast) hline
  | cons hline hend hrest ih =>
    rw [List.append_assoc, List.append_assoc]
    exact .cons hline hend (ih hended.of_append.of_append)

theorem lines_append {first : List Char} (h : Ended first) (second : List Char) :
    lines (first ++ second) = lines first ++ lines second :=
  isLines_iff.1 ((isLines_lines first).append h (isLines_lines second))

end Chars

namespace Text

/-- The text without every carriage return that stands directly before a line feed. -/
def dropReturns (s : String) : String :=
  String.ofList (Chars.dropReturns s.toList)

theorem lines_ne_nil {s : String} (h : s ≠ "") : lines s ≠ [] := by
  have hchars : s.toList ≠ [] := by simpa using h
  simpa [lines] using Chars.lines_ne_nil hchars

theorem intercalate_lines {s : String} (h : s.toList.getLast? ≠ some '\n') :
    "\n".intercalate (lines s) = dropReturns s := by
  have hlines : (lines s).map String.toList = Chars.lines s.toList := by
    simp [lines, Function.comp_def]
  rw [← String.toList_inj, String.toList_intercalate, hlines]
  simpa [dropReturns] using Chars.intercalate_lines h

theorem length_dropReturns_le (s : String) :
    (dropReturns s).toList.length ≤ s.toList.length := by
  rw [dropReturns, String.toList_ofList]
  exact Chars.length_dropReturns_le s.toList

theorem dropReturns_eq_self_iff {s : String} :
    dropReturns s = s ↔ ¬ ['\r', '\n'] <:+: s.toList := by
  rw [← String.toList_inj, dropReturns, String.toList_ofList, Chars.dropReturns_eq_self_iff]

/-- A text whose end is trimmed does not end with a blank. -/
theorem getLast?_trimEnd {s : String} {c : Char} (h : (trimEnd s).toList.getLast? = some c) :
    Chars.isSpace c = false := by
  rw [trimEnd, String.toList_ofList, Chars.dropEnd_eq_rdropWhile] at h
  have hne : s.toList.rdropWhile Chars.isSpace ≠ [] := by
    intro hnil
    rw [hnil] at h
    cases h
  have hlast := List.rdropWhile_last_not Chars.isSpace s.toList hne
  rw [List.getLast?_eq_some_getLast hne, Option.some_inj] at h
  rwa [h, Bool.not_eq_true] at hlast

/-- Trimming the end of a text leaves what is there before its last blanks. -/
theorem trimEnd_ne_empty {s : String} {c : Char} (h : c ∈ s.toList)
    (hspace : Chars.isSpace c = false) : trimEnd s ≠ "" := by
  rw [trimEnd, Chars.dropEnd_eq_rdropWhile, Ne, String.ofList_eq_empty_iff,
    List.rdropWhile_eq_nil_iff]
  intro hall
  have hblank := hall c h
  rw [hspace] at hblank
  cases hblank

end Text

end SchemaForge
