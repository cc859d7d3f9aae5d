import SchemaForge.Text.Pieces

namespace SchemaForge

/-! # Texts and their pieces

The pieces of a text that is put together from two are those of both, where a separator stands
between them; without a separator, the last piece of the first goes on in the second. No separator
is in a piece, and the pieces with separators between them are the text.
-/

namespace Chars

variable {sep : Char}

theorem splitOn_ne_nil (cs : List Char) : splitOn sep cs ≠ [] := by
  induction cs with
  | nil => simp [splitOn]
  | cons c cs ih =>
    unfold splitOn
    split
    · simp
    · split <;> simp

/-- A character before a text that is no separator belongs to the first piece. -/
theorem splitOn_cons_of_ne {c : Char} (hc : c ≠ sep) {cs piece : List Char}
    {pieces : List (List Char)} (h : splitOn sep cs = piece :: pieces) :
    splitOn sep (c :: cs) = (c :: piece) :: pieces := by
  simp only [splitOn, hc, if_false, h]

/-- A separator between two texts keeps their pieces apart. -/
theorem splitOn_append_sep (first second : List Char) :
    splitOn sep (first ++ sep :: second) = splitOn sep first ++ splitOn sep second := by
  induction first with
  | nil => simp [splitOn]
  | cons c first ih =>
    by_cases hc : c = sep
    · subst hc
      simp [splitOn, ih]
    · obtain ⟨piece, pieces, hpieces⟩ := List.exists_cons_of_ne_nil (splitOn_ne_nil first)
      have happend : splitOn sep (first ++ sep :: second) =
          piece :: (pieces ++ splitOn sep second) := by rw [ih, hpieces, List.cons_append]
      rw [List.cons_append, splitOn_cons_of_ne hc happend, splitOn_cons_of_ne hc hpieces,
        List.cons_append]

/-- A text without separators is one piece. -/
theorem splitOn_of_notMem {cs : List Char} (h : sep ∉ cs) : splitOn sep cs = [cs] := by
  induction cs with
  | nil => rfl
  | cons c cs ih =>
    simp only [List.mem_cons, not_or] at h
    exact splitOn_cons_of_ne (Ne.symm h.1) (ih h.2)

/-- A text without separators goes on in the last piece of the text before it. -/
theorem exists_splitOn_append (sep : Char) (cs : List Char) : ∃ before last,
    ∀ more : List Char, sep ∉ more → splitOn sep (cs ++ more) = before ++ [last ++ more] := by
  induction cs with
  | nil => exact ⟨[], [], fun more hmore => splitOn_of_notMem hmore⟩
  | cons c cs ih =>
    obtain ⟨before, last, hsplit⟩ := ih
    by_cases hc : c = sep
    · subst hc
      refine ⟨[] :: before, last, fun more hmore => ?_⟩
      simp [splitOn, hsplit more hmore]
    · cases before with
      | nil =>
        refine ⟨[], c :: last, fun more hmore => ?_⟩
        exact splitOn_cons_of_ne hc (hsplit more hmore)
      | cons piece before =>
        refine ⟨(c :: piece) :: before, last, fun more hmore => ?_⟩
        exact splitOn_cons_of_ne hc (hsplit more hmore)

/-- The pieces are put together again with separators between them. -/
theorem intercalate_splitOn (cs : List Char) : [sep].intercalate (splitOn sep cs) = cs := by
  induction cs with
  | nil => rfl
  | cons c cs ih =>
    have hne : splitOn sep cs ≠ [] := splitOn_ne_nil cs
    obtain ⟨piece, pieces, hpieces⟩ := List.exists_cons_of_ne_nil hne
    by_cases hc : c = sep
    · subst hc
      have hsplit : splitOn c (c :: cs) = [] :: piece :: pieces := by simp [splitOn, hpieces]
      rw [hpieces] at ih
      rw [hsplit, List.intercalate_cons_cons, ih]
      rfl
    · rw [splitOn_cons_of_ne hc hpieces]
      rw [hpieces] at ih
      cases pieces with
      | nil =>
        rw [List.intercalate_singleton] at ih ⊢
        rw [ih]
      | cons next pieces =>
        rw [List.intercalate_cons_cons] at ih ⊢
        rw [← ih]
        simp

/-- No separator is left in a piece. -/
theorem notMem_of_mem_splitOn {cs piece : List Char} (h : piece ∈ splitOn sep cs) :
    sep ∉ piece := by
  induction cs generalizing piece with
  | nil =>
    obtain rfl : piece = [] := by simpa [splitOn] using h
    simp
  | cons c cs ih =>
    have hne : splitOn sep cs ≠ [] := splitOn_ne_nil cs
    obtain ⟨first, pieces, hpieces⟩ := List.exists_cons_of_ne_nil hne
    by_cases hc : c = sep
    · subst hc
      have hsplit : splitOn c (c :: cs) = [] :: splitOn c cs := by simp [splitOn]
      rw [hsplit] at h
      rcases List.mem_cons.1 h with rfl | hmem
      · simp
      · exact ih hmem
    · rw [splitOn_cons_of_ne hc hpieces] at h
      rw [hpieces] at ih
      rcases List.mem_cons.1 h with rfl | hmem
      · have hfirst := ih List.mem_cons_self
        simp [hfirst, Ne.symm hc]
      · exact ih (List.mem_cons_of_mem first hmem)

/-- Pieces with separators between them are found again when no separator is in one of them. -/
theorem splitOn_intercalate {pieces : List (List Char)} (hne : pieces ≠ [])
    (h : ∀ piece ∈ pieces, sep ∉ piece) : splitOn sep ([sep].intercalate pieces) = pieces := by
  induction pieces with
  | nil => exact absurd rfl hne
  | cons piece pieces ih =>
    rw [List.forall_mem_cons] at h
    cases pieces with
    | nil => rw [List.intercalate_singleton, splitOn_of_notMem h.1]
    | cons next pieces =>
      rw [List.intercalate_cons_cons, List.append_assoc, List.singleton_append,
        splitOn_append_sep, splitOn_of_notMem h.1, ih (List.cons_ne_nil next pieces) h.2,
        List.singleton_append]

/-- A text is cut at the first separator, if it has one. -/
theorem splitOnce?_eq (cs : List Char) : splitOnce? sep cs =
    if sep ∈ cs then some (cs.takeWhile (· ≠ sep), (cs.dropWhile (· ≠ sep)).tail) else none := by
  induction cs with
  | nil => rfl
  | cons c cs ih =>
    by_cases hc : c = sep
    · subst hc
      simp [splitOnce?]
    · rw [splitOnce?, if_neg hc, ih]
      by_cases hmem : sep ∈ cs
      · simp [hc, hmem]
      · simp [Ne.symm hc, hmem]

/-- What stands before the first separator is cut off from what stands behind it. -/
theorem splitOnce?_append_sep {first : List Char} (h : sep ∉ first) (second : List Char) :
    splitOnce? sep (first ++ sep :: second) = some (first, second) := by
  have hfirst : ∀ c ∈ first, decide (c ≠ sep) = true := by
    intro c hc
    simpa using ne_of_mem_of_not_mem hc h
  rw [splitOnce?_eq, if_pos (by simp), List.takeWhile_append_of_pos hfirst,
    List.dropWhile_append_of_pos hfirst]
  simp

end Chars

namespace Text

@[simp] theorem concat_nil : concat [] = "" :=
  rfl

@[simp] theorem concat_cons (s : String) (rest : List String) :
    concat (s :: rest) = s ++ concat rest :=
  rfl

/-- Texts that are put together are the same when one goes on where the other ends, with what is
put behind that before the rest. -/
theorem append_eq_append_iff {a b c d : String} :
    a ++ b = c ++ d ↔
      (∃ rest, c = a ++ rest ∧ b = rest ++ d) ∨ ∃ rest, a = c ++ rest ∧ d = rest ++ b := by
  constructor
  · intro h
    rw [← String.toList_inj, String.toList_append, String.toList_append,
      List.append_eq_append_iff] at h
    rcases h with ⟨rest, hc, hb⟩ | ⟨rest, ha, hd⟩
    · refine .inl ⟨String.ofList rest, ?_, ?_⟩
      · rw [← String.toList_inj, hc, String.toList_append, String.toList_ofList]
      · rw [← String.toList_inj, hb, String.toList_append, String.toList_ofList]
    · refine .inr ⟨String.ofList rest, ?_, ?_⟩
      · rw [← String.toList_inj, ha, String.toList_append, String.toList_ofList]
      · rw [← String.toList_inj, hd, String.toList_append, String.toList_ofList]
  · rintro (⟨rest, rfl, rfl⟩ | ⟨rest, rfl, rfl⟩)
    · exact (String.append_assoc ..).symm
    · exact String.append_assoc ..

/-- Only empty texts can be put around a text and leave it as it is. -/
theorem around_eq_self_iff {before s after : String} :
    before ++ s ++ after = s ↔ before = "" ∧ after = "" := by
  constructor
  · intro h
    have hlength : before.length + s.length + after.length = s.length := by
      rw [← String.length_append, ← String.length_append, h]
    have hbefore : before.length = 0 := by omega
    have hafter : after.length = 0 := by omega
    exact ⟨String.length_eq_zero_iff.1 hbefore, String.length_eq_zero_iff.1 hafter⟩
  · rintro ⟨rfl, rfl⟩
    rw [String.empty_append, String.append_empty]

/-- A text tells what stands before the first separator in it, and what stands behind. -/
theorem append_separator_inj {sep s t : String} {c : Char} (hsep : sep.toList = [c])
    (hs : c ∉ s.toList) (ht : c ∉ t.toList) {u v : String} (h : s ++ sep ++ u = t ++ sep ++ v) :
    s = t ∧ u = v := by
  have hbefore : ∀ {w rest : String}, c ∉ w.toList →
      (w ++ sep ++ rest).toList.takeWhile (· ≠ c) = w.toList := by
    intro w rest hw
    have hall : ∀ x ∈ w.toList, decide (x ≠ c) = true := by
      intro x hx
      simpa using ne_of_mem_of_not_mem hx hw
    rw [String.toList_append, String.toList_append, hsep, List.append_assoc,
      List.takeWhile_append_of_pos hall]
    simp
  have hsame : s = t := by
    rw [← String.toList_inj, ← hbefore hs, ← hbefore ht, h]
  subst hsame
  exact ⟨rfl, (String.append_right_inj _).1 h⟩

/-- Only a text without a character is left as it is when the character is left out. -/
theorem removeChar_eq_self_iff {c : Char} {s : String} : removeChar c s = s ↔ c ∉ s.toList := by
  rw [← String.toList_inj, removeChar, String.toList_ofList, List.filter_eq_self]
  constructor
  · intro h hc
    simpa using h c hc
  · intro h d hd
    simpa using ne_of_mem_of_not_mem hd h

theorem removeChar_eq_self_of_length_le {c : Char} {s : String}
    (h : s.toList.length ≤ (removeChar c s).toList.length) : removeChar c s = s := by
  rw [removeChar, String.toList_ofList] at h
  rw [removeChar, List.filter_sublist.eq_of_length_le h, String.ofList_toList]

theorem removeChar_append (c : Char) (first second : String) :
    removeChar c (first ++ second) = removeChar c first ++ removeChar c second := by
  rw [removeChar, removeChar, removeChar, String.toList_append, List.filter_append,
    String.ofList_append]

theorem replaceChar_append (c : Char) (new first second : String) :
    replaceChar c new (first ++ second) = replaceChar c new first ++ replaceChar c new second := by
  rw [replaceChar, replaceChar, replaceChar, String.toList_append, List.flatMap_append,
    String.ofList_append]

theorem toList_replaceChar_singleton (c d : Char) (s : String) :
    (replaceChar c (String.singleton d) s).toList =
      s.toList.map fun x => if x = c then d else x := by
  have hchar : (fun x => if x = c then (String.singleton d).toList else [x]) =
      fun x => [if x = c then d else x] := by
    funext x
    split
    · rw [String.toList_singleton]
    · rfl
  rw [replaceChar, String.toList_ofList, hchar, List.map_eq_flatMap]

/-- One character in place of another leaves a text as long as it was. -/
theorem length_replaceChar_singleton (c d : Char) (s : String) :
    (replaceChar c (String.singleton d) s).toList.length = s.toList.length := by
  rw [toList_replaceChar_singleton, List.length_map]

/-- Only a text without a character is left as it is when another is put in its place. -/
theorem replaceChar_singleton_eq_self_iff {c d : Char} (hne : d ≠ c) {s : String} :
    replaceChar c (String.singleton d) s = s ↔ c ∉ s.toList := by
  have hself : s.toList.map (fun x => if x = c then d else x) = s.toList ↔
      ∀ x ∈ s.toList, (if x = c then d else x) = x := by
    have hmap := List.map_inj_left (l := s.toList) (f := fun x => if x = c then d else x) (g := id)
    rwa [List.map_id] at hmap
  rw [← String.toList_inj, toList_replaceChar_singleton, hself]
  constructor
  · intro hall hmem
    have hc := hall c hmem
    rw [if_pos rfl] at hc
    exact hne hc
  · rintro hmem x hx
    rw [if_neg]
    rintro rfl
    exact hmem hx

/-- The texts of two lists one after the other are those of the first before those of the second. -/
theorem concat_append (first second : List String) :
    concat (first ++ second) = concat first ++ concat second := by
  induction first with
  | nil => simp
  | cons s rest ih => rw [List.cons_append, concat_cons, concat_cons, ih, String.append_assoc]

/-- Texts that all end alike end like that one after the other. -/
theorem suffix_concat {ending : List Char} {ss : List String} (hne : ss ≠ [])
    (h : ∀ s ∈ ss, ending <:+ s.toList) : ending <:+ (concat ss).toList := by
  rcases List.eq_nil_or_concat ss with hnil | ⟨before, last, rfl⟩
  · exact absurd hnil hne
  · have hlast : ending <:+ last.toList := h last (by simp)
    rw [List.concat_eq_append, concat_append, concat_cons, concat_nil, String.append_empty,
      String.toList_append]
    exact hlast.trans (List.suffix_append _ _)

theorem mem_of_mem_repeated {c : Char} {s : String} {n : Nat}
    (h : c ∈ (repeated s n).toList) : c ∈ s.toList := by
  induction n with
  | zero => cases h
  | succ n ih =>
    rw [repeated, String.toList_append, List.mem_append] at h
    exact h.elim id ih

theorem splitOn_ne_nil (sep : Char) (s : String) : splitOn sep s ≠ [] := by
  simp [splitOn, Chars.splitOn_ne_nil]

theorem splitOn_append_sep (sep : Char) (first second : String) :
    splitOn sep (first ++ String.singleton sep ++ second) =
      splitOn sep first ++ splitOn sep second := by
  simp [splitOn, Chars.splitOn_append_sep]

/-- Between the line feeds of texts that each have one behind them there are these texts. -/
theorem splitOn_ended {texts : List String} (h : ∀ text ∈ texts, '\n' ∉ text.toList) :
    splitOn '\n' (concat (texts.map (· ++ "\n"))) = texts ++ [""] := by
  induction texts with
  | nil => rfl
  | cons text texts ih =>
    rw [List.forall_mem_cons] at h
    have halone : splitOn '\n' text = [text] := by
      simp [splitOn, Chars.splitOn_of_notMem h.1]
    have hfeed : "\n" = String.singleton '\n' := rfl
    rw [List.map_cons, concat_cons, hfeed, splitOn_append_sep, halone]
    exact congrArg (text :: ·) (ih h.2)

theorem exists_splitOn_append (sep : Char) (s : String) : ∃ before last, ∀ more : String,
    sep ∉ more.toList → splitOn sep (s ++ more) = before ++ [last ++ more] := by
  obtain ⟨before, last, hsplit⟩ := Chars.exists_splitOn_append sep s.toList
  refine ⟨before.map String.ofList, String.ofList last, fun more hmore => ?_⟩
  simp [splitOn, hsplit more.toList hmore]

end Text

end SchemaForge
