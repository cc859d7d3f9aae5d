import Mathlib.Data.List.Basic
import SchemaForge.Naming

namespace SchemaForge

/-! # Letter case and marks

The marks of ASCII before its digits, among them the dot and the slash, have no case: small letters
leave them in a text and add none, and names of classes have none of them. Small letters can be more
than the letters they stand for, but no text is shortened, so that a text and a longer one that
begins or ends with it differ in small letters too.
-/

namespace Chars

/-- A mark of ASCII before its digits. -/
def IsMark (c : Char) : Prop :=
  0 < c.toNat ∧ c.toNat < 48

instance (c : Char) : Decidable (IsMark c) :=
  inferInstanceAs (Decidable (0 < c.toNat ∧ c.toNat < 48))

theorem IsMark.ne {c d : Char} (hd : IsMark d) (hc : ¬ IsMark c) : d ≠ c := by
  rintro rfl
  exact hc hd

/-- A number is the code of its character if it is the code of any. -/
theorem toNat_ofNat (n : Nat) : (Char.ofNat n).toNat = n ∨ (Char.ofNat n).toNat = 0 := by
  by_cases hvalid : n.isValidChar
  · rw [Char.ofNat, dif_pos hvalid]
    exact .inl rfl
  · rw [Char.ofNat, dif_neg hvalid]
    exact .inr rfl

theorem not_isMark_ofNat {n : Nat} (h : 48 ≤ n) : ¬ IsMark (Char.ofNat n) := by
  have hcode := toNat_ofNat n
  unfold IsMark
  omega

/-! ## Tables -/

/-- A table in which no mark is mapped, nothing is mapped to a mark and nothing is lost. -/
structure KeepsMarks (rows : List CaseRow) (sequences : List (Nat × List Nat)) : Prop where
  rows : ∀ row ∈ rows, 48 ≤ row.lo ∧ 48 ≤ row.lo + row.delta
  sequences : ∀ entry ∈ sequences, 48 ≤ entry.1 ∧ entry.2 ≠ [] ∧ ∀ n ∈ entry.2, 48 ≤ n

theorem keepsMarks_lower : KeepsMarks lowerRows lowerSequences := by
  constructor
  · decide +kernel
  · decide +kernel

theorem keepsMarks_upper : KeepsMarks upperRows upperSequences := by
  constructor
  · decide +kernel
  · decide +kernel

theorem exists_row_of_mapCase? {rows : List CaseRow} {n m : Nat} (h : mapCase? n rows = some m) :
    ∃ row ∈ rows, row.lo ≤ n ∧ n ≤ row.hi ∧ m = (n + row.delta).toNat := by
  induction rows with
  | nil => cases h
  | cons row rest ih =>
    unfold mapCase? at h
    split at h
    · cases h
    · next hlo =>
      split at h
      · next hhi =>
        cases h
        exact ⟨row, List.mem_cons_self, by omega, hhi.1, rfl⟩
      · obtain ⟨found, hfound, hrow⟩ := ih h
        exact ⟨found, List.mem_cons_of_mem row hfound, hrow⟩

section Tables

variable {rows : List CaseRow} {sequences : List (Nat × List Nat)} {c d : Char}

theorem KeepsMarks.mapCase? (h : KeepsMarks rows sequences) {n m : Nat}
    (hmap : Chars.mapCase? n rows = some m) : 48 ≤ n ∧ 48 ≤ m := by
  obtain ⟨row, hrow, hlo, -, rfl⟩ := exists_row_of_mapCase? hmap
  obtain ⟨hkey, himage⟩ := h.rows row hrow
  omega

theorem KeepsMarks.lookup (h : KeepsMarks rows sequences) {n : Nat} {ns : List Nat}
    (hlookup : sequences.lookup n = some ns) : 48 ≤ n ∧ ns ≠ [] ∧ ∀ m ∈ ns, 48 ≤ m := by
  obtain ⟨before, after, rfl, -⟩ := List.lookup_eq_some_iff.1 hlookup
  exact h.sequences (n, ns) (by simp)

/-- A mark is left as it is. -/
theorem KeepsMarks.mapChar_of_isMark (h : KeepsMarks rows sequences) (hd : IsMark d) :
    mapChar rows sequences d = [d] := by
  have hlow : d.toNat < 48 := hd.2
  unfold mapChar
  cases hmap : Chars.mapCase? d.toNat rows with
  | some n =>
    obtain ⟨hhigh, -⟩ := h.mapCase? hmap
    omega
  | none =>
    cases hlookup : sequences.lookup d.toNat with
    | some ns =>
      obtain ⟨hhigh, -⟩ := h.lookup hlookup
      omega
    | none => rfl

/-- A mark is in the image of itself and of no other character. -/
theorem KeepsMarks.mem_mapChar_iff (h : KeepsMarks rows sequences) (hd : IsMark d) :
    d ∈ mapChar rows sequences c ↔ d = c := by
  constructor
  · intro hmem
    unfold mapChar at hmem
    cases hmap : Chars.mapCase? c.toNat rows with
    | some n =>
      obtain ⟨-, hn⟩ := h.mapCase? hmap
      rw [hmap] at hmem
      rw [List.mem_singleton.1 hmem] at hd
      exact absurd hd (not_isMark_ofNat hn)
    | none =>
      rw [hmap] at hmem
      cases hlookup : sequences.lookup c.toNat with
      | some ns =>
        obtain ⟨-, -, hns⟩ := h.lookup hlookup
        rw [hlookup] at hmem
        obtain ⟨n, hn, rfl⟩ := List.mem_map.1 hmem
        exact absurd hd (not_isMark_ofNat (hns n hn))
      | none =>
        rw [hlookup] at hmem
        exact List.mem_singleton.1 hmem
  · rintro rfl
    rw [h.mapChar_of_isMark hd]
    exact List.mem_singleton_self d

theorem KeepsMarks.mapChar_ne_nil (h : KeepsMarks rows sequences) :
    mapChar rows sequences c ≠ [] := by
  unfold mapChar
  split
  · simp
  · split
    · next hlookup =>
      obtain ⟨-, hne, -⟩ := h.lookup hlookup
      simpa using hne
    · simp

end Tables

/-! ## Small letters -/

variable {d : Char}

/-- What a character becomes depends on the text around it only for a sigma, which is one character
everywhere. -/
theorem exists_lowerAfter_cons (before : List Char) (c : Char) (cs : List Char) : ∃ small,
    lowerAfter before (c :: cs) = small ++ lowerAfter (c :: before) cs
      ∧ small.length = (lowerChar c).length ∧ ∀ d, IsMark d → (d ∈ small ↔ d = c) := by
  by_cases hsigma : c = 'Σ'
  · subst hsigma
    have hlength : (lowerChar 'Σ').length = 1 := by decide
    have hmarks : ∀ c ∈ ['Σ', 'σ', 'ς'], ¬ IsMark c := by
      rw [List.forall_mem_cons, List.forall_mem_cons, List.forall_mem_singleton]
      decide
    have hnone : ∀ small ∈ ['Σ', 'σ', 'ς'], ∀ d, IsMark d → (d ∈ [small] ↔ d = 'Σ') := by
      intro small hsmall d hd
      simp [hd.ne (hmarks small hsmall), hd.ne (hmarks 'Σ' (by simp))]
    rw [lowerAfter, if_pos rfl, hlength]
    split
    · exact ⟨['ς'], rfl, rfl, hnone 'ς' (by simp)⟩
    · exact ⟨['σ'], rfl, rfl, hnone 'σ' (by simp)⟩
  · rw [lowerAfter, if_neg hsigma]
    exact ⟨lowerChar c, rfl, rfl, fun d hd => keepsMarks_lower.mem_mapChar_iff hd⟩

theorem mem_lowerAfter_iff (hd : IsMark d) (before cs : List Char) :
    d ∈ lowerAfter before cs ↔ d ∈ cs := by
  induction cs generalizing before with
  | nil => rfl
  | cons c cs ih =>
    obtain ⟨small, heq, -, hmarks⟩ := exists_lowerAfter_cons before c cs
    rw [heq, List.mem_append, List.mem_cons, hmarks d hd, ih]

/-- Small letters leave marks where they are. -/
theorem mem_lower_iff (hd : IsMark d) (cs : List Char) : d ∈ lower cs ↔ d ∈ cs :=
  mem_lowerAfter_iff hd [] cs

theorem length_lowerAfter (before cs : List Char) :
    (lowerAfter before cs).length = (cs.flatMap lowerChar).length := by
  induction cs generalizing before with
  | nil => rfl
  | cons c cs ih =>
    obtain ⟨small, heq, hlength, -⟩ := exists_lowerAfter_cons before c cs
    rw [heq, List.length_append, List.flatMap_cons, List.length_append, hlength, ih]

/-- How long a text is in small letters is known from its parts. -/
theorem length_lower_append (first second : List Char) :
    (lower (first ++ second)).length = (lower first).length + (lower second).length := by
  simp only [lower, length_lowerAfter, List.flatMap_append, List.length_append]

/-- No text is shortened. -/
theorem length_le_length_lower (cs : List Char) : cs.length ≤ (lower cs).length := by
  induction cs with
  | nil => exact Nat.zero_le _
  | cons c cs ih =>
    have hchar : 0 < (lower [c]).length := by
      rw [lower, length_lowerAfter, List.flatMap_cons, List.flatMap_nil, List.append_nil]
      exact List.length_pos_iff.2 keepsMarks_lower.mapChar_ne_nil
    have hcons := length_lower_append [c] cs
    rw [List.singleton_append] at hcons
    rw [List.length_cons]
    omega

/-- What becomes of the first character begins and ends with a mark only if the character is it. -/
theorem exists_lowerAfter_cons_ne_nil (before : List Char) (c : Char) (cs : List Char) : ∃ small,
    lowerAfter before (c :: cs) = small ++ lowerAfter (c :: before) cs ∧ small ≠ []
      ∧ ∀ d, IsMark d →
        (small.head? = some d ↔ c = d) ∧ (small.getLast? = some d ↔ c = d) := by
  obtain ⟨small, heq, hlength, hmarks⟩ := exists_lowerAfter_cons before c cs
  refine ⟨small, heq, ?_, fun d hd => ?_⟩
  · rw [← List.length_pos_iff, hlength, List.length_pos_iff]
    exact keepsMarks_lower.mapChar_ne_nil
  -- a mark that is in what becomes of the character is all of it
  have hsingle : c = d → small = [d] := by
    rintro rfl
    rw [lowerChar, keepsMarks_lower.mapChar_of_isMark hd] at hlength
    obtain ⟨only, rfl⟩ := List.length_eq_one_iff.1 hlength
    rw [List.mem_singleton.1 ((hmarks c hd).2 rfl)]
  constructor
  · constructor
    · intro hhead
      exact ((hmarks d hd).1 (List.mem_of_head? hhead)).symm
    · intro hsame
      rw [hsingle hsame, List.head?_singleton]
  · constructor
    · intro hlast
      exact ((hmarks d hd).1 (List.mem_of_getLast? hlast)).symm
    · intro hsame
      rw [hsingle hsame, List.getLast?_singleton]

/-- A text begins with a mark when it does so in small letters. -/
theorem head?_lower_eq_some_iff (hd : IsMark d) (cs : List Char) :
    (lower cs).head? = some d ↔ cs.head? = some d := by
  cases cs with
  | nil => rfl
  | cons c cs =>
    obtain ⟨small, heq, hne, hmarks⟩ := exists_lowerAfter_cons_ne_nil [] c cs
    rw [lower, heq, List.head?_append_of_ne_nil _ hne, (hmarks d hd).1, List.head?_cons,
      Option.some_inj]

theorem getLast?_lowerAfter_eq_some_iff (hd : IsMark d) (before cs : List Char) :
    (lowerAfter before cs).getLast? = some d ↔ cs.getLast? = some d := by
  induction cs generalizing before with
  | nil => rfl
  | cons c cs ih =>
    obtain ⟨small, heq, -, hmarks⟩ := exists_lowerAfter_cons_ne_nil before c cs
    rw [heq]
    cases cs with
    | nil =>
      rw [lowerAfter, List.append_nil, (hmarks d hd).2, List.getLast?_singleton, Option.some_inj]
    | cons next cs =>
      obtain ⟨more, hmore, hne, -⟩ := exists_lowerAfter_cons_ne_nil (c :: before) next cs
      have hrest : lowerAfter (c :: before) (next :: cs) ≠ [] := by
        rw [hmore]
        simp [hne]
      rw [List.getLast?_append_of_ne_nil _ hrest, ih, List.getLast?_cons_cons]

/-- A text ends with a mark when it does so in small letters. -/
theorem getLast?_lower_eq_some_iff (hd : IsMark d) (cs : List Char) :
    (lower cs).getLast? = some d ↔ cs.getLast? = some d :=
  getLast?_lowerAfter_eq_some_iff hd [] cs

/-- Texts with the same small letters do not differ by an addition at the end of one of them. -/
theorem eq_of_append_eq_append {first second firstEnd secondEnd : List Char}
    (hlower : lower first = lower second) (h : first ++ firstEnd = second ++ secondEnd) :
    first = second := by
  have hnil : ∀ more base : List Char, (lower (base ++ more)).length = (lower base).length →
      more = [] := by
    intro more base hlength
    have hlong := length_le_length_lower more
    rw [length_lower_append] at hlength
    exact List.eq_nil_of_length_eq_zero (by omega)
  rcases List.append_eq_append_iff.1 h with ⟨more, rfl, -⟩ | ⟨more, rfl, -⟩
  · rw [hnil more first (by rw [hlower]), List.append_nil]
  · rw [hnil more second (by rw [hlower]), List.append_nil]

/-- A text is known from its small letters and itself behind them. -/
theorem eq_of_lower_append_eq {first second between : List Char}
    (h : lower first ++ between ++ first = lower second ++ between ++ second) : first = second := by
  have hnil : ∀ more base : List Char,
      (lower base).length = (lower (more ++ base)).length + more.length → more = [] := by
    intro more base hlength
    rw [length_lower_append] at hlength
    exact List.eq_nil_of_length_eq_zero (by omega)
  rcases List.append_eq_append_iff.1 h with ⟨more, hfront, rfl⟩ | ⟨more, hfront, rfl⟩
  · have hlength := congrArg List.length hfront
    simp only [List.length_append] at hlength
    rw [hnil more second (by omega), List.nil_append]
  · have hlength := congrArg List.length hfront
    simp only [List.length_append] at hlength
    rw [hnil more first (by omega), List.nil_append]

/-! ## Names -/

theorem mem_lowerWord_iff (hd : IsMark d) (cs : List Char) : d ∈ lowerWord cs ↔ d ∈ cs := by
  fun_induction lowerWord cs with
  | case1 => rfl
  | case2 =>
    have hcapital : d ≠ 'Σ' := hd.ne (by decide)
    have hfinal : d ≠ 'ς' := hd.ne (by decide)
    simp [hcapital, hfinal]
  | case3 c cs _ ih =>
    rw [List.mem_append, List.mem_cons, ih, lowerChar, keepsMarks_lower.mem_mapChar_iff hd]

theorem mem_capitalize_iff (hd : IsMark d) (cs : List Char) : d ∈ capitalize cs ↔ d ∈ cs := by
  cases cs with
  | nil => rfl
  | cons c cs =>
    rw [capitalize, List.mem_append, List.mem_cons, mem_lowerWord_iff hd, upperChar,
      keepsMarks_upper.mem_mapChar_iff hd]

/-- Marks are no letters or digits. -/
theorem isAlphanumeric_of_isMark (hd : IsMark d) : isAlphanumeric d = false := by
  have hlow : d.toNat < 0x30 := hd.2
  rw [isAlphanumeric, alphanumericRanges, inRanges, if_pos hlow]

theorem isAlphanumeric_of_mem_runs {cs run : List Char} (h : run ∈ runs cs) :
    ∀ c ∈ run, isAlphanumeric c := by
  induction cs generalizing run with
  | nil =>
    rw [runs, List.mem_singleton] at h
    simp [h]
  | cons c cs ih =>
    unfold runs at h
    split at h
    · next hc =>
      split at h
      · rw [List.mem_singleton] at h
        simp [h, hc]
      · next first rest heq =>
        rw [heq] at ih
        rcases List.mem_cons.1 h with rfl | hrest
        · intro x hx
          rcases List.mem_cons.1 hx with rfl | hx
          · exact hc
          · exact ih List.mem_cons_self x hx
        · exact ih (List.mem_cons_of_mem first hrest)
    · rcases List.mem_cons.1 h with rfl | hrest
      · simp
      · exact ih hrest

/-- The words in a run have only characters of the run. -/
theorem mem_of_mem_humps {word cs : List Char} {last : LetterKind} {hump : List Char}
    (h : hump ∈ humps word last cs) : ∀ c ∈ hump, c ∈ word ∨ c ∈ cs := by
  fun_induction humps word last cs with
  | case1 => cases h
  | case2 =>
    rw [List.mem_singleton] at h
    simp [h]
  | case3 =>
    rw [List.mem_singleton] at h
    simp [h]
  | case4 word last c next cs current _ ih =>
    intro x hx
    rcases List.mem_cons.1 h with rfl | hrest
    · rcases List.mem_append.1 hx with hword | hc
      · exact .inl hword
      · exact .inr (by simp [List.mem_singleton.1 hc])
    · rcases ih hrest x hx with hnil | hcs
      · cases hnil
      · exact .inr (List.mem_cons_of_mem c hcs)
  | case5 word last c next cs current _ _ ih =>
    intro x hx
    rcases List.mem_cons.1 h with rfl | hrest
    · exact .inl hx
    · rcases ih hrest x hx with hc | hcs
      · exact .inr (by simp [List.mem_singleton.1 hc])
      · exact .inr (List.mem_cons_of_mem c hcs)
  | case6 word last c next cs current _ _ ih =>
    intro x hx
    rcases ih h x hx with hword | hcs
    · rcases List.mem_append.1 hword with hword | hc
      · exact .inl hword
      · exact .inr (by simp [List.mem_singleton.1 hc])
    · exact .inr (List.mem_cons_of_mem c hcs)

/-- Words are of letters and digits. -/
theorem isAlphanumeric_of_mem_words {cs word : List Char} (h : word ∈ words cs) :
    ∀ c ∈ word, isAlphanumeric c := by
  intro c hc
  obtain ⟨run, hrun, hword⟩ := List.mem_flatMap.1 h
  rcases mem_of_mem_humps hword c hc with hnil | hmem
  · cases hnil
  · exact isAlphanumeric_of_mem_runs hrun c hmem

end Chars

/-- The name of a class has no marks. -/
theorem Naming.notMem_className {d : Char} (hd : Chars.IsMark d) (name : String) :
    d ∉ (className name).toList := by
  intro hmem
  rw [className, String.toList_ofList] at hmem
  obtain ⟨word, hword, hcapital⟩ := List.mem_flatMap.1 hmem
  rw [Chars.mem_capitalize_iff hd] at hcapital
  have hletter := Chars.isAlphanumeric_of_mem_words hword d hcapital
  rw [Chars.isAlphanumeric_of_isMark hd] at hletter
  cases hletter

namespace Text

theorem mem_lower_iff {d : Char} (hd : Chars.IsMark d) (s : String) :
    d ∈ (lower s).toList ↔ d ∈ s.toList := by
  rw [lower, String.toList_ofList, Chars.mem_lower_iff hd]

/-- Small letters leave a mark at the end of a text there. -/
theorem endsWithChar_lower {d : Char} (hd : Chars.IsMark d) (s : String) :
    endsWithChar d (lower s) = endsWithChar d s := by
  rw [Bool.eq_iff_iff, endsWithChar, endsWithChar, beq_iff_eq, beq_iff_eq, lower,
    String.toList_ofList, Chars.getLast?_lower_eq_some_iff hd]

theorem lower_ne_empty_iff {s : String} : lower s ≠ "" ↔ s ≠ "" := by
  have hlong := Chars.length_le_length_lower s.toList
  constructor
  · rintro hlower rfl
    exact hlower rfl
  · intro hne hempty
    rw [lower, String.ofList_eq_empty_iff] at hempty
    have hpos : 0 < s.toList.length := by
      rw [List.length_pos_iff]
      simpa using hne
    rw [hempty, List.length_nil] at hlong
    omega

/-- Texts with the same small letters do not differ by an addition at the end of one of them. -/
theorem eq_of_append_eq_append {first second firstEnd secondEnd : String}
    (hlower : lower first = lower second) (h : first ++ firstEnd = second ++ secondEnd) :
    first = second := by
  rw [lower, lower, String.ofList_inj] at hlower
  rw [← String.toList_inj, String.toList_append, String.toList_append] at h
  rw [← String.toList_inj]
  exact Chars.eq_of_append_eq_append hlower h

/-- A text is known from its small letters and itself behind them. -/
theorem eq_of_lower_append_eq {first second between : String}
    (h : lower first ++ between ++ first = lower second ++ between ++ second) : first = second := by
  rw [← String.toList_inj] at h ⊢
  simp only [lower, String.toList_append, String.toList_ofList] at h
  exact Chars.eq_of_lower_append_eq h

end Text

end SchemaForge
