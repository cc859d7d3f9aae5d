import SchemaForge.Proofs.Text.LetterCase
import SchemaForge.Proofs.Text.Pieces

namespace SchemaForge

/-! # Names made of words

The words of a name are read back from a constant, up to case, since no word is empty or has an
underscore. They are not always there to be read in a longer name: a capitalised word that is put
behind a name goes on with the last word of that if it has no letter with a case, as `1` and `Tables`
become `1Tables`.
-/

namespace Chars

/-! ## Words -/

theorem ne_nil_of_mem_humps {word cs : List Char} {last : LetterKind} {hump : List Char}
    (hlast : last = .capital → word ≠ []) (h : hump ∈ humps word last cs) : hump ≠ [] := by
  fun_induction humps word last cs with
  | case1 => cases h
  | case2 word last hword =>
    rw [List.mem_singleton] at h
    simpa [h] using hword
  | case3 =>
    rw [List.mem_singleton] at h
    simp [h]
  | case4 word last c next cs current _ ih =>
    rcases List.mem_cons.1 h with rfl | hrest
    · simp
    · exact ih (by decide) hrest
  | case5 word last c next cs current _ hcut ih =>
    rcases List.mem_cons.1 h with rfl | hrest
    · exact hlast hcut.1
    · exact ih (fun _ => List.cons_ne_nil c []) hrest
  | case6 word last c next cs current _ _ ih => exact ih (by simp) h

theorem ne_nil_of_mem_words {cs word : List Char} (h : word ∈ words cs) : word ≠ [] := by
  obtain ⟨run, -, hword⟩ := List.mem_flatMap.1 h
  exact ne_nil_of_mem_humps (by decide) hword

/-! ## Capital letters -/

/-- No character but the underscore has one in its capital form. -/
theorem underscore_notMem_upperChar {c : Char} (hc : c ≠ '_') : '_' ∉ upperChar c := by
  have hrows : ∀ row ∈ upperRows, row.hi + row.delta < 95 ∨ 95 < row.lo + row.delta := by
    decide +kernel
  have hsequences : ∀ entry ∈ upperSequences, ∀ n ∈ entry.2, Char.ofNat n ≠ '_' := by
    decide +kernel
  intro hmem
  unfold upperChar mapChar at hmem
  split at hmem
  · next n hmap =>
    obtain ⟨row, hrow, hlo, hhi, rfl⟩ := exists_row_of_mapCase? hmap
    have hcode := toNat_ofNat (c.toNat + row.delta).toNat
    rw [← List.mem_singleton.1 hmem, show ('_' : Char).toNat = 95 from rfl] at hcode
    have himage := hrows row hrow
    omega
  · split at hmem
    · next ns hlookup =>
      obtain ⟨before, after, hentries, -⟩ := List.lookup_eq_some_iff.1 hlookup
      obtain ⟨n, hn, heq⟩ := List.mem_map.1 hmem
      exact hsequences (c.toNat, ns) (hentries ▸ by simp) n hn heq
    · exact hc (List.mem_singleton.1 hmem).symm

theorem underscore_notMem_upper {cs : List Char} (h : '_' ∉ cs) : '_' ∉ upper cs := by
  intro hmem
  obtain ⟨c, hc, hupper⟩ := List.mem_flatMap.1 hmem
  exact underscore_notMem_upperChar (fun heq => h (heq ▸ hc)) hupper

theorem upper_eq_nil_iff {cs : List Char} : upper cs = [] ↔ cs = [] := by
  constructor
  · intro h
    cases cs with
    | nil => rfl
    | cons c cs =>
      obtain ⟨hempty, -⟩ := List.append_eq_nil_iff.1 h
      exact absurd hempty keepsMarks_upper.mapChar_ne_nil
  · rintro rfl
    rfl

theorem upper_append (first second : List Char) :
    upper (first ++ second) = upper first ++ upper second :=
  List.flatMap_append

/-! ## Words behind a name -/

/-- Holds for a word without a letter that has a case. -/
def Caseless (word : List Char) : Prop :=
  ∀ c ∈ word, letterKind c = .neither

instance (word : List Char) : Decidable (Caseless word) :=
  inferInstanceAs (Decidable (∀ c ∈ word, letterKind c = .neither))

/-- Holds for a text that begins like a capitalised word. -/
inductive Capitalised : List Char → Prop where
  | mk {capital small : Char} {cs : List Char} (hcapital : letterKind capital = .capital)
    (hsmall : letterKind small = .small) (hone : isUppercase small = false) :
    Capitalised (capital :: small :: cs)

/-- Holds for a name whose last run ends with a caseless word, so that a word behind the name goes on
with it. -/
def LeftOpen (cs : List Char) : Prop :=
  ∃ run word, (runs cs).getLast? = some run ∧ (humps [] .neither run).getLast? = some word
    ∧ Caseless word

theorem isUppercase_of_letterKind {c : Char} (h : letterKind c = .capital) :
    isUppercase c = true ∧ isLowercase c = false := by
  unfold letterKind at h
  split at h
  · cases h
  · next hlower =>
    split at h
    · next hupper => exact ⟨hupper, Bool.eq_false_iff.2 hlower⟩
    · cases h

theorem isLowercase_of_letterKind {c : Char} : letterKind c = .small ↔ isLowercase c = true := by
  unfold letterKind
  split
  · next hlower => exact iff_of_true rfl hlower
  · next hlower =>
    refine iff_of_false ?_ hlower
    split <;> decide

/-- A word that has been begun is a part of the next that is completed. -/
theorem exists_humps_append (word : List Char) (last : LetterKind) (c : Char) (cs : List Char) :
    ∃ hump rest, humps word last (c :: cs) = hump :: rest
      ∧ ∀ before, humps (before ++ word) last (c :: cs) = (before ++ hump) :: rest := by
  generalize htext : c :: cs = text
  fun_induction humps word last text generalizing c cs with
  | case1 => cases htext
  | case2 => cases htext
  | case3 word last c => exact ⟨_, _, rfl, fun before => by rw [humps, List.append_assoc]⟩
  | case4 word last c next cs current hcut ih =>
    refine ⟨_, _, rfl, fun before => ?_⟩
    rw [humps, if_pos hcut, List.append_assoc]
  | case5 word last c next cs current hsmall hcut ih =>
    refine ⟨_, _, rfl, fun before => ?_⟩
    rw [humps, if_neg hsmall, if_pos hcut]
  | case6 word last c next cs current hsmall hcut ih =>
    obtain ⟨hump, rest, hhumps, hbefore⟩ := ih _ _ rfl
    refine ⟨hump, rest, hhumps, fun before => ?_⟩
    rw [humps, if_neg hsmall, if_neg hcut, List.append_assoc]
    exact hbefore before

/-- In front of a small letter it is of no influence whether the letter before it is a capital. -/
theorem humps_small {small : Char} (hsmall : letterKind small = .small)
    (hone : isUppercase small = false) (word : List Char) (last : LetterKind) (cs : List Char) :
    humps word last (small :: cs) = humps word .neither (small :: cs) := by
  cases cs with
  | nil => rfl
  | cons next cs => simp [humps, hsmall, hone]

/-- Behind a word that ends with a capital a capitalised word is a new one, and behind a caseless
word it is none. -/
theorem humps_capitalised {part first : List Char} {rest : List (List Char)}
    (hpart : Capitalised part) (hfirst : humps [] .neither part = first :: rest)
    (word : List Char) : humps word .capital part = word :: first :: rest
      ∧ humps word .neither part = (word ++ first) :: rest := by
  obtain @⟨capital, small, cs, hcapital, hsmall, hone⟩ := hpart
  obtain ⟨hupper, -⟩ := isUppercase_of_letterKind hcapital
  have hlower := isLowercase_of_letterKind.1 hsmall
  constructor
  · have hcut : humps [] .neither (capital :: small :: cs) =
        humps [capital] .neither (small :: cs) := by
      rw [← humps_small hsmall hone [capital] .capital]
      simp [humps, hcapital]
    rw [← hfirst, hcut]
    simp [humps, hcapital, hupper, hlower]
  · obtain ⟨hump, humps, hhumps, hbefore⟩ := exists_humps_append [] .neither capital (small :: cs)
    rw [hhumps, List.cons.injEq] at hfirst
    have hword := hbefore word
    rwa [List.append_nil, hfirst.1, hfirst.2] at hword

/-- The case of the last letter is lost at the beginning of a word only, where a small letter follows.
-/
theorem caseless_concat_iff {word : List Char} {last : LetterKind} {c : Char}
    (hcased : last ≠ .neither → ¬ Caseless word)
    (hcaseless : last = .neither → Caseless word ∨ letterKind c = .small) :
    Caseless (word ++ [c])
      ↔ (if letterKind c = .neither then last else letterKind c) = .neither := by
  rw [Caseless, List.forall_mem_append, List.forall_mem_singleton]
  by_cases hc : letterKind c = .neither
  · rw [if_pos hc, and_iff_left hc]
    constructor
    · intro hword
      by_contra hlast
      exact hcased hlast hword
    · intro hlast
      rcases hcaseless hlast with hword | hsmall
      · exact hword
      · rw [hc] at hsmall
        cases hsmall
  · rw [if_neg hc]
    exact iff_of_false (fun h => hc h.2) hc

/-- A capitalised word behind a run is a new word, unless the last word of the run is caseless. Then
it goes on with that. -/
theorem exists_humps_append_capitalised {word cs : List Char} {last : LetterKind} (hne : cs ≠ [])
    (hcased : last ≠ .neither → ¬ Caseless word)
    (hcaseless : last = .neither → Caseless word ∨ ∃ c ∈ cs.head?, letterKind c = .small) :
    ∃ before final, humps word last cs = before ++ [final]
      ∧ ∀ part first rest, Capitalised part → humps [] .neither part = first :: rest →
        humps word last (cs ++ part) =
          before ++ if Caseless final then (final ++ first) :: rest else final :: first :: rest := by
  fun_induction humps word last cs with
  | case1 => exact absurd rfl hne
  | case2 => exact absurd rfl hne
  | case3 word last c =>
    have hfinal := caseless_concat_iff hcased (by simpa using hcaseless)
    refine ⟨[], word ++ [c], rfl, fun part first rest hpart hfirst => ?_⟩
    obtain ⟨hnew, hgoes⟩ := humps_capitalised hpart hfirst (word ++ [c])
    obtain @⟨capital, small, cs, hcapital, hsmall, hone⟩ := hpart
    obtain ⟨hupper, hlower⟩ := isUppercase_of_letterKind hcapital
    rw [List.singleton_append, List.nil_append, humps]
    simp only [hfinal, hupper, hlower, and_true, and_false, if_false, Bool.false_eq_true]
    generalize (if letterKind c = .neither then last else letterKind c) = current
    cases current with
    | small => rw [if_pos rfl, if_neg (by decide), hfirst]
    | capital => rw [if_neg (by decide), if_neg (by decide), hnew]
    | neither => rw [if_neg (by decide), if_pos rfl, hgoes]
  | case4 word last c next cs current hcut ih =>
    obtain ⟨before, final, hhumps, hbehind⟩ := ih (List.cons_ne_nil _ _) (by simp)
      (fun _ => .inl (by simp [Caseless]))
    refine ⟨(word ++ [c]) :: before, final, by rw [hhumps, List.cons_append],
      fun part first rest hpart hfirst => ?_⟩
    have hrest := hbehind part first rest hpart hfirst
    rw [List.cons_append] at hrest
    rw [List.cons_append, List.cons_append, humps, if_pos hcut, hrest, List.cons_append]
  | case5 word last c next cs current hsmall hcut ih =>
    -- the capital begins a word anew, and its case is found again in the small letter behind it
    have hnext := isLowercase_of_letterKind.2 hcut.2.2
    obtain ⟨before, final, hhumps, hbehind⟩ := ih (List.cons_ne_nil _ _) (by simp)
      (fun _ => .inr ⟨next, rfl, hnext⟩)
    refine ⟨word :: before, final, by rw [hhumps, List.cons_append],
      fun part first rest hpart hfirst => ?_⟩
    have hrest := hbehind part first rest hpart hfirst
    rw [List.cons_append] at hrest
    rw [List.cons_append, List.cons_append, humps, if_neg hsmall, if_pos hcut, hrest,
      List.cons_append]
  | case6 word last c next cs current hsmall hcut ih =>
    have hword := caseless_concat_iff hcased (by simpa using hcaseless)
    obtain ⟨before, final, hhumps, hbehind⟩ := ih (List.cons_ne_nil _ _)
      (fun hcurrent hnone => hcurrent (hword.1 hnone)) (fun hcurrent => .inl (hword.2 hcurrent))
    refine ⟨before, final, hhumps, fun part first rest hpart hfirst => ?_⟩
    rw [List.cons_append, List.cons_append, humps, if_neg hsmall, if_neg hcut]
    exact hbehind part first rest hpart hfirst

theorem runs_of_isAlphanumeric {cs : List Char} (h : ∀ c ∈ cs, isAlphanumeric c) :
    runs cs = [cs] := by
  induction cs with
  | nil => rfl
  | cons c cs ih =>
    rw [List.forall_mem_cons] at h
    rw [runs, if_pos h.1, ih h.2]

theorem words_of_isAlphanumeric {cs : List Char} (h : ∀ c ∈ cs, isAlphanumeric c) :
    words cs = humps [] .neither cs := by
  rw [words, runs_of_isAlphanumeric h, List.flatMap_singleton]

/-- Letters and digits behind a name belong to its last run. -/
theorem exists_runs_append (cs : List Char) : ∃ before final, runs cs = before ++ [final]
    ∧ ∀ part : List Char, (∀ c ∈ part, isAlphanumeric c) →
      runs (cs ++ part) = before ++ [final ++ part] := by
  induction cs with
  | nil => exact ⟨[], [], rfl, fun part hpart => runs_of_isAlphanumeric hpart⟩
  | cons c cs ih =>
    obtain ⟨before, final, hruns, hbehind⟩ := ih
    by_cases hc : isAlphanumeric c
    · cases before with
      | nil =>
        refine ⟨[], c :: final, by rw [runs, if_pos hc, hruns]; rfl, fun part hpart => ?_⟩
        rw [List.cons_append, runs, if_pos hc, hbehind part hpart]
        rfl
      | cons first before =>
        refine ⟨(c :: first) :: before, final, by rw [runs, if_pos hc, hruns]; rfl,
          fun part hpart => ?_⟩
        rw [List.cons_append, runs, if_pos hc, hbehind part hpart]
        rfl
    · refine ⟨[] :: before, final, by rw [runs, if_neg hc, hruns]; rfl, fun part hpart => ?_⟩
      rw [List.cons_append, runs, if_neg hc, hbehind part hpart]
      rfl

theorem leftOpen_iff {cs run : List Char} (h : (runs cs).getLast? = some run) : LeftOpen cs
    ↔ ∃ word, (humps [] .neither run).getLast? = some word ∧ Caseless word := by
  constructor
  · rintro ⟨run, word, hrun, hword⟩
    rw [h, Option.some_inj] at hrun
    exact ⟨word, hrun ▸ hword⟩
  · rintro ⟨word, hword⟩
    exact ⟨run, word, h, hword⟩

/-- The words of a name stand in every name that begins with it, but for a caseless one at its end
that is left open. A capitalised word behind the name goes on with that. -/
theorem exists_words_append (cs : List Char) : ∃ before goesOn,
    words cs = before ++ (if goesOn = [] then [] else [goesOn]) ∧ (LeftOpen cs ↔ goesOn ≠ [])
    ∧ ∀ part first rest, Capitalised part → (∀ c ∈ part, isAlphanumeric c) →
      words part = first :: rest → words (cs ++ part) = before ++ (goesOn ++ first) :: rest := by
  obtain ⟨before, run, hruns, hbehind⟩ := exists_runs_append cs
  have hopen := leftOpen_iff (hruns ▸ List.getLast?_concat)
  have hwords : words cs = before.flatMap (humps [] .neither) ++ humps [] .neither run := by
    rw [words, hruns, List.flatMap_append, List.flatMap_singleton]
  have happend : ∀ part : List Char, (∀ c ∈ part, isAlphanumeric c) → words (cs ++ part) =
      before.flatMap (humps [] .neither) ++ humps [] .neither (run ++ part) := by
    intro part hpart
    rw [words, hbehind part hpart, List.flatMap_append, List.flatMap_singleton]
  cases run with
  | nil =>
    refine ⟨before.flatMap (humps [] .neither), [], hwords, ?_, ?_⟩
    · rw [hopen]
      simp [humps]
    · intro part first rest _ hpart hfirst
      rw [happend part hpart, List.nil_append, ← words_of_isAlphanumeric hpart, hfirst,
        List.nil_append]
  | cons c run =>
    obtain ⟨start, final, hhumps, hgoes⟩ :=
      @exists_humps_append_capitalised [] (c :: run) .neither (List.cons_ne_nil c run) (by simp)
        (by simp [Caseless])
    have hfinal : final ≠ [] :=
      ne_nil_of_mem_humps (by decide) (hhumps ▸ List.mem_append_right _ List.mem_cons_self)
    rw [hhumps, List.getLast?_concat] at hopen
    by_cases hcaseless : Caseless final
    · refine ⟨before.flatMap (humps [] .neither) ++ start, final, ?_, ?_, ?_⟩
      · rw [hwords, hhumps, if_neg hfinal, List.append_assoc]
      · exact iff_of_true (hopen.2 ⟨final, rfl, hcaseless⟩) hfinal
      · intro part first rest hcapital hpart hfirst
        rw [words_of_isAlphanumeric hpart] at hfirst
        rw [happend part hpart, hgoes part first rest hcapital hfirst, if_pos hcaseless,
          List.append_assoc]
    · refine ⟨before.flatMap (humps [] .neither) ++ start ++ [final], [], ?_, ?_, ?_⟩
      · rw [hwords, hhumps, if_pos rfl, List.append_nil, List.append_assoc]
      · rw [hopen]
        simp [hcaseless]
      · intro part first rest hcapital hpart hfirst
        rw [words_of_isAlphanumeric hpart] at hfirst
        rw [happend part hpart, hgoes part first rest hcapital hfirst, if_neg hcaseless]
        simp

/-- Two names with the same words behind them have the same words in capitals when that is so without
these, and either both or none goes on into them. -/
theorem upper_words_append_iff {part first : List Char} {rest : List (List Char)}
    (hcapital : Capitalised part) (hpart : ∀ c ∈ part, isAlphanumeric c)
    (hfirst : words part = first :: rest) (cs ds : List Char) :
    (words (cs ++ part)).map upper = (words (ds ++ part)).map upper
      ↔ (words cs).map upper = (words ds).map upper ∧ (LeftOpen cs ↔ LeftOpen ds) := by
  obtain ⟨before, goesOn, hwords, hopen, happend⟩ := exists_words_append cs
  obtain ⟨others, otherGoesOn, hothers, hotherOpen, hotherAppend⟩ := exists_words_append ds
  have hends : ∀ (xs ys : List (List Char)) (x y : List Char) (zs : List (List Char)),
      xs ++ x :: zs = ys ++ y :: zs ↔ xs = ys ∧ x = y := by
    intro xs ys x y zs
    constructor
    · intro heq
      obtain ⟨hstart, hend⟩ := List.append_inj' heq rfl
      exact ⟨hstart, (List.cons.inj hend).1⟩
    · rintro ⟨rfl, rfl⟩
      rfl
  have hparts : (words (cs ++ part)).map upper = (words (ds ++ part)).map upper
      ↔ before.map upper = others.map upper ∧ upper goesOn = upper otherGoesOn := by
    rw [happend part first rest hcapital hpart hfirst,
      hotherAppend part first rest hcapital hpart hfirst]
    simp only [List.map_append, List.map_cons, upper_append]
    rw [hends, List.append_left_inj]
  rw [hparts, hwords, hothers, hopen, hotherOpen]
  by_cases hgoes : goesOn = []
  · subst hgoes
    by_cases hother : otherGoesOn = []
    · simp [hother]
    · exact iff_of_false (fun h => hother (upper_eq_nil_iff.1 h.2.symm)) (fun h => h.2.2 hother rfl)
  · by_cases hother : otherGoesOn = []
    · subst hother
      exact iff_of_false (fun h => hgoes (upper_eq_nil_iff.1 h.2)) (fun h => h.2.1 hgoes rfl)
    · rw [if_neg hgoes, if_neg hother, List.map_append, List.map_append, List.map_singleton,
        List.map_singleton, hends]
      simp [hgoes, hother]

end Chars

/-! ## Constants -/

/-- Pieces that are not empty are known from the text in which a separator is between them. -/
theorem Chars.intercalate_inj {sep : Char} {first second : List (List Char)}
    (hfirst : ∀ piece ∈ first, piece ≠ [] ∧ sep ∉ piece)
    (hsecond : ∀ piece ∈ second, piece ≠ [] ∧ sep ∉ piece) :
    [sep].intercalate first = [sep].intercalate second ↔ first = second := by
  have hsplit : ∀ pieces : List (List Char), (∀ piece ∈ pieces, piece ≠ [] ∧ sep ∉ piece) →
      (splitOn sep ([sep].intercalate pieces)).filter (!·.isEmpty) = pieces := by
    intro pieces hpieces
    have hfull : pieces.filter (!·.isEmpty) = pieces := by
      rw [List.filter_eq_self]
      intro piece hpiece
      simpa using (hpieces piece hpiece).1
    by_cases hnone : pieces = []
    · subst hnone
      rfl
    · rw [splitOn_intercalate hnone (fun piece hpiece => (hpieces piece hpiece).2), hfull]
  constructor
  · intro htexts
    rw [← hsplit first hfirst, htexts, hsplit second hsecond]
  · exact congrArg _

/-- The words of a name are read back from the constant, in capitals. -/
theorem Naming.constantName_eq_iff {s t : String} : constantName s = constantName t
    ↔ (Chars.words s.toList).map Chars.upper = (Chars.words t.toList).map Chars.upper := by
  have hpieces : ∀ u : String, ∀ piece ∈ (Chars.words u.toList).map Chars.upper,
      piece ≠ [] ∧ '_' ∉ piece := by
    intro u piece hpiece
    obtain ⟨word, hword, rfl⟩ := List.mem_map.1 hpiece
    refine ⟨fun hempty => Chars.ne_nil_of_mem_words hword (Chars.upper_eq_nil_iff.1 hempty),
      Chars.underscore_notMem_upper fun hunderscore => ?_⟩
    exact absurd (Chars.isAlphanumeric_of_mem_words hword _ hunderscore) (by decide)
  rw [constantName, constantName, String.ofList_inj, Chars.intercalate_inj (hpieces s) (hpieces t)]

end SchemaForge
