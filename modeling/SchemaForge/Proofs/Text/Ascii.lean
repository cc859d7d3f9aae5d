import Mathlib.Data.List.Forall2
import SchemaForge.Text.Ascii

namespace SchemaForge

/-! # Letter case of ASCII names

Keywords are looked up in capitals and names are compared in small letters. Both come to the same:
two texts have the same capitals exactly when they have the same small letters. That is when they
agree letter by letter, where a letter of ASCII agrees with its other form and every other character
with itself only.
-/

namespace Chars

theorem toNat_lowerAscii (c : Char) :
    (lowerAscii c).toNat = if 65 ≤ c.toNat ∧ c.toNat ≤ 90 then c.toNat + 32 else c.toNat := by
  have hcapital : 'A' ≤ c ∧ c ≤ 'Z' ↔ 65 ≤ c.toNat ∧ c.toNat ≤ 90 := Iff.rfl
  simp only [lowerAscii, hcapital]
  split
  · next h =>
    have hvalid : (c.toNat + 32).isValidChar := .inl (by omega)
    rw [Char.ofNat, dif_pos hvalid]
    rfl
  · rfl

theorem toNat_upperAscii (c : Char) :
    (upperAscii c).toNat = if 97 ≤ c.toNat ∧ c.toNat ≤ 122 then c.toNat - 32 else c.toNat := by
  have hsmall : 'a' ≤ c ∧ c ≤ 'z' ↔ 97 ≤ c.toNat ∧ c.toNat ≤ 122 := Iff.rfl
  simp only [upperAscii, hsmall]
  split
  · next h =>
    have hvalid : (c.toNat - 32).isValidChar := .inl (by omega)
    rw [Char.ofNat, dif_pos hvalid]
    rfl
  · rfl

theorem lowerAscii_upperAscii (c : Char) : lowerAscii (upperAscii c) = lowerAscii c := by
  rw [← Char.toNat_inj, toNat_lowerAscii, toNat_lowerAscii, toNat_upperAscii]
  grind

theorem upperAscii_lowerAscii (c : Char) : upperAscii (lowerAscii c) = upperAscii c := by
  rw [← Char.toNat_inj, toNat_upperAscii, toNat_upperAscii, toNat_lowerAscii]
  grind

/-- Two characters are the same, or one is a capital of ASCII and the other its small letter. -/
inductive SameLetter : Char → Char → Prop
  | same (c : Char) : SameLetter c c
  | small {c d : Char} (capital : c.isUpper) (next : d.toNat = c.toNat + 32) : SameLetter c d
  | capital {c d : Char} (capital : d.isUpper) (next : c.toNat = d.toNat + 32) : SameLetter c d

theorem lowerAscii_eq_iff {c d : Char} : lowerAscii c = lowerAscii d ↔ SameLetter c d := by
  have hupper : ∀ x : Char, x.isUpper = true ↔ 65 ≤ x.toNat ∧ x.toNat ≤ 90 := by
    intro x
    have hdecide : x.isUpper = decide (65 ≤ x.toNat ∧ x.toNat ≤ 90) := rfl
    rw [hdecide, decide_eq_true_iff]
  rw [← Char.toNat_inj, toNat_lowerAscii, toNat_lowerAscii]
  constructor
  · intro h
    by_cases hsame : c.toNat = d.toNat
    · rw [Char.toNat_inj] at hsame
      subst hsame
      exact .same c
    · by_cases hc : 65 ≤ c.toNat ∧ c.toNat ≤ 90
      · exact .small ((hupper c).2 hc) (by grind)
      · exact .capital ((hupper d).2 (by grind)) (by grind)
  · intro h
    cases h with
    | same => rfl
    | small capital next =>
      have hc := (hupper c).1 capital
      rw [if_pos hc, if_neg (by omega), next]
    | capital capital next =>
      have hd := (hupper d).1 capital
      rw [if_neg (by omega), if_pos hd, next]

end Chars

namespace Text

theorem lowerAscii_upperAscii (s : String) : lowerAscii (upperAscii s) = lowerAscii s := by
  simp only [lowerAscii, upperAscii, String.toList_ofList, List.map_map, Function.comp_def,
    Chars.lowerAscii_upperAscii]

theorem upperAscii_lowerAscii (s : String) : upperAscii (lowerAscii s) = upperAscii s := by
  simp only [lowerAscii, upperAscii, String.toList_ofList, List.map_map, Function.comp_def,
    Chars.upperAscii_lowerAscii]

/-- Texts are the same name when they have the same capitals. -/
theorem sameName_iff_upperAscii {s t : String} :
    sameName s t = true ↔ upperAscii s = upperAscii t := by
  rw [sameName_iff]
  constructor
  · intro h
    rw [← upperAscii_lowerAscii s, h, upperAscii_lowerAscii]
  · intro h
    rw [← lowerAscii_upperAscii s, h, lowerAscii_upperAscii]

/-- Texts are the same name when they agree letter by letter. -/
theorem sameName_iff_forall₂ {s t : String} :
    sameName s t = true ↔ List.Forall₂ Chars.SameLetter s.toList t.toList := by
  rw [sameName_iff, lowerAscii, lowerAscii, String.ofList_inj, ← List.forall₂_eq_eq_eq,
    List.forall₂_map_left_iff, List.forall₂_map_right_iff]
  simp only [Chars.lowerAscii_eq_iff]

theorem lowerAscii_append (s t : String) : lowerAscii (s ++ t) = lowerAscii s ++ lowerAscii t := by
  rw [lowerAscii, String.toList_append, List.map_append, String.ofList_append]
  rfl

/-- A text in small letters is put together of two when the text itself is. -/
theorem lowerAscii_eq_append_iff {s first second : String} :
    lowerAscii s = first ++ second ↔
      ∃ start rest, s = start ++ rest ∧ lowerAscii start = first ∧ lowerAscii rest = second := by
  constructor
  · intro h
    rw [lowerAscii, ← String.toList_inj, String.toList_ofList, String.toList_append] at h
    obtain ⟨start, rest, hsplit, hstart, hrest⟩ := List.map_eq_append_iff.1 h
    refine ⟨String.ofList start, String.ofList rest, ?_, ?_, ?_⟩
    · rw [← String.ofList_append, ← hsplit, String.ofList_toList]
    · rw [lowerAscii, String.toList_ofList, hstart, String.ofList_toList]
    · rw [lowerAscii, String.toList_ofList, hrest, String.ofList_toList]
  · rintro ⟨start, rest, rfl, rfl, rfl⟩
    exact lowerAscii_append start rest

theorem lowerAscii_eq_empty_iff {s : String} : lowerAscii s = "" ↔ s = "" := by
  simp [lowerAscii]

/-- Texts that are the same name end with the same letter. -/
theorem getLast?_of_sameName {s t : String} (h : sameName s t = true) :
    s.toList.getLast?.map Chars.lowerAscii = t.toList.getLast?.map Chars.lowerAscii := by
  rw [sameName_iff, lowerAscii, lowerAscii, String.ofList_inj] at h
  rw [← List.getLast?_map, h, List.getLast?_map]

end Text

end SchemaForge
