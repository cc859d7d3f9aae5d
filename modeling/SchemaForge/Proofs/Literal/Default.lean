import SchemaForge.Literal.Default
import SchemaForge.Proofs.Literal.Quoted
import SchemaForge.Proofs.Text.Ascii
import SchemaForge.Proofs.Text.Blank

namespace SchemaForge

/-! # Defaults that are written twice

The expression that is made of a default is one that its rule leaves as it is. It is neither trimmed
nor taken for `NULL` when it is declared as a default itself, but for the `null` of a type without
literals, which is written again. Since the declared type alone chooses the rule, writing a default
once more changes nothing.
-/

namespace Literal

/-! ## Declared defaults -/

/-- The default that a text declares is left as it is when it has no blanks at its ends and is not
`NULL`. -/
theorem declared_eq_self {s : String} (htrim : Text.trim s = s)
    (hnull : Text.sameName s "null" = false) : declared s = s := by
  rw [declared, htrim, hnull]
  rfl

theorem trim_declared (s : String) : Text.trim (declared s) = declared s := by
  unfold declared
  split
  · decide
  · exact Text.trim_trim s

theorem declared_declared (s : String) : declared (declared s) = declared s := by
  apply declared_eq_self (trim_declared s)
  unfold declared
  split
  · decide
  · next h => exact Bool.eq_false_iff.2 h

/-- A text that does not end with an `l` is not `NULL`. -/
theorem sameName_null_of_getLast? {s : String} {last : Char}
    (hlast : s.toList.getLast? = some last) (h : Chars.lowerAscii last ≠ 'l') :
    Text.sameName s "null" = false := by
  rw [Bool.eq_false_iff]
  intro hsame
  have hends := Text.getLast?_of_sameName hsame
  rw [hlast] at hends
  exact h (Option.some_inj.1 hends)

/-- A text between two characters that are no blanks is a default when it does not end like
`NULL`. -/
theorem declared_of_ends {s : String} (first last : Char) (hfirst : s.toList.head? = some first)
    (hlast : s.toList.getLast? = some last) (hspace : Chars.isSpace first = false)
    (hspaceEnd : Chars.isSpace last = false) (hnull : Chars.lowerAscii last ≠ 'l') :
    declared s = s :=
  declared_eq_self (Text.trim_eq_self hfirst hlast hspace hspaceEnd)
    (sameName_null_of_getLast? hlast hnull)

/-- A default with a suffix has no blanks at its ends. -/
theorem trim_append {s suffix : String} (last : Char) (hs : declared s = s) (hne : s ≠ "")
    (hlast : suffix.toList.getLast? = some last) (hspace : Chars.isSpace last = false) :
    Text.trim (s ++ suffix) = s ++ suffix := by
  have hchars : s.toList ≠ [] := by simpa using hne
  have hfirst := List.head?_eq_some_head hchars
  have htrim : Text.trim s = s := by rw [← hs, trim_declared]
  have hfirstAll : (s ++ suffix).toList.head? = some (s.toList.head hchars) := by
    rw [String.toList_append, List.head?_append, hfirst, Option.some_or]
  have hspaceFirst := (Text.trim_eq_self_iff.1 htrim).1 _ hfirst
  exact Text.trim_eq_self hfirstAll (Text.getLast?_append s hlast) hspaceFirst hspace

/-- A default with a suffix is one again, if that does not end like `NULL`. -/
theorem declared_append {s suffix : String} (last : Char) (hs : declared s = s) (hne : s ≠ "")
    (hlast : suffix.toList.getLast? = some last) (hspace : Chars.isSpace last = false)
    (hnull : Chars.lowerAscii last ≠ 'l') : declared (s ++ suffix) = s ++ suffix :=
  declared_eq_self (trim_append last hs hne hlast hspace)
    (sameName_null_of_getLast? (Text.getLast?_append s hlast) hnull)

theorem declared_withSuffix {s suffix : String} {endings : List Char} (last : Char)
    (hs : declared s = s) (hne : s ≠ "") (hlast : suffix.toList.getLast? = some last)
    (hspace : Chars.isSpace last = false) (hnull : Chars.lowerAscii last ≠ 'l') :
    declared (withSuffix suffix endings s) = withSuffix suffix endings s := by
  unfold withSuffix
  split
  · exact hs
  · exact declared_append last hs hne hlast hspace hnull

/-- The suffix of a long number makes no `NULL`, as it is not added behind an `l`. -/
theorem sameName_append_long {s : String} (h : ¬ ['l', 'L'].any (Text.endsWithChar · s)) :
    Text.sameName (s ++ "L") "null" = false := by
  rw [Bool.eq_false_iff]
  intro hsame
  have hlower : Text.lowerAscii s ++ "l" = Text.lowerAscii "nul" ++ "l" := by
    rw [Text.sameName_iff, Text.lowerAscii_append] at hsame
    exact hsame
  have hends := Text.getLast?_of_sameName (Text.sameName_iff.2 ((String.append_left_inj _).1 hlower))
  have hlastNul : "nul".toList.getLast?.map Chars.lowerAscii = some 'l' := by decide
  rw [hlastNul] at hends
  rcases Option.map_eq_some_iff.1 hends with ⟨c, hlast, hc⟩
  have hletter : c = 'l' ∨ c = 'L' := by
    rw [← Char.toNat_inj, Chars.toNat_lowerAscii] at hc
    rw [← Char.toNat_inj, ← Char.toNat_inj]
    have hl : 'l'.toNat = 108 := rfl
    have hL : 'L'.toNat = 76 := rfl
    split at hc <;> omega
  apply h
  rw [List.any_eq_true]
  rcases hletter with rfl | rfl
  · exact ⟨'l', by simp, by simp [Text.endsWithChar, hlast]⟩
  · exact ⟨'L', by simp, by simp [Text.endsWithChar, hlast]⟩

theorem declared_orElse {other s : String} (hother : declared other = other)
    (hs : declared s = s) : declared (orElse other s) = orElse other s := by
  unfold orElse
  split
  · exact hother
  · exact hs

/-! ## Expressions that are left as they are -/

/-- Holds for an expression that a rule takes for one of its own. -/
def Rule.Accepts (l : Language) (s : String) : Rule → Prop
  | text => isQuoted '"' s
  | integral => s ≠ ""
  | long => s ≠ "" ∧ ['l', 'L'].any (Text.endsWithChar · s)
  | float => s ≠ "" ∧ ['f', 'F'].any (Text.endsWithChar · s)
  | double => s ≠ "" ∧ (s.toList.any ['.', 'e', 'E'].contains
      ∨ ['f', 'F', 'd', 'D'].any (Text.endsWithChar · s))
  | boolean => s = "true" ∨ s = "false"
      ∨ ¬ (s = "1" ∨ Text.sameName s "true") ∧ ¬ (s = "0" ∨ s = "" ∨ Text.sameName s "false")
  | character => s ≠ "" ∧ isQuoted '\'' s
  | date => s ≠ "" ∧ Text.sameName s "now" = false
  | number name =>
    match l with
    | .kotlin => Text.beginsWith ("java.math." ++ name) s || Text.beginsWith (name ++ "(") s
    | .java => Text.beginsWith "new " s
  | bytes => s ≠ ""

/-- What a rule accepts it leaves as it is. -/
theorem Rule.write_of_accepts {l : Language} {s : String} {rule : Rule} (h : rule.Accepts l s) :
    rule.write l s = s := by
  cases rule with
  | text => exact if_pos h
  | integral => exact if_neg h
  | long => rw [write, if_neg h.1, withSuffix, if_pos h.2]
  | float => rw [write, if_neg h.1, withSuffix, if_pos h.2]
  | double =>
    rw [write, if_neg h.1, Literal.double, withSuffix]
    rcases h.2 with hpoint | hend
    · exact if_pos hpoint
    · rw [if_pos hend, ite_self]
  | boolean =>
    rcases h with rfl | rfl | ⟨htrue, hfalse⟩
    · rfl
    · rfl
    · rw [write, truth, if_neg htrue, if_neg hfalse]
  | character => rw [write, if_neg h.1, Literal.character, if_pos h.2]
  | date => simp [write, h.2, orElse, h.1]
  | number name =>
    cases l with
    | kotlin => exact if_pos h
    | java => exact if_pos h
  | bytes => cases l <;> exact if_neg h

theorem orElse_ne_empty {other s : String} (h : other ≠ "") : orElse other s ≠ "" := by
  unfold orElse
  split
  · exact h
  · assumption

/-- A number is not empty and ends with a suffix when that has been added to it. -/
theorem suffixed {suffix s : String} {endings : List Char} (last : Char) (hne : s ≠ "")
    (hsuffix : suffix.toList.getLast? = some last) (hlast : last ∈ endings) :
    withSuffix suffix endings s ≠ ""
      ∧ endings.any (Text.endsWithChar · (withSuffix suffix endings s)) := by
  unfold withSuffix
  split
  · exact ⟨hne, by assumption⟩
  · refine ⟨by simp [hne], List.any_eq_true.2 ⟨last, hlast, ?_⟩⟩
    simp [Text.endsWithChar, List.getLast?_append, hsuffix]

/-- A number is not empty and has a point, or ends as one without. -/
theorem double_pointed {s : String} (hne : s ≠ "") :
    Literal.double s ≠ "" ∧ ((Literal.double s).toList.any ['.', 'e', 'E'].contains
      ∨ ['f', 'F', 'd', 'D'].any (Text.endsWithChar · (Literal.double s))) := by
  unfold Literal.double
  split
  · exact ⟨hne, .inl (by assumption)⟩
  · unfold withSuffix
    split
    · exact ⟨hne, .inr (by assumption)⟩
    · exact ⟨by simp [hne], .inl (by simp)⟩

theorem beginsWith_append (start s : String) : Text.beginsWith start (start ++ s) := by
  simp [Text.beginsWith]

theorem character_ne_empty {s : String} (hne : s ≠ "") : Literal.character s ≠ "" := by
  unfold Literal.character
  split
  · exact hne
  · simp

/-- What a rule writes it accepts. -/
theorem Rule.accepts_write (l : Language) (s : String) (rule : Rule) :
    rule.Accepts l (rule.write l s) := by
  cases rule with
  | text =>
    rw [write]
    split
    · assumption
    · exact isQuoted_quote l s
  | integral => exact orElse_ne_empty (by decide)
  | long =>
    rw [write]
    split
    · exact ⟨by decide, by decide⟩
    · next hs => exact suffixed 'L' hs rfl (by decide)
  | float =>
    rw [write]
    split
    · exact ⟨by decide, by decide⟩
    · next hs => exact suffixed 'f' hs rfl (by decide)
  | double =>
    rw [write]
    split
    · exact ⟨by decide, .inl (by decide)⟩
    · next hs => exact double_pointed hs
  | boolean =>
    rw [write, truth]
    split
    · exact .inl rfl
    · split
      · exact .inr (.inl rfl)
      · exact .inr (.inr ⟨by assumption, by assumption⟩)
  | character =>
    rw [write]
    split
    · exact ⟨by decide, by decide⟩
    · next hs => exact ⟨character_ne_empty hs, isQuoted_character s⟩
  | date =>
    simp only [write]
    split
    · cases l <;> exact ⟨by decide, by decide⟩
    · next hnow =>
      refine ⟨orElse_ne_empty (by decide), ?_⟩
      unfold orElse
      split
      · decide
      · exact Bool.eq_false_iff.2 hnow
  | number name =>
    cases l with
    | kotlin =>
      rw [write, bigNumber]
      split
      · assumption
      · rw [String.append_assoc, String.append_assoc]
        exact Bool.or_eq_true_iff.2 (.inl (beginsWith_append _ _))
    | java =>
      rw [write, bigNumber]
      split
      · assumption
      · rw [String.append_assoc, String.append_assoc, String.append_assoc]
        exact beginsWith_append _ _
  | bytes => cases l <;> exact orElse_ne_empty (by decide)

/-! ## Writing again -/

/-- The expression of a default is a default itself, unless it is the `null` of a date. -/
theorem Rule.declared_write {l : Language} {s : String} (hs : declared s = s) (rule : Rule) :
    declared (rule.write l s) = rule.write l s ∨ (rule = .date ∧ s = "") := by
  by_cases hdate : rule = .date ∧ s = ""
  · exact .inr hdate
  left
  cases rule with
  | text =>
    rw [write]
    split
    · exact hs
    · exact declared_of_ends '"' '"' (by simp [toList_quote]) (Text.getLast?_append _ rfl)
        (by decide) (by decide) (by decide)
  | integral => exact declared_orElse (by decide) hs
  | long =>
    rw [write]
    split
    · decide
    · next hne =>
      unfold withSuffix
      split
      · exact hs
      -- the suffix ends like `NULL`, so what is before it has to tell them apart
      · next hend =>
        exact declared_eq_self (trim_append 'L' hs hne rfl (by decide))
          (sameName_append_long hend)
  | float =>
    rw [write]
    split
    · decide
    · next hne => exact declared_withSuffix 'f' hs hne rfl (by decide) (by decide)
  | double =>
    rw [write]
    split
    · decide
    · next hne =>
      unfold Literal.double
      split
      · exact hs
      · exact declared_withSuffix '0' hs hne rfl (by decide) (by decide)
  | boolean =>
    rw [write, truth]
    split
    · decide
    · split
      · decide
      · exact hs
  | character =>
    rw [write]
    split
    · decide
    · unfold Literal.character
      split
      · exact hs
      · exact declared_of_ends '\'' '\'' (by simp) (Text.getLast?_append _ rfl)
          (by decide) (by decide) (by decide)
  | date =>
    have hne : s ≠ "" := fun h => hdate ⟨rfl, h⟩
    simp only [write, orElse, if_neg hne]
    split
    · cases l <;> decide
    · exact hs
  | number name =>
    cases l with
    | kotlin =>
      rw [write, bigNumber]
      split
      · exact hs
      · exact declared_of_ends 'j' ')' (by simp) (Text.getLast?_append _ rfl)
          (by decide) (by decide) (by decide)
    | java =>
      rw [write, bigNumber]
      split
      · exact hs
      · exact declared_of_ends 'n' ')' (by simp) (Text.getLast?_append _ rfl)
          (by decide) (by decide) (by decide)
  | bytes => cases l <;> exact declared_orElse (by decide) hs

theorem Rule.write_declared_write {l : Language} {s : String} (hs : declared s = s) (rule : Rule) :
    rule.write l (declared (rule.write l s)) = rule.write l s := by
  rcases rule.declared_write (l := l) hs with hsame | ⟨rfl, rfl⟩
  · rw [hsame, write_of_accepts (rule.accepts_write l s)]
  -- the `null` of a date is no default, and is written again for there being none
  · cases l <;> decide

/-- A default that was written for a declared Kotlin type, known or not, is left as it is when it is
written for the same type once more. -/
theorem ofDefault_kotlin_ofDefault (type s : String) :
    ofDefault .kotlin type (ofDefault .kotlin type s) = ofDefault .kotlin type s := by
  unfold ofDefault
  cases rule? .kotlin type with
  | some rule => exact rule.write_declared_write (declared_declared s)
  | none =>
    by_cases hs : declared s = ""
    · rw [hs]
      decide
    · simp only [orElse, if_neg hs, declared_declared]

/-- Without a rule, the `null` that stands for a missing default is none itself and is written
again. -/
theorem orElse_null_declared (s : String) :
    orElse "null" (declared (orElse "null" (declared s))) = orElse "null" (declared s) := by
  by_cases hs : declared s = ""
  · rw [hs]
    decide
  · have hsame : orElse "null" (declared s) = declared s := if_neg hs
    rw [hsame, declared_declared, hsame]

/-- A default that was written for a declared Java type is an expression that the rule for the type
accepts, if there is one, and with or without a rule it is left as it is when it is written for the
same type once more. -/
theorem ofDefault_java_ofDefault (type s : String) :
    (∀ rule ∈ rule? .java type, rule.Accepts .java (ofDefault .java type s))
      ∧ ofDefault .java type (ofDefault .java type s) = ofDefault .java type s := by
  cases hrule : rule? .java type with
  | some rule =>
    have hwrite : ∀ t, ofDefault .java type t = rule.write .java (declared t) := by
      intro t
      rw [ofDefault, hrule]
    refine ⟨?_, ?_⟩
    · intro found hfound
      cases hfound
      rw [hwrite]
      exact rule.accepts_write .java (declared s)
    · rw [hwrite, hwrite]
      exact rule.write_declared_write (declared_declared s)
  | none =>
    have hother : ∀ t, ofDefault .java type t = orElse "null" (declared t) := by
      intro t
      rw [ofDefault, hrule]
    refine ⟨?_, ?_⟩
    · intro found hfound
      cases hfound
    · rw [hother, hother]
      exact orElse_null_declared s

/-! ## Null -/

theorem declared_ne_null (s : String) : declared s ≠ "null" := by
  intro h
  have htwice := declared_declared s
  rw [h] at htwice
  exact absurd htwice (by decide)

/-- A rule writes `null` only for a date without a default. -/
theorem Rule.write_eq_null_iff {l : Language} {s : String} {rule : Rule} (hs : declared s = s) :
    rule.write l s = "null" ↔ rule = .date ∧ s = "" := by
  constructor
  · intro hnull
    refine (rule.declared_write (l := l) hs).resolve_left ?_
    rw [hnull]
    decide
  · rintro ⟨rfl, rfl⟩
    cases l <;> decide

/-- A property starts with null when it has no default and its type has no literals, or those of
dates. -/
theorem ofDefault_eq_null_iff {l : Language} {type s : String} :
    ofDefault l type s = "null" ↔
      declared s = "" ∧ ∀ rule, rule? l type = some rule → rule = .date := by
  unfold ofDefault
  cases rule? l type with
  | some rule => simp [Rule.write_eq_null_iff (declared_declared s), and_comm]
  | none =>
    by_cases hs : declared s = ""
    · simp [orElse, hs]
    · simp [orElse, hs, declared_ne_null s]

end Literal

end SchemaForge
