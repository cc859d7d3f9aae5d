import SchemaForge.Proofs.Android.Conversions
import SchemaForge.Text.Alphanumeric

namespace SchemaForge

/-! # Names in generated code

Code that carries the value of a column names the variable that holds it, or the constant under
which it is found. A name stands in a text when nothing next to it would make it part of another
name, and it still does when the text becomes part of another one whose seams are no part of a name
either.
-/

/-! ## Names in texts -/

/-- Holds for the characters that names are made of. -/
def isNameChar (c : Char) : Bool :=
  Chars.isAlphanumeric c || c == '_'

/-- A text behind which a name can begin. -/
def EndsApart (s : String) : Prop :=
  s.toList.getLast?.all (!isNameChar ·)

/-- A text before which a name can end. -/
def BeginsApart (s : String) : Prop :=
  s.toList.head?.all (!isNameChar ·)

instance (s : String) : Decidable (EndsApart s) :=
  inferInstanceAs (Decidable (_ = true))

instance (s : String) : Decidable (BeginsApart s) :=
  inferInstanceAs (Decidable (_ = true))

/-- The name stands in the text, and no part of a name is next to it. -/
def Mentions (name text : String) : Prop :=
  ∃ before after, text = before ++ name ++ after ∧ EndsApart before ∧ BeginsApart after

theorem EndsApart.append {t : String} (h : EndsApart t) (hne : t ≠ "") (s : String) :
    EndsApart (s ++ t) := by
  have hchars : t.toList ≠ [] := mt String.toList_eq_nil_iff.1 hne
  rwa [EndsApart, String.toList_append, List.getLast?_append_of_ne_nil _ hchars]

theorem BeginsApart.append {s : String} (h : BeginsApart s) (hne : s ≠ "") (t : String) :
    BeginsApart (s ++ t) := by
  have hchars : s.toList ≠ [] := mt String.toList_eq_nil_iff.1 hne
  rwa [BeginsApart, String.toList_append, List.head?_append_of_ne_nil _ hchars]

namespace Mentions

variable {name s t : String}

theorem self (name : String) : Mentions name name :=
  ⟨"", "", by simp, by decide, by decide⟩

/-- A name stays where more is put behind it that does not go on with it. -/
theorem append_right (h : Mentions name s) (ht : BeginsApart t) : Mentions name (s ++ t) := by
  obtain ⟨before, after, rfl, hbefore, hafter⟩ := h
  refine ⟨before, after ++ t, by simp only [String.append_assoc], hbefore, ?_⟩
  by_cases hempty : after = ""
  · rwa [hempty, String.empty_append]
  · exact hafter.append hempty t

/-- A name stays whatever is put behind it, with something between them that does not go on with it.
-/
theorem append_between (h : Mentions name s) (ht : BeginsApart t) (hne : t ≠ "") (rest : String) :
    Mentions name (s ++ t ++ rest) := by
  rw [String.append_assoc]
  exact h.append_right (ht.append hne rest)

/-- A name stays where more is put before it that does not lead to it. -/
theorem append_left (h : Mentions name t) (hs : EndsApart s) : Mentions name (s ++ t) := by
  obtain ⟨before, after, rfl, hbefore, hafter⟩ := h
  refine ⟨s ++ before, after, by simp only [String.append_assoc], ?_, hafter⟩
  by_cases hempty : before = ""
  · rwa [hempty, String.append_empty]
  · exact hbefore.append hempty s

/-- What is called with an operand names what that names. -/
theorem called (h : Mentions name s) (function : String) :
    Mentions name (function ++ "(" ++ s ++ ")") := by
  have hopen : EndsApart "(" := by decide
  exact (h.append_left (hopen.append (by decide) _)).append_right (by decide)

/-- A name that is mentioned is part of the text. -/
theorem isInfix (h : Mentions name t) : name.toList <:+: t.toList := by
  obtain ⟨before, after, rfl, -⟩ := h
  exact ⟨before.toList, after.toList, by simp⟩

end Mentions

/-! ## Readings -/

/-- What is read names what its value names. -/
theorem Reading.mentions_render {name : String} {r : Reading} (h : Mentions name r.value)
    (l : Language) : Mentions name (r.render l) := by
  unfold render
  split
  · exact h
  · have hopen : EndsApart ") " := by decide
    exact (h.append_left (hopen.append (by decide) _)).append_right (by decide)
  · have hopen : EndsApart " ? " := by decide
    exact (h.append_left (hopen.append (by decide) _)).append_right (by decide)

namespace DateLibrary

variable {d : DateLibrary} {type : ColumnType} {name : String}

theorem mentions_store? {operand value : String} (h : d.store? type operand = some value)
    (hname : Mentions name operand) : Mentions name value := by
  unfold store? at h
  split at h
  · cases h
    exact hname.called _
  · cases h

theorem mentions_ofText {operand value : String} (h : d.ofText type operand = some value)
    (hname : Mentions name operand) : Mentions name value := by
  unfold ofText at h
  split at h
  · cases h
    exact hname.called _
  · cases h

theorem mentions_ofLong {operand : String} (hname : Mentions name operand) (l : Language) :
    Mentions name (d.ofLong l operand) := by
  unfold ofLong
  split
  · exact (hname.append_left (by decide)).append_right (by decide)
  · exact (hname.append_left (by decide)).append_right (by decide)
  · have hopen : EndsApart "(" := by decide
    exact (hname.append_left (hopen.append (by decide) _)).append_right (by decide)
  · exact hname.called _

/-- A date is read from an expression for its number or from one for its text. -/
theorem mentions_read? {l : Language} {f : Field} {long test text : String} {reading : Reading}
    (h : d.read? l f long test text = some reading) (hlong : Mentions name long)
    (htext : Mentions name text) : Mentions name (reading.render l) := by
  apply Reading.mentions_render
  unfold read? at h
  split at h
  · cases h
    exact mentions_ofLong hlong l
  · obtain ⟨value, hvalue, rfl⟩ := Option.map_eq_some_iff.1 h
    have hmentioned : Mentions name value := mentions_ofText hvalue htext
    dsimp only
    split
    · exact hmentioned.append_right (by decide)
    · exact hmentioned

/-- A copy of a date is made from the variable that holds it. -/
theorem mentions_copy (d : DateLibrary) (variableName : String) (notNull : Bool) :
    Mentions variableName (d.copy variableName notNull) := by
  have hself := Mentions.self variableName
  unfold copy
  split
  · exact hself
  · split
    · exact (hself.append_left (by decide)).append_right (by decide)
    · exact hself.append_right (by decide)

end DateLibrary

namespace Storing

variable {name operand : String}

theorem mentions_write (h : Mentions name operand) (l : Language) (storing : Storing) :
    Mentions name (storing.write l operand) := by
  cases storing with
  | asIs => exact h
  | truth =>
    cases l with
    | kotlin => exact (h.append_left (by decide)).append_right (by decide)
    | java => exact h.append_right (by decide)
  | call method =>
    have hpoint : BeginsApart "." := by decide
    exact (h.append_between hpoint (by decide) method).append_right (by decide)
  | textOf => exact (h.append_left (by decide)).append_right (by decide)

theorem mentions_writeSafe (h : Mentions name operand) (storing : Storing) :
    Mentions name (storing.writeSafe operand) := by
  cases storing with
  | asIs => exact h
  | truth => exact h.append_right (by decide)
  | call method =>
    have hpoint : BeginsApart "?." := by decide
    exact (h.append_between hpoint (by decide) method).append_right (by decide)
  | textOf => exact h

end Storing

/-! ## Columns -/

namespace Column

variable {l : Language} {c : Column} {constant : String}

/-- The value of a column that is known not to be null is made from its variable. -/
theorem mentions_knownValue? {value : String} (h : c.knownValue? l = some value) :
    Mentions c.variableName value := by
  have hself := Mentions.self c.variableName
  unfold knownValue? at h
  split at h
  · cases h
    exact hself.append_right (by decide)
  · cases h
    exact hself.append_right (by decide)
  · obtain ⟨stored, hstored, rfl⟩ := Option.map_eq_some_iff.1 h
    exact (DateLibrary.mentions_store? hstored hself).append_right (by decide)
  · exact DateLibrary.mentions_store? h hself
  · obtain ⟨storing, -, rfl⟩ := Option.map_eq_some_iff.1 h
    apply Storing.mentions_write
    split
    · exact hself.append_right (by decide)
    · exact hself
  · obtain ⟨storing, -, rfl⟩ := Option.map_eq_some_iff.1 h
    exact Storing.mentions_write hself _ storing

/-- What is stored of a column is made from its variable. -/
theorem mentions_storedValue? {value : String} (h : c.storedValue? l = some value) :
    Mentions c.variableName value := by
  have hself := Mentions.self c.variableName
  unfold storedValue? at h
  split at h
  · exact DateLibrary.mentions_store? h hself
  · split at h
    · obtain ⟨storing, -, rfl⟩ := Option.map_eq_some_iff.1 h
      exact Storing.mentions_writeSafe hself storing
    · exact mentions_knownValue? h
  · exact mentions_knownValue? h
  · obtain ⟨known, hknown, rfl⟩ := Option.map_eq_some_iff.1 h
    split
    · exact Reading.mentions_render (mentions_knownValue? hknown) .java
    · exact mentions_knownValue? hknown

/-- The copy of a column is made from its variable. -/
theorem mentions_copied (c : Column) : Mentions c.variableName c.copied := by
  unfold copied
  split
  · exact DateLibrary.mentions_copy _ _ _
  · exact Mentions.self c.variableName

theorem mentions_firstCharacter {text : String} (h : Mentions constant text) (l : Language) :
    Mentions constant (firstCharacter l text) := by
  cases l with
  | kotlin => exact h.append_right (by decide)
  | java => exact h.append_right (by decide)

theorem mentions_literalAt {ordinal : String} (h : Mentions constant ordinal) (className : String) :
    Mentions constant (c.literalAt l className ordinal) := by
  cases l with
  | kotlin =>
    have hopen : EndsApart ".values()[" := by decide
    exact (h.append_left (hopen.append (by decide) _)).append_right (by decide)
  | java =>
    have hopen : EndsApart ".class, " := by decide
    have hcomma : BeginsApart ", " := by decide
    have hstart : Mentions constant ("org.dbtools.android.domain.util.EnumUtil.ordinalToEnum("
        ++ className ++ ".class, " ++ ordinal) := h.append_left (hopen.append (by decide) _)
    exact (hstart.append_between hcomma (by decide) _).append_right (by decide)

theorem mentions_plainFromValues {value : String} (h : Mentions constant value) :
    Mentions constant ((c.plainFromValues l value).render l) := by
  have hsure : Mentions constant (value ++ "!!") := h.append_right (by decide)
  apply Reading.mentions_render
  unfold plainFromValues
  split
  · exact h.append_right (by decide)
  · exact mentions_firstCharacter hsure .kotlin
  · exact h
  · exact hsure
  · exact mentions_firstCharacter h .java
  · exact mentions_firstCharacter h .java
  · exact h

theorem mentions_plainFromCursor {value : String} (h : Mentions constant value) :
    Mentions constant (c.plainFromCursor l value) := by
  unfold plainFromCursor
  split
  · exact h.append_right (by decide)
  · exact h.append_right (by decide)
  · exact h.append_right (by decide)
  · exact mentions_firstCharacter h _
  · exact h

/-- What is read out of content values is found under the constant. -/
theorem mentions_fromValues? {reading : Reading} (h : c.fromValues? l constant = some reading) :
    Mentions constant (reading.render l) := by
  have hself := Mentions.self constant
  unfold fromValues? at h
  split at h
  · cases h
    have hordinal : Mentions constant ("values.getAsInteger(" ++ constant ++ ")") :=
      (hself.append_left (by decide)).append_right (by decide)
    apply Reading.mentions_render
    apply mentions_literalAt
    refine hordinal.append_right ?_
    cases l <;> decide
  · have hlong : Mentions constant ("values.getAsLong(" ++ constant ++ ")") :=
      (hself.append_left (by decide)).append_right (by decide)
    have htext : Mentions constant ("values.getAsString(" ++ constant ++ ")") :=
      (hself.append_left (by decide)).append_right (by decide)
    exact DateLibrary.mentions_read? h hlong htext
  · obtain ⟨getter, -, rfl⟩ := Option.map_eq_some_iff.1 h
    exact mentions_plainFromValues (hself.called _)

/-- What is read out of a cursor is found under the constant. -/
theorem mentions_fromCursor? {reading : Reading} (h : c.fromCursor? l constant = some reading) :
    Mentions constant (reading.render l) := by
  have hindex : Mentions constant ("cursor.getColumnIndexOrThrow(" ++ constant ++ ")") :=
    ((Mentions.self constant).append_left (by decide)).append_right (by decide)
  unfold fromCursor? at h
  dsimp only at h
  split at h
  · cases h
    apply Reading.mentions_render
    apply mentions_literalAt
    exact (hindex.append_left (by decide)).append_right (by decide)
  · have hlong : Mentions constant ("cursor.getLong(" ++ ("cursor.getColumnIndexOrThrow("
        ++ constant ++ ")") ++ ")") := (hindex.append_left (by decide)).append_right (by decide)
    have htext : Mentions constant ("cursor.getString(" ++ ("cursor.getColumnIndexOrThrow("
        ++ constant ++ ")") ++ ")") := (hindex.append_left (by decide)).append_right (by decide)
    exact DateLibrary.mentions_read? h hlong htext
  · obtain ⟨getter, -, rfl⟩ := Option.map_eq_some_iff.1 h
    apply Reading.mentions_render
    exact mentions_plainFromCursor (hindex.called _)

end Column

end SchemaForge
