import SchemaForge.Android.Conversion
import SchemaForge.Proofs.Android.Marks
import SchemaForge.Proofs.Android.Resolution

namespace SchemaForge

/-! # Which columns can be written and read

The value of a column is stored in content values and bound to a statement, and it is read out of
content values and out of a cursor. Each of these conversions leaves a mark where no rule covers the
type of the column. The two that write have rules for the same columns, and so have the two that
read, but numbers of any size are written by rules and read by none.
-/

/-- What is read has no marks but those of the value and of the test for it. -/
theorem Reading.unmarked_render {l : Language} {r : Reading} (hvalue : Unmarked r.value)
    (htest : ∀ test, r.test? = some test → Unmarked test) : Unmarked (r.render l) := by
  unfold render
  split
  · exact hvalue
  · next test hsome =>
    have hstart : Unmarked ("if (" ++ test) := (htest test hsome).append_left (by decide)
    exact (Unmarked.apart hstart hvalue (by decide)).append_right (by decide)
  · next test hsome =>
    exact (Unmarked.apart (htest test hsome) hvalue (by decide)).append_right (by decide)

/-! ## Dates -/

namespace DateLibrary

variable {d : DateLibrary} {type : ColumnType} {s : String}

theorem notMem_formatter (d : DateLibrary) : '[' ∉ d.formatter.toList := by
  cases d <;> decide

theorem notMem_word (d : DateLibrary) (type : ColumnType) : '[' ∉ (d.word type).toList := by
  unfold word
  split
  · decide
  · decide
  · split <;> decide

theorem notMem_lowerName (d : DateLibrary) (type : ColumnType) :
    '[' ∉ (d.lowerName type).toList := by
  unfold lowerName
  split
  · decide
  · decide
  · split <;> decide

theorem unmarked_store? {value : String} (h : d.store? type s = some value) (hs : Unmarked s) :
    Unmarked value := by
  unfold store? at h
  split at h
  · cases h
    refine (hs.append_left ?_).append_right (by decide)
    have hending : '[' ∉ (if type = .timestamp then "ToLong" else "ToDBString").toList := by
      split <;> decide
    simp [notMem_formatter, notMem_lowerName, hending]
  · cases h

theorem unmarked_ofText {value : String} (h : d.ofText type s = some value) (hs : Unmarked s) :
    Unmarked value := by
  unfold ofText at h
  split at h
  · cases h
    refine (hs.append_left ?_).append_right (by decide)
    simp [notMem_formatter, notMem_word]
  · cases h

theorem unmarked_ofLong (l : Language) (hs : Unmarked s) : Unmarked (d.ofLong l s) := by
  unfold ofLong
  split
  · exact (hs.append_left (by decide)).append_right (by decide)
  · exact (hs.append_left (by decide)).append_right (by decide)
  · refine (hs.append_left ?_).append_right (by decide)
    simp [notMem_formatter, notMem_word]
  · refine (hs.append_left ?_).append_right (by decide)
    simp [notMem_formatter, notMem_word]

/-- What is read of a date has no marks but those of the expressions that it is read from. -/
theorem unmarked_read? {l : Language} {f : Field} {long test text : String} {reading : Reading}
    (h : d.read? l f long test text = some reading) (hlong : Unmarked long)
    (htest : Unmarked test) (htext : Unmarked text) : Unmarked (reading.render l) := by
  unfold read? at h
  split at h
  · cases h
    refine Reading.unmarked_render (unmarked_ofLong l hlong) fun t ht => ?_
    split at ht <;> cases ht
    exact htest
  · obtain ⟨value, hvalue, rfl⟩ := Option.map_eq_some_iff.1 h
    have hunmarked : Unmarked value := unmarked_ofText hvalue htext
    refine Reading.unmarked_render ?_ (by simp)
    dsimp only
    split
    · exact hunmarked.append_right (by decide)
    · exact hunmarked

end DateLibrary

/-! ## Plain values -/

/-- The methods that convert a value have no brackets in their names. -/
theorem ColumnType.notMem_of_storing? {l : Language} {type : ColumnType} {method : String}
    (h : type.storing? l = some (.call method)) : ']' ∉ method.toList := by
  unfold storing? at h
  cases l <;> cases type <;> cases h <;> decide

namespace Storing

variable {l : Language} {type : ColumnType} {storing : Storing} {operand : String}

theorem unmarked_write (h : type.storing? l = some storing) (hs : Unmarked operand) :
    Unmarked (storing.write l operand) := by
  cases storing with
  | asIs => exact hs
  | truth =>
    cases l with
    | kotlin => exact (hs.append_left (by decide)).append_right (by decide)
    | java => exact hs.append_right (by decide)
  | call method =>
    have hmethod := ColumnType.notMem_of_storing? h
    exact ((hs.append_right (by decide)).append_right hmethod).append_right (by decide)
  | textOf => exact (hs.append_left (by decide)).append_right (by decide)

theorem unmarked_writeSafe (h : type.storing? l = some storing) (hs : Unmarked operand) :
    Unmarked (storing.writeSafe operand) := by
  cases storing with
  | asIs => exact hs
  | truth => exact hs.append_right (by decide)
  | call method =>
    have hmethod := ColumnType.notMem_of_storing? h
    exact ((hs.append_right (by decide)).append_right hmethod).append_right (by decide)
  | textOf => exact hs

end Storing

/-! ## Columns -/

/-- A value that may be null is bound by code without marks when variable and value have none. -/
theorem Binding.unmarked_nullable {name method value : String} (hname : Unmarked name)
    (hvalue : Unmarked value) (hmethod : '[' ∉ method.toList) (l : Language) (index : Nat) :
    Unmarked ((Binding.nullable name method index value).render l) := by
  have hcall := BindCall.unmarked_render hvalue hmethod l index
  have hstart : Unmarked ("if (" ++ name) := hname.append_left (by decide)
  exact (((Unmarked.apart hstart hcall (by decide)).append_right (by decide)).append_right
    (BindCall.notMem_render_null l index)).append_right (by decide)

namespace Column

/-- No name in the conversions of a column has a mark: neither its constant nor its variable, nor
class and first literal of its enumeration. -/
structure NamesUnmarked (constant : String) (c : Column) : Prop where
  constant : Unmarked constant
  variableName : Unmarked c.variableName
  className : ∀ ref, c.enumRef? = some ref → Unmarked ref.className
  literal : ∀ ref literal, c.content = .enumeration ref (some literal) → Unmarked literal

variable {l : Language} {c : Column} {constant : String}

theorem NamesUnmarked.knownValue (hnames : c.NamesUnmarked constant) {value : String}
    (h : c.knownValue? l = some value) : Unmarked value := by
  have hname := hnames.variableName
  unfold knownValue? at h
  split at h
  · cases h
    exact hname.append_right (by decide)
  · cases h
    exact hname.append_right (by decide)
  · obtain ⟨stored, hstored, rfl⟩ := Option.map_eq_some_iff.1 h
    exact (DateLibrary.unmarked_store? hstored hname).append_right (by decide)
  · exact DateLibrary.unmarked_store? h hname
  · obtain ⟨storing, hstoring, rfl⟩ := Option.map_eq_some_iff.1 h
    apply Storing.unmarked_write hstoring
    split
    · exact hname.append_right (by decide)
    · exact hname
  · obtain ⟨storing, hstoring, rfl⟩ := Option.map_eq_some_iff.1 h
    exact Storing.unmarked_write hstoring hname

theorem NamesUnmarked.storedValue (hnames : c.NamesUnmarked constant) {value : String}
    (h : c.storedValue? l = some value) : Unmarked value := by
  have hname := hnames.variableName
  unfold storedValue? at h
  split at h
  · exact DateLibrary.unmarked_store? h hname
  · split at h
    · obtain ⟨storing, hstoring, rfl⟩ := Option.map_eq_some_iff.1 h
      exact Storing.unmarked_writeSafe hstoring hname
    · exact hnames.knownValue h
  · exact hnames.knownValue h
  · obtain ⟨known, hknown, rfl⟩ := Option.map_eq_some_iff.1 h
    have hvalue : Unmarked known := hnames.knownValue hknown
    split
    · refine Reading.unmarked_render hvalue ?_
      rintro test ⟨⟩
      exact hname.append_right (by decide)
    · exact hvalue

/-- A column is stored by code without marks, or by a mark. -/
theorem marked_storedValue_iff (hnames : c.NamesUnmarked constant) :
    Marked (c.storedValue l) ↔ c.storedValue? l = none := by
  unfold Column.storedValue
  cases hvalue : c.storedValue? l with
  | none => simpa using marked_unhandled c.field.type
  | some value =>
    have hunmarked : ¬ Marked value := hnames.storedValue hvalue
    simpa using hunmarked

/-! ### Binding -/

theorem notMem_open_of_bindMethod? {method : String} (h : c.bindMethod? = some method) :
    '[' ∉ method.toList := by
  unfold bindMethod? ColumnType.bindMethod? at h
  split at h
  · cases h
    decide
  · split at h <;> cases h <;> decide

/-- A column is bound by code without marks when it has a method and a value, and by code with a
mark otherwise. -/
theorem marked_binding_iff (hnames : c.NamesUnmarked constant) (index : Nat) :
    Marked ((c.binding l index).render l) ↔ c.bindMethod? = none ∨ c.knownValue? l = none := by
  unfold Column.binding
  cases hmethod : c.bindMethod? with
  | none => simpa [Binding.render] using (marked_unhandled c.field.type).append_right "\n"
  | some method =>
    have hopen := notMem_open_of_bindMethod? hmethod
    cases hvalue : c.knownValue? l with
    | some value =>
      have hunmarked : Unmarked value := hnames.knownValue hvalue
      have hrender : ¬ Marked (Binding.render l (if c.isNullable then
          .nullable c.variableName method index value else .value method index value)) := by
        split
        · exact Binding.unmarked_nullable hnames.variableName hunmarked hopen l index
        · exact BindCall.unmarked_render hunmarked hopen l index
      cases l <;> simpa using hrender
    -- without a value Kotlin binds the mark in its place, and Java leaves nothing but the mark
    | none =>
      have hrender : Marked (Binding.render l (if c.isNullable then
          .nullable c.variableName method index (unhandled c.field.type)
          else .value method index (unhandled c.field.type))) := by
        have hcall := BindCall.marked_render (marked_unhandled c.field.type) l method index
        split
        · exact ((((hcall.append_left _).append_right _).append_right _).append_right _)
        · exact hcall
      cases l with
      | kotlin => simpa using hrender
      | java => simpa [Binding.render] using (marked_unhandled c.field.type).append_right "\n"

/-! ### Reading -/

/-- The first literal of the enumeration has no mark. -/
theorem NamesUnmarked.initial (hnames : c.NamesUnmarked constant) {ref : EnumRef}
    {literal? : Option String} (h : c.content = .enumeration ref literal?) :
    Unmarked (c.initial l) := by
  have hclass : Unmarked ref.className := hnames.className ref (by rw [enumRef?, h])
  cases literal? with
  | some literal =>
    have hinitial : c.initial l = ref.className ++ "." ++ literal := by rw [Column.initial, h]
    rw [hinitial]
    exact Unmarked.apart hclass (hnames.literal ref literal h) (by decide)
  | none =>
    have hinitial : c.initial l = ref.className ++ ".values()" ++ ("[" ++ "0" ++ "]") := by
      rw [Column.initial, h, String.append_assoc]
      rfl
    have hplace : Unmarked ("[" ++ "0" ++ "]") :=
      Unmarked.apart (.of_notMem_close (by decide)) (.of_notMem_open (by decide)) (by decide)
    rw [hinitial]
    exact Unmarked.apart hclass hplace (by decide)

/-- A literal is found by its ordinal without a mark, where none comes about in the brackets around
the ordinal. -/
theorem unmarked_literalAt {className ordinal : String} (hclass : Unmarked className)
    (hordinal : Unmarked ("[" ++ ordinal ++ "]")) (hinitial : Unmarked (c.initial .java)) :
    Unmarked (c.literalAt l className ordinal) := by
  cases l with
  | kotlin =>
    have hall : Unmarked (className ++ ".values()" ++ ("[" ++ ordinal ++ "]")) :=
      Unmarked.apart hclass hordinal (by decide)
    have hopen : ∀ rest, ".values()" ++ ("[" ++ rest) = ".values()[" ++ rest := by
      intro rest
      rw [← String.append_assoc]
      exact congrArg (· ++ rest) rfl
    have hsame : className ++ ".values()" ++ ("[" ++ ordinal ++ "]") =
        className ++ ".values()[" ++ ordinal ++ "]" := by
      simp only [String.append_assoc]
      exact congrArg (className ++ ·) (hopen _)
    rwa [hsame] at hall
  | java =>
    have hvalue : Unmarked ordinal :=
      fun h => hordinal ((h.append_left "[").append_right "]")
    have hstart : Unmarked ("org.dbtools.android.domain.util.EnumUtil.ordinalToEnum(" ++ className
        ++ ".class, " ++ ordinal) :=
      Unmarked.apart (hclass.append_left (by decide)) hvalue (by decide)
    have hall : Unmarked ("org.dbtools.android.domain.util.EnumUtil.ordinalToEnum(" ++ className
        ++ ".class, " ++ ordinal ++ ", " ++ c.initial .java) :=
      Unmarked.apart hstart hinitial (by decide)
    exact hall.append_right (by decide)

theorem unmarked_firstCharacter {text : String} (h : Unmarked text) :
    Unmarked (firstCharacter l text) := by
  cases l with
  | kotlin =>
    have hplace : Unmarked (text ++ "[" ++ "0" ++ "]") :=
      Unmarked.apart (h.append_right (by decide)) (.of_notMem_open (by decide)) (by decide)
    have hsame : firstCharacter .kotlin text = text ++ "[" ++ "0" ++ "]" := by
      simp only [firstCharacter, String.append_assoc]
      rfl
    rwa [hsame]
  | java => exact h.append_right (by decide)

theorem unmarked_plainFromValues {value : String} (h : Unmarked value) :
    Unmarked ((c.plainFromValues l value).render l) := by
  have hsure : Unmarked (value ++ "!!") := h.append_right (by decide)
  unfold plainFromValues
  split
  · exact Reading.unmarked_render (h.append_right (by decide)) (by simp)
  · exact Reading.unmarked_render (unmarked_firstCharacter hsure) (by simp)
  · exact Reading.unmarked_render h (by simp)
  · exact Reading.unmarked_render hsure (by simp)
  · refine Reading.unmarked_render (unmarked_firstCharacter h) ?_
    rintro test ⟨⟩
    exact h.append_right (by decide)
  · exact Reading.unmarked_render (unmarked_firstCharacter h) (by simp)
  · exact Reading.unmarked_render h (by simp)

theorem unmarked_plainFromCursor {value : String} (h : Unmarked value) :
    Unmarked (c.plainFromCursor l value) := by
  unfold plainFromCursor
  split
  · exact h.append_right (by decide)
  · exact h.append_right (by decide)
  · exact h.append_right (by decide)
  · exact unmarked_firstCharacter h
  · exact h

theorem NamesUnmarked.fromValues (hnames : c.NamesUnmarked constant) {reading : Reading}
    (h : c.fromValues? l constant = some reading) : Unmarked (reading.render l) := by
  have hconstant := hnames.constant
  unfold fromValues? at h
  split at h
  · next ref literal? hcontent =>
    cases h
    have hclass : Unmarked ref.className := hnames.className ref (by rw [enumRef?, hcontent])
    refine Reading.unmarked_render (unmarked_literalAt hclass ?_ (hnames.initial hcontent)) (by simp)
    -- the ordinal stands between brackets, but its call keeps the constant apart from them
    cases l with
    | kotlin =>
      have hordinal : Unmarked ("[" ++ ("values.getAsInteger(" ++ constant ++ ")!!") ++ "]") :=
        hconstant.inBrackets (by decide) (by decide)
      have hsame : "values.getAsInteger(" ++ constant ++ ")" ++ "!!" =
          "values.getAsInteger(" ++ constant ++ ")!!" := by
        rw [String.append_assoc]
        rfl
      rwa [← hsame] at hordinal
    | java =>
      have hordinal : Unmarked ("[" ++ ("values.getAsInteger(" ++ constant ++ ")") ++ "]") :=
        hconstant.inBrackets (by decide) (by decide)
      simpa only [String.append_empty] using hordinal
  · have hlong : Unmarked ("values.getAsLong(" ++ constant ++ ")") :=
      (hconstant.append_left (by decide)).append_right (by decide)
    have htext : Unmarked ("values.getAsString(" ++ constant ++ ")") :=
      (hconstant.append_left (by decide)).append_right (by decide)
    exact DateLibrary.unmarked_read? h hlong (hlong.append_right (by decide)) htext
  · obtain ⟨getter, hgetter, rfl⟩ := Option.map_eq_some_iff.1 h
    have hopen : '[' ∉ getter.toList := by
      unfold ColumnType.valuesGetter? at hgetter
      split at hgetter <;> cases hgetter <;> decide
    have hvalue : Unmarked ("values." ++ getter ++ "(" ++ constant ++ ")") := by
      refine (hconstant.append_left ?_).append_right (by decide)
      simp [hopen]
    exact unmarked_plainFromValues hvalue

theorem NamesUnmarked.fromCursor (hnames : c.NamesUnmarked constant) {reading : Reading}
    (h : c.fromCursor? l constant = some reading) : Unmarked (reading.render l) := by
  have hindex : Unmarked ("cursor.getColumnIndexOrThrow(" ++ constant ++ ")") :=
    (hnames.constant.append_left (by decide)).append_right (by decide)
  unfold fromCursor? at h
  dsimp only at h
  split at h
  · next ref literal? hcontent =>
    cases h
    have hclass : Unmarked ref.className := hnames.className ref (by rw [enumRef?, hcontent])
    refine Reading.unmarked_render (unmarked_literalAt hclass ?_ (hnames.initial hcontent)) (by simp)
    exact Unmarked.inBrackets hindex (by decide) (by decide)
  · have hlong : Unmarked ("cursor.getLong(" ++ ("cursor.getColumnIndexOrThrow(" ++ constant ++ ")")
        ++ ")") := (hindex.append_left (by decide)).append_right (by decide)
    have htext : Unmarked ("cursor.getString(" ++ ("cursor.getColumnIndexOrThrow(" ++ constant
        ++ ")") ++ ")") := (hindex.append_left (by decide)).append_right (by decide)
    have htest : Unmarked ("!cursor.isNull(" ++ ("cursor.getColumnIndexOrThrow(" ++ constant
        ++ ")") ++ ")") := (hindex.append_left (by decide)).append_right (by decide)
    exact DateLibrary.unmarked_read? h hlong htest htext
  · obtain ⟨getter, hgetter, rfl⟩ := Option.map_eq_some_iff.1 h
    have hopen : '[' ∉ getter.toList := by
      unfold ColumnType.cursorGetter? at hgetter
      split at hgetter <;> cases hgetter <;> decide
    have hvalue : Unmarked ("cursor." ++ getter ++ "(" ++ ("cursor.getColumnIndexOrThrow("
        ++ constant ++ ")") ++ ")") := by
      refine (hindex.append_left ?_).append_right (by decide)
      simp [hopen]
    refine Reading.unmarked_render (unmarked_plainFromCursor hvalue) ?_
    intro test htest
    dsimp only at htest
    split at htest <;> cases htest
    exact (hindex.append_left (by decide)).append_right (by decide)

theorem marked_readText_iff {reading? : Option Reading}
    (h : ∀ reading, reading? = some reading → Unmarked (reading.render l)) :
    Marked (c.readText l reading?) ↔ reading? = none := by
  unfold readText
  cases reading? with
  | none => simpa using marked_unhandled c.field.type
  | some reading =>
    have hunmarked : ¬ Marked (reading.render l) := h reading rfl
    simpa using hunmarked

/-- The code that carries the value of a column: into content values, to a parameter, and out of
content values and a cursor. -/
def conversions (l : Language) (constant : String) (index : Nat) (c : Column) : List String :=
  [c.storedValue l, (c.binding l index).render l, c.fromValues l constant, c.fromCursor l constant]

end Column

/-! ## Rules for types -/

namespace ColumnType

variable {type : ColumnType}

/-- Of the types that are no dates those are bound that are also stored. -/
theorem storing?_eq_none_iff (l : Language) (hdate : type.isDate = false) :
    type.storing? l = none ↔ type.bindMethod? = none := by
  revert hdate
  cases l <;> cases type <;> decide

theorem bindMethod?_ne_none (hdate : type.isDate = true) : type.bindMethod? ≠ none := by
  revert hdate
  cases type <;> decide

/-- Numbers of any size are stored, and apart from them the types that are read are those that are
stored. -/
theorem valuesGetter?_eq_none_iff (l : Language) (hdate : type.isDate = false) :
    type.valuesGetter? = none ↔
      type.storing? l = none ∨ type = .bigDecimal ∨ type = .bigInteger := by
  revert hdate
  cases l <;> cases type <;> decide

theorem cursorGetter?_eq_none_iff : type.cursorGetter? = none ↔ type.valuesGetter? = none := by
  cases type <;> decide

theorem storing?_ne_none (l : Language) (hbig : type = .bigDecimal ∨ type = .bigInteger) :
    type.storing? l ≠ none := by
  rcases hbig with rfl | rfl <;> cases l <;> decide

end ColumnType

namespace DateLibrary

variable {d : DateLibrary}

theorem store?_eq_none_iff {type : ColumnType} {s : String} :
    d.store? type s = none ↔ d.supports type = false := by
  simp [store?]

/-- A date is read where the library has a type for it; it has one for every number. -/
theorem read?_eq_none_iff {l : Language} {f : Field} {long test text : String} :
    d.read? l f long test text = none ↔ d.supports f.type = false := by
  unfold read? ofText
  split
  · next htimestamp => simp [htimestamp, supports]
  · simp

end DateLibrary

/-! ## Rules for columns -/

/-- A number of any size that is no ordinal. -/
def Field.IsBigNumber (f : Field) : Prop :=
  f.isEnumeration = false ∧ (f.type = .bigDecimal ∨ f.type = .bigInteger)

namespace Column

variable {l : Language} {c : Column} {constant : String}

/-- A column is stored when its value is when it is known not to be null. -/
theorem storedValue?_eq_none_iff : c.storedValue? l = none ↔ c.knownValue? l = none := by
  unfold storedValue?
  split
  · next hcontent => simp [knownValue?, hcontent]
  · next hcontent =>
    split
    · simp [knownValue?, hcontent]
    · rfl
  · rfl
  · rw [Option.map_eq_none_iff]

/-- A column is read out of a cursor when it is read out of content values. -/
theorem fromCursor?_eq_none_iff :
    c.fromCursor? l constant = none ↔ c.fromValues? l constant = none := by
  unfold fromCursor? fromValues?
  cases c.content with
  | enumeration ref literal? => simp
  | date library =>
    simp only [DateLibrary.fromCursor?, DateLibrary.fromValues?, DateLibrary.read?_eq_none_iff]
  | plain => simp only [Option.map_eq_none_iff, ColumnType.cursorGetter?_eq_none_iff]

end Column

namespace Scope

variable {s : Scope} {f : Field} {c : Column}

/-- A column without a method that binds it has no value either. -/
theorem knownValue?_eq_none (h : s.column f = .ok c) (l : Language) (hbind : c.bindMethod? = none) :
    c.knownValue? l = none := by
  have hfield : c.field = f := field_of_column h
  rcases content_cases h with ⟨-, ref, literal?, hcontent⟩ | ⟨-, hdate, hcontent⟩ |
    ⟨-, hdate, hcontent⟩
  · simp [Column.bindMethod?, hcontent] at hbind
  · simp only [Column.bindMethod?, hcontent, hfield] at hbind
    exact absurd hbind (ColumnType.bindMethod?_ne_none hdate)
  · simp only [Column.bindMethod?, hcontent, hfield] at hbind
    have hstoring := (ColumnType.storing?_eq_none_iff l hdate).2 hbind
    cases l <;> simp [Column.knownValue?, hcontent, hfield, hstoring]

/-- A column is read when it is stored, unless it is a number of any size. -/
theorem fromValues?_eq_none_iff (h : s.column f = .ok c) (l : Language) (constant : String) :
    c.fromValues? l constant = none ↔ c.knownValue? l = none ∨ f.IsBigNumber := by
  have hfield : c.field = f := field_of_column h
  rcases content_cases h with ⟨henum, ref, literal?, hcontent⟩ | ⟨henum, hdate, hcontent⟩ |
    ⟨henum, hdate, hcontent⟩
  · have hvalue : c.knownValue? l ≠ none := by
      cases l <;> simp [Column.knownValue?, hcontent]
    simp [Column.fromValues?, hcontent, hvalue, Field.IsBigNumber, henum]
  · have hvalue : c.knownValue? l = none ↔ s.options.dates.supports f.type = false := by
      cases l <;> simp [Column.knownValue?, hcontent, hfield, DateLibrary.store?_eq_none_iff]
    have hbig : ¬ f.IsBigNumber := by
      rintro ⟨-, htype | htype⟩ <;> simp [htype, ColumnType.isDate] at hdate
    simp only [Column.fromValues?, hcontent, DateLibrary.fromValues?,
      DateLibrary.read?_eq_none_iff, hfield, hvalue, hbig, or_false]
  · have hvalue : c.knownValue? l = none ↔ f.type.storing? l = none := by
      cases l <;> simp [Column.knownValue?, hcontent, hfield]
    simp only [Column.fromValues?, hcontent, Option.map_eq_none_iff, hfield, hvalue,
      ColumnType.valuesGetter?_eq_none_iff l hdate, Field.IsBigNumber, henum, true_and]

/-- Numbers of any size are stored. -/
theorem knownValue?_ne_none (h : s.column f = .ok c) (l : Language) (hbig : f.IsBigNumber) :
    c.knownValue? l ≠ none := by
  obtain ⟨henum, htype⟩ := hbig
  have hfield : c.field = f := field_of_column h
  have hstoring := ColumnType.storing?_ne_none l htype
  rcases content_cases h with ⟨henum', -⟩ | ⟨-, hdate, -⟩ | ⟨-, -, hcontent⟩
  · rw [henum] at henum'
    cases henum'
  · rcases htype with htype | htype <;> simp [htype, ColumnType.isDate] at hdate
  · cases l <;> simpa [Column.knownValue?, hcontent, hfield] using hstoring

/-- Whatever a field is resolved to, all the code that carries its value has marks or none of it has
any, unless it is a number of any size. Such a number is stored and bound by code without marks, and
both ways to read it are marks. -/
theorem marked_alike_iff (h : s.column f = .ok c) {constant : String}
    (hnames : c.NamesUnmarked constant) (l : Language) (index : Nat) :
    (((∀ text ∈ c.conversions l constant index, Marked text)
        ∨ ∀ text ∈ c.conversions l constant index, ¬ Marked text) ↔ ¬ f.IsBigNumber)
      ∧ (f.IsBigNumber → ¬ Marked (c.storedValue l) ∧ ¬ Marked ((c.binding l index).render l)
        ∧ c.fromValues l constant = unhandled f.type
        ∧ c.fromCursor l constant = unhandled f.type) := by
  have hstored : Marked (c.storedValue l) ↔ c.knownValue? l = none := by
    rw [Column.marked_storedValue_iff hnames, Column.storedValue?_eq_none_iff]
  have hbound : Marked ((c.binding l index).render l) ↔ c.knownValue? l = none := by
    rw [Column.marked_binding_iff hnames, or_iff_right_of_imp (knownValue?_eq_none h l)]
  have hvalues : Marked (c.fromValues l constant) ↔ c.knownValue? l = none ∨ f.IsBigNumber := by
    rw [← fromValues?_eq_none_iff h l constant]
    exact Column.marked_readText_iff fun _ => hnames.fromValues
  have hcursor : Marked (c.fromCursor l constant) ↔ c.knownValue? l = none ∨ f.IsBigNumber := by
    rw [← fromValues?_eq_none_iff h l constant, ← Column.fromCursor?_eq_none_iff]
    exact Column.marked_readText_iff fun _ => hnames.fromCursor
  -- all four depend on whether there is a value to store, and the two that read also on the type
  have hwritten : f.IsBigNumber → ¬ c.knownValue? l = none := knownValue?_ne_none h l
  have hread : f.IsBigNumber → c.fromValues? l constant = none :=
    fun hbig => (fromValues?_eq_none_iff h l constant).2 (.inr hbig)
  constructor
  · simp only [Column.conversions, List.forall_mem_cons, List.not_mem_nil, false_implies,
      implies_true, and_true, hstored, hbound, hvalues, hcursor]
    constructor
    · rintro (⟨hnone, -⟩ | ⟨-, -, hsome, -⟩) hbig
      · exact hwritten hbig hnone
      · exact hsome (.inr hbig)
    · intro hsmall
      by_cases hnone : c.knownValue? l = none
      · exact .inl ⟨hnone, hnone, .inl hnone, .inl hnone⟩
      · have hread : ¬ (c.knownValue? l = none ∨ f.IsBigNumber) := not_or_intro hnone hsmall
        exact .inr ⟨hnone, hnone, hread, hread⟩
  · intro hbig
    have hfield : c.field = f := field_of_column h
    refine ⟨by rw [hstored]; exact hwritten hbig, by rw [hbound]; exact hwritten hbig, ?_, ?_⟩
    · rw [Column.fromValues, hread hbig, Column.readText, hfield]
    · rw [Column.fromCursor, Column.fromCursor?_eq_none_iff.2 (hread hbig), Column.readText, hfield]

/-- The balance of an account. -/
def balanceField : Field :=
  { name := "BALANCE", type := .bigDecimal, notNull := true }

/-- A balance is stored as a number, and not read by any code. -/
theorem marked_apart_balanceField :
    ∃ (s : Scope) (c : Column), s.column balanceField = .ok c
      ∧ c.NamesUnmarked "AccountConst.C_BALANCE"
      ∧ c.storedValue .kotlin = "balance.toDouble()"
      ∧ c.storedValue .java = "balance.doubleValue()"
      ∧ ∀ l index, ¬ Marked ((c.binding l index).render l)
        ∧ c.fromValues l "AccountConst.C_BALANCE" = "[[UNHANDLED FIELD TYPE: BIGDECIMAL]]"
        ∧ c.fromCursor l "AccountConst.C_BALANCE" = "[[UNHANDLED FIELD TYPE: BIGDECIMAL]]" := by
  let s : Scope := ⟨{ package := "org", created := "today" }, { name := "main" },
    { kind := .table, name := "ACCOUNT", fields := [balanceField] }⟩
  let c : Column := ⟨balanceField, .plain⟩
  have hcolumn : s.column balanceField = .ok c := by decide
  have hnames : c.NamesUnmarked "AccountConst.C_BALANCE" :=
    { constant := Unmarked.of_notMem_open (by decide)
      variableName := Unmarked.of_notMem_open (by decide)
      className := by simp [c, Column.enumRef?]
      literal := by simp [c] }
  refine ⟨s, c, hcolumn, hnames, by decide, by decide, fun l index => ?_⟩
  obtain ⟨-, hbig⟩ := marked_alike_iff hcolumn hnames l index
  obtain ⟨-, hbound, hvalues, hcursor⟩ := hbig ⟨rfl, .inl rfl⟩
  exact ⟨hbound, hvalues, hcursor⟩

end Scope

end SchemaForge
