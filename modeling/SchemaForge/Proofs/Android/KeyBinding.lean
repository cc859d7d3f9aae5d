import SchemaForge.Proofs.Android.Statements

namespace SchemaForge

/-! # What is bound to the key of a row

The statement that updates a row ends with the key of the row, which is bound as a number, by the
variable as it stands. Where the key column is written it is bound like any other column, and then
its type decides on the method and on the conversion of the variable. The two agree for a number
that is bound without a conversion and for no other key.
-/

/-! ## Calls -/

/-- Calls for the same parameter have the same text only when they are the same. -/
theorem BindCall.render_value_eq_iff {l : Language} {method other : String} {index : Nat}
    {value otherValue : String} (hmethod : '(' ∉ method.toList) (hother : '(' ∉ other.toList) :
    (BindCall.mk method index (some value)).render l =
        (BindCall.mk other index (some otherValue)).render l ↔
      method = other ∧ value = otherValue := by
  constructor
  · intro h
    have hline : "statement." ++ (method ++ "(" ++ (toString index ++ ", " ++ value)) =
        "statement." ++ (other ++ "(" ++ (toString index ++ ", " ++ otherValue)) := by
      simp only [render, Language.line, String.append_left_inj] at h
      simpa only [String.append_assoc] using h
    rw [String.append_right_inj] at hline
    obtain ⟨hsame, harguments⟩ := Text.append_separator_inj rfl hmethod hother hline
    rw [String.append_right_inj] at harguments
    exact ⟨hsame, harguments⟩
  · rintro ⟨rfl, rfl⟩
    rfl

/-- The mark for a type without a rule is no call. -/
theorem unhandled_ne_render (type : ColumnType) (l : Language) (call : BindCall) :
    unhandled type ++ "\n" ≠ call.render l := by
  have hmark : (unhandled type ++ "\n").toList.head? = some '[' := by
    unfold unhandled
    simp
  have hcall : (call.render l).toList.head? = some 's' := by
    simp [BindCall.render, Language.line]
  intro h
  rw [h, hcall] at hmark
  cases hmark

/-! ## Key columns -/

/-- A number that is bound by its variable as it stands: it is no ordinal, and its type is that of
the bound numbers or, in Java, one whose values become such numbers by themselves. -/
def Field.IsPlainLong (l : Language) (f : Field) : Prop :=
  f.isEnumeration = false
    ∧ (f.type = .bigint ∨ l = .java ∧ (f.type = .smallint ∨ f.type = .integer))

/-- The types that are bound as numbers and stored as they are. -/
theorem ColumnType.bindLong_asIs_iff (l : Language) (type : ColumnType) :
    (type.bindMethod? = some "bindLong" ∧ type.storing? l = some .asIs) ↔
      type = .bigint ∨ l = .java ∧ (type = .smallint ∨ type = .integer) := by
  cases l <;> cases type <;> decide

/-- Numbers that are bound are also stored. -/
theorem ColumnType.isSome_storing? (l : Language) {type : ColumnType} (hdate : type.isDate = false)
    (hmethod : type.bindMethod? = some "bindLong") : (type.storing? l).isSome := by
  revert hdate hmethod
  cases l <;> cases type <;> decide

/-- Of the dates only those with a time of their own are bound as numbers, and all libraries have a
type for these. -/
theorem ColumnType.eq_timestamp {type : ColumnType} (hdate : type.isDate = true)
    (hmethod : type.bindMethod? = some "bindLong") : type = .timestamp := by
  revert hdate hmethod
  cases type <;> decide

namespace Column

variable {l : Language} {index : Nat} {c : Column}

theorem isNullable_of_isKey (h : c.isKey) : c.isNullable = false := by
  unfold isNullable
  split
  · rfl
  · rw [h, Bool.not_true, Bool.and_false]

theorem notMem_of_bindMethod? {method : String} (h : c.bindMethod? = some method) :
    '(' ∉ method.toList := by
  unfold bindMethod? ColumnType.bindMethod? at h
  split at h
  · cases h
    decide
  · split at h <;> cases h <;> decide

/-- A key is bound as it is bound for the row to update when it is bound as a number, by its
variable as it stands. -/
theorem render_binding_eq_iff (hkey : c.isKey)
    (hvalue : c.bindMethod? = some "bindLong" → (c.knownValue? l).isSome) :
    (c.binding l index).render l = (BindCall.mk "bindLong" index (some c.variableName)).render l ↔
      c.bindMethod? = some "bindLong" ∧ c.knownValue? l = some c.variableName := by
  have hunhandled : (Binding.unhandled c.field.type).render l ≠
      (BindCall.mk "bindLong" index (some c.variableName)).render l :=
    unhandled_ne_render _ _ _
  have hcall : ∀ method value, c.bindMethod? = some method →
      ((Binding.value method index value).render l =
        (BindCall.mk "bindLong" index (some c.variableName)).render l ↔
          method = "bindLong" ∧ value = c.variableName) :=
    fun method value hmethod =>
      BindCall.render_value_eq_iff (notMem_of_bindMethod? hmethod) (by decide)
  unfold binding
  rw [isNullable_of_isKey hkey]
  cases hmethod : c.bindMethod? with
  | none => simpa using hunhandled
  | some method =>
    cases hknown : c.knownValue? l with
    | some value =>
      have heq := hcall method value hmethod
      cases l <;> simpa using heq
    -- without a value the column is not bound as a number, whatever stands in its place
    | none =>
      have hne : method ≠ "bindLong" := by
        rintro rfl
        simpa [hknown] using hvalue hmethod
      cases l with
      | kotlin => simpa [hne] using hcall method (SchemaForge.unhandled c.field.type) hmethod
      | java => simpa using hunhandled

/-- Not the literal of an enumeration is stored but its ordinal. -/
theorem knownValue?_ne_of_enumeration {ref : EnumRef} {initial? : Option String}
    (h : c.content = .enumeration ref initial?) : c.knownValue? l ≠ some c.variableName := by
  have hordinal : ∀ suffix, c.variableName ++ suffix = c.variableName → suffix = "" := by
    intro suffix hsame
    have haround : "" ++ c.variableName ++ suffix = c.variableName := by
      rwa [String.empty_append]
    exact (Text.around_eq_self_iff.1 haround).2
  intro hsame
  cases l with
  | kotlin =>
    simp only [knownValue?, h, Option.some.injEq] at hsame
    simpa using hordinal _ hsame
  | java =>
    simp only [knownValue?, h, Option.some.injEq] at hsame
    simpa using hordinal _ hsame

/-- Not the variable of a date is stored but what the formatter makes of it. -/
theorem knownValue?_ne_of_date {library : DateLibrary} (h : c.content = .date library) :
    c.knownValue? l ≠ some c.variableName := by
  intro hsame
  cases l with
  | kotlin =>
    simp only [knownValue?, h, Option.map_eq_some_iff] at hsame
    obtain ⟨value, hstored, hsame⟩ := hsame
    exact DateLibrary.ne_of_store? hstored "!!" hsame
  | java =>
    simp only [knownValue?, h] at hsame
    exact DateLibrary.ne_of_store? hsame "" String.append_empty

/-- A key with a plain value is stored by its variable when its type needs no conversion. -/
theorem knownValue?_eq_variableName_iff (h : c.content = .plain) (hkey : c.isKey) :
    c.knownValue? l = some c.variableName ↔ c.field.type.storing? l = some .asIs := by
  have hvalue : c.knownValue? l = (c.field.type.storing? l).map (·.write l c.variableName) := by
    cases l <;> simp [knownValue?, h, isNullable_of_isKey hkey]
  rw [hvalue, Option.map_eq_some_iff]
  simp only [Storing.write_eq_self_iff, exists_eq_right]

end Column

/-! ## Columns that a field is resolved to -/

namespace Scope

variable {s : Scope} {f : Field} {c : Column} {l : Language}

/-- What is bound as a number has a value to bind. -/
theorem isSome_knownValue?_of_column (h : s.column f = .ok c)
    (hmethod : c.bindMethod? = some "bindLong") : (c.knownValue? l).isSome := by
  have hfield : c.field = f := field_of_column h
  rcases content_of_column h with ⟨-, ref, -, hcontent⟩ | ⟨-, hcontent⟩
  · cases l <;> simp [Column.knownValue?, hcontent]
  · cases hdate : f.type.isDate with
    | true =>
      rw [hdate, if_pos rfl] at hcontent
      simp only [Column.bindMethod?, hcontent, hfield] at hmethod
      -- every library has a type for the only dates that are numbers
      have htype : f.type = .timestamp := ColumnType.eq_timestamp hdate hmethod
      cases l <;>
        simp [Column.knownValue?, hcontent, hfield, htype, DateLibrary.store?, DateLibrary.supports]
    | false =>
      rw [hdate, if_neg Bool.false_ne_true] at hcontent
      simp only [Column.bindMethod?, hcontent, hfield] at hmethod
      have hstoring := ColumnType.isSome_storing? l hdate hmethod
      cases l <;> simpa [Column.knownValue?, hcontent, hfield] using hstoring

/-- A key is bound as a number, by its variable as it stands, when it is such a number. -/
theorem bindLong_variable_iff (h : s.column f = .ok c) (hkey : f.primaryKey) :
    (c.bindMethod? = some "bindLong" ∧ c.knownValue? l = some c.variableName) ↔
      f.IsPlainLong l := by
  have hfield : c.field = f := field_of_column h
  rcases content_of_column h with ⟨henum, ref, -, hcontent⟩ | ⟨henum, hcontent⟩
  · have hvalue := Column.knownValue?_ne_of_enumeration (l := l) hcontent
    simp [hvalue, Field.IsPlainLong, henum]
  · cases hdate : f.type.isDate with
    | true =>
      rw [hdate, if_pos rfl] at hcontent
      have hvalue := Column.knownValue?_ne_of_date (l := l) hcontent
      have htype : ¬ (f.type = .bigint ∨ l = .java ∧ (f.type = .smallint ∨ f.type = .integer)) := by
        rintro (hplain | ⟨-, hplain | hplain⟩) <;> simp [hplain, ColumnType.isDate] at hdate
      simp [hvalue, Field.IsPlainLong, htype]
    | false =>
      rw [hdate, if_neg Bool.false_ne_true] at hcontent
      have hmethod : c.bindMethod? = f.type.bindMethod? := by
        simp only [Column.bindMethod?, hcontent, hfield]
      have hiskey : c.isKey := by rwa [Column.isKey, hfield]
      rw [hmethod, Column.knownValue?_eq_variableName_iff hcontent hiskey, hfield,
        ColumnType.bindLong_asIs_iff, Field.IsPlainLong]
      simp [henum]

end Scope

/-! ## Tables -/

/-- Whenever a schema is generated, the statement that updates a row of an entity with a key binds
the written columns first and then the key, as a number by its variable as it stands. That is how
the column of the key itself is bound to this parameter when the key is a number that is bound
without a conversion, and only then. -/
theorem Run.key_bound_alike_iff {run : Run} {s : Schema} {files : List SourceFile} {d : Database}
    {e : Entity} {key : Field} (hgenerate : run.generate s = .ok files) (hd : d ∈ s.databases)
    (he : e ∈ d.entities) (hrecords : e.isEnumeration = false) (hkey : key ∈ e.fields)
    (hprimary : key.primaryKey) :
    ∃ (columns : List Column) (c : Column) (record : SourceClass) (last : String),
      e.written.mapM (Scope.mk run d e).column = .ok columns
      ∧ columns.map (·.field) = e.written
      ∧ (Scope.mk run d e).column key = .ok c
      ∧ record.fileName =
        (Scope.mk run d e).baseRecordName ++ "." ++ run.options.language.extension
      ∧ (Artifact.mk (Scope.mk run d e).directory .overwrite record).file run.style ∈ files
      ∧ record.functionContents "bindUpdateStatement" =
        [bindingText run.options.language columns ++ last]
      ∧ last = (BindCall.mk "bindLong" (e.written.length + 1) key.variableName).render
        run.options.language
      ∧ (last =
        (c.binding run.options.language (e.written.length + 1)).render run.options.language ↔
          key.IsPlainLong run.options.language) := by
  obtain ⟨r, hresolve, hfileName, hfile⟩ :=
    exists_baseRecord_of_generate hgenerate hd he hrecords
  obtain ⟨hscope, hcolumns, -⟩ := Scope.resolve_eq_ok_iff.1 hresolve
  obtain ⟨c, -, hc⟩ := exists_of_mem_left (mapM_eq_ok_iff.1 hcolumns) key hkey
  have hfield : c.field = key := Scope.field_of_column hc
  have hiskey : c.isKey := by rwa [Column.isKey, hfield]
  have hname : c.variableName = key.variableName := by rw [Column.variableName, hfield]
  refine ⟨r.written, c, r.baseRecordSource, _, Resolved.mapM_column_written hresolve,
    Resolved.map_field_written hresolve, hc, hfileName, hfile, ?_, rfl, ?_⟩
  · rw [Resolved.functionContents_update, Resolved.updateBody_eq hresolve hkey hprimary, hscope]
    rfl
  · rw [eq_comm, ← hname,
      Column.render_binding_eq_iff hiskey (Scope.isSome_knownValue?_of_column hc),
      Scope.bindLong_variable_iff hc hprimary]

/-- A city, with a text as its key. -/
def cityTable : Entity :=
  { kind := .table, name := "CITY"
    fields := [{ name := "CODE", type := .varchar, notNull := true, primaryKey := true },
      { name := "PEOPLE", type := .integer, notNull := true }] }

/-- A text is bound as a text where its column is written, and as a number where it is the key of
the row to update. -/
theorem Run.key_bound_apart_cityTable :
    ({ databases := [{ name := "main", tables := [cityTable] }] } : Schema).validate = .ok ()
    ∧ ∃ (files : List SourceFile) (record : SourceClass) (c : Column),
      Run.generate { package := "org", created := "today" }
          { databases := [{ name := "main", tables := [cityTable] }] } = .ok files
      ∧ record.functionContents "bindUpdateStatement" = ["statement.bindString(1, code)\n"
          ++ "statement.bindLong(2, people.toLong())\nstatement.bindLong(3, code)\n"]
      ∧ c.field.name = "CODE"
      ∧ (c.binding .kotlin 3).render .kotlin = "statement.bindString(3, code)\n"
      ∧ "statement.bindLong(3, code)\n" ≠ (c.binding .kotlin 3).render .kotlin := by
  let database : Database := { name := "main", tables := [cityTable] }
  let run : Run := { package := "org", created := "today" }
  let key : Field := { name := "CODE", type := .varchar, notNull := true, primaryKey := true }
  have hmem : key ∈ cityTable.fields := by decide
  have hgenerable : cityTable.Generable :=
    Entity.generable_of_plain (by decide) (by decide) (by decide)
  obtain ⟨files, hfiles⟩ : ∃ files, run.generate { databases := [database] } = .ok files :=
    exists_generate_of_singleton rfl hgenerable
  obtain ⟨columns, c, record, last, hcolumns, -, hc, -, -, hcontents, hlast, halike⟩ :=
    Run.key_bound_alike_iff (d := database) (e := cityTable) hfiles (by simp [database])
      (by simp [Database.entities, database]) (by decide) hmem (by decide)
  have hwritten : cityTable.written.mapM (Scope.mk run database cityTable).column = .ok
      [⟨key, .plain⟩, ⟨{ name := "PEOPLE", type := .integer, notNull := true }, .plain⟩] := by
    decide
  have hkey : (Scope.mk run database cityTable).column key = .ok ⟨key, .plain⟩ := by decide
  rw [hwritten] at hcolumns
  cases hcolumns
  rw [hkey] at hc
  cases hc
  have hstatement : last = "statement.bindLong(3, code)\n" := by
    rw [hlast]
    decide
  refine ⟨by decide, files, record, ⟨key, .plain⟩, hfiles, ?_, rfl, by decide, ?_⟩
  · rw [hcontents, hstatement]
    decide
  · rw [← hstatement]
    intro hsame
    have hnumber : key.IsPlainLong .kotlin := halike.1 hsame
    simp [Field.IsPlainLong, key] at hnumber

end SchemaForge
