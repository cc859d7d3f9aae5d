import SchemaForge.Proofs.Android.Expressions
import SchemaForge.Proofs.Android.Generation

namespace SchemaForge

/-! # Statements and what is bound to them

The text of a prepared statement and the code that binds its parameters are made by different
functions. Both go through the written columns in the order of the fields, so that the parameter
with number `i` stands for the `i`-th of them in either; the key of the row to update has the number
behind the last.
-/

/-! ## Written fields -/

/-- A primary key whose value the database chooses. -/
def Field.isAutomatic (f : Field) : Bool :=
  f.primaryKey && f.increment

/-- The fields that are written, in the order of their declaration. -/
def Entity.written (e : Entity) : List Field :=
  e.fields.filter (!·.isAutomatic)

namespace Resolved

variable {s : Scope} {r : Resolved}

/-- The written columns are those of the written fields. -/
theorem mapM_column_written (h : s.resolve = .ok r) :
    s.entity.written.mapM s.column = .ok r.written := by
  obtain ⟨-, hcolumns, -⟩ := Scope.resolve_eq_ok_iff.1 h
  apply mapM_filter_of_mapM hcolumns (!·.isAutomatic) (!·.isAutomatic)
  intro f c hc
  rw [Column.isAutomatic, Column.isKey, Scope.field_of_column hc, Field.isAutomatic]

theorem map_field_written (h : s.resolve = .ok r) :
    r.written.map (·.field) = s.entity.written :=
  Scope.map_field_of_mapM (mapM_column_written h)

theorem length_written (h : s.resolve = .ok r) : r.written.length = s.entity.written.length := by
  rw [← map_field_written h, List.length_map]

/-- An entity that is resolved has one key at most, so that a field that is one is the only one. -/
theorem filter_primaryKey_eq_singleton (h : s.resolve = .ok r) {key : Field}
    (hkey : key ∈ s.entity.fields) (hprimary : key.primaryKey) :
    s.entity.fields.filter (·.primaryKey) = [key] := by
  obtain ⟨-, -, hlength⟩ := Scope.resolve_eq_ok_iff.1 h
  have hmem : key ∈ s.entity.fields.filter (·.primaryKey) := List.mem_filter.2 ⟨hkey, hprimary⟩
  obtain ⟨only, honly⟩ : ∃ only, s.entity.fields.filter (·.primaryKey) = [only] :=
    List.length_eq_one_iff.1 (Nat.le_antisymm hlength (List.length_pos_of_mem hmem))
  rw [honly] at hmem
  rw [honly, List.mem_singleton.1 hmem]

/-- The key column is that of the field that is the primary key. -/
theorem exists_key_of_mem (h : s.resolve = .ok r) {key : Field} (hkey : key ∈ s.entity.fields)
    (hprimary : key.primaryKey) : ∃ c, r.key? = some c ∧ c.field = key := by
  obtain ⟨-, hcolumns, -⟩ := Scope.resolve_eq_ok_iff.1 h
  have hfields : (r.columns.filter (·.isKey)).map (·.field) = [key] := by
    rw [Scope.map_field_filter_isKey, Scope.map_field_of_mapM hcolumns,
      filter_primaryKey_eq_singleton h hkey hprimary]
  obtain ⟨c, hc, rfl⟩ := List.map_eq_singleton_iff.1 hfields
  refine ⟨c, ?_, rfl⟩
  rw [key?, ← List.head?_filter, hc, List.head?_cons]

/-! ## Texts of the statements -/

/-- The statement that inserts a row names the written fields, with a placeholder for each. -/
theorem insertStatement_eq (h : s.resolve = .ok r) :
    r.insertStatement = "INSERT INTO " ++ s.entity.name ++ " ("
      ++ ",".intercalate (s.entity.written.map (·.name)) ++ ") VALUES ("
      ++ ",".intercalate (List.replicate s.entity.written.length "?") ++ ")" := by
  have hscope : r.toScope = s := (Scope.resolve_eq_ok_iff.1 h).1
  have hnames : r.written.map (·.field.name) = s.entity.written.map (·.name) := by
    rw [← map_field_written h, List.map_map]
    rfl
  have hplaces : r.written.map (fun _ => "?") = List.replicate s.entity.written.length "?" := by
    rw [List.map_const', length_written h]
  have htext : r.insertStatement = "INSERT INTO " ++ r.entity.name ++ " ("
      ++ ",".intercalate (r.written.map (·.field.name)) ++ ") VALUES ("
      ++ ",".intercalate (r.written.map fun _ => "?") ++ ")" := rfl
  rw [htext, hnames, hplaces, hscope]

/-- The statement that updates a row assigns the written fields and finds the row by its key. -/
theorem updateStatement_eq (h : s.resolve = .ok r) {key : Field} (hkey : key ∈ s.entity.fields)
    (hprimary : key.primaryKey) :
    r.updateStatement = "UPDATE " ++ s.entity.name ++ " SET "
      ++ ", ".intercalate (s.entity.written.map (·.name ++ "=?")) ++ " WHERE " ++ key.name
      ++ " = ?" := by
  have hscope : r.toScope = s := (Scope.resolve_eq_ok_iff.1 h).1
  obtain ⟨c, hc, rfl⟩ := exists_key_of_mem h hkey hprimary
  have hassigned :
      r.written.map (·.field.name ++ "=?") = s.entity.written.map (·.name ++ "=?") := by
    rw [← map_field_written h, List.map_map]
    rfl
  have htext : r.updateStatement = "UPDATE " ++ r.entity.name ++ " SET "
      ++ ", ".intercalate (r.written.map (·.field.name ++ "=?")) ++ " WHERE " ++ r.keyName
      ++ " = ?" := rfl
  rw [htext, keyName, hc, hassigned, hscope]

end Resolved

/-! ## Bound parameters -/

/-- The methods of a statement that bind a value. -/
def bindMethods : List String :=
  ["bindLong", "bindDouble", "bindString", "bindBlob"]

/-- The line that binds a value to the parameter with this number. -/
def bindLine (l : Language) (method : String) (index : Nat) (value : String) : String :=
  "statement." ++ method ++ "(" ++ toString index ++ ", " ++ value ++ ")" ++ l.terminator ++ "\n"

/-- The line that binds null to the parameter with this number. -/
def bindNullLine (l : Language) (index : Nat) : String :=
  "statement.bindNull(" ++ toString index ++ ")" ++ l.terminator ++ "\n"

/-- The text binds a value of the column to the parameter with this number and to no other, once on
every way through it: a column that is never null has one line, and one that may be has a line for
its value and another for null. -/
inductive Column.BindsOnce (c : Column) (l : Language) (index : Nat) (value : String) :
    String → Prop
  | always {method : String} (never : c.isNullable = false) (known : method ∈ bindMethods) :
      BindsOnce c l index value (bindLine l method index value)
  | eitherWay {method : String} (possible : c.isNullable = true) (known : method ∈ bindMethods) :
      BindsOnce c l index value
        ("if (" ++ c.variableName ++ " != null) \x7b\n\t" ++ bindLine l method index value
          ++ "\x7d else \x7b\n\t" ++ bindNullLine l index ++ "\x7d\n")

/-- The text is what binds a column to the parameter with this number: a column with a rule is bound
by its value, and one without is not, but that Kotlin has the mark of a time in place of its value.
-/
structure Scope.IsBinding (s : Scope) (c : Column) (index : Nat) (text : String) : Prop where
  covered : s.Covers c.field → ∃ value,
    Expression.known? s.language c c.variableName = some value
      ∧ c.BindsOnce s.language index value text
  uncoveredTime : ¬ s.Covers c.field → s.language = .kotlin → c.field.type = .time →
    c.BindsOnce s.language index (unhandled c.field.type) text
  uncovered : ¬ s.Covers c.field → s.language = .java ∨ c.field.type ≠ .time →
    text = unhandled c.field.type ++ "\n"

theorem BindCall.render_value (l : Language) (method : String) (index : Nat) (value : String) :
    (BindCall.mk method index (some value)).render l = bindLine l method index value := by
  unfold render Language.line bindLine
  simp only [String.append_assoc]

theorem BindCall.render_null (l : Language) (index : Nat) :
    (BindCall.null index).render l = bindNullLine l index := by
  unfold render Language.line bindNullLine null
  simp only [String.append_assoc]
  rfl

theorem Column.mem_bindMethods {c : Column} {method : String} (h : c.bindMethod? = some method) :
    method ∈ bindMethods := by
  unfold bindMethod? ColumnType.bindMethod? at h
  split at h
  · cases h
    decide
  · split at h <;> cases h <;> decide

/-- What is bound with a method and a value is bound once. -/
theorem Column.bindsOnce_of_method {c : Column} {method : String} (h : c.bindMethod? = some method)
    (l : Language) (index : Nat) (value : String) :
    c.BindsOnce l index value ((if c.isNullable then
      Binding.nullable c.variableName method index value
      else Binding.value method index value).render l) := by
  split
  · next hnullable =>
    simp only [Binding.render, BindCall.render_value, BindCall.render_null]
    exact .eitherWay hnullable (mem_bindMethods h)
  · next hnever =>
    simp only [Binding.render, BindCall.render_value]
    exact .always (by simpa using hnever) (mem_bindMethods h)

/-- Of the columns without a rule only a time has a method that would bind its value. -/
theorem Scope.bindMethod?_of_not_covers {s : Scope} {f : Field} {c : Column}
    (h : s.column f = .ok c) (hnot : ¬ s.Covers f) :
    c.bindMethod? = if f.type = .time then some "bindString" else none := by
  have hfield : c.field = f := field_of_column h
  rcases content_cases h with ⟨henum, -⟩ | ⟨-, hdate, hcontent⟩ | ⟨-, hdate, hcontent⟩
  · exact absurd (.inl henum) hnot
  · have htime : f.type = .time := by
      by_contra hother
      have hcovered : f.type ∉ ColumnType.uncovered := by
        revert hdate
        cases f.type <;> decide
      exact hnot (.inr ⟨hcovered, by simp [DateLibrary.supports, hother]⟩)
    simp [Column.bindMethod?, hcontent, hfield, htime, ColumnType.bindMethod?]
  · have htime : f.type ≠ .time := by
      rintro htype
      simp [htype, ColumnType.isDate] at hdate
    have hmember : f.type ∈ ColumnType.uncovered := by
      by_contra hcovered
      exact hnot (.inr ⟨hcovered, by simp [DateLibrary.supports, htime]⟩)
    have hmethod : f.type.bindMethod? = none := by
      revert hmember
      cases f.type <;> decide
    simp [Column.bindMethod?, hcontent, hfield, htime, hmethod]

/-- What binds a column that a field is resolved to. -/
theorem Scope.isBinding_of_column {s : Scope} {f : Field} {c : Column} (h : s.column f = .ok c)
    (index : Nat) : s.IsBinding c index ((c.binding s.language index).render s.language) := by
  obtain rfl : c.field = f := field_of_column h
  have hnone : c.knownValue? s.language = none ↔ ¬ s.Covers c.field := knownValue?_eq_none_iff h
  constructor
  case covered =>
    intro hcovers
    obtain ⟨value, hvalue⟩ := Option.ne_none_iff_exists'.1 (mt hnone.1 (not_not.2 hcovers))
    obtain ⟨method, hmethod⟩ := Option.ne_none_iff_exists'.1
      (mt (knownValue?_eq_none h s.language) (by simp [hvalue]))
    refine ⟨value, by rw [← Expression.knownValue?_eq, hvalue], ?_⟩
    have hbinds := Column.bindsOnce_of_method hmethod s.language index value
    unfold Column.binding
    rw [hmethod, hvalue]
    cases hlanguage : s.language <;> simpa [hlanguage] using hbinds
  case uncoveredTime =>
    intro hnot hkotlin htime
    have hmethod := bindMethod?_of_not_covers h hnot
    rw [if_pos htime] at hmethod
    have hbinds := Column.bindsOnce_of_method hmethod s.language index (unhandled c.field.type)
    unfold Column.binding
    rw [hmethod, hnone.2 hnot]
    simpa [hkotlin] using hbinds
  case uncovered =>
    intro hnot hother
    unfold Column.binding
    rw [bindMethod?_of_not_covers h hnot, hnone.2 hnot]
    rcases hother with hjava | hother
    · rw [hjava]
      split <;> rfl
    · rw [if_neg hother]
      rfl

/-- The code that binds columns to the parameters from one on. -/
def bindingText (l : Language) (columns : List Column) : String :=
  Text.concat (columns.mapIdx fun i c => (c.binding l (i + 1)).render l)

namespace Resolved

variable {s : Scope} {r : Resolved} {l : Language}

theorem insertBody_eq : r.insertBody l = bindingText l r.written := by
  rw [insertBody, bindings, bindingText, List.mapIdx_eq_zipIdx_map, List.mapIdx_eq_zipIdx_map,
    List.map_map]
  rfl

/-- The key of the row to update is bound behind the written columns. -/
theorem updateBody_eq (h : s.resolve = .ok r) {key : Field} (hkey : key ∈ s.entity.fields)
    (hprimary : key.primaryKey) :
    r.updateBody l = bindingText l r.written
      ++ (BindCall.mk "bindLong" (s.entity.written.length + 1) key.variableName).render l := by
  obtain ⟨c, hc, rfl⟩ := exists_key_of_mem h hkey hprimary
  rw [updateBody, keyBindings, hc, List.map_append, Text.concat_append, ← insertBody,
    insertBody_eq, length_written h]
  simp [Binding.render, Column.variableName]

/-! ## Classes that hold them -/

/-- The class of the constants. -/
def constantsSource (r : Resolved) : SourceClass :=
  match r.language with
  | .kotlin => .kotlin r.kotlinConstants
  | .java => .java r.javaConstants

/-- The base record. -/
def baseRecordSource (r : Resolved) : SourceClass :=
  match r.language with
  | .kotlin => .kotlin r.kotlinBaseRecord
  | .java => .java r.javaBaseRecord

/-- Constants and base record of an entity with records are made, and written anew on every run. -/
theorem mem_artifacts (h : r.entity.isEnumeration = false) :
    ⟨r.directory, .overwrite, r.constantsSource⟩ ∈ r.artifacts
      ∧ ⟨r.directory, .overwrite, r.baseRecordSource⟩ ∈ r.artifacts := by
  unfold artifacts Scope.builders constantsSource baseRecordSource
  cases r.language <;> simp [h]

end Resolved

namespace SourceClass

/-- The values of the constants with this name. -/
def constantValues (c : SourceClass) (name : String) : List String :=
  match c with
  | .kotlin c => (c.constants.filter (·.name = name)).map (·.value)
  | .java c => (c.constants.filter (·.name = name)).map (·.value)

/-- The contents of the functions with this name. -/
def functionContents (c : SourceClass) (name : String) : List String :=
  match c with
  | .kotlin c => (c.functions.filter (·.name = name)).map (·.content)
  | .java c => (c.methods.filter (·.name = name)).map (·.content)

end SourceClass

@[simp] theorem Constant.name_kotlin (c : Constant) : c.kotlin.name = c.name := by
  unfold kotlin
  split <;> rfl

@[simp] theorem Constant.name_java (c : Constant) : c.java.name = c.name := by
  unfold java
  split <;> rfl

/-- The expression for what a constant holds. -/
def Constant.expression (l : Language) (c : Constant) : String :=
  match l with
  | .kotlin => c.kotlin.value
  | .java => c.java.value

theorem Constant.expression_text (l : Language) (name text : String) :
    (Constant.mk name (.text text)).expression l = Literal.quote l text := by
  cases l <;> rfl

namespace Resolved

variable {r : Resolved}

/-- The names of the constants of columns begin with `C_` or `FULL_C_`. -/
theorem take_of_mem_columnConstants {c : Constant} (h : c ∈ r.columnConstants) :
    c.name.toList.take 2 ∈ [['C', '_'], ['F', 'U']] := by
  obtain ⟨column, -, hc⟩ := List.mem_flatMap.1 h
  simp only [List.mem_cons, List.not_mem_nil, or_false] at hc
  rcases hc with rfl | rfl
  · simp [Column.constant]
  · simp [Column.fullConstant]

theorem filter_columnConstants {name : String}
    (h : name.toList.take 2 ∉ [['C', '_'], ['F', 'U']]) :
    r.columnConstants.filter (·.name = name) = [] := by
  rw [List.filter_eq_nil_iff]
  intro c hc hname
  have hsame : c.name = name := by simpa using hname
  rw [← hsame] at h
  exact h (take_of_mem_columnConstants hc)

/-- Every statement of a table has a name that no other constant has. -/
theorem filter_constants_of_mem {c : Constant} (h : c ∈ r.statementConstants) :
    r.constants.filter (·.name = c.name) = [c] := by
  have htable : r.entity.isTable := by
    by_contra hother
    simp [statementConstants, hother] at h
  have hkind : r.entity.kind = .table := by simpa [Entity.isTable] using htable
  rw [statementConstants, if_pos htable] at h
  simp only [List.mem_cons, List.not_mem_nil, or_false] at h
  have hcolumns : r.columnConstants.filter (·.name = c.name) = [] := by
    apply filter_columnConstants
    rcases h with rfl | rfl | rfl | rfl <;> simp
  simp only [constants, List.filter_append, hcolumns, statementConstants, if_pos htable]
  -- the constants of the key are there only when the entity has one
  cases hkey : r.key? <;> rcases h with rfl | rfl | rfl | rfl <;>
    simp [tableConstants, keyConstants, hkey, hkind]

/-- What the constants hold that are declared under a name. -/
theorem constantValues_eq (r : Resolved) (name : String) :
    r.constantsSource.constantValues name =
      (r.constants.filter (·.name = name)).map (·.expression r.language) := by
  unfold constantsSource
  cases r.language with
  | kotlin =>
    simp only [SourceClass.constantValues, kotlinConstants, List.filter_map, Function.comp_def,
      Constant.name_kotlin, List.map_map]
    rfl
  | java =>
    simp only [SourceClass.constantValues, javaConstants, List.filter_map, Function.comp_def,
      Constant.name_java, List.map_map]
    rfl

/-- The text of a statement stands in the class as a literal. -/
theorem constantValues_of_mem {name text : String}
    (h : ⟨name, .text text⟩ ∈ r.statementConstants) :
    r.constantsSource.constantValues name = [Literal.quote r.language text] := by
  rw [constantValues_eq, filter_constants_of_mem h, List.map_singleton, Constant.expression_text]

/-- One function of the base record binds the parameters of the statement that inserts a row. -/
theorem functionContents_insert :
    r.baseRecordSource.functionContents "bindInsertStatement" = [r.insertBody r.language] := by
  unfold baseRecordSource
  cases hlanguage : r.language with
  | kotlin => simp [SourceClass.functionContents, kotlinBaseRecord, kotlinRecordFunctions]
  | java => simp [SourceClass.functionContents, javaBaseRecord, javaRecordMethods, overriding]

theorem functionContents_update :
    r.baseRecordSource.functionContents "bindUpdateStatement" = [r.updateBody r.language] := by
  unfold baseRecordSource
  cases hlanguage : r.language with
  | kotlin => simp [SourceClass.functionContents, kotlinBaseRecord, kotlinRecordFunctions]
  | java => simp [SourceClass.functionContents, javaBaseRecord, javaRecordMethods, overriding]

theorem fileName_constantsSource :
    r.constantsSource.fileName = r.constantsName ++ "." ++ r.language.extension := by
  unfold constantsSource
  cases hlanguage : r.language <;> rfl

theorem fileName_baseRecordSource :
    r.baseRecordSource.fileName = r.baseRecordName ++ "." ++ r.language.extension := by
  unfold baseRecordSource
  cases hlanguage : r.language <;> rfl

end Resolved

/-- Whenever a schema is generated, the base record of each entity with records is among the files.
-/
theorem Run.exists_baseRecord_of_generate {run : Run} {s : Schema} {files : List SourceFile}
    {d : Database} {e : Entity} (hgenerate : run.generate s = .ok files) (hd : d ∈ s.databases)
    (he : e ∈ d.entities) (hrecords : e.isEnumeration = false) :
    ∃ r, (Scope.mk run d e).resolve = .ok r
      ∧ r.baseRecordSource.fileName =
        (Scope.mk run d e).baseRecordName ++ "." ++ run.options.language.extension
      ∧ (Artifact.mk (Scope.mk run d e).directory .overwrite r.baseRecordSource).file run.style
        ∈ files := by
  obtain ⟨r, hresolve, hfiles⟩ := exists_resolve_of_generate hgenerate hd he
  have hscope : r.toScope = Scope.mk run d e := (Scope.resolve_eq_ok_iff.1 hresolve).1
  have hordinary : r.entity.isEnumeration = false := by rwa [hscope]
  obtain ⟨-, hrecord⟩ := Resolved.mem_artifacts hordinary
  refine ⟨r, hresolve, ?_, ?_⟩
  · rw [Resolved.fileName_baseRecordSource, hscope]
    rfl
  · rw [← hscope]
    exact hfiles _ hrecord

/-! ## Statements and binds of a table -/

/-- The statements among the constants of a table fit the code of its base record that binds values
to them, where `columns` are the written columns. -/
structure Scope.StatementsFit (s : Scope) (columns : List Column) (constants record : SourceClass) :
    Prop where
  /-- The inserted columns are the written fields in order, with a placeholder for each. -/
  insertStatement : constants.constantValues "INSERT_STATEMENT" = [Literal.quote s.language
    ("INSERT INTO " ++ s.entity.name ++ " (" ++ ",".intercalate (s.entity.written.map (·.name))
      ++ ") VALUES (" ++ ",".intercalate (List.replicate s.entity.written.length "?") ++ ")")]
  /-- The written columns are bound in the same order, from one on. -/
  insertBinds : record.functionContents "bindInsertStatement" = [bindingText s.language columns]
  /-- What binds a column to a parameter binds that one, once on every way. -/
  fragments : ∀ c ∈ columns, ∀ index,
    s.IsBinding c index ((c.binding s.language index).render s.language)
  /-- The updated columns are the same, and the row is found by its key. -/
  updateStatement : ∀ key ∈ s.entity.fields, key.primaryKey →
    constants.constantValues "UPDATE_STATEMENT" = [Literal.quote s.language
      ("UPDATE " ++ s.entity.name ++ " SET "
        ++ ", ".intercalate (s.entity.written.map (·.name ++ "=?")) ++ " WHERE " ++ key.name
        ++ " = ?")]
  /-- They are bound as before, and the key is bound to the parameter behind them. -/
  updateBinds : ∀ key ∈ s.entity.fields, key.primaryKey →
    record.functionContents "bindUpdateStatement" = [bindingText s.language columns
      ++ bindLine s.language "bindLong" (s.entity.written.length + 1) key.variableName]

theorem Resolved.statementsFit {s : Scope} {r : Resolved} (h : s.resolve = .ok r)
    (htable : s.entity.isTable) :
    s.StatementsFit r.written r.constantsSource r.baseRecordSource := by
  have hscope : r.toScope = s := (Scope.resolve_eq_ok_iff.1 h).1
  have htable : r.entity.isTable := by rwa [hscope]
  have hlanguage : r.language = s.language := by rw [hscope]
  have hinsert : ⟨"INSERT_STATEMENT", .text r.insertStatement⟩ ∈ r.statementConstants := by
    simp [statementConstants, htable]
  have hupdate : ⟨"UPDATE_STATEMENT", .text r.updateStatement⟩ ∈ r.statementConstants := by
    simp [statementConstants, htable]
  constructor
  case insertStatement => rw [constantValues_of_mem hinsert, insertStatement_eq h, hlanguage]
  case insertBinds => rw [functionContents_insert, insertBody_eq, hlanguage]
  case fragments =>
    intro c hc index
    obtain ⟨f, -, hcolumn⟩ := exists_of_mem_right (mapM_eq_ok_iff.1 (mapM_column_written h)) c hc
    exact Scope.isBinding_of_column hcolumn index
  case updateStatement =>
    intro key hkey hprimary
    rw [constantValues_of_mem hupdate, updateStatement_eq h hkey hprimary, hlanguage]
  case updateBinds =>
    intro key hkey hprimary
    rw [functionContents_update, updateBody_eq h hkey hprimary, hlanguage, BindCall.render_value]

/-- Whenever a schema is generated, the statements of each of its tables name the written fields in
their order, with a placeholder for each, and the code of the base record binds the `i`-th written
column to parameter `i` and to no other. The statement that updates a row has its key as the last
parameter, and the key is bound to that. -/
theorem Run.statements_fit_binds {run : Run} {s : Schema} {files : List SourceFile} {d : Database}
    {e : Entity} (hgenerate : run.generate s = .ok files) (hd : d ∈ s.databases)
    (he : e ∈ d.entities) (htable : e.isTable) (hrecords : e.isEnumeration = false) :
    ∃ (columns : List Column) (constants record : SourceClass),
      e.written.mapM (Scope.mk run d e).column = .ok columns
      ∧ columns.map (·.field) = e.written
      ∧ constants.fileName =
        (Scope.mk run d e).constantsName ++ "." ++ run.options.language.extension
      ∧ (Artifact.mk (Scope.mk run d e).directory .overwrite constants).file run.style ∈ files
      ∧ record.fileName =
        (Scope.mk run d e).baseRecordName ++ "." ++ run.options.language.extension
      ∧ (Artifact.mk (Scope.mk run d e).directory .overwrite record).file run.style ∈ files
      ∧ (Scope.mk run d e).StatementsFit columns constants record := by
  obtain ⟨r, hresolve, hfiles⟩ := exists_resolve_of_generate hgenerate hd he
  have hscope : r.toScope = Scope.mk run d e := (Scope.resolve_eq_ok_iff.1 hresolve).1
  have hordinary : r.entity.isEnumeration = false := by rwa [hscope]
  obtain ⟨hconstants, hrecord⟩ := Resolved.mem_artifacts hordinary
  refine ⟨r.written, r.constantsSource, r.baseRecordSource, Resolved.mapM_column_written hresolve,
    Resolved.map_field_written hresolve, ?_, ?_, ?_, ?_, Resolved.statementsFit hresolve htable⟩
  · rw [Resolved.fileName_constantsSource, hscope]
    rfl
  · rw [← hscope]
    exact hfiles _ hconstants
  · rw [Resolved.fileName_baseRecordSource, hscope]
    rfl
  · rw [← hscope]
    exact hfiles _ hrecord

/-- A table with a key that the database chooses, a column that is never null and one that may be.
-/
def personTable : Entity :=
  { kind := .table, name := "PERSON"
    fields := [{ name := "ID", type := .bigint, primaryKey := true, increment := true },
      { name := "NAME", type := .varchar, notNull := true }, { name := "AGE", type := .integer }] }

set_option maxRecDepth 2000 in
/-- The files of a table of three columns, of which two are written: the statements among its
constants, and what its base record binds to them. -/
theorem Run.statements_fit_binds_personTable :
    ∃ (files : List SourceFile) (constants record : SourceClass),
      Run.generate { package := "org", created := "today" }
          { databases := [{ name := "main", tables := [personTable] }] } = .ok files
      ∧ constants.fileName = "PersonConst.kt"
      ∧ (Artifact.mk "person" .overwrite constants).file {} ∈ files
      ∧ record.fileName = "PersonBaseRecord.kt"
      ∧ (Artifact.mk "person" .overwrite record).file {} ∈ files
      ∧ constants.constantValues "INSERT_STATEMENT" =
          ["\"INSERT INTO PERSON (NAME,AGE) VALUES (?,?)\""]
      ∧ constants.constantValues "UPDATE_STATEMENT" =
          ["\"UPDATE PERSON SET NAME=?, AGE=? WHERE ID = ?\""]
      ∧ record.functionContents "bindUpdateStatement" =
          ["statement.bindString(1, name)\nif (age != null) \x7b\n"
            ++ "\tstatement.bindLong(2, age!!.toLong())\n\x7d else \x7b\n"
            ++ "\tstatement.bindNull(2)\n\x7d\nstatement.bindLong(3, id)\n"] := by
  let database : Database := { name := "main", tables := [personTable] }
  let run : Run := { package := "org", created := "today" }
  let s : Scope := .mk run database personTable
  let key : Field := { name := "ID", type := .bigint, primaryKey := true, increment := true }
  have hgenerable : personTable.Generable := by
    refine ⟨⟨?_, by decide⟩, by decide⟩
    intro f hf henum
    have hplain : ∀ f ∈ personTable.fields, f.isEnumeration = false := by decide
    rw [hplain f hf] at henum
    cases henum
  obtain ⟨files, hfiles⟩ : ∃ files, run.generate { databases := [database] } = .ok files :=
    exists_generate_of_singleton rfl hgenerable
  -- the columns are those that the fields are resolved to, which can be computed
  obtain ⟨columns, constants, record, hcolumns, -, hconstantsName, hconstants, hrecordName, hrecord,
      hfit⟩ :=
    Run.statements_fit_binds (d := database) (e := personTable) hfiles (by simp [database])
      (by simp [Database.entities, database]) (by decide) (by decide)
  have hplain : personTable.written.mapM s.column = .ok
      [⟨{ name := "NAME", type := .varchar, notNull := true }, .plain⟩,
        ⟨{ name := "AGE", type := .integer }, .plain⟩] := by decide
  rw [hplain] at hcolumns
  cases hcolumns
  have hdirectory : s.directory = "person" := by decide
  have hnames : s.constantsName ++ "." ++ run.options.language.extension = "PersonConst.kt"
      ∧ s.baseRecordName ++ "." ++ run.options.language.extension = "PersonBaseRecord.kt" := by
    decide
  rw [hdirectory] at hconstants hrecord
  refine ⟨files, constants, record, hfiles, hconstantsName.trans hnames.1, hconstants,
    hrecordName.trans hnames.2, hrecord, ?_, ?_, ?_⟩
  · rw [hfit.insertStatement]
    decide
  · rw [hfit.updateStatement key (by decide) (by decide)]
    decide
  · rw [hfit.updateBinds key (by decide) (by decide)]
    decide

end SchemaForge
