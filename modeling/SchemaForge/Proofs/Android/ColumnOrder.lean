import SchemaForge.Proofs.Android.EnumImports
import SchemaForge.Proofs.Android.Expressions
import SchemaForge.Proofs.Android.Mentions

namespace SchemaForge

/-! # Columns in the order of their fields

The constants and the base record of an entity go through its columns again and again, to list them,
to store them, to read them and to copy them. They do so in the order of the fields, so that the
`i`-th item of one list belongs to the `i`-th of another. Where only columns that are written have
an item, the others are passed over. An item carries the value of its own field: it is one
expression, which names the variable that holds the value or the constant under which it is found,
unless no rule covers the field. Then the mark of its type stands there.
-/

/-! ## Values of fields -/

namespace Scope

/-- The text carries the value of a field by this name: it is the expression for the value, or the
mark of the field's type stands in its place. -/
structure Carries (s : Scope) (f : Field) (name : String) (expression? : Option String)
    (text : String) : Prop where
  covered : s.Covers f → expression? = some text ∧ Mentions name text
  uncovered : ¬ s.Covers f → text = unhandled f.type

variable {s : Scope} {f : Field} {c : Column} {l : Language}

/-- What there is for every field with a rule carries its value. -/
theorem carries_getD {name : String} {text? : Option String} (hnone : text? = none ↔ ¬ s.Covers f)
    (hsome : ∀ text, text? = some text → Mentions name text) :
    s.Carries f name text? (text?.getD (unhandled f.type)) := by
  cases htext : text? with
  | none => exact ⟨fun hcovers => absurd hcovers (hnone.1 htext), fun _ => rfl⟩
  | some text =>
    refine ⟨fun _ => ⟨rfl, hsome text htext⟩, fun hnot => ?_⟩
    rw [hnone.2 hnot] at htext
    cases htext

theorem carries_storedValue (h : s.column f = .ok c) :
    s.Carries f f.variableName (Expression.stored? l c f.variableName) (c.storedValue l) := by
  obtain rfl : c.field = f := field_of_column h
  have hstored : Expression.stored? l c c.field.variableName = c.storedValue? l :=
    (Expression.storedValue?_eq l c).symm
  rw [hstored]
  refine carries_getD ?_ fun _ => Column.mentions_storedValue?
  rw [Column.storedValue?_eq_none_iff, knownValue?_eq_none_iff h]

theorem carries_readText {reading? : Option Reading} {constant : String} (hfield : c.field = f)
    (hnone : reading? = none ↔ ¬ s.Covers f)
    (hsome : ∀ reading, reading? = some reading → Mentions constant (reading.render l)) :
    s.Carries f constant (reading?.map (·.render l)) (c.readText l reading?) := by
  have htext : c.readText l reading? = (reading?.map (·.render l)).getD (unhandled f.type) := by
    rw [← hfield]
    cases reading? <;> rfl
  rw [htext]
  refine carries_getD (by rwa [Option.map_eq_none_iff]) fun text hrender => ?_
  obtain ⟨reading, hreading, rfl⟩ := Option.map_eq_some_iff.1 hrender
  exact hsome reading hreading

/-- A column that is no number of any size is read when a rule covers its field. -/
theorem fromValues?_none_iff_covers (h : s.column f = .ok c) (hsmall : ¬ f.IsBigNumber)
    (constant : String) : c.fromValues? l constant = none ↔ ¬ s.Covers f := by
  rw [fromValues?_eq_none_iff h, knownValue?_eq_none_iff h, or_iff_left hsmall]

end Scope

/-- A column of ordinals is read under whatever name its enumeration has. -/
theorem Column.fromCursor?_qualified_eq_none_iff (c : Column) (l : Language)
    (owner constant : String) :
    (c.qualified owner).fromCursor? l constant = none ↔ c.fromCursor? l constant = none := by
  unfold qualified
  split
  · next hcontent => simp [fromCursor?, hcontent]
  · rfl

/-! ## Bodies -/

/-- The bodies of the functions with this name and with parameters of these names. -/
def SourceClass.bodies (c : SourceClass) (name : String) (parameters : List String) : List String :=
  (c.functionTexts.filter fun t =>
    t.name = name ∧ t.parameters.map (·.1) = parameters).map (·.content)

/-- The body that gives an array of these items. -/
def Language.arrayBody (l : Language) (items : List String) : String :=
  match l with
  | .kotlin => "return arrayOf(\n" ++ ",\n".intercalate items ++ ")\n"
  | .java =>
    "Object[] values = new Object[]\x7b\n" ++ ",\n".intercalate items ++ "\n\x7d;\nreturn values;"

/-- The body that makes a copy and has these items give it its values. -/
def Scope.copyBody (s : Scope) (items : List String) : String :=
  let declaration := match s.language with
    | .kotlin => "val copy"
    | .java => s.className ++ " copy"
  s.language.line (declaration ++ " = " ++ s.language.creation ++ s.className ++ "()")
    ++ Text.concat items ++ "return copy" ++ s.language.terminator

namespace Resolved

variable {r : Resolved}

/-- The bodies of the base record that go through the columns. -/
theorem bodies_baseRecordSource (r : Resolved) :
    r.baseRecordSource.bodies "getValues" [] = [r.valuesBody r.language]
      ∧ r.baseRecordSource.bodies "copy" [] = [r.copyBody r.language]
      ∧ r.baseRecordSource.bodies "setContent" ["cursor"] = [r.takeCursor r.language]
      ∧ r.baseRecordSource.bodies "getContentValues" ["values"] = [r.putContent r.language]
      ∧ r.baseRecordSource.bodies "setContent" ["values"] = [r.takeValues r.language] := by
  unfold baseRecordSource SourceClass.bodies SourceClass.functionTexts
  cases r.language with
  | kotlin =>
    simp [kotlinBaseRecord, kotlinRecordFunctions, KotlinFunction.functionText,
      KotlinProperty.parameter]
  | java => simp [javaBaseRecord, javaRecordMethods, JavaMethod.functionText, overriding]

end Resolved

/-! ## Items -/

namespace Scope

variable {s : Scope} {f : Field}

/-- The reference of the base record to the constant of a field. -/
def columnReference (s : Scope) (f : Field) : String :=
  s.constantsName ++ "." ++ f.columnConstant

/-- What is read carries the value of the field. Of numbers of any size nothing is said but that
what is read is one expression, with no line and no statement behind it. -/
structure IsRead (s : Scope) (f : Field) (constant : String) (code? : Option (Snippet String))
    (reading : String) : Prop where
  carries : ¬ f.IsBigNumber → s.Carries f constant (code?.map (·.text id)) reading
  single : f.IsBigNumber → '\n' ∉ reading.toList ∧ ';' ∉ reading.toList

/-- The function reads the field out of a cursor. -/
structure IsReader (s : Scope) (f : Field) (t : FunctionText) : Prop where
  name : t.name = "get" ++ Naming.upperFirst f.variableName
    ∨ t.name = "is" ++ Naming.upperFirst f.variableName
  parameters : t.parameters.map (·.1) = ["cursor"]
  content : ∃ c reading, s.column f = .ok c
    ∧ t.content = "return " ++ reading ++ s.language.terminator
    ∧ s.IsRead f f.columnConstant (Expression.fromCursor? s.language (c.qualified s.baseRecordName)
      (.reference f.columnConstant)) reading

/-- The line gives the variable of the field what is read under its constant. -/
def IsAssignment (s : Scope) (read? : Column → Snippet String → Option (Snippet String)) (f : Field)
    (line : String) : Prop :=
  ∃ c reading, s.column f = .ok c
    ∧ line = f.variableName ++ " = " ++ reading ++ s.language.terminator ++ "\n"
    ∧ s.IsRead f (s.columnReference f) (read? c (.reference (s.columnReference f))) reading

/-- The line puts the value of the variable of the field under its constant. -/
def IsPut (s : Scope) (f : Field) (line : String) : Prop :=
  ∃ c value, s.column f = .ok c
    ∧ line = "values.put(" ++ s.columnReference f ++ ", " ++ value ++ ")" ++ s.language.terminator
      ++ "\n"
    ∧ s.Carries f f.variableName (Expression.stored? s.language c f.variableName) value

/-- The item is the value of the variable of the field. A key that the database chooses is not
converted. -/
def IsArrayItem (s : Scope) (f : Field) (item : String) : Prop :=
  ∃ c value, s.column f = .ok c ∧ item = "\t" ++ value
    ∧ (f.isAutomatic → value = f.variableName)
    ∧ (¬ f.isAutomatic →
      s.Carries f f.variableName (Expression.stored? s.language c f.variableName) value)

/-- The line gives the value of the variable of the field to the copy. -/
def IsCopy (s : Scope) (f : Field) (line : String) : Prop :=
  match s.language with
  | .kotlin => ∃ c value, s.column f = .ok c
    ∧ line = "copy." ++ f.variableName ++ " = " ++ value ++ "\n"
    ∧ value = Expression.copied c f.variableName ∧ Mentions f.variableName value
  | .java =>
    line = "copy." ++ ("set" ++ Naming.upperFirst f.variableName) ++ "(" ++ f.variableName ++ ");\n"

/-- Constants and base record of an entity have their columns in the order of the fields, each with
an item of its own. -/
structure ColumnsInOrder (s : Scope) (constants record : SourceClass) : Prop where
  allColumns : constants.constantValues "ALL_COLUMNS" =
    [s.language.arrayOf (s.entity.fields.map (·.columnConstant))]
  allColumnsFull : constants.constantValues "ALL_COLUMNS_FULL" =
    [s.language.arrayOf (s.entity.fields.map (·.fullColumnConstant))]
  readers : List.Forall₂ s.IsReader s.entity.fields constants.functionTexts
  properties : record.typedNames.map (·.1) = s.entity.fields.map (·.variableName)
  values : ∃ items, record.bodies "getValues" [] = [s.language.arrayBody items]
    ∧ List.Forall₂ s.IsArrayItem s.entity.fields items
  copies : ∃ lines, record.bodies "copy" [] = [s.copyBody lines]
    ∧ List.Forall₂ s.IsCopy s.entity.fields lines
  fromCursor : ∃ lines, record.bodies "setContent" ["cursor"] = [Text.concat lines]
    ∧ List.Forall₂ (s.IsAssignment (Expression.fromCursor? s.language)) s.entity.fields lines
  /-- Only the fields that are written are put into content values. -/
  contentValues : ∃ lines, record.bodies "getContentValues" ["values"] = [Text.concat lines]
    ∧ List.Forall₂ s.IsPut s.entity.written lines
  /-- They are taken out of them in the same order. -/
  fromValues : ∃ lines, record.bodies "setContent" ["values"] = [Text.concat lines]
    ∧ List.Forall₂ (s.IsAssignment (Expression.fromValues? s.language)) s.entity.written lines

variable {c : Column} {l : Language}

/-- The mark of a type is one expression. -/
theorem single_unhandled (type : ColumnType) :
    '\n' ∉ (unhandled type).toList ∧ ';' ∉ (unhandled type).toList := by
  cases type <;> decide

/-- What is read out of a cursor, within the base record and under the name that the column has
elsewhere. -/
theorem isRead_fromCursor (h : s.column f = .ok c) {named : Column} (hfield : named.field = f)
    (hnone : ∀ constant, named.fromCursor? l constant = none ↔ c.fromCursor? l constant = none)
    (constant : String) :
    s.IsRead f constant (Expression.fromCursor? l named (.reference constant))
      (named.fromCursor l constant) := by
  constructor
  case carries =>
    intro hsmall
    have hread := Expression.fromCursor?_eq id l named (.reference constant)
    rw [← hread]
    refine carries_readText hfield ?_ fun _ => Column.mentions_fromCursor?
    rw [Snippet.text_reference, id, hnone, Column.fromCursor?_eq_none_iff,
      fromValues?_none_iff_covers h hsmall]
  case single =>
    intro hbig
    have hunread : named.fromCursor? l constant = none := by
      rw [hnone, Column.fromCursor?_eq_none_iff, fromValues?_eq_none_iff h]
      exact .inr hbig
    rw [Column.fromCursor, hunread]
    exact single_unhandled _

theorem isRead_fromValues (h : s.column f = .ok c) (constant : String) :
    s.IsRead f constant (Expression.fromValues? l c (.reference constant))
      (c.fromValues l constant) := by
  constructor
  case carries =>
    intro hsmall
    have hread := Expression.fromValues?_eq id l c (.reference constant)
    rw [← hread]
    exact carries_readText (field_of_column h) (fromValues?_none_iff_covers h hsmall constant)
      fun _ => Column.mentions_fromValues?
  case single =>
    intro hbig
    have hunread : c.fromValues? l constant = none := by
      rw [fromValues?_eq_none_iff h]
      exact .inr hbig
    rw [Column.fromValues, hunread]
    exact single_unhandled _

theorem isReader_of_column (h : s.column f = .ok c) :
    s.IsReader f
      { name := (c.qualified s.baseRecordName).getterName s.language
        parameters := [("cursor", "Cursor")]
        result := (c.qualified s.baseRecordName).typeName s.language
        content := "return "
          ++ (c.qualified s.baseRecordName).fromCursor s.language
            (c.qualified s.baseRecordName).constant
          ++ s.language.terminator } := by
  have hfield : (c.qualified s.baseRecordName).field = f := by
    rw [Column.field_qualified, field_of_column h]
  constructor
  case name =>
    simp only [Column.getterName, Column.variableName, hfield]
    split
    · exact .inr rfl
    · exact .inl rfl
  case parameters => rfl
  case content =>
    have hconstant : (c.qualified s.baseRecordName).constant = f.columnConstant := by
      rw [Column.constant, hfield, Field.columnConstant]
    rw [hconstant]
    exact ⟨c, _, h, rfl, isRead_fromCursor h hfield
      (fun constant => c.fromCursor?_qualified_eq_none_iff _ _ constant) _⟩

theorem isArrayItem_of_column (h : s.column f = .ok c) :
    s.IsArrayItem f ("\t" ++ Resolved.arrayItem s.language c) := by
  have hfield : c.field = f := field_of_column h
  have hautomatic : c.isAutomatic = f.isAutomatic := by
    rw [Column.isAutomatic, Column.isKey, hfield, Field.isAutomatic]
  refine ⟨c, _, h, rfl, ?_, ?_⟩
  · intro hf
    rw [Resolved.arrayItem, hautomatic, if_pos hf, Column.variableName, hfield]
  · intro hf
    rw [Resolved.arrayItem, hautomatic, if_neg hf]
    exact carries_storedValue h

theorem isCopy_of_column (h : s.column f = .ok c) :
    s.IsCopy f (Resolved.copyColumn s.language c) := by
  have hname : f.variableName = c.variableName := by rw [Column.variableName, field_of_column h]
  unfold IsCopy Resolved.copyColumn
  rw [hname]
  cases s.language with
  | kotlin =>
    refine ⟨c, c.copied, h, ?_, Expression.copied_eq c, Column.mentions_copied c⟩
    rw [Language.line, Language.terminator, String.append_empty]
  | java =>
    dsimp only
    rw [JavaVariable.setterName, Column.name_javaVariable, Language.line, Language.terminator,
      String.append_assoc, String.append_assoc]
    rfl

end Scope

namespace Resolved

variable {s : Scope} {r : Resolved}

/-- The arrays of constants have names that no other constant has, whatever the columns are called.
-/
theorem filter_constants_arrays {name : String} (h : name ∈ ["ALL_COLUMNS", "ALL_COLUMNS_FULL"]) :
    r.constants.filter (·.name = name) =
      [Constant.mk "ALL_COLUMNS" (.list (r.columns.map (·.constant))),
        ⟨"ALL_COLUMNS_FULL", .list (r.columns.map (·.fullConstant))⟩].filter (·.name = name) := by
  simp only [List.mem_cons, List.not_mem_nil, or_false] at h
  have hcolumns : r.columnConstants.filter (·.name = name) = [] := by
    apply filter_columnConstants
    rcases h with rfl | rfl <;> decide
  simp only [constants, List.filter_append, hcolumns]
  -- which other constants there are depends on the kind of the entity and on its key
  cases hkey : r.key? <;> cases hkind : r.entity.kind <;> rcases h with rfl | rfl <;>
    simp [tableConstants, keyConstants, statementConstants, Entity.isTable, hkey, hkind]

/-- A column is read and written under the constant of its field. -/
theorem columnReference_eq {f : Field} {c : Column} (h : c.field = f) :
    r.columnReference c = r.toScope.columnReference f := by
  rw [← h]
  rfl

theorem columnsInOrder (h : s.resolve = .ok r) (hrecords : s.entity.isEnumeration = false) :
    s.ColumnsInOrder r.constantsSource r.baseRecordSource := by
  obtain ⟨rfl, hcolumns, -⟩ := Scope.resolve_eq_ok_iff.1 h
  have hfields : r.columns.map (·.field) = r.entity.fields := Scope.map_field_of_mapM hcolumns
  have hplaces := mapM_eq_ok_iff.1 hcolumns
  have hwritten := mapM_eq_ok_iff.1 (mapM_column_written h)
  obtain ⟨hvalues, hcopy, hcursor, hput, htaken⟩ := r.bodies_baseRecordSource
  constructor
  case allColumns =>
    have harray : r.columns.map (·.constant) = r.entity.fields.map (·.columnConstant) := by
      rw [← hfields, List.map_map]
      rfl
    rw [constantValues_eq, filter_constants_arrays (by decide), ← harray]
    simp [Constant.expression_list]
  case allColumnsFull =>
    have harray : r.columns.map (·.fullConstant) =
        r.entity.fields.map (·.fullColumnConstant) := by
      rw [← hfields, List.map_map]
      exact List.map_congr_left fun c _ => c.fullConstant_eq
    rw [constantValues_eq, filter_constants_arrays (by decide), ← harray]
    simp [Constant.expression_list]
  case readers =>
    rw [functionTexts_constantsSource hrecords, List.map_map, List.forall₂_map_right_iff]
    exact hplaces.imp fun f c hc => Scope.isReader_of_column hc
  case properties =>
    rw [typedNames_baseRecordSource, List.map_map, ← hfields, List.map_map]
    rfl
  case values =>
    refine ⟨r.columns.map fun c => "\t" ++ arrayItem r.language c, hvalues, ?_⟩
    rw [List.forall₂_map_right_iff]
    exact hplaces.imp fun f c hc => Scope.isArrayItem_of_column hc
  case copies =>
    refine ⟨r.columns.map (copyColumn r.language), ?_, ?_⟩
    · rw [hcopy]
      rfl
    · rw [List.forall₂_map_right_iff]
      exact hplaces.imp fun f c hc => Scope.isCopy_of_column hc
  case fromCursor =>
    refine ⟨_, hcursor, ?_⟩
    rw [List.forall₂_map_right_iff]
    refine hplaces.imp fun f c hc => ?_
    have hfield : c.field = f := Scope.field_of_column hc
    rw [columnReference_eq hfield, Column.variableName, hfield]
    exact ⟨c, _, hc, rfl, Scope.isRead_fromCursor hc hfield (fun _ => Iff.rfl) _⟩
  case contentValues =>
    refine ⟨_, hput, ?_⟩
    rw [List.forall₂_map_right_iff]
    refine hwritten.imp fun f c hc => ?_
    rw [columnReference_eq (Scope.field_of_column hc)]
    exact ⟨c, _, hc, rfl, Scope.carries_storedValue hc⟩
  case fromValues =>
    refine ⟨_, htaken, ?_⟩
    rw [List.forall₂_map_right_iff]
    refine hwritten.imp fun f c hc => ?_
    have hfield : c.field = f := Scope.field_of_column hc
    rw [columnReference_eq hfield, Column.variableName, hfield]
    exact ⟨c, _, hc, rfl, Scope.isRead_fromValues hc _⟩

end Resolved

/-- Whenever sources are generated for an entity with records, its constants and its base record
have the columns in the order of the fields, in either language: the arrays of constants, the
functions that read a cursor, the properties, the array of values, the copy and what is taken out of
a cursor have one item for each field, and what is put into content values and taken out of them one
for each field that is written. -/
theorem Scope.columns_in_order {s : Scope} {as : List Artifact} (h : s.artifacts = .ok as)
    (hrecords : s.entity.isEnumeration = false) :
    ∃ (constants record : SourceClass) (others : List Artifact),
      as = ⟨s.directory, .overwrite, constants⟩ :: ⟨s.directory, .overwrite, record⟩ :: others
      ∧ constants.fileName = s.constantsName ++ "." ++ s.language.extension
      ∧ record.fileName = s.baseRecordName ++ "." ++ s.language.extension
      ∧ s.ColumnsInOrder constants record := by
  obtain ⟨r, hresolve, -, rfl⟩ := Scope.artifacts_eq_ok_iff.1 h
  have hordered := Resolved.columnsInOrder hresolve hrecords
  obtain ⟨rfl, -, -⟩ := Scope.resolve_eq_ok_iff.1 hresolve
  exact ⟨r.constantsSource, r.baseRecordSource, _, Resolved.artifacts_eq hrecords,
    Resolved.fileName_constantsSource, Resolved.fileName_baseRecordSource, hordered⟩

/-- The columns of a table with a key that the database chooses, all in one list and two of them in
another. -/
theorem Scope.columns_in_order_personTable :
    ∃ (constants record : SourceClass) (others : List Artifact),
      (Scope.mk { package := "org", created := "today" }
          { name := "main", tables := [personTable] } personTable).artifacts =
        .ok (⟨"person", .overwrite, constants⟩ :: ⟨"person", .overwrite, record⟩ :: others)
      ∧ constants.fileName = "PersonConst.kt"
      ∧ record.fileName = "PersonBaseRecord.kt"
      ∧ constants.constantValues "ALL_COLUMNS" = ["arrayOf(C_ID, C_NAME, C_AGE)"]
      ∧ record.typedNames.map (·.1) = ["id", "name", "age"]
      ∧ record.bodies "getContentValues" ["values"] =
          ["values.put(PersonConst.C_NAME, name)\n"
            ++ "values.put(PersonConst.C_AGE, age?.toLong())\n"] := by
  let s : Scope := .mk { package := "org", created := "today" }
    { name := "main", tables := [personTable] } personTable
  have hgenerable : personTable.Generable :=
    Entity.generable_of_plain (by decide) (by decide) (by decide)
  obtain ⟨as, has⟩ : ∃ as, s.artifacts = .ok as := Scope.exists_artifacts_iff.2 hgenerable
  obtain ⟨constants, record, others, rfl, hconstants, hrecord, hordered⟩ :=
    Scope.columns_in_order has (by decide)
  have hdirectory : s.directory = "person" := by decide
  rw [hdirectory] at has
  obtain ⟨lines, hbody, hlines⟩ := hordered.contentValues
  let nameField : Field := { name := "NAME", type := .varchar, notNull := true }
  let ageField : Field := { name := "AGE", type := .integer }
  have hwritten : s.entity.written = [nameField, ageField] := by decide
  have hname : s.column nameField = .ok ⟨nameField, .plain⟩ := by decide
  have hage : s.column ageField = .ok ⟨ageField, .plain⟩ := by decide
  rw [hwritten] at hlines
  obtain ⟨_, _, ⟨c, name, hc, rfl, hnamed⟩, hrest, rfl⟩ := List.forall₂_cons_left_iff.1 hlines
  obtain ⟨_, _, ⟨d, age, hd, rfl, haged⟩, hnone, rfl⟩ := List.forall₂_cons_left_iff.1 hrest
  obtain rfl := List.forall₂_nil_left_iff.1 hnone
  obtain rfl : _ = c := Except.ok.inj (hname.symm.trans hc)
  obtain rfl : _ = d := Except.ok.inj (hage.symm.trans hd)
  obtain rfl : "name" = name := by
    have hstored : Expression.stored? s.language ⟨nameField, .plain⟩ nameField.variableName =
      some "name" := by decide
    have hcovers : s.Covers nameField := .inr (by decide)
    exact Option.some.inj (hstored.symm.trans (hnamed.covered hcovers).1)
  obtain rfl : "age?.toLong()" = age := by
    have hstored : Expression.stored? s.language ⟨ageField, .plain⟩ ageField.variableName =
      some "age?.toLong()" := by decide
    have hcovers : s.Covers ageField := .inr (by decide)
    exact Option.some.inj (hstored.symm.trans (haged.covered hcovers).1)
  refine ⟨constants, record, others, has, ?_, ?_, ?_, ?_, ?_⟩
  · rw [hconstants]
    decide
  · rw [hrecord]
    decide
  · rw [hordered.allColumns]
    decide
  · rw [hordered.properties]
    decide
  · rw [hbody]
    decide

/-- A table with a column of money, for which there is no rule. -/
def offerTable : Entity :=
  { kind := .table, name := "OFFER", fields := [{ name := "PRICE", type := .money }] }

/-- The column is taken out of content values without its constant. -/
theorem Scope.constant_unread_offerTable :
    ∃ (constants record : SourceClass) (others : List Artifact),
      (Scope.mk { package := "org", created := "today" }
          { name := "main", tables := [offerTable] } offerTable).artifacts =
        .ok (⟨"offer", .overwrite, constants⟩ :: ⟨"offer", .overwrite, record⟩ :: others)
      ∧ offerTable.isEnumeration = false
      ∧ offerTable.written.map (·.columnConstant) = ["C_PRICE"]
      ∧ record.bodies "setContent" ["values"] =
          ["price = [[UNHANDLED FIELD TYPE: MONEY]]\n"]
      ∧ ¬ Mentions "OfferConst.C_PRICE" "price = [[UNHANDLED FIELD TYPE: MONEY]]\n" := by
  let s : Scope := .mk { package := "org", created := "today" }
    { name := "main", tables := [offerTable] } offerTable
  let r : Resolved := { toScope := s, columns := [⟨{ name := "PRICE", type := .money }, .plain⟩] }
  have hrecords : offerTable.isEnumeration = false := by decide
  have hresolve : s.resolve = .ok r := by decide
  have hartifacts : s.artifacts = .ok r.artifacts :=
    Scope.artifacts_eq_ok_iff.2 ⟨r, hresolve, by decide, rfl⟩
  have hdirectory : r.directory = "offer" := by decide
  rw [Resolved.artifacts_eq hrecords, hdirectory] at hartifacts
  obtain ⟨-, -, -, -, htaken⟩ := r.bodies_baseRecordSource
  refine ⟨r.constantsSource, r.baseRecordSource, _, hartifacts, hrecords, by decide, ?_, ?_⟩
  · rw [htaken]
    decide
  · intro hmentioned
    exact absurd hmentioned.isInfix (by decide)

end SchemaForge
