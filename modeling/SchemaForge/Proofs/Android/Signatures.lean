import Mathlib.Data.List.Nodup
import SchemaForge.Proofs.Android.Constants
import SchemaForge.Proofs.Android.References
import SchemaForge.Proofs.Text.LetterCase

namespace SchemaForge

/-! # Signatures of generated functions

The functions of one class are told apart by their names and the types of their parameters. The
names of those that read and set a column are made from its variable, whose first character becomes
a capital. Constants keep the variables of a valid entity apart, but not what becomes of them: two
variables can differ in that character alone. And the base record has methods of its own, whose
names a variable can lead to as well.
-/

/-! ## Capitals -/

namespace Naming

/-- Names that differ in their first characters, and no longer when these are capitals. -/
def DifferInCapital (v w : String) : Prop :=
  ∃ (c d : Char) (cs ds : List Char), v = String.ofList (c :: cs) ∧ w = String.ofList (d :: ds)
    ∧ c ≠ d ∧ Chars.upperChar c ++ cs = Chars.upperChar d ++ ds

theorem DifferInCapital.ne {v w : String} (h : DifferInCapital v w) : v ≠ w := by
  obtain ⟨c, d, cs, ds, rfl, rfl, hne, -⟩ := h
  intro hsame
  exact hne (List.cons_eq_cons.1 (String.ofList_injective hsame)).1

theorem exists_eq_ofList_cons {v : String} (h : v ≠ "") :
    ∃ (c : Char) (cs : List Char), v = String.ofList (c :: cs) := by
  obtain ⟨c, cs, hcs⟩ := List.exists_cons_of_ne_nil (mt String.toList_eq_nil_iff.1 h)
  exact ⟨c, cs, by rw [← hcs, String.ofList_toList]⟩

theorem upperFirst_ofList_cons (c : Char) (cs : List Char) :
    upperFirst (String.ofList (c :: cs)) = String.ofList (Chars.upperChar c ++ cs) := by
  simp [upperFirst]

theorem upperFirst_eq_empty_iff {v : String} : upperFirst v = "" ↔ v = "" := by
  constructor
  · intro h
    by_contra hne
    obtain ⟨c, cs, rfl⟩ := exists_eq_ofList_cons hne
    rw [upperFirst_ofList_cons, String.ofList_eq_empty_iff, List.append_eq_nil_iff] at h
    exact Chars.keepsMarks_upper.mapChar_ne_nil h.1
  · rintro rfl
    rfl

/-- Names that begin with a capital are the same when they were, or when only the capital was
missing. -/
theorem upperFirst_eq_iff {v w : String} :
    upperFirst v = upperFirst w ↔ v = w ∨ DifferInCapital v w := by
  constructor
  · intro h
    by_cases hv : v = ""
    · subst hv
      exact .inl (upperFirst_eq_empty_iff.1 h.symm).symm
    by_cases hw : w = ""
    · subst hw
      exact .inl (upperFirst_eq_empty_iff.1 h)
    obtain ⟨c, cs, rfl⟩ := exists_eq_ofList_cons hv
    obtain ⟨d, ds, rfl⟩ := exists_eq_ofList_cons hw
    rw [upperFirst_ofList_cons, upperFirst_ofList_cons] at h
    have hcapital := String.ofList_injective h
    by_cases hcd : c = d
    · subst hcd
      rw [List.append_cancel_left hcapital]
      exact .inl rfl
    · exact .inr ⟨c, d, cs, ds, rfl, rfl, hcd, hcapital⟩
  · rintro (rfl | ⟨c, d, cs, ds, rfl, rfl, -, hcapital⟩)
    · rfl
    · rw [upperFirst_ofList_cons, upperFirst_ofList_cons, hcapital]

end Naming

/-! ## Functions -/

/-- The name of a function and the types of its parameters. -/
abbrev CallSignature := String × List String

/-- A function of a class. -/
structure FunctionText where
  name : String
  /-- The names of the parameters with their types. -/
  parameters : List (String × String)
  result : String
  content : String
deriving DecidableEq

def FunctionText.signature (t : FunctionText) : CallSignature :=
  (t.name, t.parameters.map fun p => Text.trim p.2)

def KotlinFunction.functionText (f : KotlinFunction) : FunctionText :=
  ⟨f.name, f.parameters.map fun p => (p.name, p.type), f.result, f.content⟩

def JavaMethod.functionText (m : JavaMethod) : FunctionText :=
  ⟨m.name, m.parameters.map fun p => (p.name, p.type), m.result, m.content⟩

namespace SourceClass

/-- The functions of a class, but for those that read and set its fields. -/
def functionTexts : SourceClass → List FunctionText
  | kotlin c => c.functions.map (·.functionText)
  | java c => c.methods.map (·.functionText)

/-- The methods that read and set the fields of a class. -/
def accessorTexts : SourceClass → List FunctionText
  | kotlin _ => []
  | java c => (c.fields.flatMap (·.accessors)).map (·.functionText)

/-- The signatures of all functions of a class. -/
def signatures (c : SourceClass) : List CallSignature :=
  (c.functionTexts ++ c.accessorTexts).map (·.signature)

end SourceClass

namespace Column

/-- Whether the functions of a column are named as those of a truth value. -/
def isTruth (l : Language) (c : Column) : Bool :=
  match l with
  | .kotlin => Text.dropEndChar '?' (c.typeName .kotlin) = "Boolean"
  | .java => Text.trim (c.typeName .java) = "boolean" ∨ Text.trim (c.typeName .java) = "Boolean"

/-- The name of the function that reads a column. -/
def getterName (l : Language) (c : Column) : String :=
  (if c.isTruth l then "is" else "get") ++ Naming.upperFirst c.variableName

/-- The name of the function that sets a column. -/
def setterName (c : Column) : String :=
  "set" ++ Naming.upperFirst c.variableName

@[simp] theorem field_qualified (owner : String) (c : Column) :
    (c.qualified owner).field = c.field := by
  unfold qualified
  split <;> rfl

theorem getterName_kotlinProperty (c : Column) :
    c.kotlinProperty.getterName = c.getterName .kotlin := by
  have htruth : c.isTruth .kotlin = true ↔
      Text.dropEndChar '?' (c.typeName .kotlin) = "Boolean" := by
    simp [isTruth]
  exact congrArg (· ++ Naming.upperFirst c.variableName) (if_congr htruth rfl rfl).symm

@[simp] theorem name_javaVariable (annotated : Bool) (c : Column) :
    (c.javaVariable annotated).name = c.variableName := by
  simp only [javaVariable, JavaVariable.withNullability]
  split_ifs <;> rfl

@[simp] theorem type_javaVariable (annotated : Bool) (c : Column) :
    (c.javaVariable annotated).type = c.typeName .java := by
  simp only [javaVariable, JavaVariable.withNullability]
  split_ifs <;> rfl

theorem getterName_javaVariable (annotated : Bool) (c : Column) :
    (c.javaVariable annotated).getterName = c.getterName .java := by
  simp [JavaVariable.getterName, getterName, isTruth]

/-- The signatures of the methods that read and set a column. -/
def accessorSignatures (c : Column) : List CallSignature :=
  [(c.getterName .java, []), (c.setterName, [Text.trim (c.typeName .java)])]

theorem signatures_javaVariable (annotated : Bool) (c : Column) :
    (c.javaVariable annotated).accessors.map (·.functionText.signature) = c.accessorSignatures := by
  have hasked : (c.javaVariable annotated).hasGetter = true
      ∧ (c.javaVariable annotated).hasSetter = true
      ∧ (c.javaVariable annotated).isFinal = false := by
    simp only [javaVariable, JavaVariable.withNullability]
    split_ifs <;> exact ⟨rfl, rfl, rfl⟩
  obtain ⟨hgetter, hsetter, hfinal⟩ := hasked
  simp [JavaVariable.accessors, hgetter, hsetter, hfinal, accessorSignatures,
    JavaMethod.functionText, FunctionText.signature, JavaVariable.getter, JavaVariable.setter,
    getterName_javaVariable, JavaVariable.setterName, setterName, Text.trim_trim]

end Column

/-! ## Functions that read a cursor -/

/-- Two columns whose variables differ in their first character are read by functions of one name.
-/
def GettersClash (l : Language) (columns : List Column) : Prop :=
  ∃ c ∈ columns, ∃ d ∈ columns,
    c.isTruth l = d.isTruth l ∧ Naming.DifferInCapital c.variableName d.variableName

namespace Column

variable {l : Language} {c d : Column}

theorem getterName_eq_iff : c.getterName l = d.getterName l ↔
    c.isTruth l = d.isTruth l
      ∧ Naming.upperFirst c.variableName = Naming.upperFirst d.variableName := by
  -- what stands before the variable is told apart by its first letter
  have hapart : ∀ v w : String, "is" ++ v ≠ "get" ++ w := by
    intro v w hsame
    have hchars := congrArg String.toList hsame
    simp at hchars
  unfold getterName
  cases hc : c.isTruth l <;> cases hd : d.isTruth l
  · simp
  · simpa using (hapart _ _).symm
  · simpa using hapart _ _
  · simp

end Column

/-- Columns with different variables are read by different functions, unless two of them clash. -/
theorem nodup_getterNames_iff {l : Language} {columns : List Column}
    (hvariables : (columns.map (·.variableName)).Nodup) :
    (columns.map (·.getterName l)).Nodup ↔ ¬ GettersClash l columns := by
  constructor
  · rintro hnames ⟨c, hc, d, hd, htruth, hcapital⟩
    have hsame : c.getterName l = d.getterName l :=
      Column.getterName_eq_iff.2 ⟨htruth, Naming.upperFirst_eq_iff.2 (.inr hcapital)⟩
    obtain rfl : c = d := List.inj_on_of_nodup_map hnames hc hd hsame
    exact hcapital.ne rfl
  · intro hclash
    rw [List.Nodup, List.pairwise_map] at hvariables ⊢
    refine hvariables.imp_of_mem fun {c d} hc hd hne hsame => ?_
    obtain ⟨htruth, hcapital⟩ := Column.getterName_eq_iff.1 hsame
    rcases Naming.upperFirst_eq_iff.1 hcapital with heq | hdiffer
    · exact hne heq
    · exact hclash ⟨c, hc, d, hd, htruth, hdiffer⟩

/-! ## Methods of base records -/

/-- The signatures of the methods that every base record has in Java. -/
def recordSignatures : List CallSignature :=
  [("getIdColumnName", []), ("getPrimaryKeyId", []), ("setPrimaryKeyId", ["long"]),
    ("getAllColumns", []), ("getAllColumnsFull", []),
    ("getContentValues", ["DBToolsContentValues<?>"]), ("getValues", []), ("copy", []),
    ("bindInsertStatement", ["StatementWrapper"]), ("bindUpdateStatement", ["StatementWrapper"]),
    ("setContent", ["DBToolsContentValues<?>"]), ("setContent", ["Cursor"]), ("isNewRecord", [])]

theorem nodup_recordSignatures : recordSignatures.Nodup := by
  decide

theorem Resolved.signatures_javaRecordMethods (r : Resolved) :
    r.javaRecordMethods.map (·.functionText.signature) = recordSignatures := by
  have htypes : ["long", "DBToolsContentValues<?>", "StatementWrapper", "Cursor"].map Text.trim =
      ["long", "DBToolsContentValues<?>", "StatementWrapper", "Cursor"] := by decide
  simp only [List.map_cons, List.map_nil, List.cons_eq_cons, and_true] at htypes
  obtain ⟨hlong, hvalues, hstatement, hcursor⟩ := htypes
  simp [javaRecordMethods, overriding, JavaMethod.functionText, FunctionText.signature,
    recordSignatures, hlong, hvalues, hstatement, hcursor]

/-- A column of which the methods that read and set it are those of the base record: because of its
variable, or because of its variable and its type. -/
def Column.TakesMethod (c : Column) : Prop :=
  c.isTruth .java = false ∧ Naming.upperFirst c.variableName ∈
      ["IdColumnName", "PrimaryKeyId", "AllColumns", "AllColumnsFull", "Values"]
    ∨ c.isTruth .java = true ∧ Naming.upperFirst c.variableName = "NewRecord"
    ∨ Naming.upperFirst c.variableName = "Content"
      ∧ Text.trim (c.typeName .java) ∈ ["DBToolsContentValues<?>", "Cursor"]

namespace Column

variable {c d : Column}

theorem getter_mem_recordSignatures_iff :
    (c.getterName .java, []) ∈ recordSignatures ↔
      c.isTruth .java = false ∧ Naming.upperFirst c.variableName ∈
          ["IdColumnName", "PrimaryKeyId", "AllColumns", "AllColumnsFull", "Values"]
        ∨ c.isTruth .java = true ∧ Naming.upperFirst c.variableName = "NewRecord" := by
  unfold getterName
  cases c.isTruth .java <;> simp [recordSignatures, ← String.toList_inj]

theorem setter_mem_recordSignatures_iff {type : String} :
    (c.setterName, [type]) ∈ recordSignatures ↔
      Naming.upperFirst c.variableName = "PrimaryKeyId" ∧ type = "long"
        ∨ Naming.upperFirst c.variableName = "Content"
          ∧ type ∈ ["DBToolsContentValues<?>", "Cursor"] := by
  unfold setterName
  simp [recordSignatures, ← String.toList_inj, and_or_left]

theorem isTruth_congr (h : Text.trim (c.typeName .java) = Text.trim (d.typeName .java)) :
    c.isTruth .java = d.isTruth .java := by
  unfold isTruth
  simp only [h]

/-- A column takes a method of the base record when one of its own has the same signature. -/
theorem takesMethod_iff :
    c.TakesMethod ↔ ∃ signature ∈ c.accessorSignatures, signature ∈ recordSignatures := by
  simp only [accessorSignatures, List.mem_cons, List.not_mem_nil, or_false, exists_eq_or_imp,
    exists_eq_left, getter_mem_recordSignatures_iff, setter_mem_recordSignatures_iff, TakesMethod]
  constructor
  · rintro (hplain | htruth | hcontent)
    · exact .inl (.inl hplain)
    · exact .inl (.inr htruth)
    · exact .inr (.inr hcontent)
  · rintro ((hplain | htruth) | ⟨hname, htype⟩ | hcontent)
    · exact .inl hplain
    · exact .inr (.inl htruth)
    · -- not only the method that sets such a column is taken, but also the one that reads it
      have hlong : c.isTruth .java = false := by
        simp [isTruth, htype]
      exact .inl ⟨hlong, by simp [hname]⟩
    · exact .inr (.inr hcontent)

/-- Where two columns have a method in common, it can be the one that reads them. -/
theorem disjoint_accessorSignatures_iff :
    List.Disjoint c.accessorSignatures d.accessorSignatures ↔
      c.getterName .java ≠ d.getterName .java := by
  constructor
  · intro hdisjoint hsame
    refine hdisjoint (a := (c.getterName .java, [])) ?_ ?_
    · simp [accessorSignatures]
    · simp [accessorSignatures, hsame]
  · intro hne
    -- methods that set two columns have the types of these, which decide what reads them as well
    have hsetters : c.setterName = d.setterName →
        Text.trim (c.typeName .java) ≠ Text.trim (d.typeName .java) := by
      intro hname htype
      have hcapital : Naming.upperFirst c.variableName = Naming.upperFirst d.variableName :=
        (String.append_right_inj _).1 hname
      exact hne (getterName_eq_iff.2 ⟨isTruth_congr htype, hcapital⟩)
    simp only [accessorSignatures, List.disjoint_cons_left, List.disjoint_nil_left, List.mem_cons,
      Prod.mk.injEq, List.cons_ne_nil, List.nil_eq, List.not_mem_nil, or_false, and_false, and_true,
      List.cons.injEq, false_or, not_and]
    exact ⟨hne, hsetters⟩

end Column

/-- The methods that read and set columns with different variables are apart, unless two of those
that read them clash. -/
theorem nodup_accessorSignatures_iff {columns : List Column}
    (hvariables : (columns.map (·.variableName)).Nodup) :
    (columns.flatMap (·.accessorSignatures)).Nodup ↔ ¬ GettersClash .java columns := by
  have hpair : ∀ c ∈ columns, c.accessorSignatures.Nodup := by
    intro c _
    simp [Column.accessorSignatures]
  have hblocks : columns.Pairwise (Function.onFun List.Disjoint Column.accessorSignatures) ↔
      (columns.map (·.getterName .java)).Nodup := by
    rw [List.Nodup, List.pairwise_map]
    exact List.Pairwise.iff fun {c d} => Column.disjoint_accessorSignatures_iff
  rw [← nodup_getterNames_iff hvariables, List.nodup_flatMap, ← hblocks]
  exact and_iff_right hpair

namespace Resolved

variable {s : Scope} {r : Resolved}

/-- The constants have a function for every column, which reads it out of a cursor. The columns have
the names that they have outside the base record. -/
theorem functionTexts_constantsSource (h : r.entity.isEnumeration = false) :
    r.constantsSource.functionTexts =
      (r.columns.map (·.qualified r.baseRecordName)).map fun c =>
        { name := c.getterName r.language, parameters := [("cursor", "Cursor")]
          result := c.typeName r.language
          content :=
            "return " ++ c.fromCursor r.language c.constant ++ r.language.terminator } := by
  unfold constantsSource
  cases r.language with
  | kotlin =>
    simp [SourceClass.functionTexts, kotlinConstants, readColumns, h, kotlinReader,
      KotlinFunction.functionText, KotlinProperty.parameter, Column.getterName_kotlinProperty,
      Language.terminator, Function.comp_def]
  | java =>
    simp [SourceClass.functionTexts, javaConstants, readColumns, h, javaReader,
      JavaMethod.functionText, Column.getterName_javaVariable, Language.terminator,
      Function.comp_def]

/-- A base record in Java has its own methods, and those of its columns behind them. -/
theorem signatures_baseRecordSource (h : r.language = .java) :
    r.baseRecordSource.signatures =
      recordSignatures ++ r.columns.flatMap (·.accessorSignatures) := by
  simp only [baseRecordSource, h, SourceClass.signatures, SourceClass.functionTexts,
    SourceClass.accessorTexts, javaBaseRecord, List.map_append, List.map_map, Function.comp_def,
    signatures_javaRecordMethods, List.map_flatMap, List.flatMap_map,
    Column.signatures_javaVariable]

/-- The columns of a valid entity have different variables. -/
theorem nodup_variableNames (h : s.resolve = .ok r) (hvalid : s.entity.validate = .ok ()) :
    (r.columns.map (·.variableName)).Nodup := by
  have hconstants := Entity.nodup_constantNames_of_validate hvalid
  rw [← Scope.map_field_of_mapM (Scope.resolve_eq_ok_iff.1 h).2.1, List.map_map] at hconstants
  have hmap : r.columns.map ((·.constantName) ∘ (·.field)) =
      (r.columns.map (·.variableName)).map Naming.constantName := by
    rw [List.map_map]
    rfl
  rw [hmap] at hconstants
  exact hconstants.of_map

end Resolved

/-- Whenever sources are generated for a valid entity with records, the functions that read its
columns have different names, unless the variables of two columns differ only in a capital at their
beginning. In Java the methods of the base record have different signatures, unless that is so or
one of them is taken by a column. -/
theorem Scope.signatures_distinct_iff {s : Scope} {as : List Artifact}
    (hvalid : s.entity.validate = .ok ()) (h : s.artifacts = .ok as)
    (hrecords : s.entity.isEnumeration = false) :
    ∃ (columns : List Column) (constants record : SourceClass) (others : List Artifact),
      s.entity.fields.mapM s.column = .ok columns ∧ columns.map (·.field) = s.entity.fields
      ∧ as = ⟨s.directory, .overwrite, constants⟩ :: ⟨s.directory, .overwrite, record⟩ :: others
      ∧ constants.fileName = s.constantsName ++ "." ++ s.language.extension
      ∧ record.fileName = s.baseRecordName ++ "." ++ s.language.extension
      ∧ ((constants.functionTexts.map (·.name)).Nodup ↔
        ¬ GettersClash s.language (columns.map (·.qualified s.baseRecordName)))
      ∧ (s.language = .java → (record.signatures.Nodup ↔
        ¬ GettersClash .java columns ∧ ∀ c ∈ columns, ¬ c.TakesMethod)) := by
  obtain ⟨r, hresolve, -, rfl⟩ := Scope.artifacts_eq_ok_iff.1 h
  obtain ⟨rfl, hcolumns, -⟩ := Scope.resolve_eq_ok_iff.1 hresolve
  have hvariables := Resolved.nodup_variableNames hresolve hvalid
  refine ⟨r.columns, r.constantsSource, r.baseRecordSource, _, hcolumns,
    Scope.map_field_of_mapM hcolumns, Resolved.artifacts_eq hrecords,
    Resolved.fileName_constantsSource, Resolved.fileName_baseRecordSource, ?_, fun hjava => ?_⟩
  · have hqualified : ((r.columns.map (·.qualified r.baseRecordName)).map
        (·.variableName)).Nodup := by
      simpa [Column.variableName, Function.comp_def] using hvariables
    rw [Resolved.functionTexts_constantsSource hrecords, List.map_map,
      ← nodup_getterNames_iff hqualified]
    rfl
  · rw [Resolved.signatures_baseRecordSource hjava, List.nodup_append,
      nodup_accessorSignatures_iff hvariables]
    have hown : (∀ own ∈ recordSignatures, ∀ signature ∈ r.columns.flatMap (·.accessorSignatures),
        own ≠ signature) ↔ ∀ c ∈ r.columns, ¬ c.TakesMethod := by
      simp only [Column.takesMethod_iff, List.mem_flatMap]
      constructor
      · rintro hapart c hc ⟨signature, hmem, hown⟩
        exact hapart signature hown signature ⟨c, hc, hmem⟩ rfl
      · rintro hfree own hown _ ⟨c, hc, hmem⟩ rfl
        exact hfree c hc ⟨own, hmem, hown⟩
    rw [hown]
    exact and_iff_right nodup_recordSignatures

/-- A table with two columns that are called alike in the base record, and one that is called like
the key of every record. -/
def pointTable : Entity :=
  { kind := .table, name := "POINT"
    fields := [{ name := "PRIMARY_KEY_ID", type := .bigint, primaryKey := true },
      { name := "X_Y", type := .integer },
      { name := "XY", type := .integer, givenVariable? := some "XY" }] }

/-- Both `xY` and `XY` are read by `getXY`, and the key of every record by what reads the column. -/
theorem Scope.signatures_shared_pointTable :
    ∃ (constants record : SourceClass) (others : List Artifact),
      pointTable.validate = .ok () ∧ pointTable.isEnumeration = false
      ∧ (Scope.mk { package := "org", created := "today", options := { language := .java } }
          { name := "main", tables := [pointTable] } pointTable).artifacts =
        .ok (⟨"point", .overwrite, constants⟩ :: ⟨"point", .overwrite, record⟩ :: others)
      ∧ ¬ (constants.functionTexts.map (·.name)).Nodup
      ∧ ¬ record.signatures.Nodup := by
  let s : Scope := .mk { package := "org", created := "today", options := { language := .java } }
    { name := "main", tables := [pointTable] } pointTable
  have hgenerable : pointTable.Generable :=
    Entity.generable_of_plain (by decide) (by decide) (by decide)
  obtain ⟨as, has⟩ : ∃ as, s.artifacts = .ok as := Scope.exists_artifacts_iff.2 hgenerable
  have hvalid : pointTable.validate = .ok () := by decide
  have hrecords : pointTable.isEnumeration = false := by decide
  obtain ⟨columns, constants, record, others, hcolumns, -, rfl, -, -, hconstants, hrecord⟩ :=
    Scope.signatures_distinct_iff hvalid has hrecords
  have hplain : pointTable.fields.mapM s.column =
      .ok (pointTable.fields.map fun f => ⟨f, .plain⟩) := by decide
  obtain rfl : columns = pointTable.fields.map fun f => ⟨f, .plain⟩ :=
    Except.ok.inj (hcolumns.symm.trans hplain)
  have hdirectory : s.directory = "point" := by decide
  rw [hdirectory] at has
  have hnames : pointTable.fields[1].variableName = "xY"
      ∧ pointTable.fields[2].variableName = "XY" := by decide
  refine ⟨constants, record, others, hvalid, hrecords, has, ?_, ?_⟩
  · rw [hconstants, not_not]
    refine ⟨_, List.mem_map_of_mem (List.mem_map_of_mem (List.getElem_mem (n := 1) (by decide))), _,
      List.mem_map_of_mem (List.mem_map_of_mem (List.getElem_mem (n := 2) (by decide))),
      by decide, 'x', 'X', ['Y'], ['Y'], ?_, ?_, by decide, by decide⟩
    · simp [Column.variableName, hnames]
    · simp [Column.variableName, hnames]
  · rw [hrecord rfl]
    rintro ⟨-, hfree⟩
    refine hfree ⟨pointTable.fields[0], .plain⟩ (List.mem_map_of_mem (by decide)) ?_
    exact .inl (by decide)

end SchemaForge
