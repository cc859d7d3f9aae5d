import SchemaForge.Proofs.Android.Statements

namespace SchemaForge

/-! # Literals of nested enumerations

A field that lists literals has them in an enumeration that is nested in the base record, and its
column holds ordinals of them. The name of the enumeration is that of the referenced table or of the
field, so that several fields of an entity may meet on one name. Then the list of the first field is
declared for all of them, and the ordinals of a field stand for its own literals only when all of
them list the same.
-/

/-! ## Names and literals -/

/-- The name of the enumeration of the column, if the base record declares it. -/
def Column.nestedName? (c : Column) : Option String :=
  c.nestedEnum?.map (·.1)

/-- The lists of literals that the class declares under this name. -/
def SourceClass.enumLiterals (c : SourceClass) (name : String) : List (List String) :=
  match c with
  | .kotlin c => (c.enums.filter (·.name == name)).map (·.values)
  | .java c => (c.enums.filter (·.name == name)).map (·.values)

/-- The class declares one enumeration with the name of each nested one, with the literals that the
field of the column lists. -/
def SourceClass.HasOwnLiterals (record : SourceClass) (columns : List Column) : Prop :=
  ∀ c ∈ columns, ∀ name, c.nestedName? = some name →
    record.enumLiterals name = [c.field.enumValues]

/-- The columns whose enumerations have one name list the same literals. -/
def LiteralsAgree (columns : List Column) : Prop :=
  ∀ c ∈ columns, ∀ other ∈ columns, ∀ name, c.nestedName? = some name →
    other.nestedName? = some name → c.field.enumValues = other.field.enumValues

/-- A nested enumeration has the literals that the field lists. -/
theorem Scope.nestedEnum?_of_column {s : Scope} {f : Field} {c : Column} (h : s.column f = .ok c)
    {e : String × List String} (hnested : c.nestedEnum? = some e) : e.2 = c.field.enumValues := by
  rw [field_of_column h]
  rcases content_of_column h with ⟨-, ref, href, hcontent⟩ | ⟨-, hcontent⟩
  · simp only [Column.nestedEnum?, Column.enumRef?, hcontent] at hnested
    split at hnested
    · next name literals hsome =>
      cases hsome
      cases hnested
      exact enumValues_of_enumRef href rfl
    · cases hnested
  · cases hdate : f.type.isDate <;>
      simp [Column.nestedEnum?, Column.enumRef?, hcontent, hdate] at hnested

/-- Where a member of a list has a property, there is a first one. -/
theorem exists_first_of_mem {α : Type} {p : α → Prop} [DecidablePred p] {xs : List α} {x : α}
    (hx : x ∈ xs) (hp : p x) :
    ∃ before first after, xs = before ++ first :: after ∧ p first ∧ ∀ y ∈ before, ¬ p y := by
  cases hfirst : xs.find? (p ·) with
  | none =>
    rw [List.find?_eq_none] at hfirst
    simpa [hp] using hfirst x hx
  | some first =>
    obtain ⟨hfirst, before, after, hsplit, hbefore⟩ := List.find?_eq_some_iff_append.1 hfirst
    exact ⟨before, first, after, hsplit, by simpa using hfirst, by simpa using hbefore⟩

/-! ## Base records -/

namespace Resolved

variable {s : Scope} {r : Resolved}

/-- The base record declares the nested enumerations. -/
theorem enumLiterals_eq (name : String) :
    r.baseRecordSource.enumLiterals name = (r.nestedEnums.filter (·.1 == name)).map (·.2) := by
  unfold baseRecordSource
  cases r.language with
  | kotlin =>
    simp only [SourceClass.enumLiterals, kotlinBaseRecord, List.filter_map, List.map_map]
    rfl
  | java =>
    simp only [SourceClass.enumLiterals, javaBaseRecord, List.filter_map, List.map_map]
    rfl

/-- The literals that are declared under a name are those of the first column with that name. -/
theorem enumLiterals_eq_of_first (h : s.resolve = .ok r) {before after : List Column}
    {first : Column} {name : String} (hsplit : r.columns = before ++ first :: after)
    (hfirst : first.nestedName? = some name) (hbefore : ∀ c ∈ before, c.nestedName? ≠ some name) :
    r.baseRecordSource.enumLiterals name = [first.field.enumValues] := by
  obtain ⟨-, hcolumns, -⟩ := Scope.resolve_eq_ok_iff.1 h
  have hmem : first ∈ r.columns := by simp [hsplit]
  obtain ⟨f, -, hf⟩ := exists_of_mem_right (mapM_eq_ok_iff.1 hcolumns) first hmem
  obtain ⟨e, he, rfl⟩ := Option.map_eq_some_iff.1 hfirst
  have hfound : (r.columns.filterMap (·.nestedEnum?)).find? (·.1 == e.1) = some e := by
    have hnone : (before.filterMap (·.nestedEnum?)).find? (·.1 == e.1) = none := by
      rw [List.find?_eq_none]
      intro other hother hname
      obtain ⟨c, hc, hnested⟩ := List.mem_filterMap.1 hother
      have hsame : other.1 = e.1 := by simpa using hname
      apply hbefore c hc
      rw [Column.nestedName?, hnested, Option.map_some, hsame]
    rw [hsplit, List.filterMap_append, List.filterMap_cons, he, List.find?_append, hnone,
      Option.none_or, List.find?_cons_of_pos (by simp)]
  rw [enumLiterals_eq, filter_nestedEnums, hfound, Option.toList_some, List.map_singleton,
    Scope.nestedEnum?_of_column hf he]

/-- Every nested enumeration is declared once, with the literals of the first column that has it. -/
theorem exists_first_column (h : s.resolve = .ok r) {c : Column} (hc : c ∈ r.columns)
    {name : String} (hname : c.nestedName? = some name) :
    ∃ before first after, r.columns = before ++ first :: after
      ∧ first.nestedName? = some name ∧ (∀ b ∈ before, b.nestedName? ≠ some name)
      ∧ r.baseRecordSource.enumLiterals name = [first.field.enumValues] := by
  obtain ⟨before, first, after, hsplit, hfirst, hbefore⟩ :=
    exists_first_of_mem (p := fun c => c.nestedName? = some name) hc hname
  exact ⟨before, first, after, hsplit, hfirst, hbefore,
    enumLiterals_eq_of_first h hsplit hfirst hbefore⟩

/-- All columns have their own literals when those with one name agree. -/
theorem hasOwnLiterals_iff (h : s.resolve = .ok r) :
    r.baseRecordSource.HasOwnLiterals r.columns ↔ LiteralsAgree r.columns := by
  constructor
  · intro hown c hc other hother name hname hothername
    have hsame : [c.field.enumValues] = [other.field.enumValues] :=
      (hown c hc name hname).symm.trans (hown other hother name hothername)
    exact List.singleton_inj.1 hsame
  · intro hagree c hc name hname
    obtain ⟨before, first, after, hsplit, hfirst, -, hliterals⟩ := exists_first_column h hc hname
    have hmem : first ∈ r.columns := by simp [hsplit]
    rw [hliterals, hagree first hmem c hc name hfirst hname]

end Resolved

/-! ## Schemas -/

/-- Whenever a schema is generated, the base record of each entity with records declares one
enumeration for each name of a nested one, with the literals of the first field that has it. These
are the literals of all fields that have it when these list the same, and only then. -/
theorem Run.nested_literals_own_iff {run : Run} {s : Schema} {files : List SourceFile}
    {d : Database} {e : Entity} (hgenerate : run.generate s = .ok files) (hd : d ∈ s.databases)
    (he : e ∈ d.entities) (hrecords : e.isEnumeration = false) :
    ∃ (columns : List Column) (record : SourceClass),
      e.fields.mapM (Scope.mk run d e).column = .ok columns
      ∧ columns.map (·.field) = e.fields
      ∧ record.fileName =
        (Scope.mk run d e).baseRecordName ++ "." ++ run.options.language.extension
      ∧ (Artifact.mk (Scope.mk run d e).directory .overwrite record).file run.style ∈ files
      ∧ (∀ c ∈ columns, ∀ name, c.nestedName? = some name →
        ∃ before first after, columns = before ++ first :: after
          ∧ first.nestedName? = some name ∧ (∀ b ∈ before, b.nestedName? ≠ some name)
          ∧ record.enumLiterals name = [first.field.enumValues])
      ∧ (record.HasOwnLiterals columns ↔ LiteralsAgree columns) := by
  obtain ⟨r, hresolve, hfileName, hfile⟩ :=
    exists_baseRecord_of_generate hgenerate hd he hrecords
  obtain ⟨-, hcolumns, -⟩ := Scope.resolve_eq_ok_iff.1 hresolve
  exact ⟨r.columns, r.baseRecordSource, hcolumns, Scope.map_field_of_mapM hcolumns, hfileName,
    hfile, fun c hc name => Resolved.exists_first_column hresolve hc,
    Resolved.hasOwnLiterals_iff hresolve⟩

/-- A reference to the types of persons, with literals of its own. -/
def personTypeField (name literals : String) : Field :=
  { name, type := .integer, notNull := true, foreignTable? := some "PERSON_TYPE"
    foreignKind := .enumeration, enumerations := literals }

/-- A person with two such references. -/
def personTypesTable : Entity :=
  { kind := .table, name := "PERSON"
    fields := [personTypeField "FIRST_TYPE" "HEAD,CHILD",
      personTypeField "SECOND_TYPE" "OWNER,GUEST"] }

/-- The literals of the second reference are not declared, though its property starts with one. -/
theorem Run.nested_literals_lost_personTypesTable :
    ({ databases := [{ name := "main", tables := [personTypesTable] }] } : Schema).validate = .ok ()
    ∧ ∃ (files : List SourceFile) (record : SourceClass) (first second : Column),
      Run.generate { package := "org", created := "today" }
          { databases := [{ name := "main", tables := [personTypesTable] }] } = .ok files
      ∧ [first.field, second.field] = personTypesTable.fields
      ∧ first.nestedName? = some "PersonType"
      ∧ second.nestedName? = some "PersonType"
      ∧ record.enumLiterals "PersonType" = [["HEAD", "CHILD"]]
      ∧ second.field.enumValues = ["OWNER", "GUEST"]
      ∧ second.initial .kotlin = "PersonType.OWNER"
      ∧ ¬ record.HasOwnLiterals [first, second] := by
  let database : Database := { name := "main", tables := [personTypesTable] }
  let run : Run := { package := "org", created := "today" }
  let first : Column := ⟨personTypeField "FIRST_TYPE" "HEAD,CHILD",
    .enumeration ⟨"PersonType", .nested ["HEAD", "CHILD"]⟩ (some "HEAD")⟩
  let second : Column := ⟨personTypeField "SECOND_TYPE" "OWNER,GUEST",
    .enumeration ⟨"PersonType", .nested ["OWNER", "GUEST"]⟩ (some "OWNER")⟩
  have hgenerable : personTypesTable.Generable := by
    refine ⟨⟨?_, by decide⟩, by decide⟩
    intro f hf _
    have hvalues : ∀ f ∈ personTypesTable.fields, f.enumValues ≠ [] := by decide
    exact .inr (.inr (hvalues f hf))
  obtain ⟨files, hfiles⟩ : ∃ files, run.generate { databases := [database] } = .ok files :=
    exists_generate_of_singleton rfl hgenerable
  obtain ⟨columns, record, hcolumns, -, -, -, hdeclared, hown⟩ :=
    Run.nested_literals_own_iff (d := database) (e := personTypesTable) hfiles
      (by simp [database]) (by simp [Database.entities, database]) (by decide)
  have hresolved : personTypesTable.fields.mapM (Scope.mk run database personTypesTable).column =
      .ok [first, second] := by
    decide
  rw [hresolved] at hcolumns
  cases hcolumns
  have hliterals : record.enumLiterals "PersonType" = [["HEAD", "CHILD"]] := by
    obtain ⟨before, c, after, hsplit, -, hbefore, hliterals⟩ :=
      hdeclared first List.mem_cons_self "PersonType" rfl
    rcases List.append_eq_cons_iff.1 hsplit.symm with ⟨-, hc⟩ | ⟨rest, rfl, -⟩
    · obtain ⟨rfl, -⟩ := List.cons_eq_cons.1 hc
      rw [hliterals]
      decide
    · exact absurd rfl (hbefore first List.mem_cons_self)
  refine ⟨by decide, files, record, first, second, hfiles, rfl, rfl, rfl, hliterals, by decide,
    by decide, ?_⟩
  rw [hown]
  intro hagree
  have hsame := hagree first List.mem_cons_self second (by simp) "PersonType" rfl rfl
  exact absurd hsame (by decide)

end SchemaForge
