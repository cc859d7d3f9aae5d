import SchemaForge.Proofs.Android.EnumImports
import SchemaForge.Proofs.Android.NestedEnums
import SchemaForge.Proofs.Schema.EnumLists

namespace SchemaForge

/-! # Literals of generated enums

The enums of a run have the literals of its enumeration tables and those that columns list
themselves. None of them has a comma, a space or a blank at its ends. Those of columns are never
empty, whereas a table can have a literal without a name, which then stands in its enum.
-/

/-! ## Classes -/

/-- The literals that a class declares: its own, where it is an enum, and those of the enums inside
it. -/
def SourceClass.declaredLiterals (c : SourceClass) : List String :=
  c.literals?.getD [] ++
    match c with
    | .kotlin c => c.enums.flatMap (·.values)
    | .java c => c.enums.flatMap (·.values)

namespace Resolved

variable {r : Resolved}

theorem declaredLiterals_constantsSource : r.constantsSource.declaredLiterals = [] := by
  unfold constantsSource
  cases r.language <;> rfl

theorem declaredLiterals_enumerationSource :
    r.enumerationSource.declaredLiterals = r.entity.enumItems.map (·.name) := by
  unfold enumerationSource
  cases r.language <;> exact List.append_nil _

theorem declaredLiterals_baseRecordSource :
    r.baseRecordSource.declaredLiterals = r.nestedEnums.flatMap (·.2) := by
  unfold baseRecordSource
  cases r.language <;>
    simp [SourceClass.declaredLiterals, SourceClass.literals?, kotlinBaseRecord, javaBaseRecord,
      List.flatMap_map]

theorem declaredLiterals_recordSource : r.recordSource.declaredLiterals = [] := by
  unfold recordSource
  cases r.language <;> rfl

theorem declaredLiterals_baseManagerSource : r.baseManagerSource.declaredLiterals = [] := by
  unfold baseManagerSource
  cases r.language <;> rfl

theorem declaredLiterals_managerSource : r.managerSource.declaredLiterals = [] := by
  unfold managerSource
  cases r.language <;> rfl

/-- The literals that the classes of an entity declare. -/
def declaredLiterals (r : Resolved) : List String :=
  if r.entity.isEnumeration then r.entity.enumItems.map (·.name)
  else r.nestedEnums.flatMap (·.2)

/-- An enumeration table has literals in its enum only, another entity in its base record only. -/
theorem flatMap_declaredLiterals_artifacts (r : Resolved) :
    r.artifacts.flatMap (·.source.declaredLiterals) = r.declaredLiterals := by
  unfold declaredLiterals
  cases henum : r.entity.isEnumeration with
  | true =>
    have hartifacts : r.artifacts = [⟨r.directory, .overwrite, r.constantsSource⟩,
        ⟨r.directory, .overwrite, r.enumerationSource⟩] := artifacts_of_isEnumeration henum
    simp [hartifacts, declaredLiterals_constantsSource, declaredLiterals_enumerationSource]
  | false =>
    simp [artifacts_eq henum, declaredLiterals_constantsSource, declaredLiterals_baseRecordSource,
      declaredLiterals_recordSource, declaredLiterals_baseManagerSource,
      declaredLiterals_managerSource]

/-- A literal that is nested in a base record is one that a field lists. -/
theorem exists_field_of_mem_nestedEnums {s : Scope} (h : s.resolve = .ok r) {literal : String}
    (hliteral : literal ∈ r.nestedEnums.flatMap (·.2)) :
    ∃ f ∈ s.entity.fields, literal ∈ f.enumValues := by
  obtain ⟨-, hcolumns, -⟩ := Scope.resolve_eq_ok_iff.1 h
  obtain ⟨e, he, hmem⟩ := List.mem_flatMap.1 hliteral
  obtain ⟨c, hc, hnested⟩ := exists_column_of_mem_nestedEnums he
  obtain ⟨f, hf, hcolumn⟩ := exists_of_mem_right (mapM_eq_ok_iff.1 hcolumns) c hc
  rw [Scope.nestedEnum?_of_column hcolumn hnested, Scope.field_of_column hcolumn] at hmem
  exact ⟨f, hf, hmem⟩

/-- Nothing that the classes of an entity declare fails to fit a list. -/
theorem fitsList_of_mem_declaredLiterals {s : Scope} (h : s.resolve = .ok r) {literal : String}
    (hliteral : literal ∈ r.declaredLiterals) : FitsList literal := by
  unfold declaredLiterals at hliteral
  split at hliteral
  · obtain ⟨i, hi, rfl⟩ := List.mem_map.1 hliteral
    exact Entity.fitsList_of_mem_enumItems hi
  · obtain ⟨f, -, hf⟩ := exists_field_of_mem_nestedEnums h hliteral
    exact (Field.fitsList_of_mem_enumValues hf).1

/-- The classes of an entity declare no empty literal, unless it is an enumeration table with a piece
that has nothing before its equals sign. -/
theorem forall_declaredLiterals_ne_empty_iff {s : Scope} (h : s.resolve = .ok r) :
    (∀ literal ∈ r.declaredLiterals, literal ≠ "") ↔
      (s.entity.isEnumeration → ∀ piece ∈ Text.splitOn ',' s.entity.enumerations,
        ¬ Text.beginsWith "=" (Text.trim piece)) := by
  have hscope : r.toScope = s := (Scope.resolve_eq_ok_iff.1 h).1
  rw [← Entity.forall_name_ne_empty_iff, declaredLiterals, hscope]
  cases s.entity.isEnumeration with
  | true => simp
  | false =>
    refine iff_of_true (fun literal hliteral => ?_) (by rintro ⟨⟩)
    obtain ⟨f, -, hf⟩ := exists_field_of_mem_nestedEnums h hliteral
    exact (Field.fitsList_of_mem_enumValues hf).2

end Resolved

/-! ## Schemas -/

namespace Run

variable {run : Run} {s : Schema}

/-- What is made for all databases has no enums. -/
theorem declaredLiterals_of_mem_lifecycle {a : Artifact} (h : a ∈ run.lifecycle s) :
    a.source.declaredLiterals = [] := by
  rcases List.mem_append.1 h with hshared | hholder
  · obtain ⟨entry, hentry, rfl⟩ := List.mem_map.1 hshared
    unfold sharedSources at hentry
    split at hentry <;>
      simp only [List.mem_cons, List.not_mem_nil, or_false] at hentry <;>
      rcases hentry with rfl | rfl | rfl | rfl <;> rfl
  · obtain ⟨d, -, rfl⟩ := List.mem_map.1 hholder
    unfold holder
    split <;> rfl

/-- What holds of all literals that a run declares is what holds of those of each entity. -/
theorem forall_declaredLiterals_iff {as : List Artifact} (h : run.artifacts s = .ok as)
    (p : String → Prop) :
    (∀ a ∈ as, ∀ literal ∈ a.source.declaredLiterals, p literal) ↔
      ∀ d ∈ s.databases, ∀ e ∈ d.entities, ∀ r, (Scope.mk run d e).resolve = .ok r →
        ∀ literal ∈ r.declaredLiterals, p literal := by
  obtain ⟨rs, hrs, rfl⟩ := artifacts_eq_ok_iff.1 h
  constructor
  · intro hall d hd e he r hresolve literal hliteral
    have hscope : Scope.mk run d e ∈ run.scopes s :=
      List.mem_flatMap.2 ⟨d, hd, List.mem_map_of_mem he⟩
    obtain ⟨found, hfound, hsame, -⟩ := exists_of_mem_left hrs _ hscope
    rw [hresolve] at hsame
    cases hsame
    rw [← r.flatMap_declaredLiterals_artifacts, List.mem_flatMap] at hliteral
    obtain ⟨a, ha, hmem⟩ := hliteral
    exact hall a (List.mem_append_left _ (List.mem_flatMap.2 ⟨r, hfound, ha⟩)) literal hmem
  · intro hall a ha literal hliteral
    rcases List.mem_append.1 ha with hentity | hlifecycle
    · obtain ⟨r, hr, hmem⟩ := List.mem_flatMap.1 hentity
      obtain ⟨scope, hscope, hresolve, -⟩ := exists_of_mem_right hrs r hr
      obtain ⟨d, hd, hplace⟩ := List.mem_flatMap.1 hscope
      obtain ⟨e, he, rfl⟩ := List.mem_map.1 hplace
      refine hall d hd e he r hresolve literal ?_
      rw [← r.flatMap_declaredLiterals_artifacts]
      exact List.mem_flatMap.2 ⟨a, hmem, hliteral⟩
    · rw [declaredLiterals_of_mem_lifecycle hlifecycle] at hliteral
      cases hliteral

/-- Whatever an enumeration table or a column lists, the literals that are read from it have neither
comma nor space and no blank at their ends, and so has every literal in an enum of a run. Those of a
column are not empty. All literals of a run are not empty exactly when no piece of an enumeration
table begins with its equals sign. -/
theorem literals_named_iff {as : List Artifact} (h : run.artifacts s = .ok as) :
    (∀ e : Entity, ∀ i ∈ e.enumItems, FitsList i.name)
      ∧ (∀ f : Field, ∀ literal ∈ f.enumValues, FitsList literal ∧ literal ≠ "")
      ∧ (∀ a ∈ as, ∀ literal ∈ a.source.declaredLiterals, FitsList literal)
      ∧ ((∀ a ∈ as, ∀ literal ∈ a.source.declaredLiterals, literal ≠ "") ↔
        ∀ d ∈ s.databases, ∀ e ∈ d.entities, e.isEnumeration →
          ∀ piece ∈ Text.splitOn ',' e.enumerations, ¬ Text.beginsWith "=" (Text.trim piece)) := by
  refine ⟨fun e i => Entity.fitsList_of_mem_enumItems,
    fun f literal => Field.fitsList_of_mem_enumValues, ?_, ?_⟩
  · rw [forall_declaredLiterals_iff h]
    exact fun d hd e he r hresolve literal => Resolved.fitsList_of_mem_declaredLiterals hresolve
  · rw [forall_declaredLiterals_iff h]
    obtain ⟨rs, hrs, -⟩ := artifacts_eq_ok_iff.1 h
    refine forall₂_congr fun d hd => forall₂_congr fun e he => ?_
    have hscope : Scope.mk run d e ∈ run.scopes s :=
      List.mem_flatMap.2 ⟨d, hd, List.mem_map_of_mem he⟩
    obtain ⟨r, -, hresolve, -⟩ := exists_of_mem_left hrs _ hscope
    have hliterals := Resolved.forall_declaredLiterals_ne_empty_iff hresolve
    constructor
    · exact fun hall => hliterals.1 (hall r hresolve)
    · intro hpieces other hother
      rw [hresolve] at hother
      cases hother
      exact hliterals.2 hpieces

end Run

/-- States of which the second has a text and no name. -/
def unnamedStatusTable : Entity :=
  { kind := .table, name := "STATUS", enumerations := "OPEN, =Closed" }

/-- Its enum declares an empty literal. -/
theorem Run.literal_unnamed_statusTable :
    ({ databases := [{ name := "main", tables := [unnamedStatusTable] }] } : Schema).validate =
      .ok ()
    ∧ ∃ as, Run.artifacts { package := "org", created := "today" }
          { databases := [{ name := "main", tables := [unnamedStatusTable] }] } = .ok as
      ∧ unnamedStatusTable.enumItems = [⟨"OPEN", "Open"⟩, ⟨"", "Closed"⟩]
      ∧ ¬ ∀ a ∈ as, ∀ literal ∈ a.source.declaredLiterals, literal ≠ "" := by
  let run : Run := { package := "org", created := "today" }
  let schema : Schema := { databases := [{ name := "main", tables := [unnamedStatusTable] }] }
  have hgenerable : unnamedStatusTable.Generable :=
    Entity.generable_of_plain (by decide) (by decide) (by decide)
  obtain ⟨files, hfiles⟩ : ∃ files, run.generate schema = .ok files :=
    exists_generate_of_singleton rfl hgenerable
  obtain ⟨as, has, -⟩ := generate_eq_ok_iff.1 hfiles
  obtain ⟨-, -, -, hnamed⟩ := Run.literals_named_iff has
  refine ⟨by decide, as, has, by decide, ?_⟩
  rw [hnamed]
  intro hpieces
  exact hpieces _ (List.mem_singleton_self _) unnamedStatusTable
    (by simp [Database.entities]) (by decide) " =Closed" (by decide) (by decide)

end SchemaForge
