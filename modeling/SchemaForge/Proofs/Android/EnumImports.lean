import SchemaForge.Proofs.Android.Manifest
import SchemaForge.Proofs.Android.Ordinals
import SchemaForge.Proofs.Android.Signatures
import SchemaForge.Proofs.Code.Declarations

namespace SchemaForge

/-! # Imports of enumerations

A field can hold ordinals of the literals of a table. The table has an enum of its own, in a package
of its own, and the classes of the entity with the field import it from there. They make its name
anew from the table that they find; what is found there is made when sources are generated for the
table.
-/

namespace Code

/-- A name that says something is imported once, however often it is asked for. -/
theorem count_imports_of_mem {names : List String} {name : String} (h : name ∈ names)
    (hblank : Text.isBlank name = false) : (imports names).count (Text.trim name) = 1 := by
  have hne : Text.trim name ≠ "" := by
    rw [ne_eq, Text.trim_eq_empty_iff, hblank]
    decide
  apply List.count_eq_one_of_mem (nodup_imports names)
  rw [imports_eq, List.mem_eraseDups, List.mem_filter]
  exact ⟨List.mem_map_of_mem h, by simpa using hne⟩

end Code

/-- The field holds ordinals of the literals of this table: it refers to it by its name, in any
case, and lists no literals itself. -/
structure Database.HoldsOrdinals (d : Database) (f : Field) (table : Entity) : Prop where
  holds : f.isEnumeration
  refers : f.refersToEnumeration
  noLiterals : f.enumValues = []
  named : ∃ name, f.foreignTable? = some name ∧ Text.isBlank name = false
    ∧ d.table? name = some table
  isEnumeration : table.isEnumeration

namespace SourceClass

/-- The literals of a class that is an enum. -/
def literals? : SourceClass → Option (List String)
  | kotlin c =>
    match c.kind with
    | .enum values => some values
    | _ => none
  | java c =>
    match c.kind with
    | .enum values => some values
    | _ => none

end SourceClass

/-! ## Columns -/

/-- The enumeration of a table, by the name under which its enum is imported. -/
def Scope.importedRef (s : Scope) (table : Entity) : EnumRef :=
  ⟨table.className, .imported (s.packageOf table.className ++ "." ++ table.className)⟩

theorem Scope.enumRef_of_holdsOrdinals {s : Scope} {f : Field} {table : Entity}
    (h : s.database.HoldsOrdinals f table) : s.enumRef f = .ok (s.importedRef table) := by
  obtain ⟨name, hname, hblank, htable⟩ := h.named
  have hforeign : f.isForeignKey = true := by
    rw [Field.isForeignKey, Text.filled?_eq_some_iff.2 ⟨name, hname, hblank, rfl⟩]
    rfl
  have hclass : s.enumClassOf (f.foreignTable?.getD "") = table.className := by
    rw [hname, Option.getD_some, enumClassOf, htable]
  unfold enumRef
  simp only [h.refers, hforeign, hclass, h.noLiterals, Bool.and_self, List.isEmpty_nil, if_true]
  rfl

namespace Column

variable {c : Column} {ref : EnumRef} {literal? : Option String}

/-- A property with a literal has the type of its enumeration, in either language. -/
theorem typeName_of_enumeration (h : c.content = .enumeration ref literal?) (l : Language) :
    c.typeName l = ref.className := by
  cases l <;> simp [typeName, isNullable, kotlinType, h]

/-- An enumeration that is imported has one name in all classes. -/
theorem qualified_of_imported {fullName className : String}
    (h : c.content = .enumeration ⟨className, .imported fullName⟩ literal?) (owner : String) :
    c.qualified owner = c := by
  simp [qualified, h]

end Column

/-! ## Classes -/

namespace Resolved

variable {r : Resolved}

theorem imports_constantsSource (h : r.entity.isEnumeration = false) :
    r.constantsSource.imports = Code.imports (Library.cursor :: r.enumImports) := by
  unfold constantsSource
  cases r.language <;>
    simp [SourceClass.imports, kotlinConstants, javaConstants, constantsImports, h]

/-- The imports of a base record begin with those that all of them have. -/
theorem exists_imports_baseRecordSource (r : Resolved) : ∃ before,
    r.baseRecordSource.imports = Code.imports (before ++ r.enumImports) := by
  unfold baseRecordSource
  cases r.language with
  | kotlin => exact ⟨recordImports, by simp only [SourceClass.imports, kotlinBaseRecord]⟩
  | java =>
    exact ⟨recordImports ++ r.nullImports, by simp only [SourceClass.imports, javaBaseRecord]⟩

/-- The base record declares every column with its type. -/
theorem typedNames_baseRecordSource (r : Resolved) :
    r.baseRecordSource.typedNames =
      r.columns.map fun c => (c.variableName, c.typeName r.language) := by
  unfold baseRecordSource
  cases r.language with
  | kotlin =>
    simp [SourceClass.typedNames, kotlinBaseRecord, Column.kotlinProperty, Function.comp_def]
  | java => simp [SourceClass.typedNames, javaBaseRecord, Function.comp_def]

/-- The enum of an enumeration table. -/
def enumerationSource (r : Resolved) : SourceClass :=
  match r.language with
  | .kotlin => .kotlin r.kotlinEnumeration
  | .java => .java r.javaEnumeration

theorem literals?_enumerationSource :
    r.enumerationSource.literals? = some (r.entity.enumItems.map (·.name)) := by
  unfold enumerationSource
  cases r.language <;> rfl

theorem name_enumerationSource : r.enumerationSource.name = r.className := by
  unfold enumerationSource
  cases r.language <;> rfl

theorem package_enumerationSource : r.enumerationSource.package = r.package := by
  unfold enumerationSource
  cases r.language <;> rfl

end Resolved

/-! ## Entities -/

namespace Scope

variable {s : Scope}

/-- The columns are in the places of their fields. -/
theorem exists_column_of_getElem? {fields : List Field} {columns : List Column}
    (h : fields.mapM s.column = .ok columns) {i : Nat} {f : Field} (hf : fields[i]? = some f) :
    ∃ c, columns[i]? = some c ∧ s.column f = .ok c := by
  obtain ⟨hlength, hplaces⟩ := List.forall₂_iff_get.1 (mapM_eq_ok_iff.1 h)
  obtain ⟨hi, rfl⟩ := List.getElem?_eq_some_iff.1 hf
  have hcolumn : i < columns.length := by omega
  exact ⟨columns[i], List.getElem?_eq_getElem hcolumn, hplaces i hi hcolumn⟩

/-- A field with ordinals of a table has the enumeration of that table. -/
theorem content_of_holdsOrdinals {f : Field} {table : Entity} {c : Column}
    (h : s.database.HoldsOrdinals f table) (hc : s.column f = .ok c) :
    ∃ literal?, c.content = .enumeration (s.importedRef table) literal? := by
  rcases content_of_column hc with ⟨-, ref, href, hcontent⟩ | ⟨hplain, -⟩
  · rw [enumRef_of_holdsOrdinals h] at href
    cases href
    exact ⟨_, hcontent⟩
  · rw [h.holds] at hplain
    cases hplain

end Scope

/-- The full name of an enumeration says something. -/
theorem Scope.isBlank_fullName (s : Scope) : Text.isBlank s.fullName = false := by
  rw [← Bool.not_eq_true, Text.isBlank, List.all_eq_true]
  intro hblank
  have hdot : '.' ∈ s.fullName.toList := by simp [fullName]
  exact absurd (hblank '.' hdot) (by decide)

/-- Whenever sources are generated for an entity with records and for a table of literals, and a
field of the entity holds ordinals of these, the constants and the base record of the entity import
the enum of the table, each once, however many fields hold its ordinals. What reads the field out of
a cursor and what holds it in the record have the class of that enum as their type. -/
theorem Scope.enumeration_imported {run : Run} {d : Database} {e table : Entity} {f : Field}
    {i : Nat} {as ts : List Artifact} (h : (Scope.mk run d e).artifacts = .ok as)
    (hrecords : e.isEnumeration = false) (hf : e.fields[i]? = some f)
    (hholds : d.HoldsOrdinals f table) (ht : (Scope.mk run d table).artifacts = .ok ts) :
    ∃ (c : Column) (constants record enumeration : SourceClass) (reader : FunctionText)
      (others : List Artifact) (first : Artifact),
      as = ⟨(Scope.mk run d e).directory, .overwrite, constants⟩
        :: ⟨(Scope.mk run d e).directory, .overwrite, record⟩ :: others
      ∧ constants.fileName =
        (Scope.mk run d e).constantsName ++ "." ++ run.options.language.extension
      ∧ record.fileName =
        (Scope.mk run d e).baseRecordName ++ "." ++ run.options.language.extension
      ∧ ts = [first, ⟨(Scope.mk run d table).directory, .overwrite, enumeration⟩]
      ∧ enumeration.name = table.className
      ∧ enumeration.literals? = some (table.enumItems.map (·.name))
      ∧ (∀ source ∈ [constants, record], source.imports.count
        (Text.trim (enumeration.package ++ "." ++ enumeration.name)) = 1)
      ∧ (Scope.mk run d e).column f = .ok c
      ∧ constants.functionTexts[i]? = some reader
      ∧ reader.name = c.getterName run.options.language ∧ reader.result = table.className
      ∧ record.typedNames[i]? = some (f.variableName, table.className) := by
  obtain ⟨r, hresolve, -, rfl⟩ := Scope.artifacts_eq_ok_iff.1 h
  obtain ⟨t, htable, -, rfl⟩ := Scope.artifacts_eq_ok_iff.1 ht
  obtain ⟨hscope, hcolumns, -⟩ := Scope.resolve_eq_ok_iff.1 hresolve
  have htscope : t.toScope = Scope.mk run d table := (Scope.resolve_eq_ok_iff.1 htable).1
  have hordinary : r.entity.isEnumeration = false := by rwa [hscope]
  have hliterals : t.entity.isEnumeration = true := by
    rw [htscope]
    exact hholds.isEnumeration
  have hlanguage : r.language = run.options.language := by
    rw [hscope]
    rfl
  obtain ⟨c, hplace, hc⟩ := Scope.exists_column_of_getElem? hcolumns hf
  obtain ⟨literal?, hcontent⟩ := Scope.content_of_holdsOrdinals hholds hc
  have hfull : t.enumerationSource.package ++ "." ++ t.enumerationSource.name = t.fullName := by
    rw [Resolved.name_enumerationSource, Resolved.package_enumerationSource]
    rfl
  have himport : t.fullName ∈ r.enumImports := by
    refine List.mem_filterMap.2 ⟨c, List.mem_of_getElem? hplace, ?_⟩
    rw [htscope]
    simp only [Column.enumImport?, Column.enumRef?, hcontent]
    rfl
  have hartifacts := Resolved.artifacts_eq hordinary
  have htartifacts : t.artifacts = [⟨t.directory, .overwrite, t.constantsSource⟩,
      ⟨t.directory, .overwrite, t.enumerationSource⟩] :=
    Resolved.artifacts_of_isEnumeration hliterals
  rw [hscope] at hartifacts
  rw [htscope] at htartifacts
  have hreader := congrArg (·[i]?) (Resolved.functionTexts_constantsSource hordinary)
  simp only [List.getElem?_map, hplace, Option.map_some, Column.qualified_of_imported hcontent,
    hlanguage, Column.typeName_of_enumeration hcontent] at hreader
  refine ⟨c, r.constantsSource, r.baseRecordSource, t.enumerationSource, _, _, _, hartifacts, ?_,
    ?_, htartifacts, ?_, ?_, ?_, hc, hreader, rfl, rfl, ?_⟩
  · rw [Resolved.fileName_constantsSource, hscope]
    rfl
  · rw [Resolved.fileName_baseRecordSource, hscope]
    rfl
  · rw [Resolved.name_enumerationSource, htscope]
    rfl
  · rw [Resolved.literals?_enumerationSource, htscope]
  · rw [hfull, List.forall_mem_cons, List.forall_mem_singleton]
    have hblank := t.toScope.isBlank_fullName
    obtain ⟨before, hbefore⟩ := r.exists_imports_baseRecordSource
    constructor
    · rw [Resolved.imports_constantsSource hordinary]
      exact Code.count_imports_of_mem (List.mem_cons_of_mem _ himport) hblank
    · rw [hbefore]
      exact Code.count_imports_of_mem (List.mem_append_right before himport) hblank
  · rw [Resolved.typedNames_baseRecordSource, List.getElem?_map, hplace, Option.map_some,
      Column.typeName_of_enumeration hcontent, Column.variableName, Scope.field_of_column hc]
    rfl

/-- Books, with two formats, of which one is written in small letters. -/
def bookTable : Entity :=
  { kind := .table, name := "BOOK"
    fields := [
      { name := "FORMAT", type := .integer, foreignTable? := some "FORMAT"
        foreignKind := .enumeration },
      { name := "NEXT_FORMAT", type := .integer, foreignTable? := some "format"
        foreignKind := .enumeration }] }

/-- The formats of books, which have another name as a class. -/
def formatTable : Entity :=
  { kind := .table, name := "FORMAT", class? := some "BookFormat", enumerations := "PAPER,AUDIO" }

/-- Both fields have the class of the table, and it is imported once. -/
theorem Scope.enumeration_imported_bookTable :
    ∃ (run : Run) (d : Database) (constants record enumeration : SourceClass)
      (reader : FunctionText) (others : List Artifact) (first : Artifact),
      (Scope.mk run d bookTable).artifacts =
        .ok (⟨"main/book", .overwrite, constants⟩ :: ⟨"main/book", .overwrite, record⟩ :: others)
      ∧ (Scope.mk run d formatTable).artifacts =
        .ok [first, ⟨"main/bookformat", .overwrite, enumeration⟩]
      ∧ enumeration.name = "BookFormat"
      ∧ enumeration.literals? = some ["PAPER", "AUDIO"]
      ∧ (∀ source ∈ [constants, record], source.imports.count
        (Text.trim (enumeration.package ++ "." ++ enumeration.name)) = 1)
      ∧ constants.functionTexts[1]? = some reader
      ∧ reader.name = "getNextFormat" ∧ reader.result = "BookFormat"
      ∧ record.typedNames[1]? = some ("nextFormat", "BookFormat") := by
  let run : Run :=
    { package := "org", created := "today", options := { databaseInPackage := true } }
  let d : Database := { name := "main", tables := [bookTable, formatTable] }
  have hbook : bookTable.Generable := by
    refine ⟨⟨fun f hf _ => ?_, by decide⟩, by decide⟩
    have hforeign : ∀ f ∈ bookTable.fields, f.foreignKind = .enumeration ∧ f.isForeignKey := by
      decide
    obtain ⟨hkind, hname⟩ := hforeign f hf
    exact .inl ⟨hkind, Text.isSome_filled?_iff.1 hname⟩
  have hformat : formatTable.Generable := ⟨⟨by simp [formatTable], by decide⟩, by decide⟩
  obtain ⟨as, has⟩ : ∃ as, (Scope.mk run d bookTable).artifacts = .ok as :=
    Scope.exists_artifacts_iff.2 hbook
  obtain ⟨ts, hts⟩ : ∃ ts, (Scope.mk run d formatTable).artifacts = .ok ts :=
    Scope.exists_artifacts_iff.2 hformat
  have hholds : d.HoldsOrdinals bookTable.fields[1] formatTable :=
    ⟨by decide, by decide, by decide, ⟨"format", by decide, by decide, by decide⟩, by decide⟩
  obtain ⟨c, constants, record, enumeration, reader, others, first, rfl, -, -, rfl, hname,
    hliterals, himported, hc, hreader, hgetter, hresult, htyped⟩ :=
    Scope.enumeration_imported has (by decide) (i := 1) (by decide) hholds hts
  have hcolumn : (Scope.mk run d bookTable).column bookTable.fields[1] = .ok
      ⟨bookTable.fields[1], .enumeration
        ⟨"BookFormat", .imported "org.main.bookformat.BookFormat"⟩ (some "PAPER")⟩ := by decide
  have hdirectories : (Scope.mk run d bookTable).directory = "main/book"
      ∧ (Scope.mk run d formatTable).directory = "main/bookformat" := by decide
  rw [hdirectories.1] at has
  rw [hdirectories.2] at hts
  rw [hcolumn] at hc
  cases hc
  refine ⟨run, d, constants, record, enumeration, reader, others, first, has, hts, ?_, ?_,
    himported, hreader, ?_, ?_, ?_⟩
  · rw [hname]
    decide
  · rw [hliterals]
    decide
  · rw [hgetter]
    decide
  · rw [hresult]
    decide
  · rw [htyped]
    decide

end SchemaForge
