import SchemaForge.Proofs.Android.Ordinals
import SchemaForge.Proofs.Android.Packages
import SchemaForge.Proofs.Android.Procedures
import SchemaForge.Proofs.Android.References

namespace SchemaForge

/-! # Classes for all databases that cover a schema

Four classes create the databases of a schema and make them known: one has the functions that do so,
one the names of the databases, one their versions, and one makes the databases known. They are made
apart from each other and from the classes of the entities, whose names they compute anew. Here they
are compared: every table and every view is created by a function of its database, every function is
called when the database has its name, and whatever is referred to on the way is there.
-/

open Lifecycle (Target Call Procedure)

/-! ## Classes for all databases -/

/-- The functions of a class with their bodies. -/
def SourceClass.functions : SourceClass → List (String × String)
  | .kotlin c => c.functions.map fun f => (f.name, f.content)
  | .java c => c.methods.map fun m => (m.name, m.content)

namespace Run

variable {run : Run} {s : Schema}

/-- The class that creates databases. -/
def creationSource (run : Run) (s : Schema) : SourceClass :=
  match run.options.language with
  | .kotlin => .kotlin (Lifecycle.kotlinCreation run s)
  | .java => .java (Lifecycle.javaCreation run s)

/-- The class of the databases' names. -/
def namesSource (run : Run) (s : Schema) : SourceClass :=
  match run.options.language with
  | .kotlin => .kotlin (Lifecycle.kotlinNames run s)
  | .java => .java (Lifecycle.javaNames run s)

/-- The class that upgrades databases and has their versions. -/
def upgradesSource (run : Run) (s : Schema) : SourceClass :=
  match run.options.language with
  | .kotlin => .kotlin (Lifecycle.kotlinUpgrades run s)
  | .java => .java (Lifecycle.javaUpgrades run s)

/-- The class that makes the databases known. -/
def configSource (run : Run) (s : Schema) : SourceClass :=
  match run.options.language with
  | .kotlin => .kotlin (Lifecycle.kotlinConfig run s)
  | .java => .java (Lifecycle.javaConfig run s)

theorem sharedSources_eq : run.sharedSources s =
    [(.overwrite, run.creationSource s), (.overwrite, run.namesSource s),
      (.createOnly, run.upgradesSource s), (.createOnly, run.configSource s)] := by
  unfold sharedSources creationSource namesSource upgradesSource configSource
  cases run.options.language <;> rfl

/-- The functions of the class that creates databases are those of the procedures. -/
theorem functions_creationSource : (run.creationSource s).functions =
    (Lifecycle.procedures run.options.language s).map fun p =>
      (p.name, (p.function run run.options.language).content) := by
  have hfunctions : (run.creationSource s).functions =
      (Lifecycle.eventFunctions run run.options.language s
        ++ s.databases.flatMap (Lifecycle.functionsOf run run.options.language)).map
          fun f => (f.name, f.content) := by
    unfold creationSource SourceClass.functions
    cases run.options.language with
    | kotlin =>
      rw [Lifecycle.kotlinCreation]
      simp [Lifecycle.kotlinFunction, Function.comp_def]
    | java =>
      rw [Lifecycle.javaCreation]
      simp [Lifecycle.javaFunction, Function.comp_def]
  rw [hfunctions, ← Lifecycle.map_function_procedures, List.map_map]
  rfl

theorem constantNames_namesSource :
    (run.namesSource s).constantNames = s.databases.map (·.nameConstant) := by
  unfold namesSource SourceClass.constantNames
  cases run.options.language <;>
    simp [Lifecycle.kotlinNames, Lifecycle.javaNames, KotlinProperty.constant,
      JavaVariable.constant, Function.comp_def]

/-- Under a name stand the literals of all databases that have it for their constant. -/
theorem constantValues_namesSource (name : String) :
    (run.namesSource s).constantValues name =
      (s.databases.filter (·.nameConstant = name)).map
        fun d => Literal.quote run.options.language d.name := by
  unfold namesSource SourceClass.constantValues
  cases run.options.language <;>
    simp [Lifecycle.kotlinNames, Lifecycle.javaNames, KotlinProperty.constant,
      JavaVariable.constant, List.filter_map, Function.comp_def]

theorem constantNames_upgradesSource : (run.upgradesSource s).constantNames =
    s.databases.flatMap fun d =>
      [d.tablesVersion run.options.language, d.viewsVersion run.options.language] := by
  unfold upgradesSource
  cases run.options.language with
  | kotlin =>
    change (Lifecycle.kotlinUpgrades run s).constants.map (·.name) = _
    rw [Lifecycle.kotlinUpgrades, List.map_flatMap]
    rfl
  | java =>
    change (Lifecycle.javaUpgrades run s).constants.map (·.name) = _
    rw [Lifecycle.javaUpgrades, List.map_flatMap]
    rfl

theorem functionContents_configSource :
    (run.configSource s).functionContents "identifyDatabases" =
      [((Lifecycle.identification s).function run run.options.language).content] := by
  rw [Lifecycle.content_identification]
  unfold configSource SourceClass.functionContents
  cases run.options.language <;> simp [Lifecycle.kotlinConfig, Lifecycle.javaConfig]

end Run

/-! ## Names for entities -/

namespace Resolved

variable {r : Resolved}

theorem name_constantsSource : r.constantsSource.name = r.constantsName := by
  unfold constantsSource
  cases r.language <;> rfl

/-- One class of an entity has its name. That of a view declares the statements for it. -/
theorem exists_named_mem_artifacts (r : Resolved) : ∃ a ∈ r.artifacts,
    a.source.name = r.className
      ∧ (r.entity.kind = .view → a.source.constantNames = ["DROP_VIEW", "CREATE_VIEW"]) := by
  cases henum : r.entity.isEnumeration with
  | true =>
    rw [artifacts_of_isEnumeration henum]
    refine ⟨_, List.mem_cons_of_mem _ List.mem_cons_self, ?_, ?_⟩
    · cases r.language <;> rfl
    -- only a table is an enumeration table
    · intro hview
      simp [Entity.isEnumeration, Entity.isTable, hview] at henum
  | false =>
    rw [artifacts_eq henum]
    refine ⟨⟨r.directory, .createOnly, r.recordSource⟩, by simp, ?_, ?_⟩
    · unfold recordSource
      cases r.language <;> rfl
    · intro hview
      rw [constantNames_recordSource, hview]
      rfl

end Resolved

/-! ## References -/

/-- An artifact that is made for an entity in the package of that, with its file among those of a
run. -/
structure Scope.Makes (scope : Scope) (files : List SourceFile) (a : Artifact) : Prop where
  made : ∃ as, scope.artifacts = .ok as ∧ a ∈ as
  delivered : a.file scope.run.style ∈ files
  package : a.source.package = scope.package

/-- Holds for a reference to something that is there, by the name under which it is. -/
def Lifecycle.Target.Resolves (run : Run) (s : Schema) (files : List SourceFile)
    (creation names upgrades : SourceClass) (t : Target) : Prop :=
  match t with
  | tableScript d table => ∃ a, (Scope.mk run d table).Makes files a
      ∧ a.source.name = (Scope.mk run d table).constantsName
      ∧ t.text run run.options.language =
        a.source.package ++ "." ++ a.source.name ++ ".CREATE_TABLE"
      ∧ (table.kind = .table → "CREATE_TABLE" ∈ a.source.constantNames)
  | viewScript d view => ∃ a, (Scope.mk run d view).Makes files a
      ∧ a.source.name = (Scope.mk run d view).className
      ∧ t.text run run.options.language =
        a.source.package ++ "." ++ a.source.name ++ ".CREATE_VIEW"
      ∧ (view.kind = .view → "CREATE_VIEW" ∈ a.source.constantNames)
  | viewDrop d view => ∃ a, (Scope.mk run d view).Makes files a
      ∧ a.source.name = (Scope.mk run d view).className
      ∧ t.text run run.options.language =
        a.source.package ++ "." ++ a.source.name ++ ".DROP_VIEW"
      ∧ (view.kind = .view → "DROP_VIEW" ∈ a.source.constantNames)
  | function name => name ∈ creation.functions.map (·.1)
  | databaseName d => t.text run run.options.language = names.name ++ "." ++ d.nameConstant
      ∧ d.nameConstant ∈ names.constantNames
      -- several databases may have the same constant
      ∧ ∀ literal ∈ names.constantValues d.nameConstant, ∃ other ∈ s.databases,
        other.nameConstant = d.nameConstant
          ∧ Literal.decode? run.options.language literal = some other.name
  | tablesVersion d =>
    t.text run run.options.language =
        upgrades.name ++ "." ++ d.tablesVersion run.options.language
      ∧ d.tablesVersion run.options.language ∈ upgrades.constantNames
  | viewsVersion d =>
    t.text run run.options.language =
        upgrades.name ++ "." ++ d.viewsVersion run.options.language
      ∧ d.viewsVersion run.options.language ∈ upgrades.constantNames

namespace Run

variable {run : Run} {s : Schema} {files : List SourceFile} {d : Database}

/-- What a run makes for an entity. -/
theorem exists_makes_of_generate (h : run.generate s = .ok files) (hd : d ∈ s.databases)
    {e : Entity} (he : e ∈ d.entities) : ∃ r, (Scope.mk run d e).resolve = .ok r
      ∧ ∀ a ∈ r.artifacts, (Scope.mk run d e).Makes files a := by
  obtain ⟨r, hresolve, hfiles⟩ := exists_resolve_of_generate h hd he
  have hgenerable : e.Generable :=
    exists_generate_iff.1 ⟨files, h⟩ e (List.mem_flatMap.2 ⟨d, hd, he⟩)
  have hscope : r.toScope = Scope.mk run d e := (Scope.resolve_eq_ok_iff.1 hresolve).1
  refine ⟨r, hresolve, fun a ha => ?_⟩
  constructor
  case made => exact ⟨_, Scope.artifacts_of_resolve hresolve hgenerable.literals, ha⟩
  case delivered => exact hfiles a ha
  case package => rw [(Resolved.place_of_mem_artifacts ha).1, hscope]

/-- The class of a table's constants is made under the name by which it is referred to. -/
theorem resolves_tableScript (h : run.generate s = .ok files) (hd : d ∈ s.databases)
    {table : Entity} (htable : table ∈ d.tables) (creation names upgrades : SourceClass) :
    (Target.tableScript d table).Resolves run s files creation names upgrades := by
  have hentity : table ∈ d.entities := List.mem_append_left _ (List.mem_append_left _ htable)
  obtain ⟨r, hresolve, hmakes⟩ := exists_makes_of_generate h hd hentity
  have hscope : r.toScope = Scope.mk run d table := (Scope.resolve_eq_ok_iff.1 hresolve).1
  obtain ⟨others, hothers⟩ := r.exists_artifacts_eq_constantsSource_cons
  have hmakes := hmakes ⟨r.directory, .overwrite, r.constantsSource⟩
    (hothers ▸ List.mem_cons_self)
  have hname : r.constantsSource.name = (Scope.mk run d table).constantsName := by
    rw [Resolved.name_constantsSource, hscope]
  refine ⟨_, hmakes, hname, ?_, ?_⟩
  · rw [hmakes.package, hname]
    rfl
  · intro hkind
    rw [Resolved.constantNames_constantsSource, Resolved.map_name_constants hresolve,
      Entity.constantNames, hkind]
    simp [EntityKind.trailingConstantNames]

/-- The class with a view's statements is made under the name by which it is referred to. -/
theorem exists_makes_view (h : run.generate s = .ok files) (hd : d ∈ s.databases) {view : Entity}
    (hview : view ∈ d.views) : ∃ a, (Scope.mk run d view).Makes files a
      ∧ a.source.name = (Scope.mk run d view).className
      ∧ (view.kind = .view → a.source.constantNames = ["DROP_VIEW", "CREATE_VIEW"]) := by
  have hentity : view ∈ d.entities := List.mem_append_left _ (List.mem_append_right _ hview)
  obtain ⟨r, hresolve, hmakes⟩ := exists_makes_of_generate h hd hentity
  obtain ⟨a, ha, hname, hconstants⟩ := r.exists_named_mem_artifacts
  rw [(Scope.resolve_eq_ok_iff.1 hresolve).1] at hname hconstants
  exact ⟨a, hmakes a ha, hname, hconstants⟩

theorem resolves_view (h : run.generate s = .ok files) (hd : d ∈ s.databases) {view : Entity}
    (hview : view ∈ d.views) (creation names upgrades : SourceClass) :
    (Target.viewScript d view).Resolves run s files creation names upgrades
      ∧ (Target.viewDrop d view).Resolves run s files creation names upgrades := by
  obtain ⟨a, hmakes, hname, hconstants⟩ := exists_makes_view h hd hview
  refine ⟨⟨a, hmakes, hname, ?_, fun hkind => ?_⟩, ⟨a, hmakes, hname, ?_, fun hkind => ?_⟩⟩
  · rw [hmakes.package, hname]
    rfl
  · rw [hconstants hkind]
    simp
  · rw [hmakes.package, hname]
    rfl
  · rw [hconstants hkind]
    simp

theorem name_namesSource : (run.namesSource s).name = "DatabaseManagerConst" := by
  unfold namesSource
  cases run.options.language <;> rfl

theorem name_upgradesSource : (run.upgradesSource s).name = "DatabaseManager" := by
  unfold upgradesSource
  cases run.options.language <;> rfl

/-- The literals of a name constant stand for the names of the databases that share it. -/
theorem resolves_databaseName (hd : d ∈ s.databases) (files : List SourceFile)
    (creation upgrades : SourceClass) :
    (Target.databaseName d).Resolves run s files creation (run.namesSource s) upgrades := by
  refine ⟨?_, ?_, ?_⟩
  · rw [name_namesSource]
    rfl
  · rw [constantNames_namesSource]
    exact List.mem_map_of_mem hd
  · intro literal hliteral
    rw [constantValues_namesSource] at hliteral
    obtain ⟨other, hother, rfl⟩ := List.mem_map.1 hliteral
    rw [List.mem_filter, decide_eq_true_iff] at hother
    exact ⟨other, hother.1, hother.2, Literal.decode?_quote _ _⟩

theorem resolves_versions (hd : d ∈ s.databases) (files : List SourceFile)
    (creation names : SourceClass) :
    (Target.tablesVersion d).Resolves run s files creation names (run.upgradesSource s)
      ∧ (Target.viewsVersion d).Resolves run s files creation names (run.upgradesSource s) := by
  have hdeclared : ∀ version ∈ [d.tablesVersion run.options.language,
      d.viewsVersion run.options.language], version ∈ (run.upgradesSource s).constantNames := by
    intro version hversion
    rw [constantNames_upgradesSource]
    exact List.mem_flatMap.2 ⟨d, hd, hversion⟩
  refine ⟨⟨?_, hdeclared _ (by simp)⟩, ⟨?_, hdeclared _ (by simp)⟩⟩
  · rw [name_upgradesSource]
    rfl
  · rw [name_upgradesSource]
    rfl

/-- A function of a database is declared in the class that creates databases. -/
theorem resolves_function (hd : d ∈ s.databases) {p : Procedure}
    (hp : p ∈ Lifecycle.proceduresOf run.options.language d) (files : List SourceFile)
    (names upgrades : SourceClass) :
    (Target.function p.name).Resolves run s files (run.creationSource s) names upgrades := by
  change p.name ∈ (run.creationSource s).functions.map (·.1)
  rw [functions_creationSource, List.map_map]
  have hmem : p ∈ Lifecycle.procedures run.options.language s :=
    List.mem_append_right _ (List.mem_flatMap.2 ⟨d, hd, hp⟩)
  exact List.mem_map.2 ⟨p, hmem, rfl⟩

/-- The functions for an event refer to what is there. -/
theorem resolves_of_mem_event {databases : List Database} (hdatabases : databases ⊆ s.databases)
    {procedure : Database → Procedure}
    (hprocedure : ∀ d ∈ databases,
      procedure d ∈ Lifecycle.proceduresOf run.options.language d)
    {l : Language} {name action : String} {c : Call}
    (hc : c ∈ (Lifecycle.eventProcedure l name action databases fun d => (procedure d).name).calls)
    {t : Target} (ht : t ∈ c.targets) (files : List SourceFile) (upgrades : SourceClass) :
    t.Resolves run s files (run.creationSource s) (run.namesSource s) upgrades := by
  rw [Lifecycle.calls_eventProcedure] at hc
  obtain ⟨d, hd, rfl⟩ := List.mem_map.1 hc
  simp only [Call.targets, List.mem_cons, List.not_mem_nil, or_false] at ht
  rcases ht with rfl | rfl
  · exact resolves_databaseName (hdatabases hd) _ _ _
  · exact resolves_function (hdatabases hd) (hprocedure d hd) _ _ _

/-- The functions of a database refer to what is there. -/
theorem resolves_of_mem_proceduresOf (h : run.generate s = .ok files) (hd : d ∈ s.databases)
    {l : Language} {p : Procedure} (hp : p ∈ Lifecycle.proceduresOf l d) {c : Call}
    (hc : c ∈ p.calls) {t : Target} (ht : t ∈ c.targets) (creation names upgrades : SourceClass) :
    t.Resolves run s files creation names upgrades := by
  rcases Lifecycle.mem_proceduresOf hp with rfl | rfl | rfl
  · rw [Lifecycle.calls_tablesProcedure] at hc
    obtain ⟨table, htable, rfl⟩ := List.mem_map.1 hc
    have hmem : table ∈ d.tables := by
      rcases List.mem_append.1 htable with henum | hother
      · exact (List.mem_filter.1 henum).1
      · exact (List.mem_filter.1 hother).1
    obtain rfl := List.mem_singleton.1 ht
    exact resolves_tableScript h hd hmem _ _ _
  · rw [Lifecycle.calls_createViewsProcedure] at hc
    obtain ⟨view, hview, rfl⟩ := List.mem_map.1 hc
    obtain rfl := List.mem_singleton.1 ht
    exact (resolves_view h hd hview _ _ _).1
  · rw [Lifecycle.calls_dropViewsProcedure] at hc
    obtain ⟨view, hview, rfl⟩ := List.mem_map.1 hc
    obtain rfl := List.mem_singleton.1 ht
    exact (resolves_view h hd hview _ _ _).2

theorem subset_withViews (s : Schema) : Lifecycle.withViews s ⊆ s.databases :=
  fun _ hd => (List.mem_filter.1 hd).1

/-- A database with views has functions for them. -/
theorem mem_proceduresOf_of_mem_withViews (hd : d ∈ Lifecycle.withViews s) (l : Language) :
    Lifecycle.createViewsProcedure l d ∈ Lifecycle.proceduresOf l d
      ∧ Lifecycle.dropViewsProcedure l d ∈ Lifecycle.proceduresOf l d := by
  have hviews : d.views.isEmpty = false := by
    simpa [Lifecycle.withViews] using (List.mem_filter.1 hd).2
  simp [Lifecycle.proceduresOf, hviews]

/-- All functions for all databases refer to what is there. -/
theorem resolves_of_mem_targets (h : run.generate s = .ok files) {p : Procedure}
    (hp : p ∈ Lifecycle.procedures run.options.language s ++ [Lifecycle.identification s])
    {t : Target} (ht : t ∈ p.targets) :
    t.Resolves run s files (run.creationSource s) (run.namesSource s) (run.upgradesSource s) := by
  obtain ⟨c, hc, htarget⟩ := List.mem_flatMap.1 ht
  simp only [Lifecycle.procedures, List.mem_append, List.mem_cons, List.not_mem_nil, or_false,
    List.mem_flatMap] at hp
  rcases hp with ((rfl | rfl | rfl) | ⟨d, hd, hp⟩) | rfl
  · exact resolves_of_mem_event (List.Subset.refl _) (fun d _ => List.mem_cons_self) hc htarget _ _
  · exact resolves_of_mem_event (subset_withViews s)
      (fun d hd => (mem_proceduresOf_of_mem_withViews hd _).1) hc htarget _ _
  · exact resolves_of_mem_event (subset_withViews s)
      (fun d hd => (mem_proceduresOf_of_mem_withViews hd _).2) hc htarget _ _
  · exact resolves_of_mem_proceduresOf h hd hp hc htarget _ _ _
  · rw [Lifecycle.calls_identification] at hc
    obtain ⟨d, hd, rfl⟩ := List.mem_map.1 hc
    simp only [Call.targets, List.mem_cons, List.not_mem_nil, or_false] at htarget
    rcases htarget with rfl | rfl | rfl
    · exact resolves_databaseName hd _ _ _
    · exact (resolves_versions hd _ _ _).1
    · exact (resolves_versions hd _ _ _).2

end Run

/-! ## Coverage -/

/-- The procedures of a database create each of its tables once, those whose rows are literals
before the others. If it has views, two more create and drop them. -/
structure Database.Covered (d : Database) (procedures : List Procedure) : Prop where
  names : procedures.map (·.name) = ("create" ++ d.functionPart ++ "Tables")
    :: if d.views = [] then []
      else ["create" ++ d.functionPart ++ "Views", "drop" ++ d.functionPart ++ "Views"]
  calls : procedures.map (·.calls) =
    (d.enumerationTables ++ d.tables.filter (!·.isEnumeration)).map
        (fun table => .create (.tableScript d table))
      :: if d.views = [] then []
        else [d.views.map fun view => .create (.viewScript d view),
          d.views.map fun view => .drop (.viewDrop d view)]
  once : (d.enumerationTables ++ d.tables.filter (!·.isEnumeration)).Perm d.tables

theorem Database.covered_proceduresOf (l : Language) (d : Database) :
    d.Covered (Lifecycle.proceduresOf l d) := by
  constructor
  case names =>
    rw [Lifecycle.proceduresOf, List.map_cons]
    cases d.views <;> rfl
  case calls =>
    rw [Lifecycle.proceduresOf, List.map_cons, Lifecycle.calls_tablesProcedure]
    cases hviews : d.views with
    | nil => rfl
    | cons view views =>
      simp [Lifecycle.calls_createViewsProcedure, Lifecycle.calls_dropViewsProcedure, hviews]
  case once => exact List.filter_append_perm _ _

/-- The functions for all databases cover a schema: there are those of every database, the ones for
events call them in the order of the databases, and the databases are made known in that order. -/
structure Run.Covers (run : Run) (s : Schema) (creation config : SourceClass)
    (onCreate onCreateViews onDropViews identification : Procedure)
    (procedures : Database → List Procedure) : Prop where
  /-- The class has these functions and no others. -/
  functions : creation.functions =
    ([onCreate, onCreateViews, onDropViews] ++ s.databases.flatMap procedures).map
      fun p => (p.name, (p.function run run.options.language).content)
  events : [onCreate, onCreateViews, onDropViews].map (·.name) =
    ["onCreate", "onCreateViews", "onDropViews"]
  databases : ∀ d ∈ s.databases, d.Covered (procedures d)
  tablesCreated : onCreate.calls = s.databases.map fun d =>
    .dispatch (.databaseName d) (.function ("create" ++ d.functionPart ++ "Tables"))
  viewsCreated : onCreateViews.calls = (s.databases.filter (!·.views.isEmpty)).map fun d =>
    .dispatch (.databaseName d) (.function ("create" ++ d.functionPart ++ "Views"))
  viewsDropped : onDropViews.calls = (s.databases.filter (!·.views.isEmpty)).map fun d =>
    .dispatch (.databaseName d) (.function ("drop" ++ d.functionPart ++ "Views"))
  identified : config.functionContents "identifyDatabases" =
    [(identification.function run run.options.language).content]
  known : identification.calls = s.databases.map fun d =>
    .add (.databaseName d) (.tablesVersion d) (.viewsVersion d)
  /-- What is not a call is the same for every schema. -/
  fixed : ∀ p ∈ [onCreate, onCreateViews, onDropViews] ++ s.databases.flatMap procedures
    ++ [identification], p.fixedCode ⊆ Lifecycle.fixedTexts run.options.language

theorem Run.covers (run : Run) (s : Schema) :
    run.Covers s (run.creationSource s) (run.configSource s)
      (Lifecycle.onCreate run.options.language s) (Lifecycle.onCreateViews run.options.language s)
      (Lifecycle.onDropViews run.options.language s) (Lifecycle.identification s)
      (Lifecycle.proceduresOf run.options.language) := by
  constructor
  case functions => exact functions_creationSource
  case events => rfl
  case databases => exact fun d _ => d.covered_proceduresOf _
  case tablesCreated => exact Lifecycle.calls_eventProcedure _ _ _ _ _
  case viewsCreated => exact Lifecycle.calls_eventProcedure _ _ _ _ _
  case viewsDropped => exact Lifecycle.calls_eventProcedure _ _ _ _ _
  case identified => exact functionContents_configSource
  case known => exact Lifecycle.calls_identification s
  case fixed => exact fun p hp => Lifecycle.fixedCode_subset hp

/-- The files of a schema hold the classes for all databases. -/
theorem Run.file_mem_of_mem_sharedSources {run : Run} {s : Schema} {files : List SourceFile}
    (h : run.generate s = .ok files) {entry : Policy × SourceClass}
    (hentry : entry ∈ run.sharedSources s) :
    (Artifact.mk "" entry.1 entry.2).file run.style ∈ files := by
  obtain ⟨as, has, rfl⟩ := generate_eq_ok_iff.1 h
  obtain ⟨rs, -, rfl⟩ := artifacts_eq_ok_iff.1 has
  have hlifecycle : Artifact.mk "" entry.1 entry.2 ∈ run.lifecycle s :=
    List.mem_append_left _ (List.mem_map_of_mem hentry)
  exact List.mem_map_of_mem (List.mem_append_right _ hlifecycle)

/-- Whenever a schema is generated, in whatever language, one class creates the tables and views of
each database, every table and every view once, by functions that are called for the name of the
database and for no other reason. Whatever these functions and the list of known databases refer to
is there: the statements of tables and views in classes that are made for them in their packages,
and names and versions of databases in the classes for these, where the literal of a name stands for
that of a database with the same constant. -/
theorem Run.lifecycle_covers {run : Run} {s : Schema} {files : List SourceFile}
    (h : run.generate s = .ok files) :
    ∃ (creation names upgrades config : SourceClass)
      (onCreate onCreateViews onDropViews identification : Procedure)
      (procedures : Database → List Procedure),
      [creation, names, upgrades, config].map (·.name) =
        ["DatabaseBaseManager", "DatabaseManagerConst", "DatabaseManager", "AppDatabaseConfig"]
      ∧ (∀ source ∈ [creation, names, upgrades, config], source.package = run.package)
      ∧ (∀ a ∈ [Artifact.mk "" .overwrite creation, Artifact.mk "" .overwrite names,
          Artifact.mk "" .createOnly upgrades, Artifact.mk "" .createOnly config],
        a.file run.style ∈ files)
      ∧ run.Covers s creation config onCreate onCreateViews onDropViews identification procedures
      ∧ ∀ p ∈ [onCreate, onCreateViews, onDropViews] ++ s.databases.flatMap procedures
          ++ [identification], ∀ t ∈ p.targets, t.Resolves run s files creation names upgrades := by
  refine ⟨run.creationSource s, run.namesSource s, run.upgradesSource s, run.configSource s,
    Lifecycle.onCreate run.options.language s, Lifecycle.onCreateViews run.options.language s,
    Lifecycle.onDropViews run.options.language s, Lifecycle.identification s,
    Lifecycle.proceduresOf run.options.language, ?_, ?_, ?_, run.covers s, ?_⟩
  · rw [← map_name_sharedSources run s, sharedSources_eq]
    rfl
  · have hpackage : ∀ entry ∈ run.sharedSources s, entry.2.package = run.package :=
      fun entry hentry => (language_package_of_mem_sharedSources hentry).2
    rw [sharedSources_eq] at hpackage
    simpa using hpackage
  · have hfiles : ∀ entry ∈ run.sharedSources s,
        (Artifact.mk "" entry.1 entry.2).file run.style ∈ files :=
      fun entry hentry => file_mem_of_mem_sharedSources h hentry
    rw [sharedSources_eq] at hfiles
    simpa using hfiles
  · exact fun p hp t ht => resolves_of_mem_targets h hp ht

/-- A view on persons. -/
def adultView : Entity :=
  { kind := .view, name := "ADULT", fields := [{ name := "NAME", type := .varchar }] }

/-- A database with a table, an enumeration table behind it and a view. -/
def townDatabase : Database :=
  { name := "town", tables := [personTable, statusTable], views := [adultView] }

/-- The functions for a database in Java: the enumeration table is created before the other table,
and the view is created and dropped. -/
theorem Run.lifecycle_covers_townDatabase :
    ∃ (files : List SourceFile) (creation : SourceClass) (onCreate : Procedure)
      (procedures : List Procedure),
      Run.generate { package := "org", created := "today", options := { language := .java } }
          { databases := [townDatabase] } = .ok files
      ∧ creation.functions.map (·.1) = ["onCreate", "onCreateViews", "onDropViews",
          "createTownTables", "createTownViews", "dropTownViews"]
      ∧ onCreate.calls =
          [.dispatch (.databaseName townDatabase) (.function "createTownTables")]
      ∧ procedures.map (·.calls) =
          [[.create (.tableScript townDatabase statusTable),
              .create (.tableScript townDatabase personTable)],
            [.create (.viewScript townDatabase adultView)],
            [.drop (.viewDrop townDatabase adultView)]] := by
  let run : Run := { package := "org", created := "today", options := { language := .java } }
  let schema : Schema := { databases := [townDatabase] }
  obtain ⟨files, hfiles⟩ : ∃ files, run.generate schema = .ok files := by
    rw [exists_generate_iff]
    have hentities : schema.entities = [personTable, statusTable, adultView] := rfl
    rw [hentities]
    intro e he
    simp only [List.mem_cons, List.not_mem_nil, or_false] at he
    rcases he with rfl | rfl | rfl <;>
      exact Entity.generable_of_plain (by decide) (by decide) (by decide)
  obtain ⟨creation, -, -, config, onCreate, onCreateViews, onDropViews, identification, procedures,
    -, -, -, hcovers, -⟩ := Run.lifecycle_covers hfiles
  have hdatabase := hcovers.databases townDatabase List.mem_cons_self
  refine ⟨files, creation, onCreate, procedures townDatabase, hfiles, ?_, ?_, ?_⟩
  · have hnames : creation.functions.map (·.1) =
        [onCreate, onCreateViews, onDropViews].map (·.name)
          ++ (procedures townDatabase).map (·.name) := by
      rw [hcovers.functions, List.flatMap_singleton, List.map_map, List.map_append]
      rfl
    rw [hnames, hcovers.events, hdatabase.names]
    decide
  · rw [hcovers.tablesCreated]
    decide
  · rw [hdatabase.calls]
    decide

end SchemaForge
