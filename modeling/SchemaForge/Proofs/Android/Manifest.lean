import SchemaForge.Proofs.Android.HandEdits
import SchemaForge.Proofs.Android.Statements
import SchemaForge.Proofs.Text.LetterCase

namespace SchemaForge

/-! # The files of a run

A run lists its files without making them: those of every entity in turn, then those for all
databases, then one holder of managers for each database. The two languages make their classes apart
from each other, but for the same list, so that only the extensions of the files differ. The holder
of a database has the managers that are in the list of its entities.
-/

/-! ## Lists of files -/

/-- A file that a run makes: the directory, the class in the file and what becomes of it. -/
structure ManifestEntry where
  directory : String
  name : String
  policy : Policy
deriving DecidableEq, Repr

/-- The path of the file in a language. -/
def ManifestEntry.path (l : Language) (m : ManifestEntry) : String :=
  Path.join m.directory (m.name ++ "." ++ l.extension)

/-- The classes of an entity: what stands behind its name in theirs, and what becomes of the file. -/
def Entity.parts (e : Entity) : List (String × Policy) :=
  if e.isEnumeration then [("Const", .overwrite), ("", .overwrite)]
  else
    [("Const", .overwrite), ("BaseRecord", .overwrite), ("", .createOnly),
      ("BaseManager", .overwrite), ("Manager", .createOnly)]

/-- The files of an entity. They have a directory of their own, in that of the database if it has
one. -/
def Scope.manifest (s : Scope) : List ManifestEntry :=
  let above := if s.run.options.databaseInPackage then Text.lower s.database.name else ""
  s.entity.parts.map fun part =>
    ⟨Path.join above (Text.lower s.entity.className), s.entity.className ++ part.1, part.2⟩

theorem Scope.manifest_eq (s : Scope) : s.manifest =
    s.entity.parts.map fun part => ⟨s.directory, s.className ++ part.1, part.2⟩ :=
  rfl

namespace Run

/-- The files for all databases. -/
def sharedManifest : List ManifestEntry :=
  [⟨"", "DatabaseBaseManager", .overwrite⟩, ⟨"", "DatabaseManagerConst", .overwrite⟩,
    ⟨"", "DatabaseManager", .createOnly⟩, ⟨"", "AppDatabaseConfig", .createOnly⟩]

/-- The file of the managers of a database. -/
def holderEntry (run : Run) (d : Database) : ManifestEntry :=
  ⟨if run.options.databaseInPackage then Text.lower d.name else "",
    d.functionPart ++ "DatabaseManagers", .overwrite⟩

theorem holderEntry_eq (run : Run) (d : Database) : run.holderEntry d =
    ⟨run.directoryOf d, d.functionPart ++ "DatabaseManagers", .overwrite⟩ :=
  rfl

/-- The files of a run, in order. -/
def manifest (run : Run) (s : Schema) : List ManifestEntry :=
  (s.databases.flatMap fun d =>
      (d.tables ++ d.views ++ d.queries).flatMap fun e => (Scope.mk run d e).manifest)
    ++ sharedManifest ++ if run.options.injection then [] else s.databases.map run.holderEntry

/-- The language has no part in the list. -/
theorem manifest_inLanguage (run : Run) (s : Schema) (l : Language) :
    (run.inLanguage l).manifest s = run.manifest s :=
  rfl

end Run

/-! ## Artifacts in the list -/

/-- The language of a class. -/
def SourceClass.language : SourceClass → Language
  | kotlin _ => .kotlin
  | java _ => .java

theorem SourceClass.fileName_eq (c : SourceClass) :
    c.fileName = c.name ++ "." ++ c.language.extension := by
  cases c <;> rfl

/-- How an artifact is listed. -/
def Artifact.entry (a : Artifact) : ManifestEntry :=
  ⟨a.directory, a.source.name, a.policy⟩

theorem Artifact.path_eq (a : Artifact) : a.path = a.entry.path a.source.language := by
  rw [Artifact.path, SourceClass.fileName_eq]
  rfl

namespace Resolved

/-- The classes of an entity are made as they are listed, in either language. -/
theorem map_entry_artifacts (r : Resolved) : r.artifacts.map (·.entry) = r.manifest := by
  -- the record and the enum have the name of the entity and nothing behind it
  have hclass : ∀ policy, ManifestEntry.mk r.directory (r.className ++ "") policy =
      ⟨r.directory, r.className, policy⟩ := by
    intro policy
    rw [String.append_empty]
  rw [Scope.manifest_eq]
  unfold artifacts Scope.builders Entity.parts
  cases r.language <;> cases r.entity.isEnumeration <;>
    simp only [List.map_cons, List.map_nil, hclass, if_true, Bool.false_eq_true, if_false,
      Artifact.entry] <;> rfl

/-- Every class of an entity is in the language of the run and in the package of the entity. -/
theorem language_package_of_mem_builders {r : Resolved} {b : Builder} (h : b ∈ r.builders) :
    (b.make r).language = r.language ∧ (b.make r).package = r.package := by
  unfold Scope.builders at h
  cases hlanguage : r.language <;> cases henum : r.entity.isEnumeration <;>
    simp only [hlanguage, henum, List.mem_cons, List.not_mem_nil, or_false] at h
  · rcases h with rfl | rfl | rfl | rfl | rfl <;> exact ⟨rfl, rfl⟩
  · rcases h with rfl | rfl <;> exact ⟨rfl, rfl⟩
  · rcases h with rfl | rfl | rfl | rfl | rfl <;> exact ⟨rfl, rfl⟩
  · rcases h with rfl | rfl <;> exact ⟨rfl, rfl⟩

theorem language_of_mem_artifacts {r : Resolved} {a : Artifact} (h : a ∈ r.artifacts) :
    a.source.language = r.language := by
  obtain ⟨b, hb, rfl⟩ := List.mem_map.1 h
  exact (language_package_of_mem_builders hb).1

end Resolved

namespace Run

variable {run : Run} {s : Schema}

theorem name_holder (run : Run) (d : Database) :
    (run.holder d).name = d.functionPart ++ "DatabaseManagers" := by
  unfold holder
  cases run.options.language <;> rfl

theorem language_holder (run : Run) (d : Database) :
    (run.holder d).language = run.options.language := by
  unfold holder
  cases run.options.language <;> rfl

/-- The holder of a database is made as it is listed. -/
theorem entry_holder (run : Run) (d : Database) :
    (Artifact.mk (run.directoryOf d) .overwrite (run.holder d)).entry = run.holderEntry d := by
  rw [Artifact.entry, name_holder]
  rfl

theorem path_holder (run : Run) (d : Database) :
    (Artifact.mk (run.directoryOf d) .overwrite (run.holder d)).path =
      (run.holderEntry d).path run.options.language := by
  rw [Artifact.path_eq, entry_holder, language_holder]

theorem map_entry_lifecycle (run : Run) (s : Schema) :
    (run.lifecycle s).map (·.entry) =
      sharedManifest ++ if run.options.injection then [] else s.databases.map run.holderEntry := by
  have hshared : (run.sharedSources s).map (fun entry =>
      ManifestEntry.mk "" entry.2.name entry.1) = sharedManifest := by
    unfold sharedSources
    cases run.options.language <;> rfl
  rw [lifecycle, List.map_append, List.map_map, List.map_map, ← hshared, heldDatabases]
  congr 1
  split
  · rfl
  · exact List.map_congr_left fun d _ => run.entry_holder d

/-- So is every class for all databases, in the package of the run. -/
theorem language_package_of_mem_sharedSources {entry : Policy × SourceClass}
    (h : entry ∈ run.sharedSources s) :
    entry.2.language = run.options.language ∧ entry.2.package = run.package := by
  unfold sharedSources at h
  cases hlanguage : run.options.language <;>
    simp only [hlanguage, List.mem_cons, List.not_mem_nil, or_false] at h <;>
    rcases h with rfl | rfl | rfl | rfl <;> exact ⟨rfl, rfl⟩

theorem language_of_mem_lifecycle {a : Artifact} (h : a ∈ run.lifecycle s) :
    a.source.language = run.options.language := by
  rcases List.mem_append.1 h with hshared | hheld
  · obtain ⟨entry, hentry, rfl⟩ := List.mem_map.1 hshared
    exact (language_package_of_mem_sharedSources hentry).1
  · obtain ⟨d, -, hd⟩ := List.mem_map.1 hheld
    rw [← hd]
    exact language_holder run d

/-- The resolved entities are in the places of those that were resolved. -/
theorem map_toScope_of_forall₂ {scopes : List Scope} {rs : List Resolved} {checks : Scope → Prop}
    (h : List.Forall₂ (fun scope r => scope.resolve = .ok r ∧ checks scope) scopes rs) :
    rs.map (·.toScope) = scopes := by
  induction h with
  | nil => rfl
  | cons hr _ ih => rw [List.map_cons, (Scope.resolve_eq_ok_iff.1 hr.1).1, ih]

/-- A run makes what it lists. -/
theorem map_entry_artifacts {as : List Artifact} (h : run.artifacts s = .ok as) :
    as.map (·.entry) = run.manifest s := by
  obtain ⟨rs, hrs, rfl⟩ := artifacts_eq_ok_iff.1 h
  have hscopes : rs.map (·.toScope) = run.scopes s := map_toScope_of_forall₂ hrs
  have hentities : (rs.flatMap (·.artifacts)).map (·.entry) =
      s.databases.flatMap fun d =>
        (d.tables ++ d.views ++ d.queries).flatMap fun e => (Scope.mk run d e).manifest := by
    calc (rs.flatMap (·.artifacts)).map (·.entry)
        = (rs.map (·.toScope)).flatMap (·.manifest) := by
          rw [List.map_flatMap, List.flatMap_map]
          exact List.flatMap_congr fun r _ => r.map_entry_artifacts
      _ = _ := by
          rw [hscopes, scopes, List.flatMap_assoc]
          simp only [List.flatMap_map]
          rfl
  rw [List.map_append, hentities, map_entry_lifecycle, manifest, List.append_assoc]

theorem language_of_mem_artifacts {as : List Artifact} (h : run.artifacts s = .ok as)
    {a : Artifact} (ha : a ∈ as) : a.source.language = run.options.language := by
  obtain ⟨rs, hrs, rfl⟩ := artifacts_eq_ok_iff.1 h
  rcases List.mem_append.1 ha with hentity | hlifecycle
  · obtain ⟨r, hr, ha⟩ := List.mem_flatMap.1 hentity
    have hscope : r.toScope ∈ run.scopes s := by
      rw [← map_toScope_of_forall₂ hrs]
      exact List.mem_map_of_mem hr
    obtain ⟨d, -, hd⟩ := List.mem_flatMap.1 hscope
    obtain ⟨e, -, heq⟩ := List.mem_map.1 hd
    rw [Resolved.language_of_mem_artifacts ha, ← heq]
    rfl
  · exact language_of_mem_lifecycle hlifecycle

/-- The files of a run are those that it lists. -/
theorem map_path_policy_of_generate {files : List SourceFile} (h : run.generate s = .ok files) :
    files.map (fun f => (f.path, f.policy)) =
      (run.manifest s).map fun m => (m.path run.options.language, m.policy) := by
  obtain ⟨as, has, rfl⟩ := generate_eq_ok_iff.1 h
  rw [← map_entry_artifacts has, List.map_map, List.map_map]
  refine List.map_congr_left fun a ha => ?_
  have hpath : a.path = a.entry.path run.options.language := by
    rw [a.path_eq, language_of_mem_artifacts has ha]
  exact congrArg (·, a.policy) hpath

theorem map_path_of_generate {files : List SourceFile} (h : run.generate s = .ok files) :
    files.map (·.path) = (run.manifest s).map (·.path run.options.language) := by
  have hpaths := congrArg (List.map Prod.fst) (map_path_policy_of_generate h)
  rwa [List.map_map, List.map_map] at hpaths

end Run

/-! ## Holders -/

namespace SourceClass

/-- The variables of a class with their types. -/
def typedNames : SourceClass → List (String × String)
  | kotlin c => c.properties.map fun p => (p.name, p.type)
  | java c => c.fields.map fun v => (v.name, v.type)

/-- The imports of a class. -/
def imports : SourceClass → List String
  | kotlin c => c.imports
  | java c => c.imports

end SourceClass

namespace Run

/-- The entities of a database for which the file of a manager is listed. -/
def managedEntities (run : Run) (d : Database) : List Entity :=
  d.entities.filter fun e =>
    let scope := Scope.mk run d e
    ⟨scope.directory, e.className ++ "Manager", .createOnly⟩ ∈ scope.manifest

/-- The import of the manager of an entity. -/
def managerImport (run : Run) (d : Database) (e : Entity) : String :=
  Text.trim
    (run.packageOf d ++ "." ++ Text.lower e.className ++ "." ++ e.className ++ "Manager")

/-- The import of the manager of all databases. -/
def databaseImport (run : Run) : String :=
  Text.trim (run.package ++ ".DatabaseManager")

/-- A class that holds a manager for each of these entities of a database, in their order. -/
structure Holds (run : Run) (d : Database) (entities : List Entity) (holder : SourceClass) :
    Prop where
  declared : holder.typedNames = entities.map fun e =>
    (Naming.variableName (e.className ++ "Manager"), e.className ++ "Manager")
  /-- Every variable is assigned a new manager. -/
  assigned : holder.functionContents "init" = [Text.concat (entities.map fun e =>
    run.options.language.line (Naming.variableName (e.className ++ "Manager") ++ " = "
      ++ run.options.language.creation ++ (e.className ++ "Manager") ++ "(databaseManager)"))]
  /-- Every manager is imported, where entities with the same class have the same manager. -/
  imported : holder.imports = run.databaseImport :: (entities.map (run.managerImport d)).eraseDups
  /-- Different classes have different managers. -/
  distinct : (entities.map (·.className)).Nodup → (entities.map (run.managerImport d)).Nodup

variable {run : Run} {s : Schema} {d : Database}

/-- A manager is listed for all entities but enumeration tables. -/
theorem managedEntities_eq (run : Run) (d : Database) : run.managedEntities d = d.managed := by
  refine List.filter_congr fun e _ => ?_
  have hname : (Scope.mk run d e).className = e.className := rfl
  simp only [Scope.manifest_eq, Entity.parts, hname]
  by_cases henum : e.isEnumeration
  · simp [henum]
  · simp [henum]

/-- Nothing of the name of a manager is trimmed but blanks before the package. -/
theorem exists_trim_manager (package : String) : ∃ base, ∀ name,
    Text.trim (package ++ "." ++ (name ++ "Manager")) = base ++ "." ++ (name ++ "Manager") := by
  refine ⟨String.ofList (package.toList.dropWhile Chars.isSpace), fun name => ?_⟩
  have hend : ('.' :: (name ++ "Manager").toList).getLast? = some 'r' := by
    rw [String.toList_append, ← List.cons_append, List.getLast?_append]
    rfl
  have htrim := Chars.trim_append package.toList (c := '.') (by decide) hend (by decide)
  rw [← String.toList_inj]
  simpa [Text.trim] using htrim

/-- The imports of managers and of the manager of all databases differ only behind a package that
they have in common, where the names of managers have a dot. -/
theorem exists_managerImport_eq (run : Run) (d : Database) : ∃ base inside,
    run.databaseImport = base ++ "." ++ ("Database" ++ "Manager")
      ∧ ∀ e, run.managerImport d e = base ++ "."
        ++ (inside ++ (Text.lower e.className ++ "." ++ e.className) ++ "Manager") := by
  obtain ⟨base, hbase⟩ := exists_trim_manager run.package
  have hdatabase : run.databaseImport = base ++ "." ++ ("Database" ++ "Manager") := by
    rw [← hbase, databaseImport, String.append_assoc]
    rfl
  cases hoption : run.options.databaseInPackage with
  | true =>
    refine ⟨base, Text.lower d.name ++ ".", hdatabase, fun e => ?_⟩
    rw [← hbase, managerImport, packageOf, hoption, if_pos rfl]
    simp only [String.append_assoc]
  | false =>
    refine ⟨base, "", hdatabase, fun e => ?_⟩
    rw [← hbase, managerImport, packageOf, hoption]
    simp only [Bool.false_eq_true, if_false, String.append_assoc, String.empty_append]

theorem managerImport_ne (run : Run) (d : Database) (e : Entity) :
    run.managerImport d e ≠ run.databaseImport := by
  obtain ⟨base, inside, hdatabase, hmanager⟩ := run.exists_managerImport_eq d
  rw [hdatabase, hmanager]
  intro hsame
  have hname : inside ++ (Text.lower e.className ++ "." ++ e.className) = "Database" :=
    (String.append_left_inj _).1 ((String.append_right_inj _).1 hsame)
  have hdot : '.' ∈ "Database".toList := by
    rw [← hname]
    simp
  revert hdot
  decide

theorem className_eq_of_managerImport {e f : Entity}
    (h : run.managerImport d e = run.managerImport d f) : e.className = f.className := by
  obtain ⟨base, inside, -, hmanager⟩ := run.exists_managerImport_eq d
  rw [hmanager, hmanager] at h
  have hname : inside ++ (Text.lower e.className ++ "." ++ e.className) =
      inside ++ (Text.lower f.className ++ "." ++ f.className) :=
    (String.append_left_inj _).1 ((String.append_right_inj _).1 h)
  exact Text.eq_of_lower_append_eq ((String.append_right_inj _).1 hname)

/-- The imports of a holder are those of the managers behind that of the manager of all databases. -/
theorem imports_holder (run : Run) (d : Database) : (run.holder d).imports =
    run.databaseImport :: (d.managed.map (run.managerImport d)).eraseDups := by
  have hholder : (run.holder d).imports = Lifecycle.holderImports run d := by
    unfold holder
    cases run.options.language <;> rfl
  have hnames : ((run.package ++ ".DatabaseManager") :: (Lifecycle.heldManagers run d).map
      fun m => m.1.package ++ "." ++ m.1.managerName).map Text.trim =
        run.databaseImport :: d.managed.map (run.managerImport d) := by
    rw [List.map_cons, Lifecycle.heldManagers, List.map_map, List.map_map]
    refine List.cons_eq_cons.2 ⟨rfl, List.map_congr_left fun e _ => ?_⟩
    simp only [Function.comp_apply, managerImport, Scope.package, Scope.packageOf,
      Scope.managerName, String.append_assoc]
    rfl
  -- all of them say something, as they have a dot
  have hkept : (run.databaseImport :: d.managed.map (run.managerImport d)).filter (· ≠ "") =
      run.databaseImport :: d.managed.map (run.managerImport d) := by
    obtain ⟨base, inside, hdatabase, hmanager⟩ := run.exists_managerImport_eq d
    rw [List.filter_eq_self, List.forall_mem_cons, List.forall_mem_map, hdatabase]
    simp [hmanager]
  have hother : (d.managed.map (run.managerImport d)).filter
      (fun name => !name == run.databaseImport) = d.managed.map (run.managerImport d) := by
    rw [List.filter_eq_self, List.forall_mem_map]
    intro e _
    simpa using run.managerImport_ne d e
  rw [hholder, Lifecycle.holderImports, Code.imports_eq, hnames, hkept, List.eraseDups_cons, hother]

/-- The holder of a database has the managers that are listed for it. -/
theorem holds_holder (run : Run) (d : Database) :
    run.Holds d (run.managedEntities d) (run.holder d) := by
  rw [managedEntities_eq]
  constructor
  case declared =>
    unfold holder
    cases run.options.language <;>
      simp only [SourceClass.typedNames, Lifecycle.kotlinHolder, Lifecycle.javaHolder,
        Lifecycle.heldManagers, List.map_map] <;> rfl
  case assigned =>
    have hinit : (run.holder d).functionContents "init" =
        [Lifecycle.holderInit run run.options.language d] := by
      unfold holder
      cases run.options.language <;>
        simp [SourceClass.functionContents, Lifecycle.kotlinHolder, Lifecycle.javaHolder]
    rw [hinit, Lifecycle.holderInit, Lifecycle.heldManagers, List.map_map]
    rfl
  case imported => exact run.imports_holder d
  case distinct =>
    intro hclasses
    rw [List.Nodup, List.pairwise_map] at hclasses ⊢
    exact hclasses.imp fun hne hsame => hne (className_eq_of_managerImport hsame)

/-- Whenever a schema is generated, in whatever language, it is in both, and the files are those of
the list, in its order and with its policies: only the extensions of their paths are those of the
language. The last files are the holders of the databases that get one, and each declares, assigns
and imports the managers whose files are listed for its database. -/
theorem generate_manifest {files : List SourceFile} (h : run.generate s = .ok files) :
    files.map (fun f => (f.path, f.policy)) =
        (run.manifest s).map (fun m => (m.path run.options.language, m.policy))
    ∧ (∀ l, ∃ others, (run.inLanguage l).generate s = .ok others
        ∧ others.map (fun f => (f.path, f.policy)) =
          (run.manifest s).map fun m => (m.path l, m.policy))
    ∧ ∃ before holders, files = before ++ holders
        ∧ List.Forall₂ (fun d f => ∃ holder : SourceClass, run.Holds d (run.managedEntities d) holder
            ∧ f.path = (run.holderEntry d).path run.options.language
            ∧ f.contents = holder.render run.style)
          (run.heldDatabases s) holders := by
  refine ⟨map_path_policy_of_generate h, fun l => ?_, ?_⟩
  · obtain ⟨others, hothers⟩ : ∃ others, (run.inLanguage l).generate s = .ok others :=
      exists_generate_iff.2 (exists_generate_iff.1 ⟨files, h⟩)
    have hlisted := map_path_policy_of_generate hothers
    rw [manifest_inLanguage] at hlisted
    exact ⟨others, hothers, hlisted⟩
  · obtain ⟨as, has, rfl⟩ := generate_eq_ok_iff.1 h
    obtain ⟨rs, -, rfl⟩ := artifacts_eq_ok_iff.1 has
    rw [lifecycle, ← List.append_assoc, List.map_append, List.map_map]
    refine ⟨_, _, rfl, ?_⟩
    rw [List.forall₂_map_right_iff, List.forall₂_same]
    intro d _
    exact ⟨run.holder d, run.holds_holder d, run.path_holder d, rfl⟩

/-- The files of an enumeration table and of a table with records in Java. The directory has the name
of the database in small letters. -/
theorem generate_manifest_statusTable_personTable :
    ∃ files, Run.generate
        { package := "org", created := "today"
          options := { databaseInPackage := true, language := .java } }
        { databases := [{ name := "Main", tables := [statusTable, personTable] }] } = .ok files
      ∧ files.map (fun f => (f.path, f.policy)) =
        [("main/status/StatusConst.java", .overwrite), ("main/status/Status.java", .overwrite),
          ("main/person/PersonConst.java", .overwrite),
          ("main/person/PersonBaseRecord.java", .overwrite),
          ("main/person/Person.java", .createOnly),
          ("main/person/PersonBaseManager.java", .overwrite),
          ("main/person/PersonManager.java", .createOnly),
          ("DatabaseBaseManager.java", .overwrite), ("DatabaseManagerConst.java", .overwrite),
          ("DatabaseManager.java", .createOnly), ("AppDatabaseConfig.java", .createOnly),
          ("main/MainDatabaseManagers.java", .overwrite)] := by
  let run : Run :=
    { package := "org", created := "today"
      options := { databaseInPackage := true, language := .java } }
  let schema : Schema := { databases := [{ name := "Main", tables := [statusTable, personTable] }] }
  have hgenerable : ∀ e ∈ schema.entities, e.Generable := by
    intro e he
    have hentities : schema.entities = [statusTable, personTable] := rfl
    rw [hentities] at he
    simp only [List.mem_cons, List.not_mem_nil, or_false] at he
    rcases he with rfl | rfl
    · exact ⟨⟨by simp [statusTable], by decide⟩, by decide⟩
    · exact Entity.generable_of_plain (by decide) (by decide) (by decide)
  obtain ⟨files, hfiles⟩ : ∃ files, run.generate schema = .ok files :=
    exists_generate_iff.2 hgenerable
  refine ⟨files, hfiles, ?_⟩
  rw [(generate_manifest hfiles).1]
  decide

end Run

end SchemaForge
