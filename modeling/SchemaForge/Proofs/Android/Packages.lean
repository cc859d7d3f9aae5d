import SchemaForge.Proofs.Android.Paths

namespace SchemaForge

/-! # Packages and directories

The directory of a class has the parts of its package, below the one that all packages of a run have
in common, as names. That is so as long as the names of databases and classes are single parts of
packages and paths: the dot in the name of a database parts its packages and is left in its
directory.
-/

/-- A directory that has the parts of a package below that of the run as names. -/
def Mirrors (base package directory : String) : Prop :=
  (package = base ∧ directory = "")
    ∨ ∃ below, package = base ++ "." ++ below ∧ directory = Text.replaceChar '.' "/" below

theorem mirrors_base_iff {base directory : String} :
    Mirrors base base directory ↔ directory = "" := by
  constructor
  · rintro (⟨-, hdirectory⟩ | ⟨below, hpackage, -⟩)
    · exact hdirectory
    · have hlength := congrArg String.length hpackage
      simp [String.append_assoc] at hlength
  · exact fun hdirectory => .inl ⟨rfl, hdirectory⟩

theorem mirrors_append_iff {base below directory : String} :
    Mirrors base (base ++ "." ++ below) directory ↔
      directory = Text.replaceChar '.' "/" below := by
  constructor
  · rintro (⟨hpackage, -⟩ | ⟨same, hpackage, hdirectory⟩)
    · have hlength := congrArg String.length hpackage
      simp [String.append_assoc] at hlength
    · rwa [(String.append_right_inj _).1 hpackage]
  · exact fun hdirectory => .inr ⟨below, rfl, hdirectory⟩

/-! ## Names as parts of paths -/

namespace Path

/-- A name without dots is a single part of a package. -/
theorem replaceChar_dot_eq_self_iff {s : String} :
    Text.replaceChar '.' "/" s = s ↔ '.' ∉ s.toList := by
  have hslash : "/" = String.singleton '/' := rfl
  rw [hslash]
  exact Text.replaceChar_singleton_eq_self_iff (by decide)

/-- Two names make the directory of a package of two parts when no dot is left in them and exactly
one slash comes between them. -/
theorem join_eq_replaceChar_iff (first second : String) :
    join first second = Text.replaceChar '.' "/" (first ++ "." ++ second) ↔
      ('.' ∉ first.toList ∧ first ≠ "" ∧ Text.endsWithChar '/' first = false)
        ∧ '.' ∉ second.toList ∧ isAbsolute second = false := by
  have hslash : "/" = String.singleton '/' := rfl
  have hlengths : ∀ s, (Text.replaceChar '.' "/" s).toList.length = s.toList.length := by
    rw [hslash]
    exact Text.length_replaceChar_singleton '.' '/'
  have hdot : Text.replaceChar '.' "/" "." = "/" := rfl
  rw [Text.replaceChar_append, Text.replaceChar_append, hdot, ← replaceChar_dot_eq_self_iff,
    ← replaceChar_dot_eq_self_iff]
  constructor
  · intro hjoin
    have hlength : (join first second).toList.length =
        first.toList.length + 1 + second.toList.length := by
      rw [hjoin, String.toList_append, String.toList_append, List.length_append, List.length_append,
        hlengths, hlengths]
      rfl
    have hrelative : ¬ isAbsolute second := by
      intro habsolute
      rw [join, if_pos habsolute] at hlength
      omega
    have hapart : ¬ (first = "" ∨ Text.endsWithChar '/' first) := by
      intro hnone
      rw [join, if_neg hrelative, if_pos hnone, String.toList_append, List.length_append] at hlength
      omega
    rw [join, if_neg hrelative, if_neg hapart, ← String.toList_inj] at hjoin
    simp only [String.toList_append, List.append_assoc] at hjoin
    obtain ⟨hleft, hrest⟩ := List.append_inj hjoin (hlengths first).symm
    rw [String.toList_inj] at hleft
    rw [List.append_cancel_left_eq, String.toList_inj] at hrest
    rw [not_or, Bool.not_eq_true] at hapart
    rw [Bool.not_eq_true] at hrelative
    exact ⟨⟨hleft.symm, hapart⟩, hrest.symm, hrelative⟩
  · rintro ⟨⟨hleft, hne, hend⟩, hright, hrelative⟩
    rw [join, if_neg (by simp [hrelative]), if_neg (by simp [hne, hend]), hleft, hright]

/-- Small letters leave a slash at the front of a path there. -/
theorem isAbsolute_lower (path : String) : isAbsolute (Text.lower path) = isAbsolute path := by
  rw [Bool.eq_iff_iff, isAbsolute_iff, isAbsolute_iff, Text.lower, String.toList_ofList,
    Chars.head?_lower_eq_some_iff (by decide)]

end Path

/-! ## Packages of classes -/

/-- The lines that declare a package; classes without one do not declare any. -/
def Language.packageClause (l : Language) (package : String) : String :=
  if package = "" then "" else "package " ++ package ++ l.terminator ++ "\n\n"

namespace SourceClass

/-- The comment at the top of a file. -/
def fileHeader : SourceClass → String
  | kotlin c => c.fileHeader
  | java c => c.fileHeader

/-- What stands above the package in a file. -/
def banner (c : SourceClass) : String :=
  if c.fileHeader = "" then "" else Text.trimEnd c.fileHeader ++ "\n\n"

/-- A file declares the package of its class right behind the comment at its top. -/
theorem exists_render_eq (style : Style) (c : SourceClass) :
    ∃ body, c.render style = c.banner ++ c.language.packageClause c.package ++ body := by
  cases c with
  | kotlin c =>
    simp only [render, KotlinClass.render, banner, fileHeader, language, package,
      Language.packageClause, Language.terminator, String.append_assoc, String.empty_append]
    exact ⟨_, rfl⟩
  | java c =>
    have hend : ";" ++ "\n\n" = ";\n\n" := rfl
    simp only [render, JavaClass.render, banner, fileHeader, language, package,
      Language.packageClause, Language.terminator, String.append_assoc, hend]
    exact ⟨_, rfl⟩

end SourceClass

/-- The last move to a file is that to its name in the directory of its class. -/
theorem Artifact.moves_path (a : Artifact) (h : '/' ∉ a.source.name.toList) :
    Path.moves a.path = Path.moves a.directory ++ [.down a.source.fileName] := by
  rw [a.path_eq, ManifestEntry.moves_path h, a.source.fileName_eq]
  rfl

namespace Resolved

/-- All classes of an entity are in its package and its directory. -/
theorem place_of_mem_artifacts {r : Resolved} {a : Artifact} (h : a ∈ r.artifacts) :
    a.source.package = r.package ∧ a.directory = r.directory := by
  obtain ⟨b, hb, rfl⟩ := List.mem_map.1 h
  simp only [and_true]
  exact (language_package_of_mem_builders hb).2

theorem exists_mem_artifacts (r : Resolved) : ∃ a, a ∈ r.artifacts := by
  obtain ⟨constants, rest, heq, -⟩ := r.exists_artifacts_eq_cons
  rw [heq]
  exact ⟨constants, List.mem_cons_self⟩

theorem forall_mem_artifacts_mirrors_iff (r : Resolved) (base : String) :
    (∀ a ∈ r.artifacts, Mirrors base a.source.package a.directory) ↔
      Mirrors base r.package r.directory := by
  constructor
  · intro hall
    obtain ⟨a, ha⟩ := r.exists_mem_artifacts
    obtain ⟨hpackage, hdirectory⟩ := place_of_mem_artifacts ha
    rw [← hpackage, ← hdirectory]
    exact hall a ha
  · intro hmirrors a ha
    obtain ⟨hpackage, hdirectory⟩ := place_of_mem_artifacts ha
    rwa [hpackage, hdirectory]

end Resolved

/-! ## Directories of entities and databases -/

/-- A name of a database that is a single part of its packages and ends a path. -/
structure Database.FitsDirectory (d : Database) : Prop where
  noDot : '.' ∉ d.name.toList
  named : d.name ≠ ""
  noSlashAtEnd : Text.endsWithChar '/' d.name = false

/-- The directory of an entity mirrors its package when its class and, if it is in the package, its
database are single parts. -/
theorem Scope.mirrors_iff (s : Scope) : Mirrors s.run.package s.package s.directory ↔
    '.' ∉ s.className.toList
      ∧ (s.run.options.databaseInPackage →
        s.database.FitsDirectory ∧ Path.isAbsolute s.className = false) := by
  have hclass : '.' ∉ (Text.lower s.className).toList ↔ '.' ∉ s.className.toList := by
    rw [Text.mem_lower_iff (by decide)]
  rw [package, packageOf, directory, Run.packageOf, Run.directoryOf]
  cases hoption : s.run.options.databaseInPackage with
  | true =>
    have hfits : s.database.FitsDirectory ↔ '.' ∉ (Text.lower s.database.name).toList
        ∧ Text.lower s.database.name ≠ ""
        ∧ Text.endsWithChar '/' (Text.lower s.database.name) = false := by
      rw [Text.mem_lower_iff (by decide), Text.endsWithChar_lower (by decide),
        Text.lower_ne_empty_iff]
      exact ⟨fun h => ⟨h.1, h.2, h.3⟩, fun h => ⟨h.1, h.2.1, h.2.2⟩⟩
    have hbelow : s.run.package ++ "." ++ Text.lower s.database.name ++ "."
        ++ Text.lower s.className =
          s.run.package ++ "." ++ (Text.lower s.database.name ++ "." ++ Text.lower s.className) := by
      simp only [String.append_assoc]
    rw [if_pos rfl, if_pos rfl, hbelow, mirrors_append_iff, Path.join_eq_replaceChar_iff, ← hfits,
      hclass, Path.isAbsolute_lower]
    simp only [forall_const]
    exact and_left_comm
  | false =>
    rw [if_neg Bool.false_ne_true, if_neg Bool.false_ne_true, mirrors_append_iff, Path.join_empty,
      eq_comm, Path.replaceChar_dot_eq_self_iff, hclass]
    simp

namespace Run

variable {run : Run} {s : Schema}

/-- The directory of the holder of a database mirrors its package when there is no dot to replace. -/
theorem mirrors_directoryOf_iff (run : Run) (d : Database) :
    Mirrors run.package (run.packageOf d) (run.directoryOf d) ↔
      (run.options.databaseInPackage → '.' ∉ d.name.toList) := by
  rw [packageOf, directoryOf]
  cases run.options.databaseInPackage with
  | true =>
    rw [if_pos rfl, if_pos rfl, mirrors_append_iff, eq_comm,
      Path.replaceChar_dot_eq_self_iff, Text.mem_lower_iff (by decide)]
    simp
  | false =>
    rw [if_neg Bool.false_ne_true, if_neg Bool.false_ne_true, mirrors_base_iff]
    simp

theorem package_holder (run : Run) (d : Database) : (run.holder d).package = run.packageOf d := by
  unfold holder
  cases run.options.language <;> rfl

/-- Of the files for all databases only the holders can be elsewhere, as the others are in the
package and the directory of the run. -/
theorem forall_mem_lifecycle_mirrors_iff :
    (∀ a ∈ run.lifecycle s, Mirrors run.package a.source.package a.directory) ↔
      ∀ d ∈ run.heldDatabases s, run.options.databaseInPackage → '.' ∉ d.name.toList := by
  have hshared : ∀ entry ∈ run.sharedSources s, Mirrors run.package entry.2.package "" := by
    intro entry hentry
    rw [(language_package_of_mem_sharedSources hentry).2]
    exact mirrors_base_iff.2 rfl
  rw [lifecycle, List.forall_mem_append, List.forall_mem_map, List.forall_mem_map]
  simp only [package_holder, mirrors_directoryOf_iff]
  exact and_iff_right hshared

/-- Whenever a schema is generated, every file is in the directory of its class, directly if there
is no slash in its name, and declares the package of its class. The directories mirror the packages
exactly when no class has a dot and, if the names of databases are in packages, these have no dots
and are not empty or closed by a slash, and no class begins with one. -/
theorem directories_mirror_iff {files : List SourceFile} (h : run.generate s = .ok files) :
    ∃ as, run.artifacts s = .ok as ∧ files = as.map (·.file run.style)
      ∧ (∀ a ∈ as, (a.file run.style).path = Path.join a.directory a.source.fileName
        ∧ ('/' ∉ a.source.name.toList → Path.moves (a.file run.style).path =
          Path.moves a.directory ++ [.down a.source.fileName])
        ∧ ∃ body, (a.file run.style).contents =
          a.source.banner ++ run.options.language.packageClause a.source.package ++ body)
      ∧ ((∀ a ∈ as, Mirrors run.package a.source.package a.directory) ↔
        (∀ d ∈ s.databases, ∀ e ∈ d.entities, '.' ∉ e.className.toList
          ∧ (run.options.databaseInPackage →
            d.FitsDirectory ∧ Path.isAbsolute e.className = false))
        ∧ ∀ d ∈ run.heldDatabases s, run.options.databaseInPackage → '.' ∉ d.name.toList) := by
  obtain ⟨as, has, rfl⟩ := generate_eq_ok_iff.1 h
  refine ⟨as, has, rfl, ?_, ?_⟩
  · intro a ha
    rw [← language_of_mem_artifacts has ha]
    exact ⟨rfl, a.moves_path, a.source.exists_render_eq run.style⟩
  · obtain ⟨rs, hrs, rfl⟩ := artifacts_eq_ok_iff.1 has
    have hentities : (∀ a ∈ rs.flatMap (·.artifacts),
        Mirrors run.package a.source.package a.directory) ↔
          ∀ scope ∈ run.scopes s, Mirrors run.package scope.package scope.directory := by
      rw [← map_toScope_of_forall₂ hrs, List.forall_mem_map, List.forall_mem_flatMap]
      exact forall₂_congr fun r _ => r.forall_mem_artifacts_mirrors_iff run.package
    rw [List.forall_mem_append, forall_mem_lifecycle_mirrors_iff, hentities, scopes,
      List.forall_mem_flatMap]
    simp only [List.forall_mem_map]
    refine and_congr_left fun _ => forall₂_congr fun d _ => forall₂_congr fun e _ => ?_
    exact (Scope.mk run d e).mirrors_iff

/-- A database whose name has an extension. -/
def sqliteDatabase : Database :=
  { name := "main.sqlite", tables := [personTable] }

/-- Its packages have a part more than its directories. -/
theorem directories_mirror_sqliteDatabase :
    ∃ as, Run.artifacts
        { package := "org", created := "today", options := { databaseInPackage := true } }
        { databases := [sqliteDatabase] } = .ok as
      ∧ (∃ a ∈ as, a.source.package = "org.main.sqlite.person" ∧ a.directory = "main.sqlite/person")
      ∧ ¬ ∀ a ∈ as, Mirrors "org" a.source.package a.directory := by
  let run : Run :=
    { package := "org", created := "today", options := { databaseInPackage := true } }
  let schema : Schema := { databases := [sqliteDatabase] }
  have hgenerable : ∀ e ∈ schema.entities, e.Generable := by
    intro e he
    have hentities : schema.entities = [personTable] := rfl
    rw [hentities, List.mem_singleton] at he
    rw [he]
    exact Entity.generable_of_plain (by decide) (by decide) (by decide)
  obtain ⟨files, hfiles⟩ : ∃ files, run.generate schema = .ok files :=
    exists_generate_iff.2 hgenerable
  obtain ⟨as, has, -, -, hiff⟩ := directories_mirror_iff hfiles
  refine ⟨as, has, ?_, ?_⟩
  · obtain ⟨rs, hrs, rfl⟩ := artifacts_eq_ok_iff.1 has
    have hscopes : rs.map (·.toScope) = [Scope.mk run sqliteDatabase personTable] :=
      map_toScope_of_forall₂ hrs
    obtain ⟨r, rfl, hr⟩ := List.map_eq_singleton_iff.1 hscopes
    obtain ⟨a, ha⟩ := r.exists_mem_artifacts
    obtain ⟨hpackage, hdirectory⟩ := Resolved.place_of_mem_artifacts ha
    refine ⟨a, ?_, ?_, ?_⟩
    · rw [List.flatMap_singleton]
      exact List.mem_append_left _ ha
    · rw [hpackage, hr]
      decide
    · rw [hdirectory, hr]
      decide
  · rw [hiff]
    rintro ⟨hentities, -⟩
    have hfits := (hentities sqliteDatabase List.mem_cons_self personTable List.mem_cons_self).2 rfl
    have hdot : '.' ∈ sqliteDatabase.name.toList := by decide
    exact hfits.1.noDot hdot

end Run

end SchemaForge
