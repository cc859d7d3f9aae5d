import SchemaForge.Proofs.Android.Generation
import SchemaForge.Proofs.Files.Delivery

namespace SchemaForge

/-! # Hand edits survive regeneration

Records and managers are written once and then edited by hand, as are two of the classes for all
databases. Every run begins the files of an entity, and those for all databases, with one that it
writes anew in the same directory. Edits are therefore lost only where two classes of the run have
the same file. The names that a schema may have do not rule that out: an enumeration table and a
query of the same name have, the one its literals and the other its records, in one file.
-/

open FileTree

/-! ## Files that begin with one that is written anew -/

namespace FileTree

variable {directory : String}

theorem basesFirst_nil : BasesFirst directory [] := by
  intro before f after hsplit
  simp at hsplit

theorem basesFirst_append {first second : List SourceFile} (hfirst : BasesFirst directory first)
    (hsecond : BasesFirst directory second) : BasesFirst directory (first ++ second) := by
  intro before f after hsplit hpolicy
  -- the file is one of the second list, or of the first and then so are the files before it
  rcases List.append_eq_append_iff.1 hsplit with ⟨more, rfl, hmore⟩ | ⟨more, hmore, hrest⟩
  · obtain ⟨base, hbase, hbasePolicy, hsame⟩ := hsecond more f after hmore hpolicy
    exact ⟨base, List.mem_append_right first hbase, hbasePolicy, hsame⟩
  · cases more with
    | nil =>
      rw [List.append_nil] at hmore
      obtain ⟨base, hbase, -⟩ := hsecond [] f after hrest.symm hpolicy
      cases hbase
    | cons g more =>
      obtain ⟨rfl, rfl⟩ := List.cons_eq_cons.1 hrest
      exact hfirst before f more hmore hpolicy

theorem basesFirst_flatten {groups : List (List SourceFile)}
    (h : ∀ group ∈ groups, BasesFirst directory group) : BasesFirst directory groups.flatten := by
  induction groups with
  | nil => exact basesFirst_nil
  | cons group groups ih =>
    rw [List.forall_mem_cons] at h
    exact basesFirst_append h.1 (ih h.2)

theorem basesFirst_of_overwrite {files : List SourceFile}
    (h : ∀ f ∈ files, f.policy = .overwrite) : BasesFirst directory files := by
  rintro before f after rfl hpolicy
  rw [h f (by simp)] at hpolicy
  cases hpolicy

/-- Files that are written only once in the directory of the first file, which is written anew. -/
theorem basesFirst_cons {base : SourceFile} {files : List SourceFile}
    (hbase : base.policy = .overwrite)
    (h : ∀ f ∈ files, f.policy = .createOnly →
      Path.directory? (Path.join directory base.path) =
        Path.directory? (Path.join directory f.path)) :
    BasesFirst directory (base :: files) := by
  intro before f after hsplit hpolicy
  cases before with
  | nil =>
    obtain ⟨rfl, -⟩ := List.cons_eq_cons.1 hsplit
    rw [hbase] at hpolicy
    cases hpolicy
  | cons g before =>
    obtain ⟨rfl, rfl⟩ := List.cons_eq_cons.1 hsplit
    exact ⟨base, List.mem_cons_self, hbase, h f (by simp) hpolicy⟩

end FileTree

/-- Files whose names differ only at their ends have the same directory. -/
theorem Path.exists_directory?_join (directory above name : String) : ∃ found, ∀ s, EndsName s →
    directory? (join directory (join above (name ++ s))) = some found := by
  obtain ⟨found, hfound⟩ := exists_directory?_append (join directory (join above name))
  refine ⟨found, fun s hs => ?_⟩
  rw [join_append hs.not_isAbsolute, join_append hs.not_isAbsolute]
  exact hfound s hs

/-- An artifact in this directory whose file has a name that begins like this. -/
structure Artifact.NamedAfter (a : Artifact) (directory name : String) : Prop where
  directory : a.directory = directory
  fileName : ∃ s, Path.EndsName s ∧ a.source.fileName = name ++ s

/-- The name of a class. -/
def SourceClass.name : SourceClass → String
  | kotlin c => c.name
  | java c => c.name

theorem SourceClass.exists_fileName_eq (c : SourceClass) :
    ∃ ending, Path.EndsName ending ∧ c.fileName = c.name ++ ending := by
  cases c with
  | kotlin c => exact ⟨".kt", ⟨by decide, by decide⟩, String.append_assoc⟩
  | java c => exact ⟨".java", ⟨by decide, by decide⟩, String.append_assoc⟩

theorem Artifact.namedAfter {directory name part : String} {policy : Policy} {c : SourceClass}
    (hname : c.name = name ++ part) (hpart : '/' ∉ part.toList) :
    (Artifact.mk directory policy c).NamedAfter directory name := by
  obtain ⟨ending, hending, hfile⟩ := c.exists_fileName_eq
  refine ⟨rfl, part ++ ending, hending.append hpart, ?_⟩
  rw [hfile, hname, String.append_assoc]

/-- Artifacts that are named alike are in one directory, so that the first one stands for it when it
is written anew. -/
theorem FileTree.basesFirst_artifacts {directory above name : String} {style : Style}
    {base : Artifact} {artifacts : List Artifact} (hpolicy : base.policy = .overwrite)
    (h : ∀ a ∈ base :: artifacts, a.NamedAfter above name) :
    BasesFirst directory ((base :: artifacts).map (·.file style)) := by
  obtain ⟨found, hfound⟩ := Path.exists_directory?_join directory above name
  have hsame : ∀ a ∈ base :: artifacts,
      Path.directory? (Path.join directory (a.file style).path) = some found := by
    intro a ha
    obtain ⟨rfl, s, hs, hname⟩ := h a ha
    simp only [Artifact.file, Artifact.path, hname]
    exact hfound s hs
  rw [List.map_cons]
  apply basesFirst_cons hpolicy
  intro f hf _
  obtain ⟨a, ha, rfl⟩ := List.mem_map.1 hf
  rw [hsame base List.mem_cons_self, hsame a (List.mem_cons_of_mem base ha)]

/-! ## The files of a run -/

namespace Resolved

/-- Every class of an entity has a name that begins with that of the entity. -/
theorem exists_name_make_eq (r : Resolved) {b : Builder} (hb : b ∈ r.builders) :
    ∃ part, '/' ∉ part.toList ∧ (b.make r).name = r.className ++ part := by
  -- the record and the enum are named for the entity itself
  have hclass : '/' ∉ "".toList ∧ r.className = r.className ++ "" :=
    ⟨by decide, String.append_empty.symm⟩
  unfold Scope.builders at hb
  cases hlanguage : r.language <;> cases henum : r.entity.isEnumeration <;>
    simp only [hlanguage, henum, List.mem_cons, List.not_mem_nil, or_false] at hb
  · rcases hb with rfl | rfl | rfl | rfl | rfl
    · exact ⟨"Const", by decide, rfl⟩
    · exact ⟨"BaseRecord", by decide, rfl⟩
    · exact ⟨"", hclass⟩
    · exact ⟨"BaseManager", by decide, rfl⟩
    · exact ⟨"Manager", by decide, rfl⟩
  · rcases hb with rfl | rfl
    · exact ⟨"Const", by decide, rfl⟩
    · exact ⟨"", hclass⟩
  · rcases hb with rfl | rfl | rfl | rfl | rfl
    · exact ⟨"Const", by decide, rfl⟩
    · exact ⟨"BaseRecord", by decide, rfl⟩
    · exact ⟨"", hclass⟩
    · exact ⟨"BaseManager", by decide, rfl⟩
    · exact ⟨"Manager", by decide, rfl⟩
  · rcases hb with rfl | rfl
    · exact ⟨"Const", by decide, rfl⟩
    · exact ⟨"", hclass⟩

theorem namedAfter_of_mem_artifacts {r : Resolved} {a : Artifact} (ha : a ∈ r.artifacts) :
    a.NamedAfter r.directory r.className := by
  obtain ⟨b, hb, rfl⟩ := List.mem_map.1 ha
  obtain ⟨part, hpart, hname⟩ := r.exists_name_make_eq hb
  exact Artifact.namedAfter hname hpart

/-- The artifacts of an entity begin with its constants, which are written anew. -/
theorem exists_artifacts_eq_cons (r : Resolved) :
    ∃ base rest, r.artifacts = base :: rest ∧ base.policy = .overwrite := by
  unfold artifacts Scope.builders
  cases r.language <;> cases r.entity.isEnumeration <;> exact ⟨_, _, rfl, rfl⟩

theorem basesFirst (r : Resolved) (directory : String) (style : Style) :
    BasesFirst directory (r.artifacts.map (·.file style)) := by
  obtain ⟨base, rest, heq, hpolicy⟩ := r.exists_artifacts_eq_cons
  have hnamed : ∀ a ∈ base :: rest, a.NamedAfter r.directory r.className := by
    rw [← heq]
    exact fun a ha => namedAfter_of_mem_artifacts ha
  rw [heq]
  exact basesFirst_artifacts hpolicy hnamed

end Resolved

namespace Run

variable {run : Run} {s : Schema} {files : List SourceFile}

/-- The classes for all databases have the same names in both languages. -/
theorem map_name_sharedSources (run : Run) (s : Schema) :
    (run.sharedSources s).map (·.2.name) =
      ["DatabaseBaseManager", "DatabaseManagerConst", "DatabaseManager", "AppDatabaseConfig"] := by
  unfold sharedSources
  cases run.options.language <;> rfl

/-- The first of them creates the databases and is written anew. -/
theorem exists_sharedSources_eq_cons (run : Run) (s : Schema) :
    ∃ creation rest, run.sharedSources s = (.overwrite, creation) :: rest := by
  unfold sharedSources
  cases run.options.language <;> exact ⟨_, _, rfl⟩

theorem namedAfter_of_mem_sharedSources {entry : Policy × SourceClass}
    (h : entry ∈ run.sharedSources s) : (Artifact.mk "" entry.1 entry.2).NamedAfter "" "" := by
  have hnames : ∀ name ∈ ["DatabaseBaseManager", "DatabaseManagerConst", "DatabaseManager",
      "AppDatabaseConfig"], '/' ∉ name.toList := by decide
  rw [← map_name_sharedSources run s, List.forall_mem_map] at hnames
  exact Artifact.namedAfter String.empty_append.symm (hnames entry h)

theorem basesFirst_lifecycle (run : Run) (s : Schema) (directory : String) :
    BasesFirst directory ((run.lifecycle s).map (·.file run.style)) := by
  rw [lifecycle, List.map_append]
  apply basesFirst_append
  · obtain ⟨creation, rest, heq⟩ := run.exists_sharedSources_eq_cons s
    have hnamed : ∀ entry ∈ (.overwrite, creation) :: rest,
        (Artifact.mk "" entry.1 entry.2).NamedAfter "" "" := by
      rw [← heq]
      exact fun entry hentry => namedAfter_of_mem_sharedSources hentry
    rw [List.forall_mem_cons] at hnamed
    rw [heq, List.map_cons]
    apply basesFirst_artifacts rfl
    rw [List.forall_mem_cons, List.forall_mem_map]
    exact hnamed
  -- the holders of the managers have directories of their own, but none of them is edited
  · apply basesFirst_of_overwrite
    simp [Artifact.file]

/-- Before every file of a run that is written only once there is one of the same directory that is
written anew. -/
theorem basesFirst_of_generate (h : run.generate s = .ok files) (directory : String) :
    BasesFirst directory files := by
  obtain ⟨as, has, rfl⟩ := generate_eq_ok_iff.1 h
  obtain ⟨rs, -, rfl⟩ := artifacts_eq_ok_iff.1 has
  rw [List.map_append, List.map_flatMap, List.flatMap_def]
  apply basesFirst_append
  · apply basesFirst_flatten
    rw [List.forall_mem_map]
    exact fun r _ => r.basesFirst directory run.style
  · exact run.basesFirst_lifecycle s directory

/-- Hand edits survive a run exactly when no file that it writes only once is in the place of one
that it writes anew. For paths that do not go up that means that these have different names, as far
as there can be files with these names. -/
theorem keepsEdits_iff_apart (h : run.generate s = .ok files) (directory : String) :
    (KeepsEdits directory files ↔ ∀ f ∈ files, ∀ g ∈ files, f.policy = .createOnly →
        g.policy = .overwrite →
          ¬ SameFile (Path.join directory f.path) (Path.join directory g.path))
      ∧ ((∀ f ∈ files, ¬ Path.GoesUp (Path.join directory f.path)) →
        (KeepsEdits directory files ↔ ∀ f ∈ files, ∀ g ∈ files, f.policy = .createOnly →
          g.policy = .overwrite → FitsFile (Path.join directory f.path) →
            FitsFile (Path.join directory g.path) →
              Path.names (Path.join directory f.path) ≠
                Path.names (Path.join directory g.path))) := by
  have hiff := keepsEdits_iff (basesFirst_of_generate h directory)
  refine ⟨hiff, fun hup => ?_⟩
  rw [hiff]
  constructor
  · intro hapart f hf g hg hcreateOnly hoverwrite hfits hgits hnames
    exact hapart f hf g hg hcreateOnly hoverwrite
      ((sameFile_iff_names (hup f hf) (hup g hg)).2 ⟨hfits, hgits, hnames⟩)
  · intro hnames f hf g hg hcreateOnly hoverwrite hsame
    obtain ⟨hfits, hgits, heq⟩ := (sameFile_iff_names (hup f hf) (hup g hg)).1 hsame
    exact hnames f hf g hg hcreateOnly hoverwrite hfits hgits heq

end Run

/-! ## A valid schema for which edits are lost -/

/-- An enumeration table. -/
def statusTable : Entity :=
  { kind := .table, name := "STATUS", enumerations := "OPEN" }

/-- A query of the same name. -/
def statusQuery : Entity :=
  { kind := .query, name := "STATUS" }

/-- A database with both, as their names are in different name spaces. -/
def statusDatabase : Database :=
  { name := "main", tables := [statusTable], queries := [statusQuery] }

/-- A run in Kotlin. -/
def statusRun : Run :=
  { package := "org", created := "today" }

/-- The table writes its literals anew to the file in which the query has the records, so that edits
of these are lost. -/
theorem Run.edits_lost_of_statusDatabase :
    ({ databases := [statusDatabase] } : Schema).validate = .ok ()
    ∧ ∃ files, statusRun.generate { databases := [statusDatabase] } = .ok files
      ∧ ¬ KeepsEdits "out" files := by
  have hdatabase : statusDatabase ∈ [statusDatabase] := List.mem_singleton_self _
  obtain ⟨files, hfiles⟩ :
      ∃ files, statusRun.generate { databases := [statusDatabase] } = .ok files := by
    rw [exists_generate_iff]
    intro e he
    have hentities : Schema.entities { databases := [statusDatabase] } =
        [statusTable, statusQuery] := rfl
    rw [hentities] at he
    simp only [List.mem_cons, List.not_mem_nil, or_false] at he
    rcases he with rfl | rfl
    · exact ⟨⟨by simp [statusTable], by decide⟩, by decide⟩
    · exact ⟨⟨by simp [statusQuery], by decide⟩, by decide⟩
  refine ⟨by decide, files, hfiles, ?_⟩
  -- the record of the query is written only once
  have hrecord : ∃ f ∈ files, f.path = "status/Status.kt" ∧ f.policy = .createOnly := by
    obtain ⟨r, hr, hmem⟩ :=
      exists_resolve_of_generate (e := statusQuery) hfiles hdatabase (by decide)
    have hscope : r.toScope = ⟨statusRun, statusDatabase, statusQuery⟩ :=
      (Scope.resolve_eq_ok_iff.1 hr).1
    have hbuilder : Builder.mk .createOnly (fun r => .kotlin r.kotlinRecord) ∈ r.builders := by
      rw [hscope]
      exact .tail _ (.tail _ (.head _))
    have hname : r.kotlinRecord.name = r.className := rfl
    refine ⟨_, hmem _ (Resolved.mem_artifacts_of_mem_builders hbuilder), ?_, rfl⟩
    simp only [Artifact.file, Artifact.path, SourceClass.fileName, KotlinClass.fileName, hname]
    rw [hscope]
    decide
  -- the literals of the table are written anew
  have hliterals : ∃ g ∈ files, g.path = "status/Status.kt" ∧ g.policy = .overwrite := by
    obtain ⟨r, hr, hmem⟩ :=
      exists_resolve_of_generate (e := statusTable) hfiles hdatabase (by decide)
    have hscope : r.toScope = ⟨statusRun, statusDatabase, statusTable⟩ :=
      (Scope.resolve_eq_ok_iff.1 hr).1
    have hbuilder : Builder.mk .overwrite (fun r => .kotlin r.kotlinEnumeration) ∈ r.builders := by
      rw [hscope]
      exact .tail _ (.head _)
    have hname : r.kotlinEnumeration.name = r.className := rfl
    refine ⟨_, hmem _ (Resolved.mem_artifacts_of_mem_builders hbuilder), ?_, rfl⟩
    simp only [Artifact.file, Artifact.path, SourceClass.fileName, KotlinClass.fileName, hname]
    rw [hscope]
    decide
  obtain ⟨f, hf, hfpath, hcreateOnly⟩ := hrecord
  obtain ⟨g, hg, hgpath, hoverwrite⟩ := hliterals
  rw [(keepsEdits_iff_apart hfiles "out").1]
  intro hapart
  apply hapart f hf g hg hcreateOnly hoverwrite
  rw [hfpath, hgpath]
  have hup : ¬ Path.GoesUp (Path.join "out" "status/Status.kt") := by
    unfold Path.GoesUp
    decide
  have hfits : FitsFile (Path.join "out" "status/Status.kt") :=
    ⟨by decide, ⟨"Status.kt", by decide⟩, by decide⟩
  exact (sameFile_iff_names hup hup).2 ⟨hfits, hfits, rfl⟩

end SchemaForge
