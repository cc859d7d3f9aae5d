import SchemaForge.Proofs.Android.Manifest

namespace SchemaForge

/-! # Files with the same path

Two files of a run in one database have the same path only if they are made for entities of the same
class. The directory of an entity has the small letters of its class, so that different classes can
share one, but then the names of the files differ in the classes themselves. The files for all
databases have names without dots before their extension, and are higher up than those of entities,
apart from a class that is a dot.
-/

open SchemaForge.Path

/-! ## Places -/

/-- Where a file is, whatever its extension: the moves to its directory, and its name. -/
def ManifestEntry.place (m : ManifestEntry) : List PathStep × String :=
  (moves m.directory, m.name)

theorem Language.endsName_extension (l : Language) : EndsName ("." ++ l.extension) := by
  cases l with
  | kotlin => exact ⟨by decide, by decide⟩
  | java => exact ⟨by decide, by decide⟩

/-- The moves to a file are those to its directory and one to its name. -/
theorem ManifestEntry.moves_path {m : ManifestEntry} (h : '/' ∉ m.name.toList) (l : Language) :
    moves (m.path l) = moves m.directory ++ [.down (m.name ++ "." ++ l.extension)] := by
  have hname : EndsName (m.name ++ ("." ++ l.extension)) := l.endsName_extension.append h
  rw [path, String.append_assoc, moves_join hname.not_isAbsolute,
    l.endsName_extension.moves_append h]

/-- Files are reached by the same moves when they are in the same place. -/
theorem ManifestEntry.moves_path_eq_iff {m other : ManifestEntry} (hm : '/' ∉ m.name.toList)
    (hother : '/' ∉ other.name.toList) (l : Language) :
    moves (m.path l) = moves (other.path l) ↔ m.place = other.place := by
  rw [moves_path hm, moves_path hother, place, place, Prod.mk.injEq]
  constructor
  · intro h
    obtain ⟨hdirectory, hlast⟩ := List.append_inj' h rfl
    have hfile : m.name ++ "." ++ l.extension = other.name ++ "." ++ l.extension := by
      simpa using hlast
    exact ⟨hdirectory, (String.append_left_inj _).1 ((String.append_left_inj _).1 hfile)⟩
  · rintro ⟨hdirectory, hname⟩
    rw [hdirectory, hname]

/-! ## The files of entities -/

/-- A class that can be a part of a path. -/
def Entity.FitsPath (e : Entity) : Prop :=
  e.className ≠ "" ∧ '/' ∉ e.className.toList

/-- The directory of such a class is a single part too. -/
theorem Entity.FitsPath.notMem_lower {e : Entity} (h : e.FitsPath) :
    '/' ∉ (Text.lower e.className).toList := by
  rw [Text.mem_lower_iff (by decide)]
  exact h.2

/-- The names of the classes of an entity end differently, and none of them in a slash. -/
theorem Entity.parts_spec (e : Entity) : (e.parts.map (·.1)).Nodup
    ∧ ∀ part ∈ e.parts, '/' ∉ part.1.toList := by
  unfold parts
  split
  · decide
  · decide

namespace Scope

variable {run : Run} {d : Database} {e f : Entity}

theorem moves_directory (h : e.FitsPath) : moves (Scope.mk run d e).directory =
    moves (run.directoryOf d) ++ moves (Text.lower e.className) :=
  moves_join (not_isAbsolute_of_notMem h.notMem_lower) _

/-- Directories of entities are the same only if the classes differ at most in their case. -/
theorem lower_className_eq (he : e.FitsPath) (hf : f.FitsPath)
    (h : moves (Scope.mk run d e).directory = moves (Scope.mk run d f).directory) :
    Text.lower e.className = Text.lower f.className := by
  rw [moves_directory he, moves_directory hf, List.append_cancel_left_eq] at h
  exact eq_of_moves_eq he.notMem_lower hf.notMem_lower (Text.lower_ne_empty_iff.2 he.1)
    (Text.lower_ne_empty_iff.2 hf.1) h

/-- The files of an entity are in different places. -/
theorem nodup_map_place_manifest (s : Scope) : (s.manifest.map (·.place)).Nodup := by
  rw [manifest_eq, List.map_map]
  refine List.Nodup.map_on ?_ s.entity.parts_spec.1.of_map
  intro part hpart other hother hsame
  have hname : s.className ++ part.1 = s.className ++ other.1 := congrArg Prod.snd hsame
  exact List.inj_on_of_nodup_map s.entity.parts_spec.1 hpart hother
    ((String.append_right_inj _).1 hname)

/-- Entities of different classes have no file in the same place. -/
theorem disjoint_map_place_manifest (he : e.FitsPath) (hf : f.FitsPath)
    (hne : e.className ≠ f.className) :
    ((Scope.mk run d e).manifest.map (·.place)).Disjoint
      ((Scope.mk run d f).manifest.map (·.place)) := by
  intro place hplace hother
  simp only [manifest_eq, List.map_map, List.mem_map, Function.comp_apply] at hplace hother
  obtain ⟨part, -, rfl⟩ := hplace
  obtain ⟨other, -, hsame⟩ := hother
  simp only [ManifestEntry.place, Prod.mk.injEq] at hsame
  obtain ⟨hdirectory, hname⟩ := hsame
  have hlower := lower_className_eq hf he hdirectory
  exact hne (Text.eq_of_append_eq_append hlower hname).symm

/-- A file of an entity is not in the place of one whose name has no dot and which is not below the
directory of the database. -/
theorem place_ne_of_mem_manifest (he : e.FitsPath) {m other : ManifestEntry}
    (hm : m ∈ (Scope.mk run d e).manifest) (hdot : '.' ∉ other.name.toList)
    (habove : (moves other.directory).length ≤ (moves (run.directoryOf d)).length) :
    m.place ≠ other.place := by
  rw [manifest_eq] at hm
  obtain ⟨part, -, rfl⟩ := List.mem_map.1 hm
  simp only [ManifestEntry.place, Ne, Prod.mk.injEq]
  rintro ⟨hdirectory, hname⟩
  have hnone : ∀ above below there : List PathStep, above ++ below = there →
      there.length ≤ above.length → below = [] := by
    rintro above below there rfl hle
    rw [List.length_append] at hle
    exact List.eq_nil_of_length_eq_zero (by omega)
  -- there is no move below the directory of the database, so that the class is a dot
  have hnil : moves (Text.lower e.className) = [] := by
    rw [moves_directory he] at hdirectory
    exact hnone _ _ _ hdirectory habove
  have hlower : Text.lower e.className = "." :=
    (moves_eq_nil_iff he.notMem_lower (Text.lower_ne_empty_iff.2 he.1)).1 hnil
  have hmem : '.' ∈ e.className.toList := by
    rw [← Text.mem_lower_iff (by decide), hlower]
    decide
  apply hdot
  rw [← hname, String.toList_append]
  exact List.mem_append_left _ hmem

end Scope

/-! ## The files of a run -/

namespace Run

variable {run : Run} {d : Database}

/-- The files for all databases, if there is only this one. -/
def upperManifest (run : Run) (d : Database) : List ManifestEntry :=
  sharedManifest ++ if run.options.injection then [] else [run.holderEntry d]

theorem manifest_singleton (run : Run) (d : Database) :
    run.manifest { databases := [d] } =
      (d.entities.flatMap fun e => (Scope.mk run d e).manifest) ++ run.upperManifest d := by
  rw [manifest, List.flatMap_singleton, List.append_assoc, upperManifest]
  rfl

/-- The files for all databases have names without marks and are not below the directory of the
database. -/
theorem upperManifest_spec {m : ManifestEntry} (h : m ∈ run.upperManifest d) :
    '.' ∉ m.name.toList ∧ '/' ∉ m.name.toList
      ∧ (moves m.directory).length ≤ (moves (run.directoryOf d)).length := by
  rcases List.mem_append.1 h with hshared | hholder
  · have hall : ∀ m ∈ sharedManifest, '.' ∉ m.name.toList ∧ '/' ∉ m.name.toList
        ∧ (moves m.directory).length = 0 := by decide
    obtain ⟨hdot, hslash, hlength⟩ := hall m hshared
    exact ⟨hdot, hslash, by omega⟩
  · split at hholder
    · cases hholder
    · rw [List.mem_singleton.1 hholder, holderEntry_eq]
      have hmark : ∀ c, Chars.IsMark c → c ∉ "DatabaseManagers".toList →
          c ∉ (d.functionPart ++ "DatabaseManagers").toList := by
        intro c hc hliteral
        rw [String.toList_append, List.mem_append, not_or]
        exact ⟨Naming.notMem_className hc _, hliteral⟩
      exact ⟨hmark '.' (by decide) (by decide), hmark '/' (by decide) (by decide), le_refl _⟩

/-- The files for all databases are in different places. -/
theorem nodup_map_place_upperManifest (run : Run) (d : Database) :
    ((run.upperManifest d).map (·.place)).Nodup := by
  have hshared : (sharedManifest.map (·.place)).Nodup := by decide
  rw [upperManifest, List.map_append, List.nodup_append]
  refine ⟨hshared, by split <;> simp, ?_⟩
  -- only the name of the holder is in the plural
  intro place hplace other hother hsame
  obtain ⟨m, hm, rfl⟩ := List.mem_map.1 hplace
  split at hother
  · cases hother
  · rw [List.map_singleton, List.mem_singleton] at hother
    rw [hother] at hsame
    have hname : m.name = d.functionPart ++ "DatabaseManagers" := (Prod.mk.inj hsame).2
    have hend : m.name.toList.getLast? = some 's' := by
      rw [hname, String.toList_append, List.getLast?_append]
      rfl
    have hends : ∀ m ∈ sharedManifest, m.name.toList.getLast? ≠ some 's' := by decide
    exact hends m hm hend

theorem notMem_name_of_mem_manifest (hclass : ∀ e ∈ d.entities, e.FitsPath) {m : ManifestEntry}
    (h : m ∈ run.manifest { databases := [d] }) : '/' ∉ m.name.toList := by
  rw [manifest_singleton, List.mem_append, List.mem_flatMap] at h
  rcases h with ⟨e, he, hm⟩ | hupper
  · obtain ⟨part, hpart, rfl⟩ := List.mem_map.1 hm
    rw [String.toList_append, List.mem_append, not_or]
    exact ⟨(hclass e he).2, e.parts_spec.2 part hpart⟩
  · exact (upperManifest_spec hupper).2.1

/-- The files of different classes are in different places. -/
theorem nodup_map_place_manifest (hclass : ∀ e ∈ d.entities, e.FitsPath)
    (hdistinct : (d.entities.map (·.className)).Nodup) :
    ((run.manifest { databases := [d] }).map (·.place)).Nodup := by
  rw [manifest_singleton, List.map_append, List.map_flatMap, List.nodup_append, List.nodup_flatMap]
  refine ⟨⟨?_, ?_⟩, run.nodup_map_place_upperManifest d, ?_⟩
  · intro e _
    exact Scope.nodup_map_place_manifest _
  · have hne : d.entities.Pairwise fun e f => e.className ≠ f.className :=
      List.pairwise_map.1 hdistinct
    exact hne.imp_of_mem fun he hf hapart =>
      Scope.disjoint_map_place_manifest (hclass _ he) (hclass _ hf) hapart
  · intro place hplace other hother
    obtain ⟨e, he, hentity⟩ := List.mem_flatMap.1 hplace
    obtain ⟨m, hm, rfl⟩ := List.mem_map.1 hentity
    obtain ⟨upper, hupper, rfl⟩ := List.mem_map.1 hother
    obtain ⟨hdot, -, habove⟩ := upperManifest_spec hupper
    exact Scope.place_ne_of_mem_manifest (hclass e he) hm hdot habove

/-- Entities of the same class have their constants in the same file. -/
theorem nodup_map_className_of_paths {l : Language}
    (h : ((run.manifest { databases := [d] }).map (·.path l)).Nodup) :
    (d.entities.map (·.className)).Nodup := by
  rw [manifest_singleton, List.map_append, List.map_flatMap, List.nodup_append,
    List.nodup_flatMap] at h
  obtain ⟨⟨-, hapart⟩, -, -⟩ := h
  have hconstants : ∀ e : Entity, Path.join (Path.join (run.directoryOf d) (Text.lower e.className))
      (e.className ++ "Const" ++ "." ++ l.extension) ∈
        (Scope.mk run d e).manifest.map (·.path l) := by
    intro e
    have hpart : ("Const", Policy.overwrite) ∈ e.parts := by
      unfold Entity.parts
      split <;> simp
    rw [Scope.manifest_eq, List.map_map, List.mem_map]
    refine ⟨_, hpart, ?_⟩
    simp only [Function.comp_apply, ManifestEntry.path, Scope.directory, Scope.className]
  rw [List.Nodup, List.pairwise_map]
  refine hapart.imp fun {e f} hdisjoint hsame => ?_
  have hother := hconstants f
  rw [← hsame] at hother
  exact hdisjoint (hconstants e) hother

/-- If the classes of the entities of a single database can be parts of paths, the files that are
generated for it have different paths exactly when the classes are different. That is so also when
two paths count as one already if they lead to the same place, as `a/./B` and `a/B` do. -/
theorem paths_distinct_iff {files : List SourceFile}
    (hclass : ∀ e ∈ d.entities, e.className ≠ "" ∧ '/' ∉ e.className.toList)
    (h : run.generate { databases := [d] } = .ok files) :
    ((files.map (·.path)).Nodup ↔ (d.entities.map (·.className)).Nodup)
      ∧ ((files.map fun f => moves f.path).Nodup ↔ (d.entities.map (·.className)).Nodup) := by
  have hpaths := map_path_of_generate h
  have hmoves : files.map (fun f => moves f.path) = (files.map (·.path)).map moves := by
    rw [List.map_map]
    rfl
  have hdistinct : (d.entities.map (·.className)).Nodup → ((files.map (·.path)).map moves).Nodup := by
    intro hnames
    have hplaces : ((run.manifest { databases := [d] }).map (·.place)).Nodup :=
      nodup_map_place_manifest hclass hnames
    rw [hpaths, List.map_map]
    refine List.Nodup.map_on ?_ hplaces.of_map
    intro m hm other hother hsame
    simp only [Function.comp_apply] at hsame
    have hplace : m.place = other.place :=
      (ManifestEntry.moves_path_eq_iff (notMem_name_of_mem_manifest hclass hm)
        (notMem_name_of_mem_manifest hclass hother) _).1 hsame
    exact List.inj_on_of_nodup_map hplaces hm hother hplace
  have hnames : (files.map (·.path)).Nodup → (d.entities.map (·.className)).Nodup := by
    rw [hpaths]
    exact nodup_map_className_of_paths
  rw [hmoves]
  exact ⟨⟨hnames, fun h => (hdistinct h).of_map⟩, ⟨fun h => hnames h.of_map, hdistinct⟩⟩

/-- A view whose class differs from that of the table of persons only in its case. -/
def capitalView : Entity :=
  { kind := .view, name := "PEOPLE", class? := some "PERSON" }

/-- The two share a directory and no file. -/
theorem paths_distinct_personTable_capitalView :
    ∃ files, Run.generate { package := "org", created := "today" }
        { databases := [{ name := "main", tables := [personTable], views := [capitalView] }] } =
          .ok files
      ∧ "person/PersonConst.kt" ∈ files.map (·.path)
      ∧ "person/PERSONConst.kt" ∈ files.map (·.path) ∧ (files.map (·.path)).Nodup := by
  let run : Run := { package := "org", created := "today" }
  let database : Database := { name := "main", tables := [personTable], views := [capitalView] }
  have hentities : database.entities = [personTable, capitalView] := rfl
  have hgenerable : ∀ e ∈ Schema.entities { databases := [database] }, e.Generable := by
    intro e he
    have hschema : Schema.entities { databases := [database] } = [personTable, capitalView] := rfl
    rw [hschema] at he
    simp only [List.mem_cons, List.not_mem_nil, or_false] at he
    rcases he with rfl | rfl <;>
      exact Entity.generable_of_plain (by decide) (by decide) (by decide)
  obtain ⟨files, hfiles⟩ : ∃ files, run.generate { databases := [database] } = .ok files :=
    exists_generate_iff.2 hgenerable
  have hclass : ∀ e ∈ database.entities, e.className ≠ "" ∧ '/' ∉ e.className.toList := by
    rw [hentities]
    decide
  have hpaths := map_path_of_generate hfiles
  refine ⟨files, hfiles, ?_, ?_, (paths_distinct_iff hclass hfiles).1.2 ?_⟩
  · rw [hpaths]
    decide
  · rw [hpaths]
    decide
  · rw [hentities]
    decide

end Run

end SchemaForge
