import Mathlib.Data.List.Induction
import SchemaForge.Proofs.Files.Walk

namespace SchemaForge

/-! # Paths to one file

Two paths can lead to one file in some tree. For paths that do not go up this is a matter of their
names: what else is in them, empty parts and dots, leads nowhere.
-/

namespace Path

/-- The names that a path goes down to. -/
def names (path : String) : List String :=
  (steps path).filterMap (·.name?)

/-- Holds when a path goes up somewhere. -/
def GoesUp (path : String) : Prop :=
  .up ∈ steps path

/-- Holds when the last step of a path goes down to a name. -/
def EndsDown (path : String) : Prop :=
  ∃ name, (steps path).getLast? = some (.down name)

end Path

namespace FileTree

variable {t : FileTree} {place target : Place} {first second : String}

/-- Holds when there is a tree in which two paths lead to one file. -/
def SameFile (first second : String) : Prop :=
  ∃ (t : FileTree) (place : Place) (contents : String), t.place? first = some place
    ∧ t.place? second = some place ∧ t.node? place = some (.file contents)

/-! ## Where a path leads that does not go up -/

theorem walk_eq_append_names {steps : List PathStep} (hup : .up ∉ steps)
    (h : steps.foldlM t.step? place = some target) :
    target = place ++ steps.filterMap (·.name?) := by
  induction steps generalizing place with
  | nil => simpa using h.symm
  | cons step steps ih =>
    simp only [List.mem_cons, not_or] at hup
    rw [List.foldlM_cons, Option.bind_eq_bind, Option.bind_eq_some_iff] at h
    obtain ⟨next, hnext, hrest⟩ := h
    obtain ⟨-, htarget, -⟩ := step?_eq_some_iff.1 hnext
    have htail := ih hup.2 hrest
    cases step with
    | up => exact absurd rfl hup.1
    | blank | here =>
      obtain rfl : place = next := by simpa [PathStep.target?] using htarget
      simpa [PathStep.name?] using htail
    | down name =>
      obtain rfl : place ++ [name] = next := by simpa [PathStep.target?] using htarget
      simpa [PathStep.name?] using htail

/-- Everything above a place that is taken is a directory. -/
theorem node?_above {below : Place} (hbelow : below ≠ []) (h : (t.node? (place ++ below)).isSome) :
    t.node? place = some .directory := by
  induction below using List.reverseRecOn with
  | nil => exact absurd rfl hbelow
  | append_singleton above name ih =>
    rw [← List.append_assoc] at h
    have hdirectory : t.node? (place ++ above) = some .directory := t.closed _ name h
    by_cases hempty : above = []
    · simpa [hempty] using hdirectory
    · apply ih hempty
      rw [hdirectory]
      rfl

/-- Everything on the way to a directory is a directory. -/
theorem node?_onWay (hway : place <+: target) (h : t.node? target = some .directory) :
    t.node? place = some .directory := by
  obtain ⟨below, rfl⟩ := hway
  by_cases hbelow : below = []
  · simpa [hbelow] using h
  · exact node?_above hbelow (by simp [h])

/-- Steps that do not go up lead to the place of their names, if there is a directory. -/
theorem walk_of_directory {steps : List PathStep} (hup : .up ∉ steps)
    (h : t.node? (place ++ steps.filterMap (·.name?)) = some .directory) :
    steps.foldlM t.step? place = some (place ++ steps.filterMap (·.name?)) := by
  induction steps generalizing place with
  | nil =>
    rw [List.foldlM_nil, List.filterMap_nil, List.append_nil]
    rfl
  | cons step steps ih =>
    simp only [List.mem_cons, not_or] at hup
    rw [List.foldlM_cons, Option.bind_eq_bind, Option.bind_eq_some_iff]
    cases step with
    | up => exact absurd rfl hup.1
    | blank | here =>
      have hplace : t.node? place = some .directory := node?_onWay (List.prefix_append _ _) h
      refine ⟨place, ?_, ih hup.2 h⟩
      simp [step?_eq_some_iff, PathStep.target?, hplace]
    | down next =>
      have hbelow : place ++ (PathStep.down next :: steps).filterMap (·.name?) =
          (place ++ [next]) ++ steps.filterMap (·.name?) := by simp [PathStep.name?]
      rw [hbelow] at h ⊢
      have hnext : t.node? (place ++ [next]) = some .directory :=
        node?_onWay (List.prefix_append _ _) h
      have hplace : t.node? place = some .directory :=
        node?_onWay (List.prefix_append place [next]) hnext
      refine ⟨place ++ [next], ?_, ih hup.2 h⟩
      simp [step?_eq_some_iff, PathStep.target?, hplace, hnext]

/-- Steps that end with one down to a name lead to the place of their names, if that is taken. -/
theorem walk_of_isSome {steps : List PathStep} {name : String} (hup : .up ∉ steps)
    (h : (t.node? (place ++ (steps.filterMap (·.name?) ++ [name]))).isSome) :
    (steps ++ [PathStep.down name]).foldlM t.step? place =
      some (place ++ (steps.filterMap (·.name?) ++ [name])) := by
  rw [← List.append_assoc] at h ⊢
  have habove : t.node? (place ++ steps.filterMap (·.name?)) = some .directory :=
    node?_above (List.cons_ne_nil name []) h
  refine walk_append_eq_some_iff.2 ⟨_, walk_of_directory hup habove, ?_⟩
  simpa [step?_eq_some_iff, PathStep.target?, habove] using h

/-- A path that does not go up leads to the place of its names, if that is taken. -/
theorem place?_of_isSome {path : String} (hadmits : admits path) (hup : ¬ Path.GoesUp path)
    (hdown : Path.EndsDown path) (h : (t.node? (Path.names path)).isSome) :
    t.place? path = some (Path.names path) := by
  obtain ⟨name, hlast⟩ := hdown
  obtain ⟨before, hsteps⟩ := List.getLast?_eq_some_iff.1 hlast
  have hnames : Path.names path = [] ++ (before.filterMap (·.name?) ++ [name]) := by
    simp [Path.names, hsteps, PathStep.name?]
  -- the last step goes down, so that only those before it matter
  have hbefore : .up ∉ before := by
    intro hmem
    apply hup
    rw [Path.GoesUp, hsteps]
    exact List.mem_append_left _ hmem
  rw [hnames] at h ⊢
  rw [place?_eq_some_iff, hsteps]
  exact ⟨hadmits, walk_of_isSome hbefore h⟩

/-! ## Trees with a given file -/

/-- There is a tree with an empty directory in a place of valid names. -/
theorem exists_directory (place : Place) (h : ∀ name ∈ place, Path.isValidName name) :
    ∃ t : FileTree, t.node? place = some .directory ∧ ∀ name, t.node? (place ++ [name]) = none := by
  induction place using List.reverseRecOn with
  | nil => exact ⟨{}, rfl, fun name => by simp [node?, lookup_cons_place]⟩
  | append_singleton above name ih =>
    obtain ⟨t, hdirectory, hempty⟩ := ih fun other hother => h other (by simp [hother])
    have hroom : t.HasRoom (above ++ [name]) :=
      ⟨.inr (by rwa [List.dropLast_concat]), by simp [hempty name], by simp [h name]⟩
    refine ⟨t.put (above ++ [name]) .directory hroom, by rw [node?_put, if_pos rfl], ?_⟩
    intro other
    rw [node?_put, if_neg (by simp), ← Option.not_isSome_iff_eq_none]
    intro hsome
    -- what would be below the new directory had no directory to be in before
    have habove : t.node? (above ++ [name]) = some .directory := t.closed _ other hsome
    rw [hempty name] at habove
    cases habove

/-- There is a tree with a file in a place of valid names. -/
theorem exists_file (above : Place) (name : String)
    (h : ∀ other ∈ above ++ [name], Path.isValidName other) :
    ∃ (t : FileTree) (contents : String), t.node? (above ++ [name]) = some (.file contents) := by
  obtain ⟨t, hdirectory, hempty⟩ := exists_directory above fun other hother =>
    h other (by simp [hother])
  have hroom : t.HasRoom (above ++ [name]) :=
    ⟨.inr (by rwa [List.dropLast_concat]), by simp [hempty name], by simp [h name]⟩
  exact ⟨t.put (above ++ [name]) (.file "") hroom, "", by rw [node?_put, if_pos rfl]⟩

/-- A path that does not go up and could be the path of a file. -/
structure FitsFile (path : String) : Prop where
  admits : FileTree.admits path
  endsDown : Path.EndsDown path
  names : ∀ name ∈ Path.names path, Path.isValidName name

theorem isValidName_of_mem {contents : String} (hfile : t.node? place = some (.file contents)) :
    ∀ name ∈ place, Path.isValidName name := by
  intro name hname
  obtain ⟨above, below, rfl⟩ := List.append_of_mem hname
  apply t.named above name
  by_cases hbelow : below = []
  · subst hbelow
    exact Option.isSome_iff_exists.2 ⟨_, hfile⟩
  · have hdirectory : t.node? (above ++ [name]) = some .directory :=
      node?_above hbelow (by simp [hfile])
    exact Option.isSome_iff_exists.2 ⟨_, hdirectory⟩

/-- A path that leads to a file without going up leads to the place of its names. -/
theorem fitsFile_of_file {path contents : String} (hplace : t.place? path = some place)
    (hfile : t.node? place = some (.file contents)) (hup : ¬ Path.GoesUp path) :
    place = Path.names path ∧ FitsFile path := by
  obtain ⟨hadmits, hwalk⟩ := place?_eq_some_iff.1 hplace
  obtain ⟨-, name, hname, -, -⟩ := exists_last_of_file hplace hfile
  obtain ⟨last, hlast, hdown⟩ := Option.bind_eq_some_iff.1 hname
  have hnames : place = Path.names path := walk_eq_append_names hup hwalk
  cases last with
  | down found => exact ⟨hnames, hadmits, ⟨found, hlast⟩, hnames ▸ isValidName_of_mem hfile⟩
  | blank | here | up => cases hdown

/-- There is a tree with a file in the place of the names of a path that fits. -/
theorem FitsFile.exists_tree {path : String} (h : FitsFile path) :
    ∃ (t : FileTree) (contents : String), t.node? (Path.names path) = some (.file contents) := by
  obtain ⟨name, hlast⟩ := h.endsDown
  obtain ⟨before, hsteps⟩ := List.getLast?_eq_some_iff.1 hlast
  have hnames : Path.names path = before.filterMap (·.name?) ++ [name] := by
    simp [Path.names, hsteps, PathStep.name?]
  have hvalid := h.names
  rw [hnames] at hvalid ⊢
  exact exists_file _ name hvalid

/-- Paths that do not go up lead to one file in some tree exactly when they could be paths of files
and have the same names. -/
theorem sameFile_iff_names (hfirst : ¬ Path.GoesUp first) (hsecond : ¬ Path.GoesUp second) :
    SameFile first second ↔
      FitsFile first ∧ FitsFile second ∧ Path.names first = Path.names second := by
  constructor
  · rintro ⟨t, place, contents, hplace, hother, hfile⟩
    obtain ⟨hnames, hfirstFits⟩ := fitsFile_of_file hplace hfile hfirst
    obtain ⟨hotherNames, hsecondFits⟩ := fitsFile_of_file hother hfile hsecond
    exact ⟨hfirstFits, hsecondFits, hnames.symm.trans hotherNames⟩
  · rintro ⟨hfirstFits, hsecondFits, hnames⟩
    obtain ⟨t, contents, hfile⟩ := hfirstFits.exists_tree
    have hsome : (t.node? (Path.names first)).isSome := by simp [hfile]
    refine ⟨t, Path.names first, contents, ?_, ?_, hfile⟩
    · exact place?_of_isSome hfirstFits.admits hfirst hfirstFits.endsDown hsome
    · rw [hnames] at hsome ⊢
      exact place?_of_isSome hsecondFits.admits hsecond hsecondFits.endsDown hsome

end FileTree

end SchemaForge
