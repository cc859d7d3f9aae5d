import SchemaForge.Proofs.Files.Path
import SchemaForge.Proofs.Files.Tree

namespace SchemaForge

/-! # Paths in growing trees

A path leads to the same place as long as the tree grows. Making directories only adds directories,
and making them once more later adds none. A file is written in one place, to which its path leads
then; it led there before if something was in that place and the directory of the path had been
made.
-/

namespace FileTree

variable {t u : FileTree} {place target : Place} {path contents : String}

/-! ## Following a path -/

theorem step?_eq_some_iff {step : PathStep} :
    t.step? place step = some target ↔ t.node? place = some .directory
      ∧ step.target? place = some target ∧ (t.node? target).isSome := by
  unfold step?
  split
  · next h => simp [h, Option.filter_eq_some_iff]
  · next h => simp [h]

theorem step?_of_grows {step : PathStep} (h : t.step? place step = some target)
    (hgrows : t.Grows u) : u.step? place step = some target := by
  obtain ⟨hplace, htarget, hsome⟩ := step?_eq_some_iff.1 h
  exact step?_eq_some_iff.2 ⟨hgrows.directory place hplace, htarget, hgrows.isSome hsome⟩

theorem walk_of_grows {steps : List PathStep} (h : steps.foldlM t.step? place = some target)
    (hgrows : t.Grows u) : steps.foldlM u.step? place = some target := by
  induction steps generalizing place with
  | nil => exact h
  | cons step steps ih =>
    rw [List.foldlM_cons, Option.bind_eq_bind, Option.bind_eq_some_iff] at h ⊢
    obtain ⟨next, hnext, hrest⟩ := h
    exact ⟨next, step?_of_grows hnext hgrows, ih hrest⟩

/-- Steps one after the other lead through the place in between. -/
theorem walk_append_eq_some_iff {first second : List PathStep} :
    (first ++ second).foldlM t.step? place = some target ↔ ∃ middle,
      first.foldlM t.step? place = some middle ∧ second.foldlM t.step? middle = some target := by
  rw [List.foldlM_append, Option.bind_eq_bind, Option.bind_eq_some_iff]

/-- A step is taken in a directory. -/
theorem node?_of_walk_ne_nil {steps : List PathStep} (hne : steps ≠ [])
    (h : steps.foldlM t.step? place = some target) : t.node? place = some .directory := by
  obtain ⟨step, rest, rfl⟩ := List.exists_cons_of_ne_nil hne
  rw [List.foldlM_cons, Option.bind_eq_bind, Option.bind_eq_some_iff] at h
  obtain ⟨next, hnext, -⟩ := h
  exact (step?_eq_some_iff.1 hnext).1

theorem place?_eq_some_iff :
    t.place? path = some place ↔
      admits path ∧ (Path.steps path).foldlM t.step? [] = some place := by
  unfold place?
  split
  · next h => simp [h]
  · next h => simp [h]

theorem place?_of_grows (h : t.place? path = some place) (hgrows : t.Grows u) :
    u.place? path = some place := by
  obtain ⟨hadmits, hwalk⟩ := place?_eq_some_iff.1 h
  exact place?_eq_some_iff.2 ⟨hadmits, walk_of_grows hwalk hgrows⟩

theorem find?_eq_some_iff {node : FileNode} :
    t.find? path = some node ↔ ∃ place, t.place? path = some place ∧ t.node? place = some node := by
  rw [find?, Option.bind_eq_some_iff]

/-- The last step to a file goes down to its name. -/
theorem exists_last_of_file (h : t.place? path = some place)
    (hfile : t.node? place = some (.file contents)) : ∃ above name,
      (Path.steps path).getLast?.bind (·.name?) = some name
        ∧ (Path.steps path).dropLast.foldlM t.step? [] = some above ∧ place = above ++ [name] := by
  obtain ⟨-, hwalk⟩ := place?_eq_some_iff.1 h
  obtain ⟨before, last, hsteps⟩ : ∃ before last, Path.steps path = before ++ [last] := by
    rcases List.eq_nil_or_concat (Path.steps path) with hnil | ⟨before, last, hconcat⟩
    · exact absurd hnil (Path.steps_ne_nil path)
    · exact ⟨before, last, by rw [hconcat, List.concat_eq_append]⟩
  -- the last step is taken in a directory, so that one that stays there finds no file
  rw [hsteps] at hwalk ⊢
  obtain ⟨above, habove, hlast⟩ := walk_append_eq_some_iff.1 hwalk
  obtain ⟨hdirectory, htarget, -⟩ : t.node? above = some .directory
      ∧ last.target? above = some place ∧ (t.node? place).isSome := by
    rw [← step?_eq_some_iff]
    simpa using hlast
  rw [List.dropLast_concat, List.getLast?_concat]
  cases last with
  | down name =>
    refine ⟨above, name, rfl, habove, ?_⟩
    simpa [PathStep.target?] using htarget.symm
  | blank | here =>
    obtain rfl : above = place := by simpa [PathStep.target?] using htarget
    rw [hdirectory] at hfile
    cases hfile
  | up =>
    -- what is above a place that is taken is a directory, and no file
    have habove : (t.node? above).isSome := by simp [hdirectory]
    have hparent := node?_parent habove
    by_cases hroot : above = []
    · simp [PathStep.target?, hroot] at htarget
    · obtain rfl : above.dropLast = place := by simpa [PathStep.target?, hroot] using htarget
      rw [hparent.resolve_left hroot] at hfile
      cases hfile

/-! ## Making directories -/

theorem extends_withDirectories (t : FileTree) (place : Place) (steps : List PathStep) :
    t.Extends (t.withDirectories place steps) := by
  induction steps generalizing t place with
  | nil =>
    unfold withDirectories
    cases h : t.directory? place with
    | none => exact Extends.refl t
    | some made => exact extends_of_directory? h
  | cons step steps ih =>
    unfold withDirectories
    cases h : t.directory? place with
    | none => exact Extends.refl t
    | some made =>
      dsimp only
      cases step.target? place with
      | none => exact extends_of_directory? h
      | some target => exact (extends_of_directory? h).trans (ih made target)

/-- A step from a directory leads to a place in a directory. -/
theorem parent_of_target? {step : PathStep} (hplace : t.node? place = some .directory)
    (h : step.target? place = some target) :
    target = [] ∨ t.node? target.dropLast = some .directory := by
  have hsome : (t.node? place).isSome := by simp [hplace]
  have hparent := node?_parent hsome
  cases step with
  | blank | here =>
    obtain rfl : place = target := by simpa [PathStep.target?] using h
    exact hparent
  | down name =>
    obtain rfl : place ++ [name] = target := by simpa [PathStep.target?] using h
    exact .inr (by rw [List.dropLast_concat, hplace])
  | up =>
    by_cases hroot : place = []
    · simp [PathStep.target?, hroot] at h
    · obtain rfl : place.dropLast = target := by simpa [PathStep.target?, hroot] using h
      exact node?_parent (by simp [hparent.resolve_left hroot])

/-- Directories that were made, as far as that was possible, are not made again. -/
theorem withDirectories_of_grows (steps : List PathStep)
    (hparent : place = [] ∨ t.node? place.dropLast = some .directory)
    (hgrows : (t.withDirectories place steps).Grows u) : u.withDirectories place steps = u := by
  -- a directory that could not be made where it is needed cannot be made there later either
  induction steps generalizing t place with
  | nil =>
    unfold withDirectories at hgrows ⊢
    cases h : t.directory? place with
    | none =>
      rw [h] at hgrows
      simp [directory?_eq_none_of_grows hparent h hgrows]
    | some made =>
      rw [h] at hgrows
      simp [directory?_of_node? (hgrows.directory place (node?_of_directory? h))]
  | cons step steps ih =>
    unfold withDirectories at hgrows ⊢
    cases h : t.directory? place with
    | none =>
      rw [h] at hgrows
      simp [directory?_eq_none_of_grows hparent h hgrows]
    | some made =>
      have hmade : made.node? place = some .directory := node?_of_directory? h
      rw [h] at hgrows
      dsimp only at hgrows
      cases htarget : step.target? place with
      | none =>
        rw [htarget] at hgrows
        simp [directory?_of_node? (hgrows.directory place hmade)]
      | some target =>
        rw [htarget] at hgrows
        -- the directory that is made first stays while the others are made
        have hplace : u.node? place = some .directory :=
          ((extends_withDirectories made target steps).grows.trans hgrows).directory place hmade
        simp only [directory?_of_node? hplace]
        exact ih (parent_of_target? hmade htarget) hgrows

theorem extends_makeDirectory (t : FileTree) (path : String) :
    t.Extends (t.makeDirectory path).2 := by
  unfold makeDirectory
  split
  · split
    · exact extends_withDirectories t [] _
    · exact Extends.refl t
  · exact Extends.refl t

/-- The directories of a path that were made before are not made again. -/
theorem makeDirectory_of_grows (h : (t.makeDirectory path).2.Grows u) :
    (u.makeDirectory path).2 = u := by
  unfold makeDirectory at h ⊢
  split
  · next hadmits =>
    simp only [hadmits, if_true] at h
    cases hmade : Path.made? path with
    | none => rfl
    | some made =>
      rw [hmade] at h
      exact withDirectories_of_grows (Path.steps made) (.inl rfl) h
  · rfl

/-- A directory that is there is made. -/
theorem makeDirectory_of_find? (h : t.find? path = some .directory) :
    (t.makeDirectory path).1 = true := by
  obtain ⟨place, hplace, hnode⟩ := find?_eq_some_iff.1 h
  have hextends := extends_makeDirectory t path
  have hlater : (t.makeDirectory path).2.find? path = some .directory :=
    find?_eq_some_iff.2 ⟨place, place?_of_grows hplace hextends.grows, hextends place _ hnode⟩
  unfold makeDirectory at hlater ⊢
  simp only [(place?_eq_some_iff.1 hplace).1, if_true] at hlater ⊢
  simp [hlater]

theorem extends_withParent (t : FileTree) (path : String) : t.Extends (t.withParent path) := by
  unfold withParent
  split
  · exact extends_makeDirectory t _
  · exact Extends.refl t

theorem withParent_of_grows (h : (t.withParent path).Grows u) : u.withParent path = u := by
  unfold withParent at h ⊢
  cases hdirectory : Path.directory? path with
  | none => rfl
  | some directory =>
    rw [hdirectory] at h
    exact makeDirectory_of_grows h

/-- A path in a directory leads nowhere unless there is that directory. -/
theorem find?_of_join {directory name : String}
    (h : t.place? (Path.join directory name) = some place) :
    t.find? directory = some .directory := by
  obtain ⟨hadmits, hwalk⟩ := place?_eq_some_iff.1 h
  have hrelative : Path.isAbsolute name = false := by
    by_contra habsolute
    rw [Bool.not_eq_false] at habsolute
    simp [Path.join, admits, habsolute] at hadmits
  obtain ⟨inside, hsteps, hdirectory⟩ := Path.exists_steps_join hrelative directory
  rw [hsteps] at hwalk
  obtain ⟨middle, hinside, hname⟩ := walk_append_eq_some_iff.1 hwalk
  have hmiddle := node?_of_walk_ne_nil (Path.steps_ne_nil name) hname
  -- the directory may have one more step at its end, which is empty and leads nowhere
  have hplace : (Path.steps directory).foldlM t.step? [] = some middle := by
    rcases hdirectory with heq | heq
    · rw [heq, hinside]
    · rw [heq, walk_append_eq_some_iff]
      refine ⟨middle, hinside, ?_⟩
      simp [step?_eq_some_iff, PathStep.target?, hmiddle]
  exact find?_eq_some_iff.2 ⟨middle, place?_eq_some_iff.2 ⟨admits_of_join hadmits, hplace⟩, hmiddle⟩

/-! ## Writing files -/

/-- A file is put in the place to which its path leads then, and to which it led if anything was
there. -/
theorem exists_place_of_putFile? (h : t.putFile? path contents = some u) : ∃ place,
    t.put? place (.file contents) = some u ∧ u.place? path = some place
      ∧ ((t.node? place).isSome → t.place? path = some place) := by
  have hadmits : admits path := by
    by_contra hadmits
    simp [putFile?, hadmits] at h
  simp only [putFile?, hadmits, if_true, Option.bind_eq_bind, Option.bind_eq_some_iff] at h
  obtain ⟨name, hname, above, habove, hput⟩ := h
  have hsteps : Path.steps path = (Path.steps path).dropLast ++ [.down name] := by
    obtain ⟨last, hlast, hdown⟩ := hname
    cases last with
    | down found =>
      obtain rfl : found = name := by simpa [PathStep.name?] using hdown
      obtain ⟨before, hbefore⟩ := List.getLast?_eq_some_iff.1 hlast
      rw [hbefore, List.dropLast_concat]
    | blank | here | up => cases hdown
  have hroom := hasRoom_of_put? hput
  have hgrows := grows_of_put? hput
  have hdirectory : t.node? above = some .directory := by
    simpa using hroom.1
  -- in either tree the last step goes down from the same directory
  have hplace : ∀ v : FileTree, t.Grows v → (v.node? (above ++ [name])).isSome →
      v.place? path = some (above ++ [name]) := by
    intro v hv hsome
    rw [place?_eq_some_iff, hsteps, walk_append_eq_some_iff]
    refine ⟨hadmits, above, walk_of_grows habove hv, ?_⟩
    simp [step?_eq_some_iff, PathStep.target?, hv.directory above hdirectory, hsome]
  refine ⟨above ++ [name], hput, hplace u hgrows ?_, hplace t (Grows.refl t)⟩
  rw [node?_of_put? hput, if_pos rfl]
  rfl

theorem write_of_putFile?_eq_none (h : (t.withParent path).putFile? path contents = none) :
    t.write path contents = (false, t.withParent path) := by
  simp only [write, h]

theorem write_of_putFile? (h : (t.withParent path).putFile? path contents = some u) :
    t.write path contents = (true, u) := by
  simp only [write, h]

theorem withParent_grows_write (t : FileTree) (path contents : String) :
    (t.withParent path).Grows (t.write path contents).2 := by
  cases h : (t.withParent path).putFile? path contents with
  | none =>
    rw [write_of_putFile?_eq_none h]
    exact Grows.refl _
  | some u =>
    obtain ⟨place, hput, -⟩ := exists_place_of_putFile? h
    rw [write_of_putFile? h]
    exact grows_of_put? hput

theorem grows_write (t : FileTree) (path contents : String) :
    t.Grows (t.write path contents).2 :=
  (extends_withParent t path).grows.trans (withParent_grows_write t path contents)

/-- A file stays as it is, or its contents are those that are written on a path that leads to it. -/
theorem node?_write_of_file {older : String} (h : t.node? place = some (.file older))
    (path contents : String) :
    (t.write path contents).2.node? place = some (.file older)
      ∨ ((t.write path contents).2.node? place = some (.file contents)
        ∧ (t.withParent path).place? path = some place) := by
  have hparent := extends_withParent t path place _ h
  cases hwrite : (t.withParent path).putFile? path contents with
  | none =>
    rw [write_of_putFile?_eq_none hwrite]
    exact .inl hparent
  | some u =>
    rw [write_of_putFile? hwrite]
    obtain ⟨written, hput, -, hplace⟩ := exists_place_of_putFile? hwrite
    by_cases heq : place = written
    · subst heq
      exact .inr ⟨by rw [node?_of_put? hput, if_pos rfl], hplace (by simp [hparent])⟩
    · exact .inl (by rw [node?_of_put? hput, if_neg heq, hparent])

/-- A file to which a path leads is overwritten. -/
theorem node?_write_of_place? {older : String} (hplace : t.place? path = some place)
    (hfile : t.node? place = some (.file older)) :
    (t.write path contents).2.node? place = some (.file contents) := by
  have hextends := extends_withParent t path
  have hlater := place?_of_grows hplace hextends.grows
  -- there is a file, so that nothing is in the way of writing it
  have hfile := hextends place _ hfile
  obtain ⟨above, name, hname, habove, rfl⟩ := exists_last_of_file hlater hfile
  have hsome : ((t.withParent path).node? (above ++ [name])).isSome := by simp [hfile]
  have hroom : (t.withParent path).HasRoom (above ++ [name]) :=
    ⟨node?_parent hsome, by simp [hfile], validName_of_node? hsome⟩
  have hput : (t.withParent path).putFile? path contents =
      some ((t.withParent path).put (above ++ [name]) (.file contents) hroom) := by
    have hadmits := (place?_eq_some_iff.1 hlater).1
    have hmade : (t.withParent path).put? (above ++ [name]) (.file contents) =
        some ((t.withParent path).put (above ++ [name]) (.file contents) hroom) := dif_pos hroom
    simp [putFile?, hadmits, hname, habove, hmade]
  rw [write_of_putFile? hput, node?_put, if_pos rfl]

end FileTree

end SchemaForge
