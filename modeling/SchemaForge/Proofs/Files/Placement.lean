import Mathlib.Data.List.DropRight
import SchemaForge.Proofs.Files.SameFile

namespace SchemaForge

/-! # Where files are written

A path leads to one place in all trees in which it leads anywhere, the one to which its steps go. A
file that is written goes there, and no other file changes.

A path below a directory that does not go up is written as its names say: the directories on its way
are made, and the file is put in the last of them. Only two things can be in the way, a file where a
directory is needed and a directory where the file should be; then nothing changes at all.
-/

namespace Path

/-- The place to which the steps of a path go, unless they go out of the tree. -/
def target? (path : String) : Option Place :=
  (steps path).foldlM (fun place step => step.target? place) []

end Path

namespace FileTree

variable {t u : FileTree} {place target : Place} {path directory contents : String}

/-! ## Where steps go -/

/-- Steps that can be taken in a tree go where they lead. -/
theorem goes_of_walk {steps : List PathStep} (h : steps.foldlM t.step? place = some target) :
    steps.foldlM (fun place step => step.target? place) place = some target := by
  induction steps generalizing place with
  | nil => exact h
  | cons step steps ih =>
    rw [List.foldlM_cons, Option.bind_eq_bind, Option.bind_eq_some_iff] at h ⊢
    obtain ⟨next, hnext, hrest⟩ := h
    exact ⟨next, (step?_eq_some_iff.1 hnext).2.1, ih hrest⟩

/-- Steps that do not go up go to the place of their names. -/
theorem goes_of_not_up {steps : List PathStep} (hup : .up ∉ steps) (place : Place) :
    steps.foldlM (fun place step => step.target? place) place =
      some (place ++ steps.filterMap (·.name?)) := by
  induction steps generalizing place with
  | nil =>
    rw [List.foldlM_nil, List.filterMap_nil, List.append_nil]
    rfl
  | cons step steps ih =>
    simp only [List.mem_cons, not_or] at hup
    rw [List.foldlM_cons, Option.bind_eq_bind, Option.bind_eq_some_iff]
    cases step with
    | up => exact absurd rfl hup.1
    | blank | here => exact ⟨place, rfl, ih hup.2 place⟩
    | down name =>
      refine ⟨place ++ [name], rfl, ?_⟩
      rw [ih hup.2 (place ++ [name])]
      simp [PathStep.name?]

theorem target?_of_place? (h : t.place? path = some place) : Path.target? path = some place :=
  goes_of_walk (place?_eq_some_iff.1 h).2

/-! ## Contents -/

/-- The contents of the file in a place. -/
def file? (t : FileTree) (place : Place) : Option String :=
  match t.node? place with
  | some (.file contents) => some contents
  | _ => none

theorem file?_eq_some_iff : t.file? place = some contents ↔
    t.node? place = some (.file contents) := by
  unfold file?
  split
  · next found hfound => simp [hfound]
  · next hnone =>
    simp only [reduceCtorEq, false_iff]
    exact hnone contents

/-- Contents are decided by what is in the place. -/
theorem file?_eq_of_node?_eq (h : u.node? place = t.node? place) : u.file? place = t.file? place := by
  unfold file?
  rw [h]

/-- A directory that is made has no contents, and changes none. -/
theorem file?_of_directory? (h : t.directory? place = some u) (other : Place) :
    u.file? other = t.file? other := by
  unfold directory? at h
  cases hnode : t.node? place with
  | some node =>
    rw [hnode] at h
    cases node with
    | directory =>
      cases h
      rfl
    | file contents => cases h
  | none =>
    rw [hnode] at h
    by_cases heq : other = place
    · subst heq
      unfold file?
      rw [node?_of_put? h, if_pos rfl, hnode]
    · exact file?_eq_of_node?_eq (by rw [node?_of_put? h, if_neg heq])

theorem file?_withDirectories (t : FileTree) (place : Place) (steps : List PathStep)
    (other : Place) : (t.withDirectories place steps).file? other = t.file? other := by
  induction steps generalizing t place with
  | nil =>
    unfold withDirectories
    cases h : t.directory? place with
    | none => rfl
    | some made => exact file?_of_directory? h other
  | cons step steps ih =>
    unfold withDirectories
    cases h : t.directory? place with
    | none => rfl
    | some made =>
      dsimp only
      cases step.target? place with
      | none => exact file?_of_directory? h other
      | some target => exact (ih made target).trans (file?_of_directory? h other)

/-- Making directories changes no contents. -/
theorem file?_makeDirectory (t : FileTree) (path : String) (other : Place) :
    (t.makeDirectory path).2.file? other = t.file? other := by
  unfold makeDirectory
  split
  · cases Path.made? path with
    | none => rfl
    | some made => exact file?_withDirectories t [] (Path.steps made) other
  · rfl

theorem file?_withParent (t : FileTree) (path : String) (other : Place) :
    (t.withParent path).file? other = t.file? other := by
  unfold withParent
  split
  · exact file?_makeDirectory t _ other
  · rfl

/-- A file that is written has its contents in the place to which its path goes, and all other
contents stay. Nothing changes where it is not written. -/
theorem file?_write (t : FileTree) (path contents : String) (other : Place) :
    (t.write path contents).2.file? other =
      if (t.write path contents).1 = true ∧ Path.target? path = some other then some contents
      else t.file? other := by
  cases hwrite : (t.withParent path).putFile? path contents with
  | none =>
    rw [write_of_putFile?_eq_none hwrite, if_neg (by simp)]
    exact file?_withParent t path other
  | some u =>
    obtain ⟨place, hput, hplace, -⟩ := exists_place_of_putFile? hwrite
    have hgoes : Path.target? path = some place := target?_of_place? hplace
    rw [write_of_putFile? hwrite, hgoes]
    by_cases heq : other = place
    · subst heq
      rw [if_pos ⟨rfl, rfl⟩, file?_eq_some_iff, node?_of_put? hput, if_pos rfl]
    · have hne : ¬ (true = true ∧ some place = some other) := fun h =>
        heq (Option.some_inj.1 h.2).symm
      rw [if_neg hne]
      calc u.file? other = (t.withParent path).file? other :=
            file?_eq_of_node?_eq (by rw [node?_of_put? hput, if_neg heq])
        _ = t.file? other := file?_withParent t path other

/-! ## Making the directories of a path -/

/-- Once a directory is made, the steps from it are those of the tree with it. -/
theorem withDirectories_of_directory? (h : t.directory? place = some u) (steps : List PathStep) :
    t.withDirectories place steps = u.withDirectories place steps := by
  have hmade : u.directory? place = some u := directory?_of_node? (node?_of_directory? h)
  cases steps with
  | nil =>
    unfold withDirectories
    rw [h, hmade, Option.getD_some, Option.getD_some]
  | cons step steps =>
    unfold withDirectories
    rw [h, hmade]

/-- A last step that stays where it is makes nothing. -/
theorem withDirectories_concat_stay {step : PathStep} (hstep : step.isMove = false)
    (t : FileTree) (place : Place) (steps : List PathStep) :
    t.withDirectories place (steps ++ [step]) = t.withDirectories place steps := by
  induction steps generalizing t place with
  | nil =>
    have hstay : step.target? place = some place := by
      cases step with
      | blank | here => rfl
      | up | down name => cases hstep
    rw [List.nil_append]
    cases h : t.directory? place with
    | none => simp only [withDirectories, h, Option.getD_none]
    | some made =>
      have hmade : made.directory? place = some made :=
        directory?_of_node? (node?_of_directory? h)
      simp only [withDirectories, h, hstay, hmade, Option.getD_some]
  | cons first steps ih =>
    rw [List.cons_append]
    unfold withDirectories
    cases t.directory? place with
    | none => rfl
    | some made =>
      dsimp only
      cases first.target? place with
      | none => rfl
      | some next => exact ih made next

/-- Steps that can be taken make nothing, and those after them go on from where they lead. -/
theorem withDirectories_append_of_walk {steps : List PathStep}
    (h : steps.foldlM t.step? place = some target) (rest : List PathStep) :
    t.withDirectories place (steps ++ rest) = t.withDirectories target rest := by
  induction steps generalizing place with
  | nil =>
    obtain rfl : place = target := by simpa using h
    rfl
  | cons step steps ih =>
    rw [List.foldlM_cons, Option.bind_eq_bind, Option.bind_eq_some_iff] at h
    obtain ⟨next, hnext, hrest⟩ := h
    obtain ⟨hplace, hstep, -⟩ := step?_eq_some_iff.1 hnext
    rw [List.cons_append]
    simp only [withDirectories, directory?_of_node? hplace, hstep]
    exact ih hrest

/-- The directories on the way to one that is there are not made. -/
theorem withDirectories_of_directory {steps : List PathStep} (hup : .up ∉ steps)
    (h : t.node? (place ++ steps.filterMap (·.name?)) = some .directory) :
    t.withDirectories place steps = t := by
  have hall := withDirectories_append_of_walk (walk_of_directory hup h) []
  rw [List.append_nil] at hall
  rw [hall, withDirectories, directory?_of_node? h, Option.getD_some]

/-- Where a file is on the way, nothing is made. -/
theorem withDirectories_of_file {steps : List PathStep} {found : Place} (hup : .up ∉ steps)
    (hplace : t.node? place = some .directory)
    (hway : found <+: place ++ steps.filterMap (·.name?))
    (hfile : t.node? found = some (.file contents)) : t.withDirectories place steps = t := by
  induction steps generalizing place with
  | nil => rw [withDirectories, directory?_of_node? hplace, Option.getD_some]
  | cons step steps ih =>
    simp only [List.mem_cons, not_or] at hup
    simp only [withDirectories, directory?_of_node? hplace]
    cases step with
    | up => exact absurd rfl hup.1
    | blank | here => exact ih hup.2 hplace hway
    | down name =>
      have hbelow : place ++ (PathStep.down name :: steps).filterMap (·.name?) =
          (place ++ [name]) ++ steps.filterMap (·.name?) := by simp [PathStep.name?]
      rw [hbelow] at hway
      change t.withDirectories (place ++ [name]) steps = t
      cases hnext : t.node? (place ++ [name]) with
      | some node =>
        cases node with
        | directory => exact ih hup.2 hnext hway
        | file other =>
          have hblocked : t.directory? (place ++ [name]) = none := by
            simp only [directory?, hnext]
          cases steps with
          | nil => rw [withDirectories, hblocked, Option.getD_none]
          | cons next rest => simp only [withDirectories, hblocked]
      | none =>
        -- the file would be in a directory below what is not there, or above one that is
        exfalso
        rcases List.prefix_or_prefix_of_prefix hway (List.prefix_append (place ++ [name]) _)
          with habove | ⟨below, rfl⟩
        · rcases List.prefix_concat_iff.1 habove with rfl | habove
          · rw [hnext] at hfile
            cases hfile
          · rw [node?_onWay habove hplace] at hfile
            cases hfile
        · by_cases hempty : below = []
          · rw [hempty, List.append_nil, hnext] at hfile
            cases hfile
          · have hsome : (t.node? (place ++ [name] ++ below)).isSome := by rw [hfile]; rfl
            rw [node?_above hempty hsome] at hnext
            cases hnext

/-- Where no file is on the way, all directories on it are made and nothing else. -/
theorem node?_withDirectories {steps : List PathStep} (hup : .up ∉ steps)
    (hnames : ∀ name ∈ steps.filterMap (·.name?), Path.isValidName name)
    (hplace : t.node? place = some .directory)
    (hfree : ∀ other, other <+: place ++ steps.filterMap (·.name?) → t.file? other = none)
    (other : Place) : (t.withDirectories place steps).node? other =
      if other <+: place ++ steps.filterMap (·.name?) then some .directory
      else t.node? other := by
  induction steps generalizing t place with
  | nil =>
    rw [withDirectories, directory?_of_node? hplace, Option.getD_some, List.filterMap_nil,
      List.append_nil]
    split
    · next hway => exact node?_onWay hway hplace
    · rfl
  | cons step steps ih =>
    simp only [List.mem_cons, not_or] at hup
    simp only [withDirectories, directory?_of_node? hplace]
    cases step with
    | up => exact absurd rfl hup.1
    | blank | here => exact ih hup.2 hnames hplace hfree
    | down name =>
      have hbelow : place ++ (PathStep.down name :: steps).filterMap (·.name?) =
          (place ++ [name]) ++ steps.filterMap (·.name?) := by simp [PathStep.name?]
      have hrest : ∀ next ∈ steps.filterMap (·.name?), Path.isValidName next := fun next hnext =>
        hnames next (List.mem_cons_of_mem name hnext)
      rw [hbelow] at hfree ⊢
      change (t.withDirectories (place ++ [name]) steps).node? other = _
      -- the next directory is made, unless it is there already
      obtain ⟨made, hmade, hnode⟩ : ∃ made, t.directory? (place ++ [name]) = some made
          ∧ ∀ other, made.node? other =
            if other = place ++ [name] then some .directory else t.node? other := by
        cases hnext : t.node? (place ++ [name]) with
        | none =>
          have hroom : t.HasRoom (place ++ [name]) := by
            refine ⟨.inr (by rwa [List.dropLast_concat]), by simp [hnext], ?_⟩
            simp [hnames name List.mem_cons_self]
          refine ⟨t.put (place ++ [name]) .directory hroom, ?_, node?_put⟩
          simp only [directory?, hnext]
          exact dif_pos hroom
        | some node =>
          cases node with
          | directory =>
            refine ⟨t, directory?_of_node? hnext, fun other => ?_⟩
            split
            · next heq => rw [heq, hnext]
            · rfl
          | file contents =>
            have hnone := hfree (place ++ [name]) (List.prefix_append _ _)
            rw [file?_eq_some_iff.2 hnext] at hnone
            cases hnone
      rw [withDirectories_of_directory? hmade, ih hup.2 hrest (node?_of_directory? hmade)]
      · split
        · rfl
        · next hway =>
          rw [hnode, if_neg]
          rintro rfl
          exact hway (List.prefix_append _ _)
      · intro other hway
        rw [file?_of_directory? hmade]
        exact hfree other hway

/-! ## The directory of a path -/

/-- The directory of a path has the steps of the path up to its last move, so that it does not end
with a dot and is made as it is. -/
theorem made?_upToMove {before : List String} (h : ∀ part ∈ before, '/' ∉ part.toList) :
    Path.made? (Path.ofParts (Path.upToMove before)) =
      some (Path.ofParts (Path.upToMove before)) := by
  induction before using List.reverseRecOn with
  | nil => rfl
  | append_singleton before last ih =>
    cases hlast : Path.isMove last with
    | false =>
      rw [Path.upToMove_concat_stay before hlast]
      exact ih fun part hpart => h part (List.mem_append_left _ hpart)
    | true =>
      have hmove : (PathStep.ofPart last).isMove = true := hlast
      have hblank : PathStep.ofPart last ≠ .blank := by
        intro heq
        rw [heq] at hmove
        cases hmove
      have hhere : PathStep.ofPart last ≠ .here := by
        intro heq
        rw [heq] at hmove
        cases hmove
      rw [Path.upToMove_concat before hlast]
      have hsteps : Path.steps (Path.ofParts (before ++ [last])) =
          before.map .ofPart ++ [.ofPart last] := by
        rw [Path.steps, Path.parts_ofParts (by simp) h, List.map_append, List.map_singleton]
      rw [Path.made?, if_neg]
      simp [Path.lastStep?, hsteps, hblank, hhere]

/-- Steps that stay where they are, at the end of a directory, make no difference to it. -/
theorem withDirectories_upToMove (t : FileTree) {before : List String}
    (h : ∀ part ∈ before, '/' ∉ part.toList) :
    t.withDirectories [] (Path.steps (Path.ofParts (Path.upToMove before))) =
      t.withDirectories [] (before.map .ofPart) := by
  induction before using List.reverseRecOn with
  | nil =>
    have hblank : PathStep.isMove .blank = false := rfl
    exact withDirectories_concat_stay hblank t [] []
  | append_singleton before last ih =>
    cases hlast : Path.isMove last with
    | false =>
      rw [Path.upToMove_concat_stay before hlast, List.map_append, List.map_singleton,
        withDirectories_concat_stay hlast]
      exact ih fun part hpart => h part (List.mem_append_left _ hpart)
    | true =>
      rw [Path.upToMove_concat before hlast, Path.steps, Path.parts_ofParts (by simp) h]

/-- For a path that ends with a name, the directories of all steps before it are made. -/
theorem withParent_eq {before : List PathStep} {name : String} (hadmits : admits path)
    (hsteps : Path.steps path = before ++ [.down name]) (t : FileTree) :
    t.withParent path = t.withDirectories [] before := by
  obtain ⟨above, ends, hparts, rfl, hlast⟩ := List.map_eq_append_iff.1 hsteps
  obtain ⟨last, rfl, hdown⟩ := List.map_eq_singleton_iff.1 hlast
  have hslash : ∀ part ∈ above ++ [last], '/' ∉ part.toList := fun part hpart =>
    Path.noSlash_of_mem_parts (hparts ▸ hpart)
  have habove : ∀ part ∈ above, '/' ∉ part.toList := fun part hpart =>
    hslash part (List.mem_append_left _ hpart)
  have hmove : Path.isMove last = true := by
    rw [Path.isMove, hdown]
    rfl
  -- the directory is a beginning of the path, and so is admitted
  have hdirectory : Path.directory? path = some (Path.ofParts (Path.upToMove above)) := by
    unfold Path.directory?
    rw [hparts, Path.upToMove_concat above hmove]
    split
    · next hnil => simp at hnil
    · rw [List.dropLast_concat]
  have hbegins : admits (Path.ofParts (Path.upToMove above)) := by
    obtain ⟨stays, hstays⟩ : Path.upToMove above <+: above :=
      List.rdropWhile_prefix _ above
    by_cases hnil : Path.upToMove above = []
    · rw [hnil]
      rfl
    · have hpath : path = Path.ofParts (Path.upToMove above)
          ++ ("/" ++ Path.ofParts (stays ++ [last])) := by
        rw [← String.append_assoc]
        conv_lhs => rw [← Path.ofParts_parts path, hparts, ← hstays, List.append_assoc]
        exact String.intercalate_append_of_ne_nil hnil (by simp)
      rw [hpath] at hadmits
      exact admits_of_append hadmits
  unfold withParent
  rw [hdirectory]
  dsimp only
  unfold makeDirectory
  rw [if_pos hbegins, made?_upToMove habove]
  exact withDirectories_upToMove t habove

/-! ## Routes -/

/-- A path leads to a directory of a tree, and from there on a way that does not go up to a name. -/
structure Route (t : FileTree) (path : String) (base : Place) (way : List PathStep)
    (name : String) : Prop where
  admits : FileTree.admits path
  steps : ∃ inside, Path.steps path = inside ++ way ++ [.down name]
    ∧ inside.foldlM t.step? [] = some base
  base : t.node? base = some .directory
  staysBelow : .up ∉ way
  wayNames : ∀ next ∈ way.filterMap (·.name?), Path.isValidName next
  name : Path.isValidName name

/-- Holds when something is in the way of a file in a place: another file above it, or a directory
where it should be. -/
def Blocked (t : FileTree) (place : Place) : Prop :=
  (∃ above, above <+: place ∧ above ≠ place ∧ (t.file? above).isSome)
    ∨ t.node? place = some .directory

theorem Blocked.of_grows (h : t.Blocked place) (hgrows : t.Grows u) : u.Blocked place := by
  rcases h with ⟨above, hway, hne, hfile⟩ | hdirectory
  · obtain ⟨contents, hcontents⟩ := Option.isSome_iff_exists.1 hfile
    obtain ⟨newer, hnewer⟩ := hgrows.file above contents (file?_eq_some_iff.1 hcontents)
    exact .inl ⟨above, hway, hne, by simp [file?_eq_some_iff.2 hnewer]⟩
  · exact .inr (hgrows.directory place hdirectory)

/-- Nothing is below a file. -/
theorem node?_below_file {above : Place} (hway : above <+: place) (hne : above ≠ place)
    (hfile : (t.file? above).isSome) : t.node? place = none := by
  obtain ⟨contents, hcontents⟩ := Option.isSome_iff_exists.1 hfile
  rw [file?_eq_some_iff] at hcontents
  obtain ⟨below, rfl⟩ := hway
  rw [← Option.not_isSome_iff_eq_none]
  intro hsome
  have hbelow : below ≠ [] := by simpa using hne
  rw [node?_above hbelow hsome] at hcontents
  cases hcontents

/-- Nothing is in the way of a file that is there. -/
theorem not_blocked_of_file (h : t.node? place = some (.file contents)) : ¬ t.Blocked place := by
  rintro (⟨above, hway, hne, hfile⟩ | hdirectory)
  · rw [node?_below_file hway hne hfile] at h
    cases h
  · rw [hdirectory] at h
    cases h

namespace Route

variable {base : Place} {way : List PathStep} {name : String}

/-- The place to which a route goes is below its directory. -/
theorem target? (h : Route t path base way name) :
    Path.target? path = some (base ++ way.filterMap (·.name?) ++ [name]) := by
  obtain ⟨inside, hsteps, hinside⟩ := h.steps
  have hdown : .up ∉ way ++ [PathStep.down name] := by
    simp [h.staysBelow]
  have hgoes := goes_of_not_up hdown base
  rw [Path.target?, hsteps, List.append_assoc, List.foldlM_append, goes_of_walk hinside]
  rw [List.filterMap_append, ← List.append_assoc] at hgoes
  exact hgoes

theorem of_grows (h : Route t path base way name) (hgrows : t.Grows u) :
    Route u path base way name := by
  obtain ⟨inside, hsteps, hinside⟩ := h.steps
  exact { h with
    steps := ⟨inside, hsteps, walk_of_grows hinside hgrows⟩
    base := hgrows.directory base h.base }

/-- What a route leads to is what is in its place. -/
theorem find? (h : Route t path base way name) :
    t.find? path = t.node? (base ++ way.filterMap (·.name?) ++ [name]) := by
  cases hnode : t.node? (base ++ way.filterMap (·.name?) ++ [name]) with
  | some node =>
    obtain ⟨inside, hsteps, hinside⟩ := h.steps
    have hsome : (t.node? (base ++ (way.filterMap (·.name?) ++ [name]))).isSome := by
      rw [← List.append_assoc, hnode]
      rfl
    refine find?_eq_some_iff.2 ⟨_, place?_eq_some_iff.2 ⟨h.admits, ?_⟩, hnode⟩
    rw [hsteps, List.append_assoc, walk_append_eq_some_iff, List.append_assoc]
    exact ⟨base, hinside, walk_of_isSome h.staysBelow hsome⟩
  | none =>
    rw [← Option.not_isSome_iff_eq_none]
    intro hsome
    obtain ⟨node, hfound⟩ := Option.isSome_iff_exists.1 hsome
    obtain ⟨place, hplace, hthere⟩ := find?_eq_some_iff.1 hfound
    have heq := target?_of_place? hplace
    rw [h.target?, Option.some_inj] at heq
    rw [heq, hthere] at hnode
    cases hnode

/-- For the file of a route the directories of its way are made. -/
theorem withParent (h : Route t path base way name) :
    t.withParent path = t.withDirectories base way := by
  obtain ⟨inside, hsteps, hinside⟩ := h.steps
  rw [withParent_eq h.admits hsteps]
  exact withDirectories_append_of_walk hinside way

/-- The file of a route is put where its way leads. -/
theorem putFile? (h : Route t path base way name) (contents : String) :
    t.putFile? path contents =
      (way.foldlM t.step? base).bind fun above => t.put? (above ++ [name]) (.file contents) := by
  obtain ⟨inside, hsteps, hinside⟩ := h.steps
  simp only [FileTree.putFile?, h.admits, if_true, hsteps, List.getLast?_concat,
    List.dropLast_concat, List.foldlM_append, hinside, PathStep.name?, Option.bind_eq_bind,
    Option.bind_some]

/-- Where something is in the way, the file is not written and nothing changes. -/
theorem write_of_blocked (h : Route t path base way name)
    (hblocked : t.Blocked (base ++ way.filterMap (·.name?) ++ [name])) (contents : String) :
    t.write path contents = (false, t) := by
  have hparent : t.withParent path = t := by
    rw [h.withParent]
    rcases hblocked with ⟨above, hway, hne, hfile⟩ | hdirectory
    · obtain ⟨found, hfound⟩ := Option.isSome_iff_exists.1 hfile
      have habove := (List.prefix_concat_iff.1 hway).resolve_left hne
      exact withDirectories_of_file h.staysBelow h.base habove (file?_eq_some_iff.1 hfound)
    · exact withDirectories_of_directory h.staysBelow
        (node?_onWay (List.prefix_append _ _) hdirectory)
  have hput : t.putFile? path contents = none := by
    rw [h.putFile?, Option.bind_eq_none_iff]
    intro above habove
    obtain rfl : above = base ++ way.filterMap (·.name?) :=
      walk_eq_append_names h.staysBelow habove
    refine dif_neg fun hroom => ?_
    rcases hblocked with ⟨above, hway, hne, hfile⟩ | hdirectory
    · obtain ⟨found, hfound⟩ := Option.isSome_iff_exists.1 hfile
      have hinside : t.node? (base ++ way.filterMap (·.name?)) = some .directory := by
        simpa using hroom.1
      have habove := (List.prefix_concat_iff.1 hway).resolve_left hne
      -- what is above a directory is no file
      have hnode := node?_onWay habove hinside
      rw [file?_eq_some_iff.1 hfound] at hnode
      cases hnode
    · exact hroom.2.1 hdirectory
  rw [write_of_putFile?_eq_none (by rw [hparent]; exact hput), hparent]

/-- Where nothing is in the way, the file is written, with the directories above it, and all else
stays. -/
theorem exists_write (h : Route t path base way name)
    (hfree : ¬ t.Blocked (base ++ way.filterMap (·.name?) ++ [name])) (contents : String) :
    ∃ u, t.write path contents = (true, u) ∧ ∀ other, u.node? other =
      if other = base ++ way.filterMap (·.name?) ++ [name] then some (.file contents)
      else if other <+: base ++ way.filterMap (·.name?) ++ [name] then some .directory
      else t.node? other := by
  have hlonger : ¬ base ++ way.filterMap (·.name?) ++ [name] <+:
      base ++ way.filterMap (·.name?) := by
    intro hway
    have hlength := hway.length_le
    rw [List.length_append, List.length_singleton] at hlength
    omega
  have hnone : ∀ other, other <+: base ++ way.filterMap (·.name?) → t.file? other = none := by
    intro other hway
    rw [← Option.not_isSome_iff_eq_none]
    intro hfile
    refine hfree (.inl ⟨other, hway.trans (List.prefix_append _ _), ?_, hfile⟩)
    rintro rfl
    exact hlonger hway
  have hmade := node?_withDirectories h.staysBelow h.wayNames h.base hnone
  rw [← h.withParent] at hmade
  have hroute := h.of_grows (extends_withParent t path).grows
  have hinside : (t.withParent path).node? (base ++ way.filterMap (·.name?)) =
      some .directory := by
    rw [hmade, if_pos (List.prefix_refl _)]
  have hroom : (t.withParent path).HasRoom (base ++ way.filterMap (·.name?) ++ [name]) := by
    refine ⟨.inr (by rw [List.dropLast_concat, hinside]), ?_, by simp [h.name]⟩
    rw [hmade, if_neg hlonger]
    exact fun hdirectory => hfree (.inr hdirectory)
  have hput : (t.withParent path).putFile? path contents =
      some ((t.withParent path).put _ (.file contents) hroom) := by
    rw [hroute.putFile?, walk_of_directory h.staysBelow hinside, Option.bind_some]
    exact dif_pos hroom
  refine ⟨_, write_of_putFile? hput, fun other => ?_⟩
  rw [node?_put, hmade]
  by_cases heq : other = base ++ way.filterMap (·.name?) ++ [name]
  · rw [if_pos heq, if_pos heq]
  · have hway : other <+: base ++ way.filterMap (·.name?) ↔
        other <+: base ++ way.filterMap (·.name?) ++ [name] := by
      rw [List.prefix_concat_iff, or_iff_right heq]
    simp only [if_neg heq, hway]

end Route

/-! ## Paths below a directory -/

/-- A path below a directory that could be one of a file there: it does not go up, and it ends with
a name. Whether a file with such a path can be written is only a matter of what is in its way. -/
structure FitsBelow (directory path : String) : Prop where
  admits : FileTree.admits (Path.join directory path)
  endsDown : Path.EndsDown path
  staysBelow : ¬ Path.GoesUp path
  names : ∀ name ∈ Path.names path, Path.isValidName name

namespace FitsBelow

/-- A path below a directory that is there is a route. -/
theorem exists_route (h : FitsBelow directory path) (hthere : t.find? directory = some .directory) :
    ∃ base way name, Route t (Path.join directory path) base way name := by
  have hrelative : Path.isAbsolute path = false := by
    by_contra habsolute
    rw [Bool.not_eq_false] at habsolute
    have hadmits := h.admits
    simp [Path.join, FileTree.admits, habsolute] at hadmits
  obtain ⟨inside, hsteps, hdirectory⟩ := Path.exists_steps_join hrelative directory
  obtain ⟨base, hplace, hbase⟩ := find?_eq_some_iff.1 hthere
  have hwalk := (place?_eq_some_iff.1 hplace).2
  -- an empty step at the end of the directory leads nowhere
  have hinside : inside.foldlM t.step? [] = some base := by
    rcases hdirectory with heq | heq
    · rwa [heq] at hwalk
    · rw [heq] at hwalk
      obtain ⟨middle, hmiddle, hstay⟩ := walk_append_eq_some_iff.1 hwalk
      obtain ⟨-, hsame, -⟩ : t.node? middle = some .directory
          ∧ PathStep.blank.target? middle = some base ∧ (t.node? base).isSome := by
        rw [← step?_eq_some_iff]
        simpa using hstay
      obtain rfl : middle = base := by simpa [PathStep.target?] using hsame
      exact hmiddle
  obtain ⟨name, hlast⟩ := h.endsDown
  obtain ⟨way, hway⟩ := List.getLast?_eq_some_iff.1 hlast
  have hnames := h.names
  rw [Path.names, hway, List.filterMap_append] at hnames
  have hup := h.staysBelow
  rw [Path.GoesUp, hway, List.mem_append, not_or] at hup
  refine ⟨base, way, name, ?_⟩
  constructor
  case admits => exact h.admits
  case steps => exact ⟨inside, by rw [hsteps, hway, List.append_assoc], hinside⟩
  case base => exact hbase
  case staysBelow => exact hup.1
  case wayNames => exact fun next hnext => hnames next (List.mem_append_left _ hnext)
  case name => exact hnames name (List.mem_append_right _ List.mem_cons_self)

theorem exists_target (h : FitsBelow directory path)
    (hthere : t.find? directory = some .directory) :
    ∃ place, Path.target? (Path.join directory path) = some place := by
  obtain ⟨base, way, name, hroute⟩ := h.exists_route hthere
  exact ⟨_, hroute.target?⟩

/-- What a path leads to is what is in its place. -/
theorem find? (h : FitsBelow directory path) (hthere : t.find? directory = some .directory)
    (hplace : Path.target? (Path.join directory path) = some place) :
    t.find? (Path.join directory path) = t.node? place := by
  obtain ⟨base, way, name, hroute⟩ := h.exists_route hthere
  obtain rfl := Option.some_inj.1 (hroute.target?.symm.trans hplace)
  exact hroute.find?

theorem read? (h : FitsBelow directory path) (hthere : t.find? directory = some .directory)
    (hplace : Path.target? (Path.join directory path) = some place) :
    t.read? (Path.join directory path) = t.file? place := by
  have hfind := h.find? hthere hplace
  rcases hnode : t.node? place with _ | (_ | _) <;>
    simp only [FileTree.read?, file?, hfind, hnode]

/-- Where something is in the way, a file is not written and nothing changes. -/
theorem write_of_blocked (h : FitsBelow directory path)
    (hthere : t.find? directory = some .directory)
    (hplace : Path.target? (Path.join directory path) = some place) (hblocked : t.Blocked place)
    (contents : String) : t.write (Path.join directory path) contents = (false, t) := by
  obtain ⟨base, way, name, hroute⟩ := h.exists_route hthere
  obtain rfl := Option.some_inj.1 (hroute.target?.symm.trans hplace)
  exact hroute.write_of_blocked hblocked contents

/-- Where nothing is in the way, a file is written, with the directories above it, and all else
stays. -/
theorem exists_write (h : FitsBelow directory path)
    (hthere : t.find? directory = some .directory)
    (hplace : Path.target? (Path.join directory path) = some place) (hfree : ¬ t.Blocked place)
    (contents : String) : ∃ u, t.write (Path.join directory path) contents = (true, u)
      ∧ ∀ other, u.node? other = if other = place then some (.file contents)
        else if other <+: place then some .directory
        else t.node? other := by
  obtain ⟨base, way, name, hroute⟩ := h.exists_route hthere
  obtain rfl := Option.some_inj.1 (hroute.target?.symm.trans hplace)
  exact hroute.exists_write hfree contents

/-- A file that is written where one is already makes nothing that was not there. -/
theorem write_grows_of_file {older : String} (h : FitsBelow directory path)
    (hthere : t.find? directory = some .directory)
    (hplace : Path.target? (Path.join directory path) = some place)
    (hfile : t.node? place = some (.file older)) (contents : String) :
    (t.write (Path.join directory path) contents).2.Grows t := by
  obtain ⟨u, hwrite, hnode⟩ :=
    h.exists_write hthere hplace (not_blocked_of_file hfile) contents
  rw [hwrite]
  constructor
  · intro other hother
    rw [hnode] at hother
    split at hother
    · cases hother
    · next hne =>
      split at hother
      · next hway =>
        obtain ⟨below, rfl⟩ := hway
        have hbelow : below ≠ [] := by simpa using hne
        exact node?_above hbelow (by simp [hfile])
      · exact hother
  · intro other found hother
    rw [hnode] at hother
    split at hother
    · next heq => exact ⟨older, heq ▸ hfile⟩
    · split at hother
      · cases hother
      · exact ⟨found, hother⟩

end FitsBelow

end FileTree

end SchemaForge
