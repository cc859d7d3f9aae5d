import Mathlib.Tactic.Common
import SchemaForge.Files.Walk

namespace SchemaForge

/-! # Growing trees

Making directories and writing files takes nothing away from a tree. Making directories leaves every
node as it is, and writing a file changes the contents of one file at most. What a path leads to is
therefore found there in every later tree.
-/

namespace FileTree

variable {t u v : FileTree} {place : Place}

/-! ## What is where -/

/-- What is in a place is in a directory. -/
theorem node?_parent (h : (t.node? place).isSome) :
    place = [] ∨ t.node? place.dropLast = some .directory := by
  rcases List.eq_nil_or_concat place with rfl | ⟨above, name, rfl⟩
  · exact .inl rfl
  · right
    rw [List.concat_eq_append] at h ⊢
    rw [List.dropLast_concat]
    exact t.closed above name h

/-- What is in a place has a valid name. -/
theorem validName_of_node? (h : (t.node? place).isSome) : place.getLast?.all Path.isValidName := by
  rcases List.eq_nil_or_concat place with rfl | ⟨above, name, rfl⟩
  · rfl
  · rw [List.concat_eq_append] at h ⊢
    rw [List.getLast?_concat]
    exact t.named above name h

theorem node?_put {node : FileNode} {room : t.HasRoom place} (other : Place) :
    (t.put place node room).node? other = if other = place then some node else t.node? other :=
  lookup_put t.nodes place other node

/-- What is where after something is put in a place. -/
theorem node?_of_put? {node : FileNode} (h : t.put? place node = some u) (other : Place) :
    u.node? other = if other = place then some node else t.node? other := by
  unfold put? at h
  split at h
  · cases h
    exact node?_put other
  · cases h

theorem hasRoom_of_put? {node : FileNode} (h : t.put? place node = some u) : t.HasRoom place := by
  unfold put? at h
  split at h
  · next hroom => exact hroom
  · cases h

/-! ## Relations between trees -/

/-- The tree `u` has all that `t` has. -/
def Extends (t u : FileTree) : Prop :=
  ∀ place node, t.node? place = some node → u.node? place = some node

/-- The tree `u` has all that `t` has, but files may have other contents. -/
structure Grows (t u : FileTree) : Prop where
  directory : ∀ place, t.node? place = some .directory → u.node? place = some .directory
  file : ∀ place contents, t.node? place = some (.file contents) →
    ∃ newer, u.node? place = some (.file newer)

theorem Extends.refl (t : FileTree) : t.Extends t :=
  fun _ _ h => h

theorem Extends.trans (h : t.Extends u) (h' : u.Extends v) : t.Extends v :=
  fun place node hnode => h' place node (h place node hnode)

theorem Extends.grows (h : t.Extends u) : t.Grows u :=
  ⟨fun place => h place .directory, fun place contents hfile => ⟨contents, h place _ hfile⟩⟩

theorem Grows.refl (t : FileTree) : t.Grows t :=
  (Extends.refl t).grows

theorem Grows.trans (h : t.Grows u) (h' : u.Grows v) : t.Grows v := by
  refine ⟨fun place hplace => h'.directory place (h.directory place hplace), ?_⟩
  intro place contents hfile
  obtain ⟨newer, hnewer⟩ := h.file place contents hfile
  exact h'.file place newer hnewer

theorem Grows.isSome (h : t.Grows u) (hplace : (t.node? place).isSome) :
    (u.node? place).isSome := by
  obtain ⟨node, hnode⟩ := Option.isSome_iff_exists.1 hplace
  cases node with
  | directory => simp [h.directory place hnode]
  | file contents =>
    obtain ⟨newer, hnewer⟩ := h.file place contents hnode
    simp [hnewer]

/-- A file that is put in a place leaves all directories, and other files, as they are. -/
theorem grows_of_put? {contents : String} (h : t.put? place (.file contents) = some u) :
    t.Grows u := by
  have hroom := hasRoom_of_put? h
  constructor
  · intro other hother
    -- there is no room for a file where a directory is
    have hne : other ≠ place := by
      rintro rfl
      exact hroom.2.1 hother
    rw [node?_of_put? h, if_neg hne, hother]
  · intro other older hother
    by_cases heq : other = place
    · exact ⟨contents, by rw [node?_of_put? h, if_pos heq]⟩
    · exact ⟨older, by rw [node?_of_put? h, if_neg heq, hother]⟩

/-! ## Directories -/

theorem directory?_of_node? (h : t.node? place = some .directory) :
    t.directory? place = some t := by
  simp only [directory?, h]

theorem extends_of_directory? (h : t.directory? place = some u) : t.Extends u := by
  unfold directory? at h
  cases hnode : t.node? place with
  | none =>
    rw [hnode] at h
    intro other node hother
    have hne : other ≠ place := by
      rintro rfl
      rw [hnode] at hother
      cases hother
    rw [node?_of_put? h, if_neg hne, hother]
  | some node =>
    rw [hnode] at h
    cases node with
    | directory =>
      cases h
      exact Extends.refl t
    | file contents => cases h

theorem node?_of_directory? (h : t.directory? place = some u) :
    u.node? place = some .directory := by
  unfold directory? at h
  cases hnode : t.node? place with
  | none =>
    rw [hnode] at h
    rw [node?_of_put? h, if_pos rfl]
  | some node =>
    rw [hnode] at h
    cases node with
    | directory =>
      cases h
      exact hnode
    | file contents => cases h

/-- A directory that cannot be made in a directory cannot be made there later. -/
theorem directory?_eq_none_of_grows
    (hparent : place = [] ∨ t.node? place.dropLast = some .directory)
    (h : t.directory? place = none) (hgrows : t.Grows u) : u.directory? place = none := by
  unfold directory? at h
  cases hnode : t.node? place with
  | none =>
    rw [hnode] at h
    -- there is nothing in the way and the place is in a directory, so that the name is no name
    have hname : ¬ place.getLast?.all Path.isValidName := by
      intro hname
      have hroom : t.HasRoom place := ⟨hparent, by simp [hnode], hname⟩
      simp [put?, hroom] at h
    have hnone : u.node? place = none := by
      rw [← Option.not_isSome_iff_eq_none]
      exact fun hsome => hname (validName_of_node? hsome)
    have hroom : ¬ u.HasRoom place := fun hroom => hname hroom.2.2
    simp only [directory?, hnone, put?, hroom, dite_false]
  | some node =>
    rw [hnode] at h
    cases node with
    | directory => cases h
    | file contents =>
      obtain ⟨newer, hnewer⟩ := hgrows.file place contents hnode
      simp only [directory?, hnewer]

end FileTree

end SchemaForge
