import SchemaForge.Files.Path

namespace SchemaForge

/-! # Directory trees

Files and directories by the names on the way to them. What has a name in a tree has it in a
directory, and nothing new can be put where there is a directory. The tree itself can be missing,
and then there is nothing in it.
-/

/-- What stands under a name. -/
inductive FileNode where
  | directory
  | file (contents : String)
deriving DecidableEq, Repr

/-- The place of a file or directory: the names on the way to it. The tree itself is in the empty
place. -/
abbrev Place := List String

/-- The node of a place is that of the first entry for it. -/
theorem lookup_cons_place (key place : Place) (node : FileNode)
    (nodes : List (Place × FileNode)) :
    ((key, node) :: nodes).lookup place =
      if place = key then some node else nodes.lookup place := by
  by_cases h : place = key
  · simp [h]
  · have hb : (place == key) = false := by simpa using h
    simp [List.lookup_cons, hb, h]

/-- A filter on the places leaves what is in the places that pass. -/
theorem lookup_filter_place (keep : Place → Bool) (nodes : List (Place × FileNode))
    (place : Place) :
    (nodes.filter (keep ·.1)).lookup place = if keep place then nodes.lookup place else none := by
  induction nodes with
  | nil => simp
  | cons n nodes ih =>
    obtain ⟨key, node⟩ := n
    by_cases h : place = key
    · subst h
      cases hk : keep place
      · simpa [hk] using ih
      · simp [hk]
    · cases hk : keep key <;> simp [hk, ih, lookup_cons_place, h]

/-- A tree of directories and files. -/
structure FileTree where
  /-- The occupied places. -/
  nodes : List (Place × FileNode) := [([], .directory)]
  /-- What has a name has it in a directory. -/
  closed : ∀ place name, (nodes.lookup (place ++ [name])).isSome →
    nodes.lookup place = some .directory := by simp [lookup_cons_place]
  /-- What has a name has a valid one. -/
  named : ∀ place name, (nodes.lookup (place ++ [name])).isSome →
    Path.isValidName name := by simp [lookup_cons_place]
deriving DecidableEq

namespace FileTree

/-- What is in a place. -/
def node? (t : FileTree) (place : Place) : Option FileNode :=
  t.nodes.lookup place

/-- Whether something new can be put in a place: in a directory and under a valid name, or as the
tree itself, and not where a directory is. -/
abbrev HasRoom (t : FileTree) (place : Place) : Prop :=
  (place = [] ∨ t.node? place.dropLast = some .directory) ∧ t.node? place ≠ some .directory
    ∧ place.getLast?.all Path.isValidName

/-- What is where after a node is put in a place. -/
theorem lookup_put (nodes : List (Place × FileNode)) (place other : Place) (node : FileNode) :
    ((place, node) :: nodes.filter (·.1 ≠ place)).lookup other =
      if other = place then some node else nodes.lookup other := by
  rw [lookup_cons_place]
  by_cases ho : other = place
  · simp [ho]
  · have hf := lookup_filter_place (· ≠ place) nodes other
    simp only [ho, ne_eq, not_false_eq_true, decide_true, if_true] at hf
    simp only [ho, if_false, ne_eq, hf]

/-- The tree with a node in a place, instead of the file that may be there. -/
def put (t : FileTree) (place : Place) (node : FileNode) (room : t.HasRoom place) : FileTree where
  nodes := (place, node) :: t.nodes.filter (·.1 ≠ place)
  closed := by
    intro above name filled
    rw [lookup_put] at filled ⊢
    have inside : t.node? above = some .directory := by
      split at filled
      · next h => simpa [← h] using room.1
      · exact t.closed above name filled
    split
    · next h => exact absurd (h ▸ inside) room.2.1
    · exact inside
  named := by
    intro above name filled
    rw [lookup_put] at filled
    split at filled
    · next h => simpa [← h] using room.2.2
    · exact t.named above name filled

/-- The tree with a node in a place, if it has room for one. -/
def put? (t : FileTree) (place : Place) (node : FileNode) : Option FileTree :=
  if room : t.HasRoom place then some (t.put place node room) else none

/-- The tree with a directory in a place, where it may be already. -/
def directory? (t : FileTree) (place : Place) : Option FileTree :=
  match t.node? place with
  | none => t.put? place .directory
  | some .directory => some t
  | some (.file _) => none

/-- The tree with only what is in some of its places. -/
def restrict (t : FileTree) (keep : Place → Bool)
    (closed : ∀ place name, keep (place ++ [name]) → keep place) : FileTree where
  nodes := t.nodes.filter (keep ·.1)
  closed := by
    intro place name filled
    rw [lookup_filter_place] at filled ⊢
    split at filled
    · next h =>
      rw [if_pos (closed place name h)]
      exact t.closed place name filled
    · simp at filled
  named := by
    intro place name filled
    rw [lookup_filter_place] at filled
    split at filled
    · exact t.named place name filled
    · simp at filled

/-- The tree without what is in a place and below it. -/
def erase (t : FileTree) (place : Place) : FileTree :=
  t.restrict (fun p => !place.isPrefixOf p) fun p name kept => by
    simp only [Bool.not_eq_true', ← Bool.not_eq_true, List.isPrefixOf_iff_prefix] at kept ⊢
    exact fun h => kept (h.trans (List.prefix_append p [name]))

/-- The tree without what is below a place. -/
def clear (t : FileTree) (place : Place) : FileTree :=
  t.restrict (fun p => p.isPrefixOf place || !place.isPrefixOf p) fun p name kept => by
    simp only [Bool.or_eq_true, Bool.not_eq_true', ← Bool.not_eq_true,
      List.isPrefixOf_iff_prefix] at kept ⊢
    have longer := List.prefix_append p [name]
    exact kept.imp longer.trans fun below h => below (h.trans longer)

/-- The text for a place in a listing, where directories have a slash at the end. -/
def entry (place : Place) (node : FileNode) : String :=
  "/".intercalate place ++ match node with
    | .directory => "/"
    | .file _ => ""

/-- All files and directories in the tree, in the order of their texts. -/
def listing (t : FileTree) : List String :=
  ((t.nodes.filter (·.1 ≠ [])).map fun n => entry n.1 n.2).mergeSort (fun a b => decide (a ≤ b))

end FileTree

end SchemaForge
