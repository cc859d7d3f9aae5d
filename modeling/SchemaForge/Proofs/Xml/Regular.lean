import Mathlib.Data.List.Nodup
import SchemaForge.Xml.Reader

namespace SchemaForge

/-! # Trees that are read

No two attributes of an element that is read have the same name in the same name space, so that an
attribute is the same in whatever order they stand. This is kept by each part of a document that the
reader takes, for the elements that it has completed and for those that are still open.
-/

namespace Xml

/-- What tells the attributes of an element apart. -/
def Attribute.key (a : Attribute) : Option String × String :=
  (a.space, a.name)

/-- A node in which no element has two attributes that cannot be told apart. -/
inductive Node.Regular : Node → Prop where
  | element {name : String} {attributes : List Attribute} {children : List Node}
    (hattributes : (attributes.map Attribute.key).Nodup)
    (hchildren : ∀ child ∈ children, child.Regular) : Regular (.element name attributes children)
  | text (content : String) : Regular (.text content)
  | comment (content : String) : Regular (.comment content)
  | instruction (target content : String) : Regular (.instruction target content)

/-- An open element is regular when what has been read of it is. -/
structure OpenElement.Regular (e : OpenElement) : Prop where
  attributes : (e.attributes.map Attribute.key).Nodup
  children : ∀ child ∈ e.children, child.Regular

/-- What has been read is regular when all elements are, the open and the complete ones. -/
def Progress.Regular : Progress → Prop
  | before => True
  | inside innermost others => ∀ e ∈ innermost :: others, e.Regular
  | after root => root.Regular

/-! ## Attributes -/

/-- An attribute is only added when no other one before it has its key. -/
theorem nodup_of_resolve? {scope : Scope} {before attributes : List Attribute}
    {given : List (QName × String)} (h : resolve? scope before given = some attributes)
    (hbefore : (before.map Attribute.key).Nodup) : (attributes.map Attribute.key).Nodup := by
  induction given generalizing before with
  | nil =>
    rw [resolve?, Option.some_inj] at h
    exact h ▸ hbefore
  | cons first rest ih =>
    obtain ⟨name, value⟩ := first
    rw [resolve?] at h
    obtain ⟨space, -, h⟩ := Option.bind_eq_some_iff.1 h
    split at h
    · cases h
    · next hnew =>
      refine ih h ?_
      rw [List.map_append, List.map_singleton, List.nodup_append]
      refine ⟨hbefore, List.nodup_singleton _, ?_⟩
      rintro key hkey other hother rfl
      rw [List.mem_singleton] at hother
      obtain ⟨a, ha, rfl⟩ := List.mem_map.1 hkey
      obtain ⟨hspace, hname⟩ := Prod.mk.inj hother
      refine hnew (List.any_eq_true.2 ⟨a, ha, ?_⟩)
      rw [Bool.and_eq_true, beq_iff_eq, beq_iff_eq]
      exact ⟨hspace, hname⟩

theorem OpenElement.Regular.close {e : OpenElement} (h : e.Regular) : e.close.Regular :=
  .element h.attributes h.children

theorem OpenElement.regular_of_ofTag? {scope : Scope} {name : QName}
    {attributes : List (QName × String)} {e : OpenElement}
    (h : ofTag? scope name attributes = some e) : e.Regular := by
  unfold ofTag? at h
  obtain ⟨declared, -, h⟩ := Option.bind_eq_some_iff.1 h
  split at h
  · cases h
  · dsimp only at h
    split at h
    · cases h
    · obtain ⟨own, hown, h⟩ := Option.bind_eq_some_iff.1 h
      cases h
      exact ⟨nodup_of_resolve? hown List.nodup_nil, by simp⟩

/-! ## Parts of a document -/

namespace Progress

variable {p q : Progress}

theorem regular_add {node : Node} {others : List OpenElement} (hnode : node.Regular)
    (hothers : ∀ e ∈ others, e.Regular) : (add node others).Regular := by
  cases others with
  | nil => exact hnode
  | cons e others =>
    rw [List.forall_mem_cons] at hothers
    refine List.forall_mem_cons.2 ⟨⟨hothers.1.attributes, ?_⟩, hothers.2⟩
    rw [List.forall_mem_append, List.forall_mem_singleton]
    exact ⟨hothers.1.children, hnode⟩

theorem Regular.openElements (h : p.Regular) : ∀ e ∈ p.openElements, e.Regular := by
  cases p with
  | inside innermost others => exact h
  | _ => simp [Progress.openElements]

theorem Regular.start? (h : p.Regular) {name : QName} {attributes : List (QName × String)}
    {closed : Bool} (hq : p.start? name attributes closed = some q) : q.Regular := by
  unfold Progress.start? at hq
  obtain ⟨e, he, hq⟩ := Option.bind_eq_some_iff.1 hq
  have hregular := OpenElement.regular_of_ofTag? he
  cases hq
  cases closed with
  | true => exact regular_add hregular.close h.openElements
  | false => exact List.forall_mem_cons.2 ⟨hregular, h.openElements⟩

/-- A part of a document leaves what has been read regular. -/
theorem Regular.step (h : p.Regular) {part : Markup} (hq : p.step part = some q) : q.Regular := by
  unfold Progress.step at hq
  split at hq
  · cases hq
  · exact h.start? hq
  · next e others _ =>
    split at hq
    · cases hq
      exact regular_add (h e List.mem_cons_self).close fun o ho => h o (List.mem_cons_of_mem e ho)
    · cases hq
  · obtain ⟨content, -, rfl⟩ := Option.map_eq_some_iff.1 hq
    exact regular_add (.text _) h
  · cases hq
    exact regular_add (.text _) h
  · cases hq
    exact regular_add (.comment _) h
  · cases hq
    exact regular_add (.instruction _ _) h
  · split at hq
    · cases hq
      exact h
    · cases hq
  · cases hq
    exact h
  · cases hq
    exact h
  · cases hq

/-- So does any number of parts. -/
theorem Regular.steps (h : p.Regular) {parts : List Markup}
    (hq : parts.foldlM Progress.step p = some q) : q.Regular := by
  induction parts generalizing p with
  | nil =>
    rw [List.foldlM_nil] at hq
    cases hq
    exact h
  | cons part parts ih =>
    rw [List.foldlM_cons] at hq
    obtain ⟨next, hnext, hq⟩ := Option.bind_eq_some_iff.1 hq
    exact ih (h.step hnext) hq

end Progress

/-- No two attributes of an element in a document have the same name in the same name space. -/
theorem regular_of_read? {s : String} {root : Node} (h : read? s = some root) : root.Regular := by
  unfold read? at h
  obtain ⟨body, -, h⟩ := Option.bind_eq_some_iff.1 h
  obtain ⟨parts, -, h⟩ := Option.bind_eq_some_iff.1 h
  obtain ⟨progress, hparts, h⟩ := Option.bind_eq_some_iff.1 h
  have hregular : progress.Regular := Progress.Regular.steps (p := .before) trivial hparts
  cases progress with
  | after node =>
    cases h
    exact hregular
  | _ => cases h

end Xml

end SchemaForge
