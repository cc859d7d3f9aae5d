import SchemaForge.Proofs.Code.Assembly
import SchemaForge.Proofs.Text.Blank

namespace SchemaForge

/-! # Declarations and their checks

What the checks of annotations, interfaces, literals and imports let pass. An annotation comes into
a declaration only through its check, whatever else is changed about the declaration, so that it has
an at sign at its front and something behind it.
-/

namespace Code

/-! ## Checks -/

/-- A text with an at sign at its front and something behind it. -/
structure Marked (a : String) : Prop where
  sign : a.toList.head? = some '@'
  longer : 1 < a.toList.length

/-- An annotation is refused when it says nothing. -/
theorem annotation_eq_error_iff {text : String} {fault : Fault} :
    annotation text = .error fault ↔
      (Text.trim text = "" ∨ Text.trim text = "@") ∧ fault = .annotationBlank := by
  unfold annotation
  dsimp only
  split
  · next hblank =>
    rw [and_iff_right hblank, Except.error.injEq]
    exact eq_comm
  · next hblank => split <;> simp [hblank]

/-- An annotation that passes says something. -/
theorem marked_of_annotation {text a : String} (h : annotation text = .ok a) : Marked a := by
  unfold annotation at h
  dsimp only at h
  split at h
  · cases h
  · next hblank =>
    rw [not_or] at hblank
    split at h
    · next hsign =>
      cases h
      refine ⟨hsign, ?_⟩
      obtain ⟨rest, hrest⟩ := List.head?_eq_some_iff.1 hsign
      have hne : rest ≠ [] := by
        rintro rfl
        apply hblank.2
        rw [← String.toList_inj, hrest]
        rfl
      rw [hrest, List.length_cons]
      have hlength := List.length_pos_of_ne_nil hne
      omega
    · cases h
      have hne : (Text.trim text).toList ≠ [] := by
        rw [Ne, ← String.toList_empty, String.toList_inj]
        exact hblank.1
      have hlength := List.length_pos_of_ne_nil hne
      refine ⟨by simp, ?_⟩
      rw [String.toList_append, List.length_append]
      simp only [String.reduceToList, List.length_singleton]
      omega

theorem interface_eq_error_iff {name : String} {fault : Fault} :
    interface name = .error fault ↔ Text.isBlank name = true ∧ fault = .blankInterface := by
  unfold interface
  split
  · next hblank => simp [hblank, eq_comm]
  · next hblank => simp [hblank]

/-- The name of an interface that passes is trimmed. -/
theorem trimmed_of_interface {name i : String} (h : interface name = .ok i) : Text.Trimmed i := by
  unfold interface at h
  split at h
  · cases h
  · next hblank =>
    cases h
    exact ⟨Text.trim_trim name, mt (Text.trim_eq_empty_iff name).1 hblank⟩

theorem literals_eq_error_iff {name : String} {values : List String} {fault : Fault} :
    literals name values = .error fault ↔ values = [] ∧ fault = .emptyEnum name := by
  unfold literals
  split
  · next hempty => simp [List.isEmpty_iff.1 hempty, eq_comm]
  · next hempty =>
    rw [List.isEmpty_iff] at hempty
    simp [hempty]

/-- Literals that pass are those that are given, and there is one. -/
theorem literals_eq_ok_iff {name : String} {values found : List String} :
    literals name values = .ok found ↔ values ≠ [] ∧ values = found := by
  unfold literals
  split
  · next hempty => simp [List.isEmpty_iff.1 hempty]
  · next hempty =>
    rw [List.isEmpty_iff] at hempty
    simp [hempty]

/-! ## Imports -/

theorem imports_concat (names : List String) (name : String) :
    imports (names ++ [name]) = addImport (imports names) name := by
  rw [imports, imports, List.foldl_append, List.foldl_cons, List.foldl_nil]

/-- Imports are trimmed names. -/
theorem trimmed_of_mem_imports {names : List String} : ∀ i ∈ imports names, Text.Trimmed i := by
  intro i hi
  rw [imports_eq, List.mem_eraseDups, List.mem_filter, List.mem_map] at hi
  obtain ⟨⟨name, -, rfl⟩, hne⟩ := hi
  exact ⟨Text.trim_trim name, by simpa using hne⟩

/-- No name is imported twice. -/
theorem nodup_imports (names : List String) : (imports names).Nodup := by
  induction names using List.reverseRecOn with
  | nil => exact List.nodup_nil
  | append_singleton names name ih =>
    rw [imports_concat, addImport]
    split
    · exact ih
    · next hnew =>
      rw [not_or] at hnew
      rw [List.nodup_append]
      refine ⟨ih, by simp, fun i hi other hother => ?_⟩
      obtain rfl := List.mem_singleton.1 hother
      rintro rfl
      exact hnew.2 hi

/-! ## Annotated declarations -/

/-- What can be made of a declaration: it begins without annotations, everything else about it can
be changed, and an annotation is added by the operation that checks it. -/
inductive Annotated {α : Type} (annotations : α → List String)
    (annotate : α → String → Except Fault α) : α → Prop
  | plain {a : α} (h : annotations a = []) : Annotated annotations annotate a
  | changed {a b : α} (before : Annotated annotations annotate a)
      (h : annotations b = annotations a) : Annotated annotations annotate b
  | annotated {a b : α} {text : String} (before : Annotated annotations annotate a)
      (h : annotate a text = .ok b) : Annotated annotations annotate b

/-- All annotations of a declaration have passed their check. -/
theorem Annotated.marked {α : Type} {annotations : α → List String}
    {annotate : α → String → Except Fault α} {a : α}
    (hannotate : ∀ {a b text}, annotate a text = .ok b →
      ∃ x, annotation text = .ok x ∧ annotations b = annotations a ++ [x])
    (h : Annotated annotations annotate a) : ∀ x ∈ annotations a, Marked x := by
  induction h with
  | plain h =>
    rw [h]
    simp
  | changed _ h ih => rwa [h]
  | annotated _ h ih =>
    obtain ⟨x, hx, hannotations⟩ := hannotate h
    rw [hannotations]
    intro y hy
    rcases List.mem_append.1 hy with hy | hy
    · exact ih y hy
    · obtain rfl := List.mem_singleton.1 hy
      exact marked_of_annotation hx

end Code

/-! ## Kotlin -/

/-- A property, constant or parameter that is made by its operations. -/
def KotlinProperty.Made (p : KotlinProperty) : Prop :=
  Code.Annotated (·.annotations) addAnnotation p

/-- A function that is made by its operations. Its parameters can be anything that is. -/
structure KotlinFunction.Made (f : KotlinFunction) : Prop where
  annotated : Code.Annotated (·.annotations) addAnnotation f
  parameters : ∀ p ∈ f.parameters, p.Made

/-- An enum with the literals that its check let pass. Its name and access can be changed. -/
def KotlinEnum.Made (e : KotlinEnum) : Prop :=
  ∃ name values made, ofValues name values = .ok made ∧ e.values = made.values

theorem KotlinProperty.Made.marked {p : KotlinProperty} (h : p.Made) :
    ∀ a ∈ p.annotations, Code.Marked a := by
  refine Code.Annotated.marked (fun {a b text} hb => ?_) h
  obtain ⟨x, hx, rfl⟩ := bind_pure_eq_ok_iff.1 hb
  exact ⟨x, hx, rfl⟩

theorem KotlinFunction.Made.marked {f : KotlinFunction} (h : f.Made) :
    ∀ a ∈ f.annotations, Code.Marked a := by
  refine Code.Annotated.marked (fun {a b text} hb => ?_) h.annotated
  obtain ⟨x, hx, rfl⟩ := bind_pure_eq_ok_iff.1 hb
  exact ⟨x, hx, rfl⟩

theorem KotlinEnum.Made.values_ne_nil {e : KotlinEnum} (h : e.Made) : e.values ≠ [] := by
  obtain ⟨name, values, made, hmade, heq⟩ := h
  obtain ⟨found, hfound, rfl⟩ := bind_pure_eq_ok_iff.1 hmade
  obtain ⟨hne, rfl⟩ := Code.literals_eq_ok_iff.1 hfound
  rwa [heq]

/-! ## Java -/

/-- A field, constant or parameter that is made by its operations. -/
def JavaVariable.Made (v : JavaVariable) : Prop :=
  Code.Annotated (·.annotations) addAnnotation v

/-- A method that is made by its operations. Its parameters can be anything that is. -/
structure JavaMethod.Made (m : JavaMethod) : Prop where
  annotated : Code.Annotated (·.annotations) addAnnotation m
  parameters : ∀ v ∈ m.parameters, v.Made

/-- The annotation of an overriding method passes the check as it is. -/
theorem JavaMethod.addAnnotation_overrideMark (m : JavaMethod) :
    m.addAnnotation overrideMark = .ok { m with annotations := m.annotations ++ [overrideMark] } :=
  rfl

theorem Nullability.marked_marker (n : Nullability) : Code.Marked n.marker := by
  cases n <;> exact ⟨by decide, by decide⟩

theorem Nullability.marked_of_mem {n? : Option Nullability} {a : String}
    (h : a ∈ (n?.map (·.marker)).toList) : Code.Marked a := by
  rw [Option.mem_toList, Option.map_eq_some_iff] at h
  obtain ⟨n, -, rfl⟩ := h
  exact n.marked_marker

/-- The annotations of a variable, with the one for its nullability, say something. -/
theorem JavaVariable.Made.marked {v : JavaVariable} (h : v.Made) :
    ∀ a ∈ v.allAnnotations, Code.Marked a := by
  have hown : ∀ a ∈ v.annotations, Code.Marked a := by
    refine Code.Annotated.marked (fun {a b text} hb => ?_) h
    obtain ⟨x, hx, rfl⟩ := bind_pure_eq_ok_iff.1 hb
    exact ⟨x, hx, rfl⟩
  exact List.forall_mem_append.2 ⟨hown, fun a ha => Nullability.marked_of_mem ha⟩

/-- The annotations of a method, with the one for its nullability, say something. -/
theorem JavaMethod.Made.marked {m : JavaMethod} (h : m.Made) :
    ∀ a ∈ m.allAnnotations, Code.Marked a := by
  have hown : ∀ a ∈ m.annotations, Code.Marked a := by
    refine Code.Annotated.marked (fun {a b text} hb => ?_) h.annotated
    obtain ⟨x, hx, rfl⟩ := bind_pure_eq_ok_iff.1 hb
    exact ⟨x, hx, rfl⟩
  exact List.forall_mem_append.2 ⟨hown, fun a ha => Nullability.marked_of_mem ha⟩

end SchemaForge
