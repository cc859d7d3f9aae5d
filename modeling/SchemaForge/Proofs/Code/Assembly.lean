import Mathlib.Data.List.Induction
import SchemaForge.Code.JavaClass
import SchemaForge.Code.KotlinClass
import SchemaForge.Proofs.Results

namespace SchemaForge

/-! # Putting classes together

A class is sound when each of its parts would pass the check that is made when the part is added.
A sound class is put together as it is; an enum without literals is refused under its name. Its
imports are trimmed, and a repeated one stands where it is first.
-/

/-! ## Parts -/

namespace Code

/-- Annotations that stand as they are when they are checked. -/
def SoundAnnotations (texts : List String) : Prop :=
  ∀ a ∈ texts, annotation a = .ok a

@[simp] theorem soundAnnotations_nil : SoundAnnotations [] := by
  simp [SoundAnnotations]

@[simp] theorem soundAnnotations_cons {a : String} {texts : List String} :
    SoundAnnotations (a :: texts) ↔ annotation a = .ok a ∧ SoundAnnotations texts := by
  simp [SoundAnnotations]

@[simp] theorem soundAnnotations_ite {p : Prop} [Decidable p] {texts others : List String} :
    SoundAnnotations (if p then texts else others) ↔
      (p → SoundAnnotations texts) ∧ (¬ p → SoundAnnotations others) := by
  split <;> simp_all

theorem annotations_of_sound {texts : List String} (h : SoundAnnotations texts) :
    annotations texts = .ok texts :=
  mapM_eq_ok_self h

theorem literals_of_ne_nil {name : String} {values : List String} (h : values ≠ []) :
    literals name values = .ok values := by
  simp [literals, h]

/-! ## Imports -/

/-- A name more is kept if it is none of those before it. -/
theorem eraseDups_concat (names : List String) (name : String) :
    (names ++ [name]).eraseDups =
      if name ∈ names then names.eraseDups else names.eraseDups ++ [name] := by
  rw [List.eraseDups_append]
  by_cases h : name ∈ names
  · simp [List.removeAll, h]
  · simp [List.removeAll, h, List.eraseDups_cons]

/-- The imports are the trimmed names that say something, each where it is first. -/
theorem imports_eq (names : List String) :
    imports names = ((names.map Text.trim).filter (· ≠ "")).eraseDups := by
  induction names using List.reverseRecOn with
  | nil => rfl
  | append_singleton names name ih =>
    have hstep : imports (names ++ [name]) = addImport (imports names) name := by simp [imports]
    rw [hstep, addImport, ih, List.map_append, List.map_singleton, List.filter_append]
    simp only [List.mem_eraseDups]
    by_cases hblank : Text.trim name = ""
    · simp [hblank]
    · have hkept : [Text.trim name].filter (· ≠ "") = [Text.trim name] := by simp [hblank]
      simp only [hkept, eraseDups_concat, hblank, false_or]

end Code

/-! ## Functions -/

/-- A function whose parts would pass their checks. -/
structure KotlinFunction.Sound (f : KotlinFunction) : Prop where
  annotations : Code.SoundAnnotations f.annotations
  exceptions : ∀ e ∈ f.exceptions, Code.exception e = .ok e

/-- A method whose parts would pass their checks. -/
structure JavaMethod.Sound (m : JavaMethod) : Prop where
  annotations : Code.SoundAnnotations m.annotations
  exceptions : ∀ e ∈ m.exceptions, Code.exception e = .ok e

theorem KotlinFunction.checked_of_sound {f : KotlinFunction} (h : f.Sound) :
    f.checked = .ok f := by
  simp only [checked, Code.annotations_of_sound h.annotations, mapM_eq_ok_self h.exceptions]
  rfl

theorem JavaMethod.checked_of_sound {m : JavaMethod} (h : m.Sound) : m.checked = .ok m := by
  simp only [checked, Code.annotations_of_sound h.annotations, mapM_eq_ok_self h.exceptions]
  rfl

theorem KotlinFunction.sound_iff {f : KotlinFunction} :
    f.Sound ↔ Code.SoundAnnotations f.annotations ∧ ∀ e ∈ f.exceptions, Code.exception e = .ok e :=
  ⟨fun h => ⟨h.annotations, h.exceptions⟩, fun h => ⟨h.1, h.2⟩⟩

theorem JavaMethod.sound_iff {m : JavaMethod} :
    m.Sound ↔ Code.SoundAnnotations m.annotations ∧ ∀ e ∈ m.exceptions, Code.exception e = .ok e :=
  ⟨fun h => ⟨h.annotations, h.exceptions⟩, fun h => ⟨h.1, h.2⟩⟩

/-! ## Classes -/

/-- A Kotlin class whose parts would pass their checks. -/
structure KotlinClass.Sound (c : KotlinClass) : Prop where
  literals : ∀ values, c.kind = .enum values → values ≠ []
  annotations : Code.SoundAnnotations c.annotations
  interfaces : ∀ i ∈ c.interfaces, Code.interface i = .ok i
  enums : ∀ e ∈ c.enums, e.values ≠ []
  constructible : c.constructors ≠ [] → c.isInterface = false
  constructors : ∀ f ∈ c.constructors, f.Sound
  functions : ∀ f ∈ c.functions, f.Sound

/-- A Java class whose parts would pass their checks. -/
structure JavaClass.Sound (c : JavaClass) : Prop where
  literals : ∀ values, c.kind = .enum values → values ≠ []
  annotations : Code.SoundAnnotations c.annotations
  interfaces : ∀ i ∈ c.interfaces, Code.interface i = .ok i
  enums : ∀ e ∈ c.enums, e.values ≠ []
  constructible : c.constructors ≠ [] → c.isInterface = false
  constructors : ∀ m ∈ c.constructors, m.Sound
  methods : ∀ m ∈ c.methods, m.Sound

namespace KotlinClass

/-- A sound class is put together as it is. -/
theorem assembled_of_sound {c : KotlinClass} (h : c.Sound) : c.assembled = .ok c := by
  have hkind : c.kind.checked c.name = .ok c.kind := by
    cases hc : c.kind with
    | enum values => simp [KotlinKind.checked, Code.literals_of_ne_nil (h.literals values hc)]
    | _ => rfl
  have henums : c.enums.mapM (·.checked) = .ok c.enums := by
    apply mapM_eq_ok_self
    intro e he
    simp only [KotlinEnum.checked, Code.literals_of_ne_nil (h.enums e he)]
    rfl
  have hconstructors : c.constructors.mapM c.checkedConstructor = .ok c.constructors := by
    apply mapM_eq_ok_self
    intro f hf
    have hinterface := h.constructible (List.ne_nil_of_mem hf)
    simp [checkedConstructor, hinterface, KotlinFunction.checked_of_sound (h.constructors f hf)]
  have hfunctions : c.functions.mapM (·.checked) = .ok c.functions :=
    mapM_eq_ok_self fun f hf => KotlinFunction.checked_of_sound (h.functions f hf)
  simp only [assembled, hkind, Code.annotations_of_sound h.annotations,
    mapM_eq_ok_self h.interfaces, henums, hconstructors, hfunctions]
  rfl

/-- An enum without literals is refused. -/
theorem assembled_of_no_literals {c : KotlinClass} (h : c.kind = .enum []) :
    c.assembled = .error (.emptyEnum c.name) := by
  simp only [assembled, h]
  rfl

end KotlinClass

namespace JavaClass

/-- A sound class is put together as it is. -/
theorem assembled_of_sound {c : JavaClass} (h : c.Sound) : c.assembled = .ok c := by
  have hkind : c.kind.checked c.name = .ok c.kind := by
    cases hc : c.kind with
    | enum values => simp [JavaKind.checked, Code.literals_of_ne_nil (h.literals values hc)]
    | _ => rfl
  have henums : c.enums.mapM (·.checked) = .ok c.enums := by
    apply mapM_eq_ok_self
    intro e he
    simp only [JavaEnum.checked, Code.literals_of_ne_nil (h.enums e he)]
    rfl
  have hconstructors : c.constructors.mapM c.checkedConstructor = .ok c.constructors := by
    apply mapM_eq_ok_self
    intro m hm
    have hinterface := h.constructible (List.ne_nil_of_mem hm)
    simp [checkedConstructor, hinterface, JavaMethod.checked_of_sound (h.constructors m hm)]
  have hmethods : c.methods.mapM (·.checked) = .ok c.methods :=
    mapM_eq_ok_self fun m hm => JavaMethod.checked_of_sound (h.methods m hm)
  simp only [assembled, hkind, Code.annotations_of_sound h.annotations,
    mapM_eq_ok_self h.interfaces, henums, hconstructors, hmethods]
  rfl

/-- An enum without literals is refused. -/
theorem assembled_of_no_literals {c : JavaClass} (h : c.kind = .enum []) :
    c.assembled = .error (.emptyEnum c.name) := by
  simp only [assembled, h]
  rfl

end JavaClass

end SchemaForge
