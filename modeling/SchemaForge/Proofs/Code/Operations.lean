import SchemaForge.Proofs.Code.Declarations

namespace SchemaForge

/-! # Classes made by operations

A class begins empty, as one of some kind or as an enum with its literals. From then on it is changed
by operations only: parts are added to it and some of its properties are set. What one operation
keeps is kept by any number of them. An operation that is refused has changed nothing, as it checks
first what it is given.
-/

/-! ## Single operations -/

namespace Building

variable {σ α : Type} {check : Except Fault α} {change : α → σ → σ} {a b : σ} {fault : Fault}

/-- An operation that makes a change after a check. -/
theorem perform_check_modify (check : Except Fault α) (change : α → σ → σ) (a : σ) :
    perform (do let x ← check; modify (change x)) a =
      match check with
      | .ok x => (.ok (), change x a)
      | .error fault => (.error fault, a) := by
  cases check <;> rfl

theorem perform_check_modify_eq_ok_iff :
    perform (do let x ← check; modify (change x)) a = (.ok (), b) ↔
      ∃ x, check = .ok x ∧ change x a = b := by
  rw [perform_check_modify]
  cases check <;> simp

/-- It changes nothing when what it checks is refused. -/
theorem perform_check_modify_eq_error_iff :
    perform (do let x ← check; modify (change x)) a = (.error fault, b) ↔
      check = .error fault ∧ a = b := by
  rw [perform_check_modify]
  cases check <;> simp

/-- An operation that begins with reading what is there. -/
theorem perform_get_bind (op : σ → Building σ α) (a : σ) :
    perform (do op (← get)) a = (op a).perform a :=
  rfl

end Building

/-! ## Operations one after the other -/

namespace Code

section Perform

variable {α ω : Type} (action : ω → Building α Unit)

/-- What is there after some operations. Each begins with what the one before it has left, however
that one ended. -/
def performed (ops : List ω) (a : α) : α :=
  ops.foldl (fun a op => ((action op).perform a).2) a

variable {action}

/-- What holds at the beginning, and is kept by every operation however it ends, holds in the end. It
may depend on the operations so far. -/
theorem performed_induction (Inv : List ω → α → Prop) {a : α} (hstart : Inv [] a)
    (hstep : ∀ before op b result c, Inv before b → (action op).perform b = (result, c) →
      Inv (before ++ [op]) c) (ops : List ω) : Inv ops (performed action ops a) := by
  induction ops using List.reverseRecOn with
  | nil => exact hstart
  | append_singleton before op ih =>
    rw [performed, List.foldl_append, List.foldl_cons, List.foldl_nil, ← performed]
    exact hstep before op _ _ _ ih rfl

/-- The imports of a class are those of the operations so far, when each operation adds its own. -/
theorem imports_step {import? : ω → Option String} {before : List ω} {op : ω}
    {found added : List String} (hfound : found = imports (before.filterMap import?))
    (hadded : added = (import? op).elim found (addImport found)) :
    added = imports ((before ++ [op]).filterMap import?) := by
  rw [List.filterMap_append, hadded, hfound]
  cases hname : import? op with
  | none => simp [hname]
  | some name => simp [hname, imports_concat]

/-- Of things with a kind and imports: where every operation that succeeds keeps the parts and the
kind and adds its own import, if it has one, and every one that fails leaves all as it was, any
number of operations do. -/
theorem performed_kept {κ : Type} (Kept : α → Prop) (kind : α → κ) (imported : α → List String)
    {import? : ω → Option String} {start : α}
    (hdone : ∀ op a b, Kept a → (action op).perform a = (.ok (), b) → Kept b ∧ kind b = kind a
      ∧ imported b = (import? op).elim (imported a) (addImport (imported a)))
    (hfailed : ∀ op a fault b, (action op).perform a = (.error fault, b) →
      b = a ∧ import? op = none)
    (hstart : Kept start ∧ imported start = []) (ops : List ω) :
    Kept (performed action ops start) ∧ kind (performed action ops start) = kind start
      ∧ imported (performed action ops start) = imports (ops.filterMap import?) := by
  apply performed_induction fun (ops : List ω) (a : α) =>
    Kept a ∧ kind a = kind start ∧ imported a = imports (ops.filterMap import?)
  case hstart => exact ⟨hstart.1, rfl, hstart.2⟩
  case hstep =>
    rintro before op a (fault | ⟨⟩) b ⟨hkept, hkind, himports⟩ hperformed
    · obtain ⟨rfl, hnone⟩ := hfailed op a fault b hperformed
      exact ⟨hkept, hkind, imports_step himports (by rw [hnone]; rfl)⟩
    · obtain ⟨hnext, hsame, hadded⟩ := hdone op a b hkept hperformed
      exact ⟨hnext, hsame.trans hkind, imports_step himports hadded⟩

end Perform

end Code

/-! ## Kotlin -/

/-- A function whose annotations, and those of its parameters, say something. -/
structure KotlinFunction.AllMarked (f : KotlinFunction) : Prop where
  annotations : ∀ a ∈ f.annotations, Code.Marked a
  parameters : ∀ p ∈ f.parameters, ∀ a ∈ p.annotations, Code.Marked a

theorem KotlinFunction.Made.allMarked {f : KotlinFunction} (h : f.Made) : f.AllMarked :=
  ⟨h.marked, fun p hp => (h.parameters p hp).marked⟩

namespace KotlinClass

/-- A property of a class that can be set at any time. -/
inductive Property where
  | name (name : String)
  | package (package : String)
  | access (access : Access)
  | isAbstract (isAbstract : Bool)
  | generics (generics : String)
  | primaryConstructor (primaryConstructor : String)
  | parent (parent : String)
  | fileHeader (fileHeader : String)
  | classHeader (classHeader : String)
  | staticInit (staticInit : String)

/-- The class with a property set. -/
def set (c : KotlinClass) : Property → KotlinClass
  | .name name => { c with name }
  | .package package => { c with package }
  | .access access => { c with access }
  | .isAbstract isAbstract => { c with isAbstract }
  | .generics generics => { c with generics }
  | .primaryConstructor primaryConstructor => { c with primaryConstructor }
  | .parent parent => { c with parent }
  | .fileHeader fileHeader => { c with fileHeader }
  | .classHeader classHeader => { c with classHeader }
  | .staticInit staticInit => { c with staticInit }

/-- An operation on a class. The parts that it adds are made by operations of their own; where one
is changed once it is there, it could have been added like that. -/
inductive Operation where
  | addImport (name : String)
  | addAnnotation (text : String)
  | addInterface (name : String)
  | addEnum (e : KotlinEnum) (made : e.Made)
  | addProperty (p : KotlinProperty) (made : p.Made)
  | addConstant (p : KotlinProperty) (made : p.Made)
  | addStaticFunction (f : KotlinFunction) (made : f.Made)
  | addConstructor (f : KotlinFunction) (made : f.Made)
  | addFunction (f : KotlinFunction) (made : f.Made)
  | appendStaticInit (text : String)
  | set (property : Property)

namespace Operation

/-- What an operation does with a class. -/
def action : Operation → Building KotlinClass Unit
  | addImport name => modify (·.addImport name)
  | addAnnotation text => annotate text
  | addInterface name => implement name
  | addEnum e _ => modify (·.addEnum e)
  | addProperty p _ => modify (·.addProperty p)
  | addConstant p _ => modify (·.addConstant p)
  | addStaticFunction f _ => modify (·.addStaticFunction f)
  | addConstructor f _ => construct f
  | addFunction f _ => modify (·.addFunction f)
  | appendStaticInit text => modify (·.appendStaticInit text)
  | set property => modify (·.set property)

/-- The name of the class that an operation imports. -/
def import? : Operation → Option String
  | addImport name => some name
  | _ => none

/-- The faults with which operations are refused. -/
inductive Refused (c : KotlinClass) : Operation → Fault → Prop
  | unmarked {text : String} (h : Text.trim text = "" ∨ Text.trim text = "@") :
    Refused c ( addAnnotation text) .annotationBlank
  | unnamed {name : String} (h : Text.isBlank name = true) :
    Refused c (addInterface name) .blankInterface
  | constructor {f : KotlinFunction} {made : f.Made} (h : c.isInterface = true) :
    Refused c (addConstructor f made) (.interfaceConstructor c.name)

end Operation

/-- What all operations keep of the parts of a class. -/
structure Kept (c : KotlinClass) : Prop where
  annotations : ∀ a ∈ c.annotations, Code.Marked a
  properties : ∀ p ∈ c.properties, ∀ a ∈ p.annotations, Code.Marked a
  constants : ∀ p ∈ c.constants, ∀ a ∈ p.annotations, Code.Marked a
  staticFunctions : ∀ f ∈ c.staticFunctions, f.AllMarked
  constructors : ∀ f ∈ c.constructors, f.AllMarked ∧ f.isConstructor = true
  functions : ∀ f ∈ c.functions, f.AllMarked
  interfaces : ∀ i ∈ c.interfaces, Text.Trimmed i
  enums : ∀ e ∈ c.enums, e.values ≠ []
  constructible : c.isInterface = true → c.constructors = []

/-- A class to begin with. -/
inductive Fresh : KotlinClass → Prop
  | new (name package : String) (kind : KotlinKind) : Fresh (new name package kind)
  | ofValues {name package : String} {values : List String} {c : KotlinClass}
      (h : ofValues name package values = .ok c) : Fresh c

/-- What is known of a class after some operations. -/
structure Outcome (start : KotlinClass) (ops : List Operation) (c : KotlinClass) : Prop where
  kept : c.Kept
  kind : c.kind = start.kind
  /-- The imports are the trimmed names that say something, each where it is first, -/
  imports : c.imports = (((ops.filterMap (·.import?)).map Text.trim).filter (· ≠ "")).eraseDups
  importsTrimmed : ∀ i ∈ c.imports, Text.Trimmed i
  importsDistinct : c.imports.Nodup
  /-- All enums have literals, but for a class that began as an enum without any. -/
  literals : (∀ values, c.kind = .enum values ∨ values ∈ c.enums.map (·.values) → values ≠ []) ↔
    ¬ ∃ name package, start = new name package (.enum [])
  /-- A class that is made from literals keeps them, and there is one. -/
  given : ∀ name package values, ofValues name package values = .ok start →
    c.kind = .enum values ∧ values ≠ []

/-- A constructor is added unless the class is an interface. -/
theorem perform_construct (f : KotlinFunction) (c : KotlinClass) : (construct f).perform c =
    if c.isInterface then (.error (.interfaceConstructor c.name), c)
    else
      (.ok (), { c with
        constructors := c.constructors ++ [{ f with isConstructor := true }] }) := by
  rw [construct, Building.perform_get_bind]
  split <;> rfl

/-- An operation that fails is refused, and leaves the class as it was. -/
theorem Operation.refused_of_perform {op : Operation} {c d : KotlinClass} {fault : Fault}
    (h : op.action.perform c = (.error fault, d)) : d = c ∧ Refused c op fault := by
  cases op with
  | addAnnotation text =>
    obtain ⟨hfailed, rfl⟩ := Building.perform_check_modify_eq_error_iff.1 h
    obtain ⟨hblank, rfl⟩ := Code.annotation_eq_error_iff.1 hfailed
    exact ⟨rfl, .unmarked hblank⟩
  | addInterface name =>
    obtain ⟨hfailed, rfl⟩ := Building.perform_check_modify_eq_error_iff.1 h
    obtain ⟨hblank, rfl⟩ := Code.interface_eq_error_iff.1 hfailed
    exact ⟨rfl, .unnamed hblank⟩
  | addConstructor f made =>
    rw [action, perform_construct] at h
    split at h
    · next hinterface =>
      cases h
      exact ⟨rfl, .constructor hinterface⟩
    · cases h
  | addImport | addEnum | addProperty | addConstant | addStaticFunction | addFunction
  | appendStaticInit | set => cases h

theorem Operation.Refused.perform {op : Operation} {c : KotlinClass} {fault : Fault}
    (h : Refused c op fault) : op.action.perform c = (.error fault, c) := by
  cases h with
  | unmarked hblank =>
    exact Building.perform_check_modify_eq_error_iff.2
      ⟨Code.annotation_eq_error_iff.2 ⟨hblank, rfl⟩, rfl⟩
  | unnamed hblank =>
    exact Building.perform_check_modify_eq_error_iff.2
      ⟨Code.interface_eq_error_iff.2 ⟨hblank, rfl⟩, rfl⟩
  | constructor hinterface => rw [action, perform_construct, if_pos hinterface]

/-- An operation fails exactly when it is refused, and then changes nothing. -/
theorem Operation.perform_error (op : Operation) (c : KotlinClass) (fault : Fault) :
    ((op.action.perform c).1 = .error fault ↔ Refused c op fault)
      ∧ ((op.action.perform c).1 = .error fault → (op.action.perform c).2 = c) := by
  have hpair : (op.action.perform c).1 = .error fault →
      op.action.perform c = (.error fault, (op.action.perform c).2) := fun h => Prod.ext h rfl
  refine ⟨⟨fun h => (refused_of_perform (hpair h)).2, fun h => ?_⟩,
    fun h => (refused_of_perform (hpair h)).1⟩
  rw [h.perform]

/-- What one operation makes of a class. -/
theorem Operation.kept_of_perform {op : Operation} {c d : KotlinClass} (hkept : c.Kept)
    (h : op.action.perform c = (.ok (), d)) : d.Kept ∧ d.kind = c.kind
      ∧ d.imports = op.import?.elim c.imports (Code.addImport c.imports) := by
  cases op with
  | addImport name =>
    cases h
    unfold KotlinClass.addImport
    exact ⟨{ hkept with }, rfl, rfl⟩
  | addAnnotation text =>
    obtain ⟨a, ha, rfl⟩ := Building.perform_check_modify_eq_ok_iff.1 h
    have hnew := Code.marked_of_annotation ha
    refine ⟨{ hkept with annotations := ?_ }, rfl, rfl⟩
    exact List.forall_mem_append.2 ⟨hkept.annotations, List.forall_mem_singleton.2 hnew⟩
  | addInterface name =>
    obtain ⟨i, hi, rfl⟩ := Building.perform_check_modify_eq_ok_iff.1 h
    have hnew := Code.trimmed_of_interface hi
    refine ⟨{ hkept with interfaces := ?_ }, rfl, rfl⟩
    exact List.forall_mem_append.2 ⟨hkept.interfaces, List.forall_mem_singleton.2 hnew⟩
  | addEnum e made =>
    cases h
    refine ⟨{ hkept with enums := ?_ }, rfl, rfl⟩
    exact List.forall_mem_append.2 ⟨hkept.enums, List.forall_mem_singleton.2 made.values_ne_nil⟩
  | addProperty p made =>
    cases h
    refine ⟨{ hkept with properties := ?_ }, rfl, rfl⟩
    exact List.forall_mem_append.2 ⟨hkept.properties, List.forall_mem_singleton.2 made.marked⟩
  | addConstant p made =>
    cases h
    refine ⟨{ hkept with constants := ?_ }, rfl, rfl⟩
    exact List.forall_mem_append.2 ⟨hkept.constants, List.forall_mem_singleton.2 made.marked⟩
  | addStaticFunction f made =>
    cases h
    refine ⟨{ hkept with staticFunctions := ?_ }, rfl, rfl⟩
    exact List.forall_mem_append.2
      ⟨hkept.staticFunctions, List.forall_mem_singleton.2 made.allMarked⟩
  | addConstructor f made =>
    rw [action, perform_construct] at h
    split at h
    · cases h
    · next hinterface =>
      cases h
      have hnew : { f with isConstructor := true }.AllMarked := { made.allMarked with }
      refine ⟨{ hkept with constructors := ?_, constructible := ?_ }, rfl, rfl⟩
      · exact List.forall_mem_append.2
          ⟨hkept.constructors, List.forall_mem_singleton.2 ⟨hnew, rfl⟩⟩
      · exact fun hkind => absurd hkind hinterface
  | addFunction f made =>
    cases h
    refine ⟨{ hkept with functions := ?_ }, rfl, rfl⟩
    exact List.forall_mem_append.2 ⟨hkept.functions, List.forall_mem_singleton.2 made.allMarked⟩
  | appendStaticInit text =>
    cases h
    exact ⟨{ hkept with }, rfl, rfl⟩
  | set property =>
    cases h
    cases property <;> exact ⟨{ hkept with }, rfl, rfl⟩

/-- A fresh class has no parts. -/
theorem Fresh.kept {c : KotlinClass} (h : c.Fresh) : c.Kept ∧ c.imports = [] := by
  cases h with
  | new name package kind =>
    refine ⟨?_, rfl⟩
    constructor <;> simp [KotlinClass.new]
  | ofValues h =>
    obtain ⟨found, -, rfl⟩ := bind_pure_eq_ok_iff.1 h
    refine ⟨?_, rfl⟩
    constructor <;> simp [KotlinClass.new]

/-- Only an enum that was not checked begins without literals. -/
theorem Fresh.kind_eq_enum_nil_iff {c : KotlinClass} (h : c.Fresh) :
    c.kind = .enum [] ↔ ∃ name package, c = KotlinClass.new name package (.enum []) := by
  constructor
  · intro hkind
    cases h with
    | new name package kind => exact ⟨name, package, congrArg (KotlinClass.new name package) hkind⟩
    | ofValues hvalues =>
      obtain ⟨found, hfound, rfl⟩ := bind_pure_eq_ok_iff.1 hvalues
      obtain ⟨hne, rfl⟩ := Code.literals_eq_ok_iff.1 hfound
      cases hkind
      exact absurd rfl hne
  · rintro ⟨name, package, rfl⟩
    rfl

/-- An enum without literals has the text of one whose only literal is blank. -/
theorem render_new_enum_nil (name package : String) (style : Style) :
    (new name package (.enum [])).render style = (new name package (.enum [""])).render style :=
  rfl

/-- Any number of operations keep what one of them keeps. -/
theorem outcome_performed {start : KotlinClass} (hfresh : start.Fresh) (ops : List Operation) :
    Outcome start ops (Code.performed Operation.action ops start) := by
  -- an operation that imports a class never fails
  have hfailed : ∀ (op : Operation) (c : KotlinClass) fault d,
      op.action.perform c = (.error fault, d) → d = c ∧ op.import? = none := by
    intro op c fault d h
    obtain ⟨hsame, hrefused⟩ := Operation.refused_of_perform h
    exact ⟨hsame, by cases hrefused <;> rfl⟩
  obtain ⟨hkept, hkind, himports⟩ :=
    Code.performed_kept Kept (·.kind) (·.imports) @Operation.kept_of_perform hfailed
      hfresh.kept ops
  constructor
  case kept => exact hkept
  case kind => exact hkind
  case imports => rw [himports, Code.imports_eq]
  case importsTrimmed =>
    rw [himports]
    exact Code.trimmed_of_mem_imports
  case importsDistinct =>
    rw [himports]
    exact Code.nodup_imports _
  case literals =>
    rw [← hfresh.kind_eq_enum_nil_iff, ← hkind]
    constructor
    · exact fun hall hnil => hall [] (.inl hnil) rfl
    · rintro hsome values (hown | hinner) rfl
      · exact hsome hown
      · obtain ⟨e, he, hvalues⟩ := List.mem_map.1 hinner
        exact hkept.enums e he hvalues
  case given =>
    intro name package values hvalues
    obtain ⟨found, hfound, rfl⟩ := bind_pure_eq_ok_iff.1 hvalues
    obtain ⟨hne, rfl⟩ := Code.literals_eq_ok_iff.1 hfound
    exact ⟨hkind, hne⟩

end KotlinClass

/-! ## Java -/

/-- A method whose annotations, and those of its parameters, say something. -/
structure JavaMethod.AllMarked (m : JavaMethod) : Prop where
  annotations : ∀ a ∈ m.allAnnotations, Code.Marked a
  parameters : ∀ v ∈ m.parameters, ∀ a ∈ v.allAnnotations, Code.Marked a

theorem JavaMethod.Made.allMarked {m : JavaMethod} (h : m.Made) : m.AllMarked :=
  ⟨h.marked, fun v hv => (h.parameters v hv).marked⟩

/-- An enum whose name is taken is passed over, so that names stay different. -/
theorem JavaEnum.nodup_names_add {enums : List JavaEnum} (h : (enums.map (·.name)).Nodup)
    (e : JavaEnum) : ((add enums e).map (·.name)).Nodup := by
  unfold add
  split
  · exact h
  · next hnew =>
    rw [List.map_append, List.map_singleton, List.nodup_append]
    refine ⟨h, by simp, fun name hname other hother => ?_⟩
    obtain rfl := List.mem_singleton.1 hother
    rintro rfl
    obtain ⟨taken, htaken, hsame⟩ := List.mem_map.1 hname
    exact hnew (List.any_eq_true.2 ⟨taken, htaken, by simp [hsame]⟩)

theorem JavaEnum.mem_add {enums : List JavaEnum} {e other : JavaEnum}
    (h : other ∈ add enums e) : other ∈ enums ∨ other = e := by
  unfold add at h
  split at h
  · exact .inl h
  · simpa using h

namespace JavaClass

/-- A property of a class that can be set at any time. -/
inductive Property where
  | name (name : String)
  | package (package : String)
  | access (access : Access)
  | isAbstract (isAbstract : Bool)
  | isFinal (isFinal : Bool)
  | parent (parent : String)
  | fileHeader (fileHeader : String)
  | classHeader (classHeader : String)
  | staticInit (staticInit : String)

/-- The class with a property set. -/
def set (c : JavaClass) : Property → JavaClass
  | .name name => { c with name }
  | .package package => { c with package }
  | .access access => { c with access }
  | .isAbstract isAbstract => { c with isAbstract }
  | .isFinal isFinal => { c with isFinal }
  | .parent parent => { c with parent }
  | .fileHeader fileHeader => { c with fileHeader }
  | .classHeader classHeader => { c with classHeader }
  | .staticInit staticInit => { c with staticInit }

/-- An operation on a class. The parts that it adds are made by operations of their own; where one
is changed once it is there, it could have been added like that. -/
inductive Operation where
  | addImport (name : String)
  | addAnnotation (text : String)
  | addInterface (name : String)
  | addEnum (name : String) (values : List String)
  | addConstant (v : JavaVariable) (made : v.Made)
  | addField (v : JavaVariable) (made : v.Made)
  | addConstructor (m : JavaMethod) (made : m.Made)
  | addMethod (m : JavaMethod) (made : m.Made)
  | appendStaticInit (text : String)
  | set (property : Property)

namespace Operation

/-- What an operation does with a class. -/
def action : Operation → Building JavaClass Unit
  | addImport name => modify (·.addImport name)
  | addAnnotation text => annotate text
  | addInterface name => implement name
  | addEnum name values => declareEnum name values
  | addConstant v _ => modify (·.addConstant v)
  | addField v _ => modify (·.addField v)
  | addConstructor m _ => construct m
  | addMethod m _ => modify (·.addMethod m)
  | appendStaticInit text => modify (·.appendStaticInit text)
  | set property => modify (·.set property)

/-- The name of the class that an operation imports. -/
def import? : Operation → Option String
  | addImport name => some name
  | _ => none

/-- The faults with which operations are refused. An enum without literals is refused even when its
name is taken. -/
inductive Refused (c : JavaClass) : Operation → Fault → Prop
  | unmarked {text : String} (h : Text.trim text = "" ∨ Text.trim text = "@") :
    Refused c ( addAnnotation text) .annotationBlank
  | unnamed {name : String} (h : Text.isBlank name = true) :
    Refused c (addInterface name) .blankInterface
  | literals {name : String} : Refused c (addEnum name []) (.emptyEnum name)
  | constructor {m : JavaMethod} {made : m.Made} (h : c.isInterface = true) :
    Refused c (addConstructor m made) (.interfaceConstructor c.name)

end Operation

/-- What all operations keep of the parts of a class. -/
structure Kept (c : JavaClass) : Prop where
  annotations : ∀ a ∈ c.annotations, Code.Marked a
  constants : ∀ v ∈ c.constants, ∀ a ∈ v.allAnnotations, Code.Marked a
  fields : ∀ v ∈ c.fields, ∀ a ∈ v.allAnnotations, Code.Marked a
  constructors : ∀ m ∈ c.constructors, m.AllMarked ∧ m.isConstructor = true
  methods : ∀ m ∈ c.methods, m.AllMarked
  interfaces : ∀ i ∈ c.interfaces, Text.Trimmed i
  enums : ∀ e ∈ c.enums, e.values ≠ []
  enumNames : (c.enums.map (·.name)).Nodup
  constructible : c.isInterface = true → c.constructors = []

/-- A class to begin with. -/
inductive Fresh : JavaClass → Prop
  | new (name package : String) (kind : JavaKind) : Fresh (new name package kind)
  | ofValues {name package : String} {values : List String} {c : JavaClass}
      (h : ofValues name package values = .ok c) : Fresh c

/-- What is known of a class after some operations. -/
structure Outcome (start : JavaClass) (ops : List Operation) (c : JavaClass) : Prop where
  kept : c.Kept
  kind : c.kind = start.kind
  /-- The imports are the trimmed names that say something, each where it is first. -/
  imports : c.imports = (((ops.filterMap (·.import?)).map Text.trim).filter (· ≠ "")).eraseDups
  importsTrimmed : ∀ i ∈ c.imports, Text.Trimmed i
  importsDistinct : c.imports.Nodup
  /-- All enums have literals, but for a class that began as an enum without any. -/
  literals : (∀ values, c.kind = .enum values ∨ values ∈ c.enums.map (·.values) → values ≠ []) ↔
    ¬ ∃ name package, start = new name package (.enum [])
  /-- A class that is made from literals keeps them, and there is one. -/
  given : ∀ name package values, ofValues name package values = .ok start →
    c.kind = .enum values ∧ values ≠ []

/-- A constructor is added unless the class is an interface. -/
theorem perform_construct (m : JavaMethod) (c : JavaClass) : (construct m).perform c =
    if c.isInterface then (.error (.interfaceConstructor c.name), c)
    else
      (.ok (), { c with
        constructors := c.constructors ++ [{ m with isConstructor := true, name := c.name }] }) := by
  rw [construct, Building.perform_get_bind]
  split <;> rfl

/-- An operation that fails is refused, and leaves the class as it was. -/
theorem Operation.refused_of_perform {op : Operation} {c d : JavaClass} {fault : Fault}
    (h : op.action.perform c = (.error fault, d)) : d = c ∧ Refused c op fault := by
  cases op with
  | addAnnotation text =>
    obtain ⟨hfailed, rfl⟩ := Building.perform_check_modify_eq_error_iff.1 h
    obtain ⟨hblank, rfl⟩ := Code.annotation_eq_error_iff.1 hfailed
    exact ⟨rfl, .unmarked hblank⟩
  | addInterface name =>
    obtain ⟨hfailed, rfl⟩ := Building.perform_check_modify_eq_error_iff.1 h
    obtain ⟨hblank, rfl⟩ := Code.interface_eq_error_iff.1 hfailed
    exact ⟨rfl, .unnamed hblank⟩
  | addEnum name values =>
    obtain ⟨hfailed, rfl⟩ := Building.perform_check_modify_eq_error_iff.1 h
    obtain ⟨rfl, rfl⟩ := Code.literals_eq_error_iff.1 (bind_pure_eq_error_iff.1 hfailed)
    exact ⟨rfl, .literals⟩
  | addConstructor m made =>
    rw [action, perform_construct] at h
    split at h
    · next hinterface =>
      cases h
      exact ⟨rfl, .constructor hinterface⟩
    · cases h
  | addImport | addConstant | addField | addMethod | appendStaticInit | set => cases h

theorem Operation.Refused.perform {op : Operation} {c : JavaClass} {fault : Fault}
    (h : Refused c op fault) : op.action.perform c = (.error fault, c) := by
  cases h with
  | unmarked hblank =>
    exact Building.perform_check_modify_eq_error_iff.2
      ⟨Code.annotation_eq_error_iff.2 ⟨hblank, rfl⟩, rfl⟩
  | unnamed hblank =>
    exact Building.perform_check_modify_eq_error_iff.2
      ⟨Code.interface_eq_error_iff.2 ⟨hblank, rfl⟩, rfl⟩
  | literals => rfl
  | constructor hinterface => rw [action, perform_construct, if_pos hinterface]

/-- An operation fails exactly when it is refused, and then changes nothing. -/
theorem Operation.perform_error (op : Operation) (c : JavaClass) (fault : Fault) :
    ((op.action.perform c).1 = .error fault ↔ Refused c op fault)
      ∧ ((op.action.perform c).1 = .error fault → (op.action.perform c).2 = c) := by
  have hpair : (op.action.perform c).1 = .error fault →
      op.action.perform c = (.error fault, (op.action.perform c).2) := fun h => Prod.ext h rfl
  refine ⟨⟨fun h => (refused_of_perform (hpair h)).2, fun h => ?_⟩,
    fun h => (refused_of_perform (hpair h)).1⟩
  rw [h.perform]

/-- What one operation makes of a class. -/
theorem Operation.kept_of_perform {op : Operation} {c d : JavaClass} (hkept : c.Kept)
    (h : op.action.perform c = (.ok (), d)) : d.Kept ∧ d.kind = c.kind
      ∧ d.imports = op.import?.elim c.imports (Code.addImport c.imports) := by
  cases op with
  | addImport name =>
    cases h
    unfold JavaClass.addImport
    exact ⟨{ hkept with }, rfl, rfl⟩
  | addAnnotation text =>
    obtain ⟨a, ha, rfl⟩ := Building.perform_check_modify_eq_ok_iff.1 h
    have hnew := Code.marked_of_annotation ha
    refine ⟨{ hkept with annotations := ?_ }, rfl, rfl⟩
    exact List.forall_mem_append.2 ⟨hkept.annotations, List.forall_mem_singleton.2 hnew⟩
  | addInterface name =>
    obtain ⟨i, hi, rfl⟩ := Building.perform_check_modify_eq_ok_iff.1 h
    have hnew := Code.trimmed_of_interface hi
    refine ⟨{ hkept with interfaces := ?_ }, rfl, rfl⟩
    exact List.forall_mem_append.2 ⟨hkept.interfaces, List.forall_mem_singleton.2 hnew⟩
  | addEnum name values =>
    obtain ⟨e, he, rfl⟩ := Building.perform_check_modify_eq_ok_iff.1 h
    obtain ⟨found, hfound, rfl⟩ := bind_pure_eq_ok_iff.1 he
    obtain ⟨hne, rfl⟩ := Code.literals_eq_ok_iff.1 hfound
    refine ⟨{ hkept with enums := ?_, enumNames := ?_ }, rfl, rfl⟩
    · intro other hother
      rcases JavaEnum.mem_add hother with hold | rfl
      · exact hkept.enums other hold
      · exact hne
    · exact JavaEnum.nodup_names_add hkept.enumNames _
  | addConstant v made =>
    cases h
    refine ⟨{ hkept with constants := ?_ }, rfl, rfl⟩
    exact List.forall_mem_append.2 ⟨hkept.constants, List.forall_mem_singleton.2 made.marked⟩
  | addField v made =>
    cases h
    refine ⟨{ hkept with fields := ?_ }, rfl, rfl⟩
    exact List.forall_mem_append.2 ⟨hkept.fields, List.forall_mem_singleton.2 made.marked⟩
  | addConstructor m made =>
    rw [action, perform_construct] at h
    split at h
    · cases h
    · next hinterface =>
      cases h
      have hnew : { m with isConstructor := true, name := c.name }.AllMarked :=
        { made.allMarked with }
      refine ⟨{ hkept with constructors := ?_, constructible := ?_ }, rfl, rfl⟩
      · exact List.forall_mem_append.2
          ⟨hkept.constructors, List.forall_mem_singleton.2 ⟨hnew, rfl⟩⟩
      · exact fun hkind => absurd hkind hinterface
  | addMethod m made =>
    cases h
    refine ⟨{ hkept with methods := ?_ }, rfl, rfl⟩
    exact List.forall_mem_append.2 ⟨hkept.methods, List.forall_mem_singleton.2 made.allMarked⟩
  | appendStaticInit text =>
    cases h
    exact ⟨{ hkept with }, rfl, rfl⟩
  | set property =>
    cases h
    cases property <;> exact ⟨{ hkept with }, rfl, rfl⟩

/-- A fresh class has no parts. -/
theorem Fresh.kept {c : JavaClass} (h : c.Fresh) : c.Kept ∧ c.imports = [] := by
  cases h with
  | new name package kind =>
    refine ⟨?_, rfl⟩
    constructor <;> simp [JavaClass.new]
  | ofValues h =>
    obtain ⟨found, -, rfl⟩ := bind_pure_eq_ok_iff.1 h
    refine ⟨?_, rfl⟩
    constructor <;> simp [JavaClass.new]

/-- Only an enum that was not checked begins without literals. -/
theorem Fresh.kind_eq_enum_nil_iff {c : JavaClass} (h : c.Fresh) :
    c.kind = .enum [] ↔ ∃ name package, c = JavaClass.new name package (.enum []) := by
  constructor
  · intro hkind
    cases h with
    | new name package kind => exact ⟨name, package, congrArg (JavaClass.new name package) hkind⟩
    | ofValues hvalues =>
      obtain ⟨found, hfound, rfl⟩ := bind_pure_eq_ok_iff.1 hvalues
      obtain ⟨hne, rfl⟩ := Code.literals_eq_ok_iff.1 hfound
      cases hkind
      exact absurd rfl hne
  · rintro ⟨name, package, rfl⟩
    rfl

/-- An enum without literals has the text of one whose only literal is blank. -/
theorem render_new_enum_nil (name package : String) (style : Style) :
    (new name package (.enum [])).render style = (new name package (.enum [""])).render style :=
  rfl

/-- Any number of operations keep what one of them keeps. -/
theorem outcome_performed {start : JavaClass} (hfresh : start.Fresh) (ops : List Operation) :
    Outcome start ops (Code.performed Operation.action ops start) := by
  -- an operation that imports a class never fails
  have hfailed : ∀ (op : Operation) (c : JavaClass) fault d,
      op.action.perform c = (.error fault, d) → d = c ∧ op.import? = none := by
    intro op c fault d h
    obtain ⟨hsame, hrefused⟩ := Operation.refused_of_perform h
    exact ⟨hsame, by cases hrefused <;> rfl⟩
  obtain ⟨hkept, hkind, himports⟩ :=
    Code.performed_kept Kept (·.kind) (·.imports) @Operation.kept_of_perform hfailed
      hfresh.kept ops
  constructor
  case kept => exact hkept
  case kind => exact hkind
  case imports => rw [himports, Code.imports_eq]
  case importsTrimmed =>
    rw [himports]
    exact Code.trimmed_of_mem_imports
  case importsDistinct =>
    rw [himports]
    exact Code.nodup_imports _
  case literals =>
    rw [← hfresh.kind_eq_enum_nil_iff, ← hkind]
    constructor
    · exact fun hall hnil => hall [] (.inl hnil) rfl
    · rintro hsome values (hown | hinner) rfl
      · exact hsome hown
      · obtain ⟨e, he, hvalues⟩ := List.mem_map.1 hinner
        exact hkept.enums e he hvalues
  case given =>
    intro name package values hvalues
    obtain ⟨found, hfound, rfl⟩ := bind_pure_eq_ok_iff.1 hvalues
    obtain ⟨hne, rfl⟩ := Code.literals_eq_ok_iff.1 hfound
    exact ⟨hkind, hne⟩

end JavaClass

/-! ## Both languages -/

/-- After any number of operations on a fresh class its imports are trimmed, different and in the
order in which they came; its annotations, and those of its members, functions and parameters, say
something; its interfaces are named, its constructors are marked as such, and an interface has none.
The enums within it have literals, and so has the class if it is an enum, unless it began without
any: then it has none in the end. An operation fails exactly when it is refused, and then changes
nothing. -/
theorem Code.operations_keep_parts {kotlin : KotlinClass} {java : JavaClass}
    (hkotlin : kotlin.Fresh) (hjava : java.Fresh) (kotlinOps : List KotlinClass.Operation)
    (javaOps : List JavaClass.Operation) :
    KotlinClass.Outcome kotlin kotlinOps
      (performed KotlinClass.Operation.action kotlinOps kotlin)
    ∧ JavaClass.Outcome java javaOps (performed JavaClass.Operation.action javaOps java)
    ∧ (∀ (c : KotlinClass) (op : KotlinClass.Operation) (fault : Fault),
      ((op.action.perform c).1 = .error fault ↔ KotlinClass.Operation.Refused c op fault)
        ∧ ((op.action.perform c).1 = .error fault → (op.action.perform c).2 = c))
    ∧ ∀ (c : JavaClass) (op : JavaClass.Operation) (fault : Fault),
      ((op.action.perform c).1 = .error fault ↔ JavaClass.Operation.Refused c op fault)
        ∧ ((op.action.perform c).1 = .error fault → (op.action.perform c).2 = c) :=
  ⟨KotlinClass.outcome_performed hkotlin kotlinOps, JavaClass.outcome_performed hjava javaOps,
    fun c op fault => op.perform_error c fault, fun c op fault => op.perform_error c fault⟩

/-- Operations on an enum, one of which repeats an import and one of which is refused. -/
def KotlinClass.Operation.ofStatus : List KotlinClass.Operation :=
  [addImport " java.util.Date ", addImport "java.util.Date", addAnnotation " Entity",
    addAnnotation " @ ", addConstructor { name := "Status" } ⟨.plain rfl, by simp⟩,
    set (.isAbstract true)]

/-- Operations on an interface, which can have no constructor and one enum of a name. -/
def JavaClass.Operation.ofListener : List JavaClass.Operation :=
  [addConstructor { name := "Listener" } ⟨.plain rfl, by simp⟩, addEnum "Event" ["START"],
    addEnum "Event" ["END"], addEnum "Other" [],
    addMethod { name := "listen", annotations := ["@Override"] }
      ⟨.annotated (.plain rfl) (JavaMethod.addAnnotation_overrideMark { name := "listen" }),
        by simp⟩]

/-- An enum with a literal, one that began without any, and an interface. -/
theorem Code.operations_keep_parts_status_listener :
    ∃ (c unchecked : KotlinClass) (i : JavaClass),
      KotlinClass.ofValues "Status" "org" ["OPEN"] = .ok c
      ∧ KotlinClass.Outcome c KotlinClass.Operation.ofStatus
        (performed KotlinClass.Operation.action KotlinClass.Operation.ofStatus c)
      ∧ (performed KotlinClass.Operation.action KotlinClass.Operation.ofStatus c).imports =
        ["java.util.Date"]
      ∧ (performed KotlinClass.Operation.action KotlinClass.Operation.ofStatus c).annotations =
        ["@Entity"]
      ∧ unchecked = .new "Status" "org" (.enum [])
      ∧ KotlinClass.ofValues "Status" "org" [] = .error (.emptyEnum "Status")
      ∧ unchecked.render {} = (KotlinClass.new "Status" "org" (.enum [""])).render {}
      ∧ (performed KotlinClass.Operation.action KotlinClass.Operation.ofStatus unchecked).kind =
        .enum []
      ∧ i = .new "Listener" "org" .interface
      ∧ JavaClass.Outcome i JavaClass.Operation.ofListener
        (performed JavaClass.Operation.action JavaClass.Operation.ofListener i)
      ∧ (performed JavaClass.Operation.action JavaClass.Operation.ofListener i).constructors = []
      ∧ (performed JavaClass.Operation.action JavaClass.Operation.ofListener i).enums =
        [⟨"Event", ["START"]⟩] := by
  have hvalues : KotlinClass.ofValues "Status" "org" ["OPEN"] =
      .ok (.new "Status" "org" (.enum ["OPEN"])) := rfl
  obtain ⟨hstatus, hlistener, -⟩ := Code.operations_keep_parts (.ofValues hvalues)
    (.new "Listener" "org" .interface) KotlinClass.Operation.ofStatus
    JavaClass.Operation.ofListener
  obtain ⟨hunchecked, -⟩ := Code.operations_keep_parts (.new "Status" "org" (.enum []))
    (.new "Listener" "org" .interface) KotlinClass.Operation.ofStatus
    JavaClass.Operation.ofListener
  refine ⟨_, _, _, hvalues, hstatus, ?_, ?_, rfl, rfl, KotlinClass.render_new_enum_nil _ _ _,
    hunchecked.kind, rfl, hlistener, ?_, ?_⟩
  · decide
  · decide
  · decide
  · decide

end SchemaForge
