import SchemaForge.Proofs.Schema.Validity

namespace SchemaForge

/-! # Fields that fit together

Whether an entity is valid depends on all of its fields together: no two of them may have the same
name or the same constant, one at most is the primary key, and literals are declared for numbers and
texts only. The fields are read from the front, so that the field that is reported is the last of
the shortest beginning that does not fit together, and what is reported of it is the first thing
that is wrong.
-/

namespace Entity

/-! ## Conditions -/

/-- Fields that an entity can have together. Names are compared without regard to the case of ASCII
letters. -/
structure FieldsFit (fields : List Field) : Prop where
  names : (fields.map (Text.lowerAscii ·.name)).Nodup
  constants : (fields.map fun f => Naming.constantName f.variableName).Nodup
  keys : (fields.filter (·.primaryKey)).length ≤ 1
  literals : ∀ f ∈ fields, Text.isBlank f.enumerations = false → f.type.isNumber ∨ f.type = .varchar

/-- What is reported of a field that does not fit to those before it, which fit together. The causes
are in the order of the checks, so that each stands for a field with which none of the others before
it is wrong. -/
inductive Refuses (e : Entity) (before : List Field) (f : Field) : Fault → Prop
  | name (repeated : Text.lowerAscii f.name ∈ before.map (Text.lowerAscii ·.name)) :
      e.Refuses before f (.duplicateField e.name f.name)
  | constant (name : Text.lowerAscii f.name ∉ before.map (Text.lowerAscii ·.name))
      (repeated : f.constantName ∈ before.map (·.constantName)) :
      e.Refuses before f (.duplicateConstant e.name f.name f.constantName)
  | key (name : Text.lowerAscii f.name ∉ before.map (Text.lowerAscii ·.name))
      (constant : f.constantName ∉ before.map (·.constantName)) (primary : f.primaryKey)
      (second : ∃ b ∈ before, b.primaryKey) :
      e.Refuses before f (.duplicateKey e.name f.name)
  | literals (name : Text.lowerAscii f.name ∉ before.map (Text.lowerAscii ·.name))
      (constant : f.constantName ∉ before.map (·.constantName))
      (key : ¬ (f.primaryKey ∧ ∃ b ∈ before, b.primaryKey))
      (listed : Text.isBlank f.enumerations = false)
      (misplaced : ¬ (f.type.isNumber ∨ f.type = .varchar)) :
      e.Refuses before f (.misplacedEnumeration e.name f.name)

/-! ## Checks -/

variable {e : Entity} {before : List Field} {f : Field} {fault : Fault}

theorem misplacesEnumeration_eq_true_iff :
    misplacesEnumeration f = true ↔
      Text.isBlank f.enumerations = false ∧ ¬ (f.type.isNumber ∨ f.type = .varchar) := by
  simp [misplacesEnumeration, and_assoc]

theorem misplacesEnumeration_eq_false_iff :
    misplacesEnumeration f = false ↔
      (Text.isBlank f.enumerations = false → f.type.isNumber ∨ f.type = .varchar) := by
  rw [← Bool.not_eq_true, misplacesEnumeration_eq_true_iff, not_and, not_not]

/-- The check of a field reports the first cause that there is. -/
theorem checkField_eq_error_iff :
    checkField e.name before f = .error fault ↔ e.Refuses before f fault := by
  have hnames : before.any (Text.sameName ·.name f.name) = true ↔
      Text.lowerAscii f.name ∈ before.map (Text.lowerAscii ·.name) := by
    simp [Text.sameName_iff]
  have hconstants : before.any (·.constantName == f.constantName) = true ↔
      f.constantName ∈ before.map (·.constantName) := by
    simp
  have hkeys : (f.primaryKey && before.any (·.primaryKey)) = true ↔
      f.primaryKey ∧ ∃ b ∈ before, b.primaryKey := by
    rw [Bool.and_eq_true, List.any_eq_true]
  unfold checkField
  simp only [hnames, hconstants, hkeys, misplacesEnumeration_eq_true_iff]
  constructor
  · intro h
    split at h
    · next hname =>
      cases h
      exact .name hname
    split at h
    · next hname hconstant =>
      cases h
      exact .constant hname hconstant
    split at h
    · next hname hconstant hkey =>
      cases h
      exact .key hname hconstant hkey.1 hkey.2
    split at h
    · next hname hconstant hkey hliterals =>
      cases h
      exact .literals hname hconstant hkey hliterals.1 hliterals.2
    · cases h
  · intro h
    cases h with
    | name hname => rw [if_pos hname]
    | constant hname hconstant => rw [if_neg hname, if_pos hconstant]
    | key hname hconstant hprimary hsecond =>
      rw [if_neg hname, if_neg hconstant, if_pos ⟨hprimary, hsecond⟩]
    | literals hname hconstant hkey hlisted hmisplaced =>
      rw [if_neg hname, if_neg hconstant, if_neg hkey, if_pos ⟨hlisted, hmisplaced⟩]

/-- At most one member of a list has a property when no two have. -/
theorem length_filter_le_one_iff {α : Type} {p : α → Bool} {xs : List α} :
    (xs.filter p).length ≤ 1 ↔ xs.Pairwise fun x y => ¬ (p x ∧ p y) := by
  induction xs with
  | nil => simp
  | cons x xs ih =>
    rw [List.pairwise_cons, ← ih, List.filter_cons]
    split
    · next hx =>
      -- a member with the property leaves none for the rest
      have hnone : (xs.filter p).length = 0 ↔ ∀ y ∈ xs, ¬ (p x ∧ p y) := by
        simp [hx]
      rw [List.length_cons, ← hnone]
      omega
    · next hx => simp [hx]

/-- An entity is valid when its fields fit together. -/
theorem validate_eq_ok_iff_fieldsFit : e.validate = .ok () ↔ FieldsFit e.fields := by
  rw [validate_eq_ok_iff, ← length_filter_le_one_iff]
  simp only [misplacesEnumeration_eq_false_iff]
  constructor
  · rintro ⟨hnames, hconstants, hkeys, hliterals⟩
    exact ⟨List.pairwise_map.2 hnames, List.pairwise_map.2 hconstants, hkeys, hliterals⟩
  · rintro ⟨hnames, hconstants, hkeys, hliterals⟩
    exact ⟨List.pairwise_map.1 hnames, List.pairwise_map.1 hconstants, hkeys, hliterals⟩

/-- The checks of a beginning of the fields pass when these fit together. -/
theorem checkEach_eq_ok_iff_fieldsFit (entity : String) (fields : List Field) :
    checkEach (checkField entity) [] fields = .ok () ↔ FieldsFit fields := by
  rw [← checkFields_eq_checkEach]
  exact validate_eq_ok_iff_fieldsFit (e := { kind := .table, name := entity, fields })

/-- An entity is valid exactly when its fields fit together: they have different names and different
constants, one of them at most is the primary key, and those with literals are numbers or of type
`VARCHAR`. For an entity that is not valid, the first field that does not fit to those before it is
reported, with the first of the causes that apply to it. -/
theorem field_validation_outcome (e : Entity) :
    (e.validate = .ok () ↔ FieldsFit e.fields)
      ∧ ∀ fault, e.validate = .error fault ↔ ∃ i f, e.fields[i]? = some f
        ∧ IsLeast {j | ¬ FieldsFit (e.fields.take (j + 1))} i
        ∧ e.Refuses (e.fields.take i) f fault := by
  refine ⟨validate_eq_ok_iff_fieldsFit, ?_⟩
  intro fault
  rw [validate, checkFields_eq_checkEach, checkEach_eq_error_iff_isLeast]
  simp only [checkField_eq_error_iff, ne_eq, checkEach_eq_ok_iff_fieldsFit]

end Entity

end SchemaForge
