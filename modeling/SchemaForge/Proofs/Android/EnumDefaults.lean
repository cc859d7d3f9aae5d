import SchemaForge.Proofs.Android.Resolution
import SchemaForge.Schema.Validation

namespace SchemaForge

/-! # What a property with a literal starts with

A property that holds a literal of an enumeration starts with the first one, where the field declares
no other. Class and literal are found one after the other: the class is that of a table, one that the
field names, or one made of the literals that it lists; the literal is the first that the field lists,
or else the first of the table that it refers to. Where the field names a class it may still refer to
a table, and then the literal is one of the table, which need not be one of the class.
-/

/-- The literal is the first of its enumeration: of those that the base record declares, or of a
table whose class the enumeration is. -/
def EnumRef.BeginsWith (d : Database) (ref : EnumRef) (literal : String) : Prop :=
  match ref.origin with
  | .nested literals => literals.head? = some literal
  | _ => ∃ t ∈ d.tables, t.className = ref.className
      ∧ t.enumItems.head?.map (·.name) = some literal

/-- The expression gives the first literal of the enumeration, by its place or by its name. -/
def EnumRef.IsFirst (d : Database) (ref : EnumRef) (expression : String) : Prop :=
  expression = ref.className ++ ".values()[0]"
    ∨ ∃ literal, ref.BeginsWith d literal ∧ expression = ref.className ++ "." ++ literal

/-- The class that a field names for its literals. The class of a table comes before it. -/
def Field.namedClass? (f : Field) : Option String :=
  if f.refersToEnumeration && f.isForeignKey then none else Text.filled? f.enumClass?

/-- The field names a class for its literals and refers to a table of other literals, the first of
which is no first literal of a table with that class. -/
def Database.LendsLiteral (d : Database) (f : Field) : Prop :=
  ∃ name table item, f.namedClass? = some name ∧ f.foreignTable?.bind d.table? = some table
    ∧ table.enumItems.head? = some item ∧ item.name ≠ "values()[0]"
    ∧ ∀ t ∈ d.tables, t.className = name → t.enumItems.head?.map (·.name) ≠ some item.name

/-- A field that names no class starts with no literal of another class. -/
theorem Database.not_lendsLiteral_of_namedClass? {d : Database} {f : Field}
    (h : f.namedClass? = none) : ¬ d.LendsLiteral f := by
  rintro ⟨name, -, -, hname, -⟩
  rw [h] at hname
  cases hname

namespace Scope

variable {s : Scope} {f : Field}

/-- The first literal of a table is found through the table. -/
theorem firstLiteral?_eq_some_iff {literal : String} :
    s.firstLiteral? f = some literal ↔ ∃ table item,
      f.foreignTable?.bind s.database.table? = some table ∧ table.enumItems.head? = some item
        ∧ item.name = literal := by
  unfold firstLiteral?
  simp only [Option.bind_eq_bind, Option.bind_eq_some_iff, Option.pure_def, Option.some.injEq]
  constructor
  · rintro ⟨name, hname, table, htable, item, hitem, hliteral⟩
    exact ⟨table, item, ⟨name, hname, htable⟩, hitem, hliteral⟩
  · rintro ⟨table, item, ⟨name, hname, htable⟩, hitem, hliteral⟩
    exact ⟨name, hname, table, htable, item, hitem, hliteral⟩

/-- The class of an enumeration that is named is the one that the field names, and a class that the
field names is that of its enumeration. -/
theorem namedClass?_of_enumRef {ref : EnumRef} (h : s.enumRef f = .ok ref) :
    f.namedClass? = if ref.origin = .elsewhere then some ref.className else none := by
  unfold enumRef at h
  unfold Field.namedClass?
  split at h
  · next htable =>
    rw [if_pos htable]
    dsimp only at h
    split at h <;> cases h <;> rfl
  · next htable =>
    rw [if_neg htable]
    split at h
    · next name hname =>
      cases h
      exact hname
    · next hname =>
      rw [hname]
      split at h
      · cases h
      · cases h
        rfl

/-- An enumeration that is imported is that of the table whose first literal is taken. -/
theorem beginsWith_of_imported {ref : EnumRef} (h : s.enumRef f = .ok ref) {fullName : String}
    (horigin : ref.origin = .imported fullName) {literal : String}
    (hliteral : s.firstLiteral? f = some literal) : ref.BeginsWith s.database literal := by
  obtain ⟨table, item, htable, hitem, rfl⟩ := firstLiteral?_eq_some_iff.1 hliteral
  obtain ⟨name, hname, hfound⟩ := Option.bind_eq_some_iff.1 htable
  have hclass : ref.className = table.className := by
    unfold enumRef at h
    -- only the class of a table is imported
    split at h
    · dsimp only at h
      rw [hname, Option.getD_some, enumClassOf, hfound] at h
      split at h <;> cases h <;> rfl
    · split at h
      · cases h
        cases horigin
      · split at h
        · cases h
        · cases h
          cases horigin
  unfold EnumRef.BeginsWith
  rw [horigin]
  exact ⟨table, List.mem_of_find?_eq_some hfound, hclass.symm, by rw [hitem, Option.map_some]⟩

/-- A literal is lent to a named class when the first literal of the table is none of the class. -/
theorem lendsLiteral_iff_of_elsewhere {ref : EnumRef} (hclass : f.namedClass? = some ref.className)
    (horigin : ref.origin = .elsewhere) :
    s.database.LendsLiteral f ↔ ∃ literal, s.firstLiteral? f = some literal
      ∧ literal ≠ "values()[0]" ∧ ¬ ref.BeginsWith s.database literal := by
  simp only [firstLiteral?_eq_some_iff, EnumRef.BeginsWith, horigin, not_exists, not_and]
  constructor
  · rintro ⟨name, table, item, hname, htable, hitem, hplace, hother⟩
    rw [hclass] at hname
    cases hname
    exact ⟨item.name, ⟨table, item, htable, hitem, rfl⟩, hplace, hother⟩
  · rintro ⟨literal, ⟨table, item, htable, hitem, rfl⟩, hplace, hother⟩
    exact ⟨ref.className, table, item, hclass, htable, hitem, hplace, hother⟩

end Scope

/-! ## Expressions -/

namespace Column

variable {c : Column} {ref : EnumRef} {literal? : Option String}

/-- A property with a literal starts with it in either language, and with the first of its class
where no literal is known. -/
theorem initial_of_enumeration (h : c.content = .enumeration ref literal?) (l : Language) :
    c.initial l = ref.className ++ "." ++ literal?.getD "values()[0]" := by
  unfold initial
  rw [h]
  cases literal? with
  | some literal => rfl
  | none =>
    rw [Option.getD_none, String.append_assoc]
    rfl

/-- The expression of a literal gives the first of the enumeration when the literal is the first, or
reads like the expression for it. -/
theorem isFirst_initial_iff (h : c.content = .enumeration ref literal?) (d : Database)
    (l : Language) :
    ref.IsFirst d (c.initial l) ↔
      ∀ literal, literal? = some literal → literal = "values()[0]" ∨ ref.BeginsWith d literal := by
  have hplace : ref.className ++ ".values()[0]" = ref.className ++ "." ++ "values()[0]" := by
    rw [String.append_assoc]
    rfl
  unfold EnumRef.IsFirst
  rw [initial_of_enumeration h, hplace]
  simp only [String.append_right_inj, exists_eq_right']
  cases literal? with
  | none => simp
  | some literal => simp

end Column

/-! ## Fields -/

/-- Where a field declares no first literal, its property starts with the first literal of its
enumeration, unless the field names a class and refers to a table with other literals. -/
theorem Scope.initial_first_iff {s : Scope} {f : Field} {c : Column} (h : s.column f = .ok c)
    (henum : f.isEnumeration) (hdefault : ¬ Text.Filled f.enumDefault?) :
    ∃ ref, c.enumRef? = some ref
      ∧ (f.namedClass? = if ref.origin = .elsewhere then some ref.className else none)
      ∧ ∀ l, ref.IsFirst s.database (c.initial l) ↔ ¬ s.database.LendsLiteral f := by
  rcases content_of_column h with ⟨-, ref, href, hcontent⟩ | ⟨hplain, -⟩
  · have hclass := namedClass?_of_enumRef href
    have hnone : Text.filled? f.enumDefault? = none := Text.filled?_eq_none_iff.2 hdefault
    refine ⟨ref, by rw [Column.enumRef?, hcontent], hclass, fun l => ?_⟩
    rw [Column.isFirst_initial_iff hcontent]
    cases horigin : ref.origin with
    | nested literals =>
      rw [horigin, if_neg (by simp)] at hclass
      have hbegins : ∀ literal, literals.head? = some literal →
          ref.BeginsWith s.database literal := by
        intro literal hfirst
        simpa [EnumRef.BeginsWith, horigin] using hfirst
      simpa [initialLiteral?, hnone, Database.not_lendsLiteral_of_namedClass? hclass] using
        fun literal hfirst => .inr (hbegins literal hfirst)
    | imported fullName =>
      rw [horigin, if_neg (by simp)] at hclass
      simpa [initialLiteral?, hnone, Database.not_lendsLiteral_of_namedClass? hclass] using
        fun literal hfirst => .inr (beginsWith_of_imported href horigin hfirst)
    | elsewhere =>
      rw [horigin, if_pos rfl] at hclass
      rw [lendsLiteral_iff_of_elsewhere hclass horigin]
      simp only [initialLiteral?, hnone, not_exists, not_and, not_not, or_iff_not_imp_left]
  · rw [henum] at hplain
    cases hplain

/-- A paint with a class of its own; the field also refers to the table of makers. -/
def paintField : Field :=
  { name := "PAINT", type := .integer, notNull := true, enumClass? := some "Paint"
    foreignTable? := some "MAKER" }

/-- Cars, with a paint and a table of makers. -/
def carDatabase : Database :=
  { name := "main"
    tables := [{ kind := .table, name := "CAR", fields := [paintField] },
      { kind := .table, name := "MAKER", enumerations := "VOLVO,SAAB" }] }

/-- The paint of a car starts with the first maker. -/
theorem Scope.initial_lent_paintField :
    carDatabase.validate = .ok () ∧ paintField.isEnumeration
    ∧ ¬ Text.Filled paintField.enumDefault?
    ∧ ∃ (s : Scope) (c : Column) (ref : EnumRef), s.database = carDatabase
      ∧ s.column paintField = .ok c ∧ c.enumRef? = some ref ∧ ref.className = "Paint"
      ∧ ∀ l, c.initial l = "Paint.VOLVO" ∧ ¬ ref.IsFirst s.database (c.initial l) := by
  let s : Scope := ⟨{ package := "org", created := "today" }, carDatabase,
    { kind := .table, name := "CAR", fields := [paintField] }⟩
  let ref : EnumRef := ⟨"Paint", .elsewhere⟩
  let c : Column := ⟨paintField, .enumeration ref (some "VOLVO")⟩
  have hcolumn : s.column paintField = .ok c := by decide
  have hdefault : ¬ Text.Filled paintField.enumDefault? := by
    rw [← Text.filled?_eq_none_iff]
    rfl
  obtain ⟨found, hfound, -, hfirst⟩ := Scope.initial_first_iff hcolumn (by decide) hdefault
  cases hfound
  have hlends : carDatabase.LendsLiteral paintField := by
    refine ⟨"Paint", { kind := .table, name := "MAKER", enumerations := "VOLVO,SAAB" },
      ⟨"VOLVO", "Volvo"⟩, by decide, by decide, by decide, by decide, ?_⟩
    decide
  refine ⟨by decide, by decide, hdefault, s, c, ref, rfl, hcolumn, rfl, rfl, fun l => ⟨?_, ?_⟩⟩
  · cases l <;> decide
  · rw [hfirst]
    exact fun hnot => hnot hlends

end SchemaForge
