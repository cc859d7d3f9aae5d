import SchemaForge.Proofs.Results
import SchemaForge.Schema.Validation

namespace SchemaForge

/-! # Which schemas are valid

Validity in terms of the whole schema and not of the order in which it is checked: names that share
a name space are pairwise different, and so are the columns of an entity and their constants. Where
a schema is not valid, the fault that is reported is the first in a fixed order: databases one after
the other, and in a database the names of tables and views, then those of queries, then the entities
by themselves.
-/

/-! ## Entities -/

namespace Entity

/-- The columns of an entity are checked one by one against those before them. -/
theorem checkFields_eq_checkEach (entity : String) (before fields : List Field) :
    checkFields entity before fields = checkEach (checkField entity) before fields := by
  induction fields generalizing before with
  | nil => rfl
  | cons f fields ih =>
    simp only [checkFields, checkEach, ih]

/-- A column passes when it shares neither name nor constant with one before it, no key is before it
if it is one, and it has literals only where its type can hold them. -/
theorem checkField_eq_ok_iff {entity : String} {before : List Field} {f : Field} :
    checkField entity before f = .ok () ↔
      (∀ b ∈ before, Text.lowerAscii b.name ≠ Text.lowerAscii f.name)
        ∧ (∀ b ∈ before, b.constantName ≠ f.constantName)
        ∧ (∀ b ∈ before, ¬ (b.primaryKey ∧ f.primaryKey)) ∧ misplacesEnumeration f = false := by
  have hnames : before.any (Text.sameName ·.name f.name) = true ↔
      ∃ b ∈ before, Text.lowerAscii b.name = Text.lowerAscii f.name := by
    simp [Text.sameName_iff]
  have hconstants : before.any (·.constantName == f.constantName) = true ↔
      ∃ b ∈ before, b.constantName = f.constantName := by
    simp
  have hkeys : (f.primaryKey && before.any (·.primaryKey)) = true ↔
      ∃ b ∈ before, b.primaryKey ∧ f.primaryKey := by
    rw [Bool.and_eq_true, List.any_eq_true]
    constructor
    · rintro ⟨hf, b, hb, hkey⟩
      exact ⟨b, hb, hkey, hf⟩
    · rintro ⟨b, hb, hkey, hf⟩
      exact ⟨hf, b, hb, hkey⟩
  unfold checkField
  -- the column fails with the first of four tests, and passes when it gets behind the last
  split
  · next h =>
    obtain ⟨b, hb, hsame⟩ := hnames.1 h
    simp only [reduceCtorEq, false_iff]
    rintro ⟨hdifferent, -⟩
    exact hdifferent b hb hsame
  split
  · next h =>
    obtain ⟨b, hb, hsame⟩ := hconstants.1 h
    simp only [reduceCtorEq, false_iff]
    rintro ⟨-, hdifferent, -⟩
    exact hdifferent b hb hsame
  split
  · next h =>
    obtain ⟨b, hb, hboth⟩ := hkeys.1 h
    simp only [reduceCtorEq, false_iff]
    rintro ⟨-, -, hdifferent, -⟩
    exact hdifferent b hb hboth
  split
  · next h => simp [h]
  · next hname hconstant hkey hliterals =>
    simp only [true_iff]
    refine ⟨?_, ?_, ?_, by simpa using hliterals⟩
    · exact fun b hb hsame => hname (hnames.2 ⟨b, hb, hsame⟩)
    · exact fun b hb hsame => hconstant (hconstants.2 ⟨b, hb, hsame⟩)
    · exact fun b hb hboth => hkey (hkeys.2 ⟨b, hb, hboth⟩)

/-- An entity is valid when its columns are pairwise apart and none of them misplaces literals. -/
theorem validate_eq_ok_iff {e : Entity} :
    e.validate = .ok () ↔
      e.fields.Pairwise (fun f g => Text.lowerAscii f.name ≠ Text.lowerAscii g.name)
        ∧ e.fields.Pairwise (fun f g => f.constantName ≠ g.constantName)
        ∧ e.fields.Pairwise (fun f g => ¬ (f.primaryKey ∧ g.primaryKey))
        ∧ ∀ f ∈ e.fields, misplacesEnumeration f = false := by
  simp only [validate, checkFields_eq_checkEach, checkEach_eq_ok_iff, checkField_eq_ok_iff,
    List.nil_append, pairwise_iff_forall_split]
  constructor
  · intro h
    refine ⟨fun before f after hsplit => (h before f after hsplit).1,
      fun before f after hsplit => (h before f after hsplit).2.1,
      fun before f after hsplit => (h before f after hsplit).2.2.1, fun f hf => ?_⟩
    obtain ⟨before, after, hsplit⟩ := List.append_of_mem hf
    exact (h before f after hsplit).2.2.2
  · rintro ⟨hnames, hconstants, hkeys, hliterals⟩ before f after hsplit
    exact ⟨hnames before f after hsplit, hconstants before f after hsplit,
      hkeys before f after hsplit, hliterals f (by simp [hsplit])⟩

/-- The columns of a valid entity have different constants. -/
theorem nodup_constantNames_of_validate {e : Entity} (h : e.validate = .ok ()) :
    (e.fields.map (·.constantName)).Nodup :=
  List.pairwise_map.2 (validate_eq_ok_iff.1 h).2.1

/-- The name of an entity as names are compared, without regard to the case of ASCII letters. -/
def comparedName (e : Entity) : String :=
  Text.lowerAscii e.name

end Entity

/-! ## Databases -/

namespace Database

/-- Checks that an entity has not the name of one before it. -/
def checkName (database : String) (before : List Entity) (e : Entity) : Except Fault Unit :=
  if e.comparedName ∈ before.map (·.comparedName) then
    .error (.duplicateEntity database e.kind e.name)
  else .ok ()

/-- The names of entities are checked one by one against those before them. -/
theorem checkNames_eq_checkEach (database : String) (before entities : List Entity) :
    checkNames database before entities = checkEach (checkName database) before entities := by
  induction entities generalizing before with
  | nil => rfl
  | cons e entities ih =>
    have htest : before.any (Text.sameName ·.name e.name) = true ↔
        e.comparedName ∈ before.map (·.comparedName) := by
      simp [Text.sameName_iff, Entity.comparedName]
    simp only [checkNames, checkEach, checkName, htest, ih]
    split <;> rfl

theorem checkNames_eq_ok_iff {database : String} {entities : List Entity} :
    checkNames database [] entities = .ok () ↔ (entities.map (·.comparedName)).Nodup := by
  have hpassed : ∀ before e, checkName database before e = .ok () ↔
      ∀ b ∈ before, b.comparedName ≠ e.comparedName := by
    intro before e
    unfold checkName
    split <;> simp_all
  rw [checkNames_eq_checkEach, checkEach_eq_ok_iff, List.Nodup, List.pairwise_map,
    pairwise_iff_forall_split]
  simp only [List.nil_append, hpassed]

/-- The first entity that has the name of one before it is reported. -/
theorem checkNames_eq_error_iff {database : String} {entities : List Entity} {fault : Fault} :
    checkNames database [] entities = .error fault ↔ ∃ before e after,
      entities = before ++ e :: after ∧ (before.map (·.comparedName)).Nodup
        ∧ e.comparedName ∈ before.map (·.comparedName)
        ∧ fault = .duplicateEntity database e.kind e.name := by
  have hfailed : ∀ before e, checkName database before e = .error fault ↔
      e.comparedName ∈ before.map (·.comparedName)
        ∧ fault = .duplicateEntity database e.kind e.name := by
    intro before e
    unfold checkName
    split
    · next h => simp [h, eq_comm]
    · next h => simp [h]
  rw [checkNames_eq_checkEach, checkEach_eq_error_iff]
  simp only [← checkNames_eq_checkEach, checkNames_eq_ok_iff, List.nil_append, hfailed]

/-- The fault with which a database is refused: a repeated name of a table or view comes before a
repeated name of a query, and that before what is wrong with an entity. -/
inductive Refused (d : Database) : Fault → Prop
  /-- The first table or view that repeats a name is reported. -/
  | name {before after : List Entity} {e : Entity}
      (split : d.tables ++ d.views = before ++ e :: after)
      (passed : (before.map (·.comparedName)).Nodup)
      (repeated : e.comparedName ∈ before.map (·.comparedName)) :
      d.Refused (.duplicateEntity d.name e.kind e.name)
  /-- The first query that repeats a name of a query is reported. -/
  | queryName {before after : List Entity} {e : Entity}
      (names : ((d.tables ++ d.views).map (·.comparedName)).Nodup)
      (split : d.queries = before ++ e :: after) (passed : (before.map (·.comparedName)).Nodup)
      (repeated : e.comparedName ∈ before.map (·.comparedName)) :
      d.Refused (.duplicateEntity d.name e.kind e.name)
  /-- What is wrong with the first entity that is not valid is reported. -/
  | entity {before after : List Entity} {e : Entity} {fault : Fault}
      (names : ((d.tables ++ d.views).map (·.comparedName)).Nodup)
      (queryNames : (d.queries.map (·.comparedName)).Nodup)
      (split : d.tables ++ d.views ++ d.queries = before ++ e :: after)
      (passed : ∀ b ∈ before, b.validate = .ok ()) (refused : e.validate = .error fault) :
      d.Refused fault

theorem validate_eq_ok_iff {d : Database} :
    d.validate = .ok () ↔ ((d.tables ++ d.views).map (·.comparedName)).Nodup
      ∧ (d.queries.map (·.comparedName)).Nodup
      ∧ ∀ e ∈ d.tables ++ d.views ++ d.queries, e.validate = .ok () := by
  unfold validate
  rw [check_bind_eq_ok_iff, check_bind_eq_ok_iff, checkNames_eq_ok_iff, checkNames_eq_ok_iff,
    forM_eq_ok_iff]
  rfl

/-- The three checks of a database are made one after the other. -/
theorem validate_eq_error_iff {d : Database} {fault : Fault} :
    d.validate = .error fault ↔ d.Refused fault := by
  unfold validate
  simp only [check_bind_eq_error_iff, checkNames_eq_error_iff, checkNames_eq_ok_iff,
    forM_eq_error_iff]
  constructor
  · rintro (⟨before, e, after, hsplit, hpassed, hrepeated, rfl⟩ | ⟨hnames,
      ⟨before, e, after, hsplit, hpassed, hrepeated, rfl⟩ |
      ⟨hqueries, before, e, after, hsplit, hpassed, hrefused⟩⟩)
    · exact .name hsplit hpassed hrepeated
    · exact .queryName hnames hsplit hpassed hrepeated
    · exact .entity hnames hqueries hsplit hpassed hrefused
  · intro h
    cases h with
    | name hsplit hpassed hrepeated =>
      exact .inl ⟨_, _, _, hsplit, hpassed, hrepeated, rfl⟩
    | queryName hnames hsplit hpassed hrepeated =>
      exact .inr ⟨hnames, .inl ⟨_, _, _, hsplit, hpassed, hrepeated, rfl⟩⟩
    | entity hnames hqueries hsplit hpassed hrefused =>
      exact .inr ⟨hnames, .inr ⟨hqueries, _, _, _, hsplit, hpassed, hrefused⟩⟩

end Database

/-! ## Schemas -/

/-- The entities of a valid schema are valid. -/
theorem Schema.validate_entity {s : Schema} (h : s.validate = .ok ()) {d : Database}
    (hd : d ∈ s.databases) {e : Entity} (he : e ∈ d.entities) : e.validate = .ok () := by
  have hdatabase : d.validate = .ok () := forM_eq_ok_iff.1 h d hd
  exact (Database.validate_eq_ok_iff.1 hdatabase).2.2 e he

/-- A schema is valid exactly when in every database no two tables or views have the same name, no
two queries have, and every entity is valid by itself; a query may have the name of a table. A
schema that is not valid is refused with what is wrong with the first database that is not: a name
that a table or view repeats, then one that a query repeats, then what is wrong with an entity, each
time the first there is. -/
theorem Schema.validation_outcome (s : Schema) :
    (s.validate = .ok () ↔ ∀ d ∈ s.databases,
        ((d.tables ++ d.views).map (Text.lowerAscii ·.name)).Nodup
          ∧ (d.queries.map (Text.lowerAscii ·.name)).Nodup
          ∧ ∀ e ∈ d.tables ++ d.views ++ d.queries, e.validate = .ok ())
    ∧ ∀ fault, s.validate = .error fault ↔ ∃ before d after,
        s.databases = before ++ d :: after ∧ (∀ b ∈ before, b.validate = .ok ())
          ∧ d.Refused fault := by
  unfold validate
  constructor
  · rw [forM_eq_ok_iff]
    simp only [Database.validate_eq_ok_iff]
    rfl
  · intro fault
    rw [forM_eq_error_iff]
    simp only [Database.validate_eq_error_iff]

end SchemaForge
