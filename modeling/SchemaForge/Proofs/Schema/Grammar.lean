import SchemaForge.Proofs.Schema.Document
import SchemaForge.Proofs.Text.Ascii

namespace SchemaForge

/-! # The grammar of schema documents

Which documents can be read, told by their form alone: the elements that must have a name, and the
attributes that must be of a certain form when they are there and not blank. What is wrong with a
document is listed in the order in which it is met from the root on, an element before its children
and the fields of an entity before its unique groups. A document is read when nothing is in that
list, and otherwise refused with the first fault there.
-/

open Xml

/-! ## Words -/

namespace Text

/-- Holds for the words of the truth values, in any case. -/
def IsTruth (s : String) : Prop :=
  sameName s "true" = true ∨ sameName s "false" = true

instance : DecidablePred IsTruth :=
  fun s => inferInstanceAs (Decidable (sameName s "true" = true ∨ sameName s "false" = true))

/-- Holds for one or more digits, with or without a plus sign before them, that denote a number
below 2³². -/
def IsWord32 (s : String) : Prop :=
  ∃ digits, (s.toList = digits ∨ s.toList = '+' :: digits) ∧ digits ≠ []
    ∧ (∀ c ∈ digits, c.isDigit = true) ∧ Nat.ofDigitChars 10 digits 0 < 0x100000000

/-- A list of characters denotes a number when it is one or more digits. -/
theorem decimal?_eq_some_iff {cs : List Char} {n : Nat} :
    Chars.decimal? cs = some n ↔
      cs ≠ [] ∧ (∀ c ∈ cs, c.isDigit = true) ∧ Nat.ofDigitChars 10 cs 0 = n := by
  have hvalue : Nat.ofDigitChars 10 cs 0 = cs.foldl (fun n c => 10 * n + (c.toNat - 48)) 0 :=
    Nat.ofDigitChars_eq_foldl
  rw [hvalue, Chars.decimal?]
  split
  · next h =>
    simp only [reduceCtorEq, false_iff]
    rintro ⟨hne, hdigits, -⟩
    simp [hne, List.all_eq_true.2 hdigits] at h
  · next h =>
    have hdigits : cs ≠ [] ∧ ∀ c ∈ cs, c.isDigit = true := by simpa using h
    rw [Option.some_inj]
    exact ⟨fun hn => ⟨hdigits.1, hdigits.2, hn⟩, fun hnumber => hnumber.2.2⟩

theorem isSome_word32?_iff {s : String} : (word32? s).isSome = true ↔ IsWord32 s := by
  have hread : ∀ digits, ((Chars.decimal? digits).bind fun n =>
        if n < 0x100000000 then some (UInt32.ofNat n) else none).isSome = true ↔
      digits ≠ [] ∧ (∀ c ∈ digits, c.isDigit = true)
        ∧ Nat.ofDigitChars 10 digits 0 < 0x100000000 := by
    intro digits
    have hbound : ∀ n : Nat,
        (if n < 0x100000000 then some (UInt32.ofNat n) else none).isSome = true ↔
          n < 0x100000000 := by
      intro n
      split <;> simp_all
    rw [Option.isSome_bind, Option.any_eq_true]
    simp only [hbound, decimal?_eq_some_iff]
    constructor
    · rintro ⟨n, ⟨hne, hdigits, rfl⟩, hlt⟩
      exact ⟨hne, hdigits, hlt⟩
    · rintro ⟨hne, hdigits, hlt⟩
      exact ⟨_, ⟨hne, hdigits, rfl⟩, hlt⟩
  -- a plus sign is no digit, so it is always the sign
  have hplus : ∀ cs : List Char, ¬ ∀ c ∈ '+' :: cs, c.isDigit = true := by
    intro cs h
    exact absurd (h '+' List.mem_cons_self) (by decide)
  change ((Chars.decimal? _).bind _).isSome = true ↔ _
  rw [hread, IsWord32]
  split
  · next cs hsign =>
    rw [hsign]
    constructor
    · exact fun h => ⟨cs, .inr rfl, h⟩
    · rintro ⟨digits, rfl | hdigits, h⟩
      · exact absurd h.2.1 (hplus cs)
      · rwa [(List.cons_eq_cons.1 hdigits).2]
  · next cs hsign =>
    constructor
    · exact fun h => ⟨s.toList, .inl rfl, h⟩
    · rintro ⟨digits, rfl | hdigits, h⟩
      · exact h
      · exact absurd hdigits (hsign digits)

instance : DecidablePred IsWord32 :=
  fun _ => decidable_of_iff _ isSome_word32?_iff

example : IsWord32 "+4294967295" ∧ IsWord32 "007" ∧ ¬ IsWord32 "4294967296" ∧ ¬ IsWord32 "+" := by
  decide

/-- A word is found by its capitals when a text names it in any case. -/
theorem isSome_find?_capitals_iff {α : Type} {all : List α} {word : α → String} {s : String}
    (hcapitals : ∀ a ∈ all, upperAscii (word a) = word a) (htrimmed : trim s = s) :
    (all.find? (word · == upperAscii (trim s))).isSome = true ↔
      ∃ a ∈ all, sameName s (word a) = true := by
  rw [List.find?_isSome, htrimmed]
  constructor
  · rintro ⟨a, ha, hfound⟩
    rw [beq_iff_eq] at hfound
    exact ⟨a, ha, sameName_iff_upperAscii.2 (by rw [hcapitals a ha, hfound])⟩
  · rintro ⟨a, ha, hsame⟩
    rw [sameName_iff_upperAscii, hcapitals a ha] at hsame
    exact ⟨a, ha, beq_iff_eq.2 hsame.symm⟩

end Text

namespace ColumnType

/-- Holds for the name of a column type in any case. -/
def IsNamed (s : String) : Prop :=
  ∃ type : ColumnType, Text.sameName s type.name = true

theorem isNamed_iff {s : String} : IsNamed s ↔ ∃ type ∈ all, Text.sameName s type.name = true := by
  simp only [IsNamed, mem_all, true_and]

instance : DecidablePred IsNamed :=
  fun _ => decidable_of_iff _ isNamed_iff.symm

theorem isSome_ofText?_iff {s : String} (h : Text.trim s = s) :
    (ofText? s).isSome = true ↔ IsNamed s :=
  (Text.isSome_find?_capitals_iff (by decide) h).trans isNamed_iff.symm

end ColumnType

namespace ForeignKeyKind

/-- Holds for the word for a kind of foreign key in any case. -/
def IsNamed (s : String) : Prop :=
  ∃ kind : ForeignKeyKind, Text.sameName s kind.word = true

theorem mem_all (kind : ForeignKeyKind) : kind ∈ all := by
  cases kind <;> decide

theorem isNamed_iff {s : String} : IsNamed s ↔ ∃ kind ∈ all, Text.sameName s kind.word = true := by
  simp only [IsNamed, mem_all, true_and]

instance : DecidablePred IsNamed :=
  fun _ => decidable_of_iff _ isNamed_iff.symm

theorem isSome_ofText?_iff {s : String} (h : Text.trim s = s) :
    (ofText? s).isSome = true ↔ IsNamed s :=
  (Text.isSome_find?_capitals_iff (by decide) h).trans isNamed_iff.symm

end ForeignKeyKind

/-! ## Attributes -/

namespace Xml.Node

/-- The value of the attribute without prefix that has this name, as it is written. -/
def written? (name : String) (node : Node) : Option String :=
  (node.attributes.find? fun a => a.space.isNone && a.name == name).map (·.value)

/-- Holds when an element has an attribute that is not blank. -/
def Gives (name : String) (node : Node) : Prop :=
  ∃ text, node.written? name = some text ∧ Text.isBlank text = false

/-- Holds when an attribute is absent, blank, or of a certain form without the blanks around it. -/
def Allows (form : String → Prop) (name : String) (node : Node) : Prop :=
  ∀ text, node.written? name = some text → Text.isBlank text = true ∨ form (Text.trim text)

/-- What is wrong with an element that must have an attribute. -/
def missing (element name : String) (node : Node) : List Fault :=
  match node.attribute? name with
  | some _ => []
  | none => [.missingAttribute element name]

/-- What is wrong with an attribute that must be of a certain form. -/
def unfit (form : String → Prop) [DecidablePred form] (fault : String → Fault) (name : String)
    (node : Node) : List Fault :=
  match node.attribute? name with
  | some value => if form value then [] else [fault value]
  | none => []

/-- What is wrong with a truth attribute, a number or a kind of foreign key. -/
def invalid (form : String → Prop) [DecidablePred form] (name : String) (node : Node) :
    List Fault :=
  node.unfit form (.invalidAttribute name) name

section

variable {form : String → Prop} [DecidablePred form] {fault : String → Fault} {node : Node}
  {element name : String}

theorem missing_eq_nil_iff : node.missing element name = [] ↔ node.Gives name := by
  have hgiven : (node.attribute? name).isSome = true ↔ node.Gives name := Text.isSome_filled?_iff
  rw [← hgiven, missing]
  cases node.attribute? name <;> simp

theorem unfit_eq_nil_iff : node.unfit form fault name = [] ↔ node.Allows form name := by
  have hvalue : node.attribute? name = Text.filled? (node.written? name) := rfl
  rw [unfit, hvalue, Allows]
  cases node.written? name with
  | none => simp [Text.filled?]
  | some text =>
    cases hblank : Text.isBlank text with
    | true => simp [Text.filled?, hblank]
    | false => simp [Text.filled?, hblank]

theorem invalid_eq_nil_iff : node.invalid form name = [] ↔ node.Allows form name :=
  unfit_eq_nil_iff

/-! ## Reading attributes -/

theorem failsFirst_required :
    FailsFirst (node.required element name) (node.missing element name) := by
  unfold required missing
  cases node.attribute? name with
  | none => exact .error _
  | some value => exact .ok _

theorem failsFirst_truth? : FailsFirst (node.truth? name) (node.invalid Text.IsTruth name) := by
  unfold truth? invalid unfit
  cases node.attribute? name with
  | none => exact .ok _
  | some value =>
    by_cases htrue : Text.sameName value "true" = true
    · simpa [htrue, Text.IsTruth] using FailsFirst.ok _
    by_cases hfalse : Text.sameName value "false" = true
    · simpa [htrue, hfalse, Text.IsTruth] using FailsFirst.ok _
    · simpa [htrue, hfalse, Text.IsTruth] using FailsFirst.error _

theorem failsFirst_word32? : FailsFirst (node.word32? name) (node.invalid Text.IsWord32 name) := by
  unfold word32? invalid unfit
  cases node.attribute? name with
  | none => exact .ok _
  | some value =>
    simp only [← Text.isSome_word32?_iff]
    cases Text.word32? value with
    | none => exact .error _
    | some n => exact .ok _

theorem failsFirst_foreignKind :
    FailsFirst node.foreignKind (node.invalid ForeignKeyKind.IsNamed "foreignKeyType") := by
  unfold foreignKind invalid unfit
  cases hvalue : node.attribute? "foreignKeyType" with
  | none => exact .ok _
  | some value =>
    simp only [← ForeignKeyKind.isSome_ofText?_iff (trimmed_of_attribute? hvalue).trim_eq]
    cases ForeignKeyKind.ofText? value with
    | none => exact .error _
    | some kind => exact .ok _

/-- The type of a field must be given before it can be unknown. -/
theorem failsFirst_columnType :
    FailsFirst node.columnType (node.missing "field" "jdbcDataType"
      ++ node.unfit ColumnType.IsNamed .unknownType "jdbcDataType") := by
  unfold columnType
  refine failsFirst_required.bind fun value hvalue => ?_
  have hgiven : node.attribute? "jdbcDataType" = some value := by
    unfold required at hvalue
    cases hfound : node.attribute? "jdbcDataType" with
    | none => simp [hfound] at hvalue
    | some found => simpa [hfound] using hvalue
  simp only [unfit, hgiven,
    ← ColumnType.isSome_ofText?_iff (trimmed_of_attribute? hgiven).trim_eq]
  cases ColumnType.ofText? value with
  | none => exact .error _
  | some type => exact .ok _

end

/-! ## Elements -/

/-- A field element: it has a name, a known type, and otherwise only attributes of the right
form. -/
structure IsField (node : Node) : Prop where
  name : node.Gives "name"
  typed : node.Gives "jdbcDataType"
  type : node.Allows ColumnType.IsNamed "jdbcDataType"
  numbers : ∀ name ∈ ["size", "decimals"], node.Allows Text.IsWord32 name
  truths : ∀ name ∈ ["primaryKey", "increment", "unique", "index", "notNull"],
    node.Allows Text.IsTruth name
  foreignKind : node.Allows ForeignKeyKind.IsNamed "foreignKeyType"

/-- The element of a table, view or query. -/
structure IsEntity (node : Node) : Prop where
  name : node.Gives "name"
  truths : ∀ name ∈ ["readOnly", "fieldsDefaultNotNull"], node.Allows Text.IsTruth name
  fields : ∀ field ∈ node.childrenNamed "field", field.IsField
  uniqueNames : ∀ unique ∈ node.childrenNamed "unique",
    ∀ column ∈ unique.childrenNamed "uniqueField", column.Gives "name"

/-- A database element. -/
structure IsDatabase (node : Node) : Prop where
  name : node.Gives "name"
  truth : node.Allows Text.IsTruth "fieldsDefaultNotNull"
  entities : ∀ kind : EntityKind, ∀ child ∈ node.childrenNamed kind.word, child.IsEntity

/-- The root element of a schema document. -/
structure IsSchema (root : Node) : Prop where
  name : root.name? = some "dbSchema"
  databases : ∀ database ∈ root.childrenNamed "database", database.IsDatabase

/-! ## What is wrong with an element -/

/-- What is wrong with a field element. -/
def fieldFaults (node : Node) : List Fault :=
  [node.missing "field" "name",
    node.missing "field" "jdbcDataType"
      ++ node.unfit ColumnType.IsNamed .unknownType "jdbcDataType",
    node.invalid Text.IsWord32 "size",
    node.invalid Text.IsWord32 "decimals",
    node.invalid Text.IsTruth "primaryKey",
    node.invalid Text.IsTruth "increment",
    node.invalid Text.IsTruth "unique",
    node.invalid Text.IsTruth "index",
    node.invalid ForeignKeyKind.IsNamed "foreignKeyType",
    node.invalid Text.IsTruth "notNull"].flatten

/-- What is wrong with the element of a table, view or query: its own attributes, then its fields,
then its unique groups. -/
def entityFaults (kind : EntityKind) (node : Node) : List Fault :=
  [node.missing kind.word "name",
    node.invalid Text.IsTruth "readOnly",
    node.invalid Text.IsTruth "fieldsDefaultNotNull",
    (node.childrenNamed "field").flatMap fieldFaults,
    (node.childrenNamed "unique").flatMap fun unique =>
      (unique.childrenNamed "uniqueField").flatMap (missing "uniqueField" "name")].flatten

/-- The children that declare entities, in the order of the document, with their kinds. -/
def declared (node : Node) : List (EntityKind × Node) :=
  node.children.filterMap fun child =>
    (EntityKind.ofElement? child).map fun kind => (kind, child)

/-- What is wrong with a database element. -/
def databaseFaults (node : Node) : List Fault :=
  [node.missing "database" "name",
    node.invalid Text.IsTruth "fieldsDefaultNotNull",
    node.declared.flatMap fun entity => entity.2.entityFaults entity.1].flatten

/-- What is wrong with the root element of a document. Nothing else is looked at when it is no
schema at all. -/
def schemaFaults (root : Node) : List Fault :=
  if root.name? = some "dbSchema" then (root.childrenNamed "database").flatMap databaseFaults
  else [.unexpectedRoot (root.name?.getD "")]

theorem fieldFaults_eq_nil_iff {node : Node} : node.fieldFaults = [] ↔ node.IsField := by
  simp only [fieldFaults, List.flatten_eq_nil_iff, List.forall_mem_cons, List.append_eq_nil_iff,
    missing_eq_nil_iff, unfit_eq_nil_iff, invalid_eq_nil_iff]
  constructor
  · rintro ⟨hname, ⟨htyped, htype⟩, hsize, hdecimals, hkey, hincrement, hunique, hindex, hforeign,
      hnotNull, -⟩
    constructor
    case name => exact hname
    case typed => exact htyped
    case type => exact htype
    case numbers => simp [hsize, hdecimals]
    case truths => simp [hkey, hincrement, hunique, hindex, hnotNull]
    case foreignKind => exact hforeign
  · intro h
    have hnumbers := h.numbers
    have htruths := h.truths
    simp only [List.forall_mem_cons] at hnumbers htruths
    obtain ⟨hsize, hdecimals, -⟩ := hnumbers
    obtain ⟨hkey, hincrement, hunique, hindex, hnotNull, -⟩ := htruths
    exact ⟨h.name, ⟨h.typed, h.type⟩, hsize, hdecimals, hkey, hincrement, hunique, hindex,
      h.foreignKind, hnotNull, by simp⟩

theorem entityFaults_eq_nil_iff {kind : EntityKind} {node : Node} :
    node.entityFaults kind = [] ↔ node.IsEntity := by
  simp only [entityFaults, List.flatten_eq_nil_iff, List.forall_mem_cons, List.flatMap_eq_nil_iff,
    missing_eq_nil_iff, invalid_eq_nil_iff, fieldFaults_eq_nil_iff]
  constructor
  · rintro ⟨hname, hreadOnly, hnotNull, hfields, hunique, -⟩
    exact ⟨hname, by simp [hreadOnly, hnotNull], hfields, hunique⟩
  · intro h
    have htruths := h.truths
    simp only [List.forall_mem_cons] at htruths
    obtain ⟨hreadOnly, hnotNull, -⟩ := htruths
    exact ⟨h.name, hreadOnly, hnotNull, h.fields, h.uniqueNames, by simp⟩

/-- The children that declare entities are those that are named by the word for a kind. -/
theorem mem_declared_iff {node child : Node} {kind : EntityKind} :
    (kind, child) ∈ node.declared ↔ child ∈ node.childrenNamed kind.word := by
  simp only [declared, childrenNamed, List.mem_filterMap, List.mem_filter, Option.map_eq_some_iff,
    EntityKind.ofElement?_eq_some_iff, beq_iff_eq]
  constructor
  · rintro ⟨found, hfound, word, hname, h⟩
    cases h
    exact ⟨hfound, hname⟩
  · rintro ⟨hchild, hname⟩
    exact ⟨child, hchild, kind, hname, rfl⟩

theorem databaseFaults_eq_nil_iff {node : Node} : node.databaseFaults = [] ↔ node.IsDatabase := by
  have hentities : (∀ entity ∈ node.declared, entity.2.entityFaults entity.1 = []) ↔
      ∀ kind : EntityKind, ∀ child ∈ node.childrenNamed kind.word, child.IsEntity := by
    simp only [Prod.forall, mem_declared_iff, entityFaults_eq_nil_iff]
  simp only [databaseFaults, List.flatten_eq_nil_iff, List.forall_mem_cons, List.flatMap_eq_nil_iff,
    missing_eq_nil_iff, invalid_eq_nil_iff, hentities]
  constructor
  · rintro ⟨hname, hnotNull, hdeclared, -⟩
    exact ⟨hname, hnotNull, hdeclared⟩
  · intro h
    exact ⟨h.name, h.truth, h.entities, by simp⟩

theorem schemaFaults_eq_nil_iff {root : Node} : root.schemaFaults = [] ↔ root.IsSchema := by
  unfold schemaFaults
  split
  · next hname =>
    rw [List.flatMap_eq_nil_iff]
    simp only [databaseFaults_eq_nil_iff]
    exact ⟨fun h => ⟨hname, h⟩, fun h => h.databases⟩
  · next hname =>
    simp only [reduceCtorEq, false_iff]
    exact fun h => hname h.name

end Xml.Node

/-! ## Reading elements -/

/-- A field is read attribute by attribute. -/
theorem Field.failsFirst_ofXml {notNull : Bool} {node : Node} :
    FailsFirst (Field.ofXml notNull node) node.fieldFaults := by
  unfold ofXml Node.fieldFaults
  simp only [List.flatten_cons, List.flatten_nil]
  refine Node.failsFirst_required.bind fun name _ => ?_
  refine Node.failsFirst_columnType.bind fun type _ => ?_
  refine Node.failsFirst_word32?.bind fun size? _ => ?_
  refine Node.failsFirst_word32?.bind fun decimals? _ => ?_
  refine Node.failsFirst_truth?.bind fun primaryKey _ => ?_
  refine Node.failsFirst_truth?.bind fun increment _ => ?_
  refine Node.failsFirst_truth?.bind fun unique _ => ?_
  refine Node.failsFirst_truth?.bind fun indexed _ => ?_
  refine Node.failsFirst_foreignKind.bind fun foreignKind _ => ?_
  exact Node.failsFirst_truth?.bind fun ownNotNull _ => .ok _

/-- The attributes of an entity are read before its fields, and these before its unique groups. -/
theorem Entity.failsFirst_ofXml {notNull? : Option Bool} {kind : EntityKind} {node : Node} :
    FailsFirst (Entity.ofXml notNull? kind node) (node.entityFaults kind) := by
  unfold ofXml Node.entityFaults
  simp only [List.flatten_cons, List.flatten_nil]
  refine Node.failsFirst_required.bind fun name _ => ?_
  refine Node.failsFirst_truth?.bind fun readOnly _ => ?_
  refine Node.failsFirst_truth?.bind fun fieldsNotNull? _ => ?_
  refine (FailsFirst.mapM fun field _ => Field.failsFirst_ofXml).bind fun fields _ => ?_
  refine (FailsFirst.mapM fun unique _ => ?_).bind fun groups _ => .ok _
  exact FailsFirst.mapM fun column _ => Node.failsFirst_required

/-- The entities of a database are read in the order of the document, whatever their kinds. -/
theorem Database.failsFirst_ofXml {node : Node} :
    FailsFirst (Database.ofXml node) node.databaseFaults := by
  unfold ofXml Node.databaseFaults
  simp only [List.flatten_cons, List.flatten_nil]
  refine Node.failsFirst_required.bind fun name _ => ?_
  refine Node.failsFirst_truth?.bind fun fieldsNotNull? _ => ?_
  refine (FailsFirst.mapM fun entity _ => ?_).bind fun entities _ => .ok _
  exact Entity.failsFirst_ofXml

/-- The name of the root is looked at before anything else. -/
theorem Schema.failsFirst_model {root : Node} :
    FailsFirst (Schema.model root) root.schemaFaults := by
  unfold Schema.model Node.schemaFaults
  by_cases hname : root.name? = some "dbSchema"
  · have hdatabases : FailsFirst ((root.childrenNamed "database").mapM Database.ofXml)
        ((root.childrenNamed "database").flatMap Node.databaseFaults) :=
      FailsFirst.mapM fun database _ => Database.failsFirst_ofXml
    have hread := hdatabases.bind fun databases _ => FailsFirst.ok (Schema.mk databases)
    rw [List.append_nil] at hread
    rw [if_neg (not_not_intro hname), if_pos hname]
    exact hread
  · rw [if_pos hname, if_neg hname]
    exact .error _

/-- A document is read exactly when it is of the grammar, that is when nothing is in the list of
what is wrong with it, and the schema that it describes is valid. A document that is not of the
grammar is refused with what comes first in that list, and one that is of the grammar with what
makes its schema invalid. -/
theorem Schema.reading_outcome (root : Node) :
    (∀ text, Xml.read? text = some root → Schema.ofText text = Schema.ofXml root)
    ∧ (root.schemaFaults = [] ↔ root.IsSchema)
    ∧ ((∃ s, Schema.model root = .ok s) ↔ root.IsSchema)
    ∧ (∀ s, Schema.ofXml root = .ok s ↔
        root.IsSchema ∧ Schema.model root = .ok s ∧ s.validate = .ok ())
    ∧ ∀ fault, Schema.ofXml root = .error fault ↔ root.schemaFaults.head? = some fault
        ∨ root.IsSchema ∧ ∃ s, Schema.model root = .ok s ∧ s.validate = .error fault := by
  have hfaults : root.schemaFaults = [] ↔ root.IsSchema := Node.schemaFaults_eq_nil_iff
  have hmodel : (∃ s, Schema.model root = .ok s) ↔ root.IsSchema := by
    rw [failsFirst_model.exists_ok_iff, hfaults]
  have hread : ∀ s, Schema.model root = .ok s → root.IsSchema := fun s hs => hmodel.1 ⟨s, hs⟩
  refine ⟨?_, hfaults, hmodel, ?_, ?_⟩
  · intro text htext
    rw [ofText, htext]
  · intro s
    unfold ofXml
    simp only [bind_eq_ok_iff]
    constructor
    · rintro ⟨read, hs, ⟨⟩, hvalid, h⟩
      cases h
      exact ⟨hread s hs, hs, hvalid⟩
    · rintro ⟨-, hs, hvalid⟩
      exact ⟨s, hs, (), hvalid, rfl⟩
  · intro fault
    unfold ofXml
    simp only [bind_eq_error_iff, failsFirst_model.eq_error_iff]
    constructor
    · rintro (hfirst | ⟨s, hs, hrefused | ⟨⟨⟩, -, h⟩⟩)
      · exact .inl hfirst
      · exact .inr ⟨hread s hs, s, hs, hrefused⟩
      · cases h
    · rintro (hfirst | ⟨-, s, hs, hrefused⟩)
      · exact .inl hfirst
      · exact .inr ⟨s, hs, .inl hrefused⟩

end SchemaForge
