import SchemaForge.Proofs.Results
import SchemaForge.Proofs.Text.Blank
import SchemaForge.Schema.Document

namespace SchemaForge

/-! # Schemas that are read

A schema that is read from a document is in a normal form, on which everything that is made of it
relies: its names and the texts that are given are trimmed, and every entity is in the list of its
kind. Whether a field refuses nulls is decided by the attributes of the elements around it.
-/

open Xml

/-! ## Attributes -/

namespace Xml.Node

variable {node : Node} {element name : String}

/-- The truth value of an attribute; nothing when there is none or when it is blank. -/
def truthAttribute? (name : String) (node : Node) : Option Bool :=
  (node.attribute? name).map (Text.sameName · "true")

/-- The value of an attribute is trimmed. -/
theorem trimmed_of_attribute? {value : String} (h : node.attribute? name = some value) :
    Text.Trimmed value :=
  Text.trimmed_of_filled? h

theorem trimmed_of_required {value : String} (h : node.required element name = .ok value) :
    Text.Trimmed value := by
  unfold required at h
  cases hvalue : node.attribute? name with
  | none => simp [hvalue] at h
  | some found =>
    obtain rfl : found = value := by simpa [hvalue] using h
    exact trimmed_of_attribute? hvalue

theorem truthAttribute?_of_truth? {value? : Option Bool} (h : node.truth? name = .ok value?) :
    node.truthAttribute? name = value? := by
  unfold truth? at h
  unfold truthAttribute?
  cases hvalue : node.attribute? name with
  | none => simpa [hvalue] using h
  | some value =>
    rw [hvalue] at h
    simp only at h
    split at h
    · next htrue =>
      cases h
      simp [htrue]
    · next htrue =>
      split at h
      · cases h
        simpa using htrue
      · cases h

end Xml.Node

/-! ## Normal form -/

/-- Holds when a text is trimmed, if it is there. -/
def Text.TrimmedIfGiven (s : Option String) : Prop :=
  ∀ t ∈ s, Trimmed t

/-- Holds for a text that is trimmed or stands for none. -/
def Text.TrimmedOrEmpty (s : String) : Prop :=
  s ≠ "" → Trimmed s

theorem Xml.Node.trimmedIfGiven_attribute? (node : Node) (name : String) :
    Text.TrimmedIfGiven (node.attribute? name) :=
  fun _ => trimmed_of_attribute?

theorem Xml.Node.trimmedOrEmpty_attribute? (node : Node) (name : String) :
    Text.TrimmedOrEmpty ((node.attribute? name).getD "") := by
  intro hne
  cases hvalue : node.attribute? name with
  | none => simp [hvalue] at hne
  | some value => exact trimmed_of_attribute? hvalue

/-- A field whose texts are trimmed. -/
structure Field.Normal (f : Field) : Prop where
  name : Text.Trimmed f.name
  givenVariable : Text.TrimmedIfGiven f.givenVariable?
  defaultText : Text.TrimmedOrEmpty f.defaultText
  foreignTable : Text.TrimmedIfGiven f.foreignTable?
  foreignField : Text.TrimmedIfGiven f.foreignField?
  enumClass : Text.TrimmedIfGiven f.enumClass?
  enumDefault : Text.TrimmedIfGiven f.enumDefault?
  enumerations : Text.TrimmedOrEmpty f.enumerations

/-- An entity of this kind whose texts are trimmed and whose unique groups have members. -/
structure Entity.Normal (kind : EntityKind) (e : Entity) : Prop where
  kind : e.kind = kind
  name : Text.Trimmed e.name
  givenClass : Text.TrimmedIfGiven e.class?
  enumerations : Text.TrimmedOrEmpty e.enumerations
  groups : ∀ group ∈ e.uniqueGroups, group ≠ []
  groupNames : ∀ group ∈ e.uniqueGroups, ∀ name ∈ group, Text.Trimmed name
  fields : ∀ f ∈ e.fields, f.Normal

/-- A database whose entities are in the lists of their kinds, and whose texts are trimmed. -/
structure Database.Normal (d : Database) : Prop where
  name : Text.Trimmed d.name
  tables : ∀ e ∈ d.tables, e.Normal .table
  views : ∀ e ∈ d.views, e.Normal .view
  queries : ∀ e ∈ d.queries, e.Normal .query

/-! ## Nullability -/

/-- Holds when a field refuses nulls as its element says: always for a foreign key to an
enumeration; else by its own attribute, or by that of its entity, or by that of its database. -/
def Field.NullsFrom (database? entity? : Option Bool) (node : Node) (f : Field) : Prop :=
  f.notNull = if f.foreignKind = .enumeration then true
    else (((node.truthAttribute? "notNull").or entity?).or database?).getD false

/-- Holds when the fields of an entity are those of its element, and refuse nulls as these say. -/
def Entity.NullsFrom (database? : Option Bool) (node : Node) (e : Entity) : Prop :=
  List.Forall₂ (Field.NullsFrom database? (node.truthAttribute? "fieldsDefaultNotNull"))
    (node.childrenNamed "field") e.fields

/-- Holds when the entities of a database are those of its element, and their fields refuse nulls as
these say. -/
structure Database.NullsFrom (node : Node) (d : Database) : Prop where
  tables : List.Forall₂ (Entity.NullsFrom (node.truthAttribute? "fieldsDefaultNotNull"))
    (node.childrenNamed "table") d.tables
  views : List.Forall₂ (Entity.NullsFrom (node.truthAttribute? "fieldsDefaultNotNull"))
    (node.childrenNamed "view") d.views
  queries : List.Forall₂ (Entity.NullsFrom (node.truthAttribute? "fieldsDefaultNotNull"))
    (node.childrenNamed "query") d.queries

/-! ## Reading -/

/-- What is known of a field that is read. -/
theorem Field.normal_of_ofXml {entity? database? : Option Bool} {node : Node} {f : Field}
    (h : Field.ofXml ((entity?.or database?).getD false) node = .ok f) :
    f.Normal ∧ f.NullsFrom database? entity? node := by
  unfold ofXml at h
  obtain ⟨name, hname, h⟩ := bind_eq_ok_iff.1 h
  obtain ⟨type, -, h⟩ := bind_eq_ok_iff.1 h
  obtain ⟨size?, -, h⟩ := bind_eq_ok_iff.1 h
  obtain ⟨decimals?, -, h⟩ := bind_eq_ok_iff.1 h
  obtain ⟨primaryKey, -, h⟩ := bind_eq_ok_iff.1 h
  obtain ⟨increment, -, h⟩ := bind_eq_ok_iff.1 h
  obtain ⟨unique, -, h⟩ := bind_eq_ok_iff.1 h
  obtain ⟨indexed, -, h⟩ := bind_eq_ok_iff.1 h
  obtain ⟨foreignKind, -, h⟩ := bind_eq_ok_iff.1 h
  obtain ⟨ownNotNull, hown, h⟩ := bind_eq_ok_iff.1 h
  cases h
  constructor
  -- every text of a field is the value of an attribute
  · constructor
    case name => exact Node.trimmed_of_required hname
    case defaultText | enumerations => exact node.trimmedOrEmpty_attribute? _
    all_goals exact node.trimmedIfGiven_attribute? _
  · rw [Field.NullsFrom, Node.truthAttribute?_of_truth? hown]
    cases foreignKind <;> cases ownNotNull <;> rfl

/-- What is known of an entity that is read. -/
theorem Entity.normal_of_ofXml {database? : Option Bool} {kind : EntityKind} {node : Node}
    {e : Entity} (h : Entity.ofXml database? kind node = .ok e) :
    e.Normal kind ∧ e.NullsFrom database? node := by
  unfold ofXml at h
  obtain ⟨name, hname, h⟩ := bind_eq_ok_iff.1 h
  obtain ⟨readOnly, -, h⟩ := bind_eq_ok_iff.1 h
  obtain ⟨entity?, hentity, h⟩ := bind_eq_ok_iff.1 h
  obtain ⟨fields, hfields, h⟩ := bind_eq_ok_iff.1 h
  obtain ⟨groups, hgroups, h⟩ := bind_eq_ok_iff.1 h
  cases h
  have hread : List.Forall₂ (fun node f => f.Normal ∧ f.NullsFrom database? entity? node)
      (node.childrenNamed "field") fields :=
    (mapM_eq_ok_iff.1 hfields).imp fun _ _ => Field.normal_of_ofXml
  have hnames : ∀ group ∈ groups, ∀ name ∈ group, Text.Trimmed name := by
    intro group hgroup name hmem
    obtain ⟨declared, -, hdeclared⟩ := exists_of_mem_right (mapM_eq_ok_iff.1 hgroups) group hgroup
    obtain ⟨column, -, hcolumn⟩ := exists_of_mem_right (mapM_eq_ok_iff.1 hdeclared) name hmem
    exact Node.trimmed_of_required hcolumn
  constructor
  · constructor
    case kind => rfl
    case name => exact Node.trimmed_of_required hname
    case givenClass => exact node.trimmedIfGiven_attribute? _
    case enumerations => exact node.trimmedOrEmpty_attribute? _
    case groups =>
      intro group hgroup
      simpa using (List.mem_filter.1 hgroup).2
    case groupNames => exact fun group hgroup => hnames group (List.mem_filter.1 hgroup).1
    case fields =>
      intro f hf
      obtain ⟨-, -, hnormal, -⟩ := exists_of_mem_right hread f hf
      exact hnormal
  · rw [Entity.NullsFrom, Node.truthAttribute?_of_truth? hentity]
    exact hread.imp fun _ _ => And.right

/-- The element of a kind is the one named by the word for the kind. -/
theorem EntityKind.ofElement?_eq_some_iff {kind : EntityKind} {node : Node} :
    EntityKind.ofElement? node = some kind ↔ node.name? = some kind.word := by
  cases hname : node.name? with
  | none => simp [ofElement?, hname]
  | some name =>
    by_cases htable : name = "table"
    · cases kind <;> simp [ofElement?, hname, htable, word]
    by_cases hview : name = "view"
    · cases kind <;> simp [ofElement?, hname, hview, word]
    by_cases hquery : name = "query"
    · cases kind <;> simp [ofElement?, hname, hquery, word]
    · cases kind <;> simp [ofElement?, hname, htable, hview, hquery, word]

/-- The children that declare entities of a kind are the elements named by the word for it. -/
theorem Xml.Node.filter_declared (node : Node) (kind : EntityKind) :
    (node.children.filterMap fun child =>
        (EntityKind.ofElement? child).map fun found => (found, child)).filter (·.1 == kind) =
      (node.childrenNamed kind.word).map fun child => (kind, child) := by
  unfold childrenNamed
  induction node.children with
  | nil => rfl
  | cons child rest ih =>
    cases hfound : EntityKind.ofElement? child with
    | none =>
      have hname : child.name? ≠ some kind.word := by
        rw [Ne, ← EntityKind.ofElement?_eq_some_iff, hfound]
        simp
      simpa [hfound, hname] using ih
    | some found =>
      by_cases hkind : found = kind
      · subst hkind
        have hname : child.name? = some found.word := EntityKind.ofElement?_eq_some_iff.1 hfound
        simpa [hfound, hname] using ih
      · have hname : child.name? ≠ some kind.word := by
          rw [Ne, ← EntityKind.ofElement?_eq_some_iff, hfound]
          simpa using hkind
        simpa [hfound, hname, hkind] using ih

/-- What is known of a database that is read. -/
theorem Database.normal_of_ofXml {node : Node} {d : Database} (h : Database.ofXml node = .ok d) :
    d.Normal ∧ d.NullsFrom node := by
  unfold ofXml at h
  obtain ⟨name, hname, h⟩ := bind_eq_ok_iff.1 h
  obtain ⟨database?, hdatabase, h⟩ := bind_eq_ok_iff.1 h
  obtain ⟨entities, hentities, h⟩ := bind_eq_ok_iff.1 h
  cases h
  have hread : ∀ kind, List.Forall₂ (fun child e => e.Normal kind ∧ e.NullsFrom database? child)
      (node.childrenNamed kind.word) (entities.filter (·.kind == kind)) := by
    intro kind
    -- the list of a kind is what is read of the elements of that kind
    have hkind := mapM_filter_of_mapM hentities (·.1 == kind) (·.kind == kind) (by
      rintro ⟨declared, child⟩ e he
      rw [(Entity.normal_of_ofXml he).1.kind])
    rw [mapM_eq_ok_iff, Node.filter_declared, List.forall₂_map_left_iff] at hkind
    exact hkind.imp fun _ _ => Entity.normal_of_ofXml
  have hnormal : ∀ kind, ∀ e ∈ entities.filter (·.kind == kind), e.Normal kind := by
    intro kind e he
    obtain ⟨-, -, he, -⟩ := exists_of_mem_right (hread kind) e he
    exact he
  have hnulls : ∀ kind, List.Forall₂
      (Entity.NullsFrom (node.truthAttribute? "fieldsDefaultNotNull"))
      (node.childrenNamed kind.word) (entities.filter (·.kind == kind)) := by
    intro kind
    rw [Node.truthAttribute?_of_truth? hdatabase]
    exact (hread kind).imp fun _ _ => And.right
  constructor
  · exact ⟨Node.trimmed_of_required hname, hnormal .table, hnormal .view, hnormal .query⟩
  · exact ⟨hnulls .table, hnulls .view, hnulls .query⟩

/-- The databases of a document are read one after the other. -/
theorem Schema.databases_of_model {root : Node} {s : Schema} (h : Schema.model root = .ok s) :
    (root.childrenNamed "database").mapM Database.ofXml = .ok s.databases := by
  unfold Schema.model at h
  split at h
  · cases h
  · obtain ⟨databases, hdatabases, h⟩ := bind_eq_ok_iff.1 h
    cases h
    exact hdatabases

/-- A schema that is read from a document is valid and in normal form: its names and given texts are
trimmed, no unique group is empty and every entity is in the list of its kind. A field refuses nulls
if it is a foreign key to an enumeration, and otherwise as its own element says, or that of its
entity, or that of its database. -/
theorem Schema.valid_and_normal_of_ofXml {root : Node} {s : Schema}
    (h : Schema.ofXml root = .ok s) :
    s.validate = .ok () ∧ (∀ d ∈ s.databases, d.Normal)
      ∧ List.Forall₂ Database.NullsFrom (root.childrenNamed "database") s.databases := by
  unfold ofXml at h
  obtain ⟨model, hmodel, h⟩ := bind_eq_ok_iff.1 h
  -- the model is returned only if it passes validation
  obtain ⟨⟨⟩, hvalid, h⟩ := bind_eq_ok_iff.1 h
  cases h
  have hread : List.Forall₂ (fun node d => d.Normal ∧ d.NullsFrom node)
      (root.childrenNamed "database") s.databases :=
    (mapM_eq_ok_iff.1 (databases_of_model hmodel)).imp fun _ _ => Database.normal_of_ofXml
  refine ⟨hvalid, ?_, hread.imp fun _ _ => And.right⟩
  intro d hd
  obtain ⟨-, -, hnormal, -⟩ := exists_of_mem_right hread d hd
  exact hnormal

/-- A document in which fields refuse nulls by the default of their database, which their table
takes back for all its fields but one. -/
def overridingDocument : Node :=
  let named (name : String) : Attribute := { name := "name", value := name }
  let typed : Attribute := { name := "jdbcDataType", value := "INTEGER" }
  let nulls (value : String) : Attribute := { name := "fieldsDefaultNotNull", value }
  .element "dbSchema" [] [
    .element "database" [named "main", nulls "true"] [
      .element "table" [named " PERSON ", nulls "false"] [
        .element "field" [named "AGE", typed, { name := "notNull", value := "TRUE" }] [],
        .element "field" [named "SIZE", typed] []],
      .element "view" [named "PERSON_VIEW"] [.element "field" [named "AGE", typed] []]]]

/-- The schema that is read from it. -/
theorem Schema.normal_of_overridingDocument :
    ∃ s, Schema.ofXml overridingDocument = .ok s ∧ (∀ d ∈ s.databases, d.Normal)
      ∧ s.databases.flatMap (fun d => d.entities.flatMap fun e => e.fields.map (·.notNull)) =
        [true, false, true] := by
  have hread : Schema.ofXml overridingDocument = .ok { databases := [
      { name := "main", fieldsNotNull? := some true
        tables := [{ kind := .table, name := "PERSON", fieldsNotNull? := some false
                     fields := [{ name := "AGE", type := .integer, notNull := true },
                       { name := "SIZE", type := .integer }] }]
        views := [{ kind := .view, name := "PERSON_VIEW"
                    fields := [{ name := "AGE", type := .integer, notNull := true }] }] }] } := by
    rfl
  obtain ⟨-, hnormal, -⟩ := Schema.valid_and_normal_of_ofXml hread
  exact ⟨_, hread, hnormal, rfl⟩

end SchemaForge
