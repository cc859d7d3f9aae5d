import SchemaForge.Proofs.Schema.Document
import SchemaForge.Proofs.Schema.Grammar

namespace SchemaForge

/-! # Schemas that are written

A schema in normal form can be written as a document: an element for each of its parts, and in it an
attribute for each value that is present. The document is read as the very schema it was written
for, so that nothing a schema says is lost in a document, and nothing is added.
-/

open Xml

/-! ## Normal forms are decidable -/

instance : DecidablePred Text.Trimmed := fun s =>
  decidable_of_iff (Text.trim s = s ∧ s ≠ "") ⟨fun h => ⟨h.1, h.2⟩, fun h => ⟨h.1, h.2⟩⟩

instance : DecidablePred Text.TrimmedIfGiven := fun s =>
  inferInstanceAs (Decidable (∀ t ∈ s, Text.Trimmed t))

instance : DecidablePred Text.TrimmedOrEmpty := fun s =>
  inferInstanceAs (Decidable (s ≠ "" → Text.Trimmed s))

instance : DecidablePred Field.Normal := fun f =>
  decidable_of_iff
    (Text.Trimmed f.name ∧ Text.TrimmedIfGiven f.givenVariable?
      ∧ Text.TrimmedOrEmpty f.defaultText ∧ Text.TrimmedIfGiven f.foreignTable?
      ∧ Text.TrimmedIfGiven f.foreignField? ∧ Text.TrimmedIfGiven f.enumClass?
      ∧ Text.TrimmedIfGiven f.enumDefault? ∧ Text.TrimmedOrEmpty f.enumerations)
    ⟨fun ⟨h₁, h₂, h₃, h₄, h₅, h₆, h₇, h₈⟩ => ⟨h₁, h₂, h₃, h₄, h₅, h₆, h₇, h₈⟩,
      fun ⟨h₁, h₂, h₃, h₄, h₅, h₆, h₇, h₈⟩ => ⟨h₁, h₂, h₃, h₄, h₅, h₆, h₇, h₈⟩⟩

instance (kind : EntityKind) : DecidablePred (Entity.Normal kind) := fun e =>
  decidable_of_iff
    (e.kind = kind ∧ Text.Trimmed e.name ∧ Text.TrimmedIfGiven e.class?
      ∧ Text.TrimmedOrEmpty e.enumerations ∧ (∀ group ∈ e.uniqueGroups, group ≠ [])
      ∧ (∀ group ∈ e.uniqueGroups, ∀ name ∈ group, Text.Trimmed name)
      ∧ ∀ f ∈ e.fields, f.Normal)
    ⟨fun ⟨h₁, h₂, h₃, h₄, h₅, h₆, h₇⟩ => ⟨h₁, h₂, h₃, h₄, h₅, h₆, h₇⟩,
      fun ⟨h₁, h₂, h₃, h₄, h₅, h₆, h₇⟩ => ⟨h₁, h₂, h₃, h₄, h₅, h₆, h₇⟩⟩

instance : DecidablePred Database.Normal := fun d =>
  decidable_of_iff
    (Text.Trimmed d.name ∧ (∀ e ∈ d.tables, e.Normal .table) ∧ (∀ e ∈ d.views, e.Normal .view)
      ∧ ∀ e ∈ d.queries, e.Normal .query)
    ⟨fun ⟨h₁, h₂, h₃, h₄⟩ => ⟨h₁, h₂, h₃, h₄⟩, fun ⟨h₁, h₂, h₃, h₄⟩ => ⟨h₁, h₂, h₃, h₄⟩⟩

/-! ## Words for values -/

namespace Text

/-- The word for a truth value. -/
def truthWord (b : Bool) : String :=
  if b then "true" else "false"

/-- A text that is present unless it is empty. -/
def nonempty? (s : String) : Option String :=
  if s = "" then none else some s

theorem trimmed_truthWord (b : Bool) : Trimmed (truthWord b) := by
  cases b <;> exact ⟨by decide, by decide⟩

theorem isSpace_of_isDigit {c : Char} (h : c.isDigit = true) : Chars.isSpace c = false := by
  simp only [Char.isDigit, Bool.and_eq_true, decide_eq_true_eq, UInt32.le_iff_toNat_le] at h
  change 48 ≤ c.toNat ∧ c.toNat ≤ 57 at h
  simp only [Chars.isSpace]
  grind

theorem trimmed_toString (n : Nat) : Trimmed (toString n) := by
  have hdigits : (toString n).toList = Nat.toDigits 10 n := by
    rw [Nat.toString_eq_repr, Nat.toList_repr]
  apply trimmed_of_noSpace
  · rw [Ne, ← String.toList_inj, hdigits]
    exact Nat.toDigits_ne_nil
  · intro c hc
    rw [hdigits] at hc
    exact isSpace_of_isDigit (Nat.isDigit_of_mem_toDigits (by omega) (by omega) hc)

/-- The digits of a number denote it. -/
theorem word32?_toString (n : UInt32) : word32? (toString n.toNat) = some n := by
  have hdigits : (toString n.toNat).toList = Nat.toDigits 10 n.toNat := by
    rw [Nat.toString_eq_repr, Nat.toList_repr]
  have hall : ∀ c ∈ Nat.toDigits 10 n.toNat, c.isDigit = true := fun c hc =>
    Nat.isDigit_of_mem_toDigits (by omega) (by omega) hc
  have hread : Chars.decimal? (Nat.toDigits 10 n.toNat) = some n.toNat :=
    decimal?_eq_some_iff.2
      ⟨Nat.toDigits_ne_nil, hall, Nat.ofDigitChars_toDigits (by omega) (by omega)⟩
  have hbound : n.toNat < 0x100000000 := n.toNat_lt
  unfold word32?
  rw [hdigits]
  -- no digit is taken for a sign
  split
  · next cs hsign =>
    have hplus := hall '+' (by rw [hsign]; exact List.mem_cons_self)
    cases hplus
  · rw [hread]
    simp [hbound]

end Text

/-- A column type is known by its name. -/
theorem ColumnType.ofText?_name (type : ColumnType) : ofText? type.name = some type := by
  cases type <;> rfl

/-- A kind of foreign key is known by its word. -/
theorem ForeignKeyKind.ofText?_word (kind : ForeignKeyKind) : ofText? kind.word = some kind := by
  cases kind <;> rfl

/-! ## Attributes -/

namespace Xml.Attribute

/-- The attributes for those of some values that are present. -/
def ofValues (values : List (String × Option String)) : List Attribute :=
  values.filterMap fun (name, value?) => value?.map fun value => { name, value }

end Xml.Attribute

namespace Xml.Node

variable {values : List (String × Option String)} {element name value : String}
  {value? : Option String} {children : List Node}

/-- The attribute of a name is the one for the value under it. -/
theorem find?_ofValues (hnames : (values.map (·.1)).Nodup) (hmem : (name, value?) ∈ values) :
    ((Attribute.ofValues values).find? fun a => a.space.isNone && a.name == name) =
      value?.map fun value => { name, value } := by
  induction values with
  | nil => cases hmem
  | cons first rest ih =>
    obtain ⟨key, found?⟩ := first
    rw [List.map_cons, List.nodup_cons] at hnames
    rcases List.mem_cons.1 hmem with heq | hrest
    · obtain ⟨rfl, rfl⟩ := Prod.mk.inj heq
      cases value? with
      | some value => simp [Attribute.ofValues]
      | none =>
        -- no other attribute has the name
        rw [Option.map_none, List.find?_eq_none]
        intro a ha
        obtain ⟨⟨other, other?⟩, hother, ha⟩ := List.mem_filterMap.1 ha
        obtain ⟨text, rfl, rfl⟩ := Option.map_eq_some_iff.1 ha
        rcases List.mem_cons.1 hother with heq | hlater
        · cases heq
        · have hne : other ≠ name := by
            rintro rfl
            exact hnames.1 (List.mem_map.2 ⟨_, hlater, rfl⟩)
          simp [hne]
    · have hne : key ≠ name := by
        rintro rfl
        exact hnames.1 (List.mem_map.2 ⟨_, hrest, rfl⟩)
      have hlater := ih hnames.2 hrest
      cases found? with
      | none => exact hlater
      | some text => simpa [Attribute.ofValues, hne] using hlater

/-- Trimmed values under different names are read from their attributes. -/
theorem attribute?_ofValues (hnames : (values.map (·.1)).Nodup)
    (htrimmed : ∀ v ∈ values, Text.TrimmedIfGiven v.2) : ∀ v ∈ values,
      (Node.element element (Attribute.ofValues values) children).attribute? v.1 = v.2 := by
  rintro ⟨name, value?⟩ hmem
  unfold attribute? attributes
  rw [find?_ofValues hnames hmem]
  cases value? with
  | none => rfl
  | some value => exact Text.filled?_of_trimmed (htrimmed _ hmem value rfl)

variable {node : Node}

theorem required_eq_ok (h : node.attribute? name = some value) :
    node.required element name = .ok value := by
  rw [required, h]

theorem truth?_eq_ok {truth? : Option Bool}
    (h : node.attribute? name = truth?.map Text.truthWord) : node.truth? name = .ok truth? := by
  rw [Node.truth?, h]
  cases truth? with
  | none => rfl
  | some b => cases b <;> rfl

theorem word32?_eq_ok {n? : Option UInt32}
    (h : node.attribute? name = n?.map fun n => toString n.toNat) :
    node.word32? name = .ok n? := by
  rw [Node.word32?, h]
  cases n? with
  | none => rfl
  | some n => simp only [Option.map_some, Text.word32?_toString]

theorem columnType_eq_ok {type : ColumnType}
    (h : node.attribute? "jdbcDataType" = some type.name) : node.columnType = .ok type := by
  rw [columnType, required_eq_ok h]
  simp only [bind, Except.bind, ColumnType.ofText?_name]

theorem foreignKind_eq_ok {kind : ForeignKeyKind}
    (h : node.attribute? "foreignKeyType" = some kind.word) : node.foreignKind = .ok kind := by
  simp only [foreignKind, h, ForeignKeyKind.ofText?_word]

/-- Nodes that are all elements of one name are the children of that name. -/
theorem filter_named_eq_self {nodes : List Node} (h : ∀ node ∈ nodes, node.name? = some name) :
    nodes.filter (·.name? == some name) = nodes :=
  List.filter_eq_self.2 fun node hnode => beq_iff_eq.2 (h node hnode)

/-- Nodes that are all elements of another name are none of them. -/
theorem filter_named_eq_nil {nodes : List Node} {other : String} (hne : other ≠ name)
    (h : ∀ node ∈ nodes, node.name? = some other) : nodes.filter (·.name? == some name) = [] := by
  rw [List.filter_eq_nil_iff]
  intro node hnode
  simp [h node hnode, hne]

end Xml.Node

/-! ## Elements -/

/-- What a field says, under the names of the attributes for it. -/
def Field.values (f : Field) : List (String × Option String) :=
  [("name", some f.name), ("jdbcDataType", some f.type.name), ("varName", f.givenVariable?),
    ("size", f.size?.map fun n => toString n.toNat),
    ("decimals", f.decimals?.map fun n => toString n.toNat),
    ("notNull", (some f.notNull).map Text.truthWord),
    ("defaultValue", Text.nonempty? f.defaultText),
    ("primaryKey", (some f.primaryKey).map Text.truthWord),
    ("increment", (some f.increment).map Text.truthWord),
    ("unique", (some f.unique).map Text.truthWord), ("index", (some f.indexed).map Text.truthWord),
    ("foreignKeyTable", f.foreignTable?), ("foreignKeyField", f.foreignField?),
    ("foreignKeyType", some f.foreignKind.word), ("enumerationClass", f.enumClass?),
    ("enumerationDefault", f.enumDefault?), ("enumerations", Text.nonempty? f.enumerations)]

/-- The element for a field. -/
def Field.toXml (f : Field) : Node :=
  .element "field" (Attribute.ofValues f.values) []

/-- The element for a column in a unique group. -/
def Entity.columnToXml (name : String) : Node :=
  .element "uniqueField" (Attribute.ofValues [("name", some name)]) []

/-- The element for columns that are unique together. -/
def Entity.groupToXml (group : List String) : Node :=
  .element "unique" [] (group.map columnToXml)

/-- What an entity says itself, under the names of the attributes for it. -/
def Entity.values (e : Entity) : List (String × Option String) :=
  [("name", some e.name), ("className", e.class?),
    ("enumerations", Text.nonempty? e.enumerations),
    ("readOnly", (some e.readOnly).map Text.truthWord),
    ("fieldsDefaultNotNull", e.fieldsNotNull?.map Text.truthWord)]

/-- The element for an entity. -/
def Entity.toXml (e : Entity) : Node :=
  .element e.kind.word (Attribute.ofValues e.values)
    (e.fields.map (·.toXml) ++ e.uniqueGroups.map groupToXml)

/-- What a database says itself, under the names of the attributes for it. -/
def Database.values (d : Database) : List (String × Option String) :=
  [("name", some d.name), ("fieldsDefaultNotNull", d.fieldsNotNull?.map Text.truthWord)]

/-- The element for a database. -/
def Database.toXml (d : Database) : Node :=
  .element "database" (Attribute.ofValues d.values) (d.entities.map (·.toXml))

/-- The root element for a schema. -/
def Schema.toXml (s : Schema) : Node :=
  .element "dbSchema" [] (s.databases.map (·.toXml))

/-! ## Reading what is written -/

/-- Attributes without a value stand for the empty text. -/
theorem Text.getD_nonempty? (s : String) : (nonempty? s).getD "" = s := by
  unfold nonempty?
  split
  · next hempty => exact hempty.symm
  · rfl

theorem Text.TrimmedOrEmpty.nonempty? {s : String} (h : TrimmedOrEmpty s) :
    TrimmedIfGiven (Text.nonempty? s) := by
  intro t ht
  unfold Text.nonempty? at ht
  split at ht
  · cases ht
  · next hne =>
    obtain rfl : s = t := by simpa using ht
    exact h hne

theorem Text.Trimmed.given {s : String} (h : Trimmed s) : TrimmedIfGiven (some s) := by
  rintro t ⟨⟩
  exact h

theorem Text.trimmedIfGiven_truthWord (b? : Option Bool) :
    TrimmedIfGiven (b?.map truthWord) := by
  intro t ht
  obtain ⟨b, -, rfl⟩ := Option.map_eq_some_iff.1 ht
  exact trimmed_truthWord b

theorem Text.trimmedIfGiven_toString (n? : Option UInt32) :
    TrimmedIfGiven (n?.map fun n => toString n.toNat) := by
  intro t ht
  obtain ⟨n, -, rfl⟩ := Option.map_eq_some_iff.1 ht
  exact trimmed_toString n.toNat

theorem ColumnType.trimmed_name (type : ColumnType) : Text.Trimmed type.name := by
  cases type <;> exact ⟨by decide, by decide⟩

theorem ForeignKeyKind.trimmed_word (kind : ForeignKeyKind) : Text.Trimmed kind.word := by
  cases kind <;> exact ⟨by decide, by decide⟩

/-- What a field in normal form says is trimmed where it is present. -/
theorem Field.Normal.values {f : Field} (h : f.Normal) :
    ∀ v ∈ f.values, Text.TrimmedIfGiven v.2 := by
  simp only [Field.values, List.forall_mem_cons, List.not_mem_nil, false_implies, implies_true,
    and_true]
  refine ⟨h.name.given, f.type.trimmed_name.given, h.givenVariable,
    Text.trimmedIfGiven_toString _, Text.trimmedIfGiven_toString _,
    Text.trimmedIfGiven_truthWord _, h.defaultText.nonempty?, Text.trimmedIfGiven_truthWord _,
    Text.trimmedIfGiven_truthWord _, Text.trimmedIfGiven_truthWord _,
    Text.trimmedIfGiven_truthWord _, h.foreignTable, h.foreignField,
    f.foreignKind.trimmed_word.given, h.enumClass, h.enumDefault, h.enumerations.nonempty?⟩

/-- A field is read from its element, whatever the elements around it say. -/
theorem Field.ofXml_toXml {f : Field} (h : f.Normal)
    (hnotNull : f.foreignKind = .enumeration → f.notNull = true) (notNull : Bool) :
    Field.ofXml notNull f.toXml = .ok f := by
  have hread : ∀ v ∈ f.values, f.toXml.attribute? v.1 = v.2 :=
    Node.attribute?_ofValues (by simp [Field.values]) h.values
  simp only [Field.values, List.forall_mem_cons, List.not_mem_nil, false_implies, implies_true,
    and_true] at hread
  obtain ⟨hname, htype, hvariable, hsize, hdecimals, hown, hdefault, hprimaryKey, hincrement,
    hunique, hindexed, hforeignTable, hforeignField, hkind, henumClass, henumDefault,
    henumerations⟩ := hread
  -- a foreign key to an enumeration refuses nulls on its own, and says so
  have hrefuses : (f.foreignKind == .enumeration || f.notNull) = f.notNull := by
    rw [Bool.or_eq_right_iff_imp, beq_iff_eq]
    exact hnotNull
  simp only [ofXml, Node.required_eq_ok hname, Node.columnType_eq_ok htype,
    Node.word32?_eq_ok hsize, Node.word32?_eq_ok hdecimals, Node.truth?_eq_ok hprimaryKey,
    Node.truth?_eq_ok hincrement, Node.truth?_eq_ok hunique, Node.truth?_eq_ok hindexed,
    Node.foreignKind_eq_ok hkind, Node.truth?_eq_ok hown, bind, Except.bind, pure, Except.pure,
    hvariable, hdefault, hforeignTable, hforeignField, henumClass, henumDefault, henumerations,
    Text.getD_nonempty?, Option.getD_some, hrefuses]

/-- The columns of a unique group are read from its element. -/
theorem Entity.uniqueGroup_groupToXml {group : List String}
    (h : ∀ name ∈ group, Text.Trimmed name) :
    Entity.uniqueGroup (groupToXml group) = .ok group := by
  have hchildren : (groupToXml group).childrenNamed "uniqueField" = group.map columnToXml := by
    apply Node.filter_named_eq_self
    intro node hnode
    obtain ⟨name, -, rfl⟩ := List.mem_map.1 hnode
    rfl
  rw [uniqueGroup, hchildren, mapM_eq_ok_iff, List.forall₂_map_left_iff, List.forall₂_same]
  intro name hname
  have htrimmed : ∀ v ∈ [("name", some name)], Text.TrimmedIfGiven v.2 := by
    simpa using (h name hname).given
  have hread : (columnToXml name).attribute? "name" = some name :=
    Node.attribute?_ofValues (by simp) htrimmed _ List.mem_cons_self
  exact Node.required_eq_ok hread

/-- What an entity in normal form says itself is trimmed where it is present. -/
theorem Entity.Normal.values {kind : EntityKind} {e : Entity} (h : e.Normal kind) :
    ∀ v ∈ e.values, Text.TrimmedIfGiven v.2 := by
  simp only [Entity.values, List.forall_mem_cons, List.not_mem_nil, false_implies, implies_true,
    and_true]
  exact ⟨h.name.given, h.givenClass, h.enumerations.nonempty?, Text.trimmedIfGiven_truthWord _,
    Text.trimmedIfGiven_truthWord _⟩

/-- The fields of an entity are told apart from its unique groups by the names of their elements. -/
theorem Entity.childrenNamed_toXml (e : Entity) :
    e.toXml.childrenNamed "field" = e.fields.map (·.toXml)
      ∧ e.toXml.childrenNamed "unique" = e.uniqueGroups.map groupToXml := by
  have hfields : ∀ node ∈ e.fields.map (·.toXml), node.name? = some "field" := by
    intro node hnode
    obtain ⟨f, -, rfl⟩ := List.mem_map.1 hnode
    rfl
  have hgroups : ∀ node ∈ e.uniqueGroups.map groupToXml, node.name? = some "unique" := by
    intro node hnode
    obtain ⟨group, -, rfl⟩ := List.mem_map.1 hnode
    rfl
  have hchildren : e.toXml.children =
      e.fields.map (·.toXml) ++ e.uniqueGroups.map groupToXml := rfl
  constructor
  · rw [Node.childrenNamed, hchildren, List.filter_append, Node.filter_named_eq_self hfields,
      Node.filter_named_eq_nil (by decide) hgroups, List.append_nil]
  · rw [Node.childrenNamed, hchildren, List.filter_append,
      Node.filter_named_eq_nil (by decide) hfields, Node.filter_named_eq_self hgroups,
      List.nil_append]

/-- An entity is read from its element, whatever its database says. -/
theorem Entity.ofXml_toXml {kind : EntityKind} {e : Entity} (h : e.Normal kind)
    (hnotNull : ∀ f ∈ e.fields, f.foreignKind = .enumeration → f.notNull = true)
    (notNull? : Option Bool) : Entity.ofXml notNull? e.kind e.toXml = .ok e := by
  have hread : ∀ v ∈ e.values, e.toXml.attribute? v.1 = v.2 :=
    Node.attribute?_ofValues (by simp [Entity.values]) h.values
  simp only [Entity.values, List.forall_mem_cons, List.not_mem_nil, false_implies, implies_true,
    and_true] at hread
  obtain ⟨hname, hclass, henumerations, hreadOnly, hown⟩ := hread
  have hfields : ∀ notNull, (e.fields.map (·.toXml)).mapM (Field.ofXml notNull) =
      .ok e.fields := by
    intro notNull
    rw [mapM_eq_ok_iff, List.forall₂_map_left_iff, List.forall₂_same]
    exact fun f hf => Field.ofXml_toXml (h.fields f hf) (hnotNull f hf) notNull
  have hgroups : (e.uniqueGroups.map groupToXml).mapM uniqueGroup = .ok e.uniqueGroups := by
    rw [mapM_eq_ok_iff, List.forall₂_map_left_iff, List.forall₂_same]
    exact fun group hgroup => uniqueGroup_groupToXml (h.groupNames group hgroup)
  have hmembers : e.uniqueGroups.filter (!·.isEmpty) = e.uniqueGroups :=
    List.filter_eq_self.2 fun group hgroup => by simpa using h.groups group hgroup
  simp only [ofXml, Node.required_eq_ok hname, Node.truth?_eq_ok hreadOnly,
    Node.truth?_eq_ok hown, e.childrenNamed_toXml.1, e.childrenNamed_toXml.2, hfields, hgroups,
    bind, Except.bind, pure, Except.pure, hclass, henumerations, Text.getD_nonempty?,
    Option.getD_some, hmembers]

/-- The entities of a kind are those in the list for it. -/
theorem Database.Normal.filter_entities {d : Database} (h : d.Normal) :
    d.entities.filter (·.kind == .table) = d.tables
      ∧ d.entities.filter (·.kind == .view) = d.views
      ∧ d.entities.filter (·.kind == .query) = d.queries := by
  have hkind : ∀ {es : List Entity} {kind : EntityKind}, (∀ e ∈ es, e.Normal kind) →
      ∀ other, es.filter (·.kind == other) = if kind = other then es else [] := by
    intro es kind hes other
    split
    · next heq => exact List.filter_eq_self.2 fun e he => by simp [(hes e he).kind, heq]
    · next hne => exact List.filter_eq_nil_iff.2 fun e he => by simp [(hes e he).kind, hne]
  simp [entities, List.filter_append, hkind h.tables, hkind h.views, hkind h.queries]

/-- A database is read from its element. -/
theorem Database.ofXml_toXml {d : Database} (h : d.Normal)
    (hnotNull : ∀ e ∈ d.entities, ∀ f ∈ e.fields, f.foreignKind = .enumeration → f.notNull = true) :
    Database.ofXml d.toXml = .ok d := by
  have htrimmed : ∀ v ∈ d.values, Text.TrimmedIfGiven v.2 := by
    simp only [Database.values, List.forall_mem_cons, List.not_mem_nil, false_implies,
      implies_true, and_true]
    exact ⟨h.name.given, Text.trimmedIfGiven_truthWord _⟩
  have hread : ∀ v ∈ d.values, d.toXml.attribute? v.1 = v.2 :=
    Node.attribute?_ofValues (by simp [Database.values]) htrimmed
  simp only [Database.values, List.forall_mem_cons, List.not_mem_nil, false_implies, implies_true,
    and_true] at hread
  have hdeclared : (d.toXml.children.filterMap fun child =>
      (EntityKind.ofElement? child).map fun kind => (kind, child)) =
        d.entities.map fun e => (e.kind, e.toXml) := by
    have hchildren : d.toXml.children = d.entities.map (·.toXml) := rfl
    rw [hchildren, List.filterMap_map, ← List.filterMap_eq_map]
    congr 1
    funext e
    have hkind : EntityKind.ofElement? e.toXml = some e.kind :=
      EntityKind.ofElement?_eq_some_iff.2 rfl
    simp [hkind]
  have hnormal : ∀ e ∈ d.entities, ∃ kind, e.Normal kind := by
    intro e he
    simp only [entities, List.mem_append] at he
    rcases he with (he | he) | he
    · exact ⟨.table, h.tables e he⟩
    · exact ⟨.view, h.views e he⟩
    · exact ⟨.query, h.queries e he⟩
  have hentities : d.entities.mapM (fun e => Entity.ofXml d.fieldsNotNull? e.kind e.toXml) =
      .ok d.entities := by
    rw [mapM_eq_ok_iff, List.forall₂_same]
    intro e he
    obtain ⟨kind, hkind⟩ := hnormal e he
    exact Entity.ofXml_toXml hkind (hnotNull e he) d.fieldsNotNull?
  obtain ⟨htables, hviews, hqueries⟩ := h.filter_entities
  simp only [ofXml, Node.required_eq_ok hread.1, Node.truth?_eq_ok hread.2, hdeclared,
    List.mapM_map, Function.comp_def, hentities, bind, Except.bind, pure, Except.pure, htables,
    hviews, hqueries]

/-- Every valid schema in normal form, in which foreign keys to enumerations refuse nulls, is what is
read from the document that is written for it. -/
theorem Schema.read_written {s : Schema} (hvalid : s.validate = .ok ())
    (hnormal : ∀ d ∈ s.databases, d.Normal)
    (hnotNull : ∀ d ∈ s.databases, ∀ e ∈ d.entities, ∀ f ∈ e.fields,
      f.foreignKind = .enumeration → f.notNull = true) :
    Schema.ofXml s.toXml = .ok s := by
  have hchildren : s.toXml.childrenNamed "database" = s.databases.map (·.toXml) := by
    apply Node.filter_named_eq_self
    intro node hnode
    obtain ⟨d, -, rfl⟩ := List.mem_map.1 hnode
    rfl
  have hdatabases : (s.databases.map (·.toXml)).mapM Database.ofXml = .ok s.databases := by
    rw [mapM_eq_ok_iff, List.forall₂_map_left_iff, List.forall₂_same]
    exact fun d hd => Database.ofXml_toXml (hnormal d hd) (hnotNull d hd)
  have hroot : s.toXml.name? = some "dbSchema" := rfl
  have hmodel : Schema.model s.toXml = .ok s := by
    rw [Schema.model, if_neg (by simp [hroot]), hchildren, hdatabases]
    rfl
  rw [Schema.ofXml, hmodel]
  simp only [bind, Except.bind, hvalid, pure, Except.pure]

/-- A database with an entity of each kind, and fields that say most of what a field can. -/
def personDatabase : Database where
  name := "main"
  fieldsNotNull? := some true
  tables := [
    { kind := .table, name := "PERSON", class? := some "Human", fieldsNotNull? := some false
      uniqueGroups := [["FIRST", "LAST"], ["EMAIL"]]
      fields := [
        { name := "_id", type := .bigint, primaryKey := true, increment := true, notNull := true },
        { name := "FIRST", type := .varchar, size? := some 255, indexed := true
          defaultText := "no name" },
        { name := "TYPE", type := .integer, notNull := true, foreignTable? := some "PERSON_TYPE"
          foreignField? := some "_id", foreignKind := .enumeration, enumDefault? := some "ADULT" },
        { name := "FATHER", type := .bigint, givenVariable? := some "parent"
          foreignTable? := some "PERSON", foreignField? := some "_id", foreignKind := .manyToOne },
        { name := "RATE", type := .decimal, size? := some 4294967295, decimals? := some 0
          unique := true }] },
    { kind := .table, name := "PERSON_TYPE", enumerations := "ADULT=Grown up,CHILD"
      readOnly := true }]
  views := [
    { kind := .view, name := "PERSON_VIEW"
      fields := [{ name := "SIZE", type := .integer, enumerations := "SMALL,LARGE" }] }]
  queries := [{ kind := .query, name := "PERSON" }]

/-- It is read from the document that is written for it. -/
theorem Schema.read_written_personDatabase :
    ({ databases := [personDatabase] } : Schema).validate = .ok ()
    ∧ (∀ d ∈ [personDatabase], d.Normal)
    ∧ (∀ d ∈ [personDatabase], ∀ e ∈ d.entities, ∀ f ∈ e.fields,
      f.foreignKind = .enumeration → f.notNull = true)
    ∧ Schema.ofXml (Schema.toXml { databases := [personDatabase] }) =
      .ok { databases := [personDatabase] } := by
  have hvalid : ({ databases := [personDatabase] } : Schema).validate = .ok () := by decide
  have hnormal : ∀ d ∈ [personDatabase], d.Normal := by decide
  have hnotNull : ∀ d ∈ [personDatabase], ∀ e ∈ d.entities, ∀ f ∈ e.fields,
      f.foreignKind = .enumeration → f.notNull = true := by decide
  exact ⟨hvalid, hnormal, hnotNull, Schema.read_written hvalid hnormal hnotNull⟩

end SchemaForge
