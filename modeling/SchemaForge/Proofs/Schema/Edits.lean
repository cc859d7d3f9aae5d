import Mathlib.Logic.Relation
import SchemaForge.Proofs.Schema.Grammar
import SchemaForge.Proofs.Schema.Lookup
import SchemaForge.Proofs.Xml.Regular

namespace SchemaForge

/-! # Edits that the reader does not see

A document may have more in it than is read: texts and comments between the elements, and elements
and attributes that are not known. The reader goes through the children of an element once for each
list that it makes of them and takes those with certain names, so that whatever else is among them,
and the order in which children for different lists stand, is all the same to it. Here the edits are
the steps of a relation, with one lemma for what a step leaves as it is; the documents between which
edits lead are read alike.
-/

open Xml

/-! ## What is read of an element -/

/-- The elements of a schema document by what is read of them. -/
inductive Level where
  | schema
  | database
  | entity
  | field
  | uniqueGroup
  | uniqueColumn
deriving DecidableEq, Repr

/-- A passage through the children of an element: those with certain names are read. -/
structure Passage where
  level : Level
  names : List String
deriving DecidableEq, Repr

namespace Level

/-- The names of the attributes that are read. -/
def attributes : Level → List String
  | schema | uniqueGroup => []
  | database => ["name", "fieldsDefaultNotNull"]
  | entity => ["name", "readOnly", "fieldsDefaultNotNull", "className", "enumerations"]
  | field => ["name", "jdbcDataType", "size", "decimals", "primaryKey", "increment", "unique",
      "index", "foreignKeyType", "notNull", "varName", "defaultValue", "foreignKeyTable",
      "foreignKeyField", "enumerationClass", "enumerationDefault", "enumerations"]
  | uniqueColumn => ["name"]

/-- The passages through the children, each of which makes a list of them. -/
def passages : Level → List Passage
  | schema => [⟨database, ["database"]⟩]
  | database => [⟨entity, ["table", "view", "query"]⟩]
  | entity => [⟨field, ["field"]⟩, ⟨uniqueGroup, ["unique"]⟩]
  | uniqueGroup => [⟨uniqueColumn, ["uniqueField"]⟩]
  | field | uniqueColumn => []

/-- Holds for two elements of which the same is read, with the same faults. -/
def ReadsAlike : Level → Node → Node → Prop
  | schema, a, b => Schema.ofXml a = Schema.ofXml b
  | database, a, b => Database.ofXml a = Database.ofXml b
  | entity, a, b => ∀ notNull? kind, Entity.ofXml notNull? kind a = Entity.ofXml notNull? kind b
  | field, a, b => ∀ notNull, Field.ofXml notNull a = Field.ofXml notNull b
  | uniqueGroup, a, b => Entity.uniqueGroup a = Entity.uniqueGroup b
  | uniqueColumn, a, b => a.required "uniqueField" "name" = b.required "uniqueField" "name"

end Level

/-- Whether a node is an element that a passage reads. -/
def Passage.takes (p : Passage) (node : Node) : Bool :=
  node.name?.any p.names.contains

/-- The children of an element that a passage reads. -/
def Passage.children (p : Passage) (node : Node) : List Node :=
  node.children.filter p.takes

/-- Holds for two elements with the same name, with the same attributes as far as these are read,
and with children that are read alike in each passage. -/
structure Level.Agree (level : Level) (a b : Node) : Prop where
  name : a.name? = b.name?
  attributes : ∀ name ∈ level.attributes, a.attribute? name = b.attribute? name
  children : ∀ p ∈ level.passages,
    List.Forall₂ (fun x y => x.name? = y.name? ∧ p.level.ReadsAlike x y)
      (p.children a) (p.children b)

/-- A database is read with the entities that are declared in it. -/
theorem Database.ofXml_eq (node : Node) : Database.ofXml node = (do
    let name ← node.required "database" "name"
    let fieldsNotNull? ← node.truth? "fieldsDefaultNotNull"
    let entities ← node.declared.mapM fun x => Entity.ofXml fieldsNotNull? x.1 x.2
    return {
      name, fieldsNotNull?
      tables := entities.filter (·.kind == .table)
      views := entities.filter (·.kind == .view)
      queries := entities.filter (·.kind == .query) }) :=
  rfl

namespace Level

variable {level : Level} {a b : Node}

theorem ReadsAlike.refl (level : Level) (a : Node) : level.ReadsAlike a a := by
  cases level with
  | field => exact fun _ => rfl
  | entity => exact fun _ _ => rfl
  | _ => rfl

/-! ## Elements that agree are read alike -/

theorem Agree.required (h : level.Agree a b) (element name : String)
    (hname : name ∈ level.attributes) : a.required element name = b.required element name := by
  rw [Node.required, Node.required, h.attributes name hname]

theorem Agree.truth? (h : level.Agree a b) (name : String) (hname : name ∈ level.attributes) :
    a.truth? name = b.truth? name := by
  rw [Node.truth?, Node.truth?, h.attributes name hname]

/-- A passage that takes the elements with one name. -/
theorem children_singleton (level : Level) (name : String) (node : Node) :
    (Passage.mk level [name]).children node = node.childrenNamed name := by
  unfold Passage.children Node.childrenNamed
  congr 1
  funext child
  unfold Passage.takes
  cases child.name? with
  | none => rfl
  | some found =>
    rw [Option.any_some, Bool.eq_iff_iff, List.contains_iff_mem, List.mem_singleton, beq_iff_eq,
      Option.some_inj]

theorem ofXml_field (h : field.Agree a b) (notNull : Bool) :
    Field.ofXml notNull a = Field.ofXml notNull b := by
  have hattributes := h.attributes
  simp only [attributes, List.forall_mem_cons] at hattributes
  obtain ⟨hname, htype, hsize, hdecimals, hkey, hincrement, hunique, hindex, hforeign, hnotNull,
    hvariable, hdefault, htable, hfield, hclass, henumDefault, henumerations, -⟩ := hattributes
  simp only [Field.ofXml, Node.columnType, Node.required, Node.word32?, Node.truth?,
    Node.foreignKind, hname, htype, hsize, hdecimals, hkey, hincrement, hunique, hindex, hforeign,
    hnotNull, hvariable, hdefault, htable, hfield, hclass, henumDefault, henumerations]

theorem uniqueGroup_congr (h : uniqueGroup.Agree a b) :
    Entity.uniqueGroup a = Entity.uniqueGroup b := by
  have hcolumns := h.children ⟨uniqueColumn, ["uniqueField"]⟩ List.mem_cons_self
  rw [children_singleton, children_singleton] at hcolumns
  exact mapM_congr_of_forall₂ (hcolumns.imp fun _ _ => And.right)

theorem ofXml_entity (h : entity.Agree a b) (notNull? : Option Bool) (kind : EntityKind) :
    Entity.ofXml notNull? kind a = Entity.ofXml notNull? kind b := by
  have hfields := h.children ⟨field, ["field"]⟩ (by decide)
  have hgroups := h.children ⟨uniqueGroup, ["unique"]⟩ (by decide)
  rw [children_singleton, children_singleton] at hfields hgroups
  have hreadFields : ∀ notNull, (a.childrenNamed "field").mapM (Field.ofXml notNull) =
      (b.childrenNamed "field").mapM (Field.ofXml notNull) :=
    fun notNull => mapM_congr_of_forall₂ (hfields.imp fun _ _ halike => halike.2 notNull)
  have hreadGroups : (a.childrenNamed "unique").mapM Entity.uniqueGroup =
      (b.childrenNamed "unique").mapM Entity.uniqueGroup :=
    mapM_congr_of_forall₂ (hgroups.imp fun _ _ => And.right)
  simp only [Entity.ofXml, h.required kind.word "name" (by decide),
    h.truth? "readOnly" (by decide), h.truth? "fieldsDefaultNotNull" (by decide),
    h.attributes "className" (by decide), h.attributes "enumerations" (by decide), hreadFields,
    hreadGroups]

/-- The elements of entities are the children that the passage through a database takes. -/
theorem declared_eq (node : Node) : node.declared =
    ((Passage.mk entity ["table", "view", "query"]).children node).filterMap fun child =>
      (EntityKind.ofElement? child).map fun kind => (kind, child) := by
  rw [Passage.children, List.filterMap_filter]
  unfold Node.declared
  congr 1
  funext child
  split
  · rfl
  · next htaken =>
    cases hkind : EntityKind.ofElement? child with
    | none => rfl
    | some kind =>
      rw [Passage.takes, EntityKind.ofElement?_eq_some_iff.1 hkind] at htaken
      exact absurd (by cases kind <;> decide) htaken

theorem ofElement?_congr (h : a.name? = b.name?) :
    EntityKind.ofElement? a = EntityKind.ofElement? b := by
  rw [EntityKind.ofElement?, EntityKind.ofElement?, h]

theorem forall₂_declared (h : database.Agree a b) :
    List.Forall₂ (fun x y => x.1 = y.1 ∧ entity.ReadsAlike x.2 y.2) a.declared b.declared := by
  have hentities := h.children ⟨entity, ["table", "view", "query"]⟩ List.mem_cons_self
  rw [declared_eq, declared_eq]
  refine List.rel_filterMap (fun x y hxy => ?_) hentities
  rw [ofElement?_congr hxy.1]
  cases EntityKind.ofElement? y with
  | none => exact .none
  | some kind => exact .some ⟨rfl, hxy.2⟩

theorem ofXml_database (h : database.Agree a b) : Database.ofXml a = Database.ofXml b := by
  have hreadEntities : ∀ notNull?,
      (a.declared.mapM fun x => Entity.ofXml notNull? x.1 x.2) =
        b.declared.mapM fun x => Entity.ofXml notNull? x.1 x.2 := by
    intro notNull?
    refine mapM_congr_of_forall₂ ((forall₂_declared h).imp ?_)
    rintro x y ⟨hkind, halike⟩
    rw [hkind, halike]
  rw [Database.ofXml_eq, Database.ofXml_eq, h.required "database" "name" (by decide),
    h.truth? "fieldsDefaultNotNull" (by decide)]
  simp only [hreadEntities]

theorem ofXml_schema (h : schema.Agree a b) : Schema.ofXml a = Schema.ofXml b := by
  have hdatabases := h.children ⟨database, ["database"]⟩ List.mem_cons_self
  rw [children_singleton, children_singleton] at hdatabases
  have hmodel : Schema.model a = Schema.model b := by
    rw [Schema.model, Schema.model, h.name,
      mapM_congr_of_forall₂ (hdatabases.imp fun _ _ => And.right)]
  rw [Schema.ofXml, Schema.ofXml, hmodel]

theorem Agree.readsAlike (h : level.Agree a b) : level.ReadsAlike a b := by
  cases level with
  | schema => exact ofXml_schema h
  | database => exact ofXml_database h
  | entity => exact ofXml_entity h
  | field => exact ofXml_field h
  | uniqueGroup => exact uniqueGroup_congr h
  | uniqueColumn => exact h.required "uniqueField" "name" List.mem_cons_self

end Level

/-! ## Edits -/

/-- One edit of an element, or of an element that is read in it. Steps in the other direction remove
what is added here. -/
inductive Edit : Level → Node → Node → Prop where
  /-- A text, a comment, an instruction or an element that no passage takes is put among the
  children. -/
  | addChild {level : Level} {name : String} {attributes : List Attribute}
    (before after : List Node) (child : Node) (hunknown : ∀ p ∈ level.passages, p.takes child = false) :
    Edit level (.element name attributes (before ++ after))
      (.element name attributes (before ++ child :: after))
  /-- An attribute that is not read is put among the attributes: one in a name space or with a name
  that is not known. -/
  | addAttribute {level : Level} {name : String} {children : List Node}
    (before after : List Attribute) (a : Attribute)
    (hunknown : a.space.isSome ∨ a.name ∉ level.attributes) :
    Edit level (.element name (before ++ after) children)
      (.element name (before ++ a :: after) children)
  /-- The attributes are put in another order. They can be told apart, as those of every document
  that is read (`Xml.regular_of_read?`). -/
  | reorder {level : Level} {name : String} {attributes others : List Attribute}
    {children : List Node} (hdistinct : (attributes.map Attribute.key).Nodup)
    (hperm : attributes.Perm others) :
    Edit level (.element name attributes children) (.element name others children)
  /-- A field of an entity is moved past a unique group. -/
  | fieldPastUnique {name : String} {attributes : List Attribute} (before after : List Node)
    {field unique : Node} (hfield : field.name? = some "field")
    (hunique : unique.name? = some "unique") :
    Edit .entity (.element name attributes (before ++ field :: unique :: after))
      (.element name attributes (before ++ unique :: field :: after))
  /-- A child that is read is edited. -/
  | inside {level : Level} {name : String} {attributes : List Attribute} (before after : List Node)
    {p : Passage} (hp : p ∈ level.passages) {child edited : Node} (htaken : p.takes child = true)
    (hedit : Edit p.level child edited) :
    Edit level (.element name attributes (before ++ child :: after))
      (.element name attributes (before ++ edited :: after))

/-- An attribute is looked up among those without a name space. -/
theorem Xml.Node.attribute?_element (name : String) (element : String) (attributes : List Attribute)
    (children : List Node) : (Node.element element attributes children).attribute? name =
      Text.filled? ((attributes.find? fun a => decide (a.key = (none, name))).map (·.value)) := by
  have hkey : ∀ a : Attribute,
      (a.space.isNone && a.name == name) = decide (a.key = (none, name)) := by
    intro a
    rw [Bool.eq_iff_iff, decide_eq_true_iff, Attribute.key, Prod.mk.injEq]
    simp
  simp only [attribute?, Node.attributes, hkey]

/-- No element is taken by two passages. -/
theorem Level.passage_unique {level : Level} {p q : Passage} (hp : p ∈ level.passages)
    (hq : q ∈ level.passages) {node : Node} (hpnode : p.takes node = true)
    (hqnode : q.takes node = true) : p = q := by
  have hnames : ∀ p ∈ level.passages, ∀ q ∈ level.passages, ∀ name ∈ p.names, name ∈ q.names →
      p = q := by
    cases level <;> decide
  rw [Passage.takes, Option.any_eq_true] at hpnode hqnode
  obtain ⟨name, hname, hpname⟩ := hpnode
  obtain ⟨other, hother, hqname⟩ := hqnode
  obtain rfl : name = other := Option.some_inj.1 (hname.symm.trans hother)
  exact hnames p hp q hq name (List.contains_iff_mem.1 hpname) (List.contains_iff_mem.1 hqname)

/-- What a single edit leaves as it is. -/
theorem Edit.agree {level : Level} {a b : Node} (h : Edit level a b) : level.Agree a b := by
  have hsame : ∀ (p : Passage) (xs : List Node),
      List.Forall₂ (fun x y => x.name? = y.name? ∧ p.level.ReadsAlike x y) xs xs :=
    fun p xs => List.forall₂_same.2 fun x _ => ⟨rfl, .refl p.level x⟩
  induction h with
  | addChild before after child hunknown =>
    refine ⟨rfl, fun _ _ => rfl, fun p hp => ?_⟩
    have hchildren : (before ++ child :: after).filter p.takes =
        (before ++ after).filter p.takes := by
      simp [List.filter_append, hunknown p hp]
    change List.Forall₂ _ ((before ++ after).filter p.takes)
      ((before ++ child :: after).filter p.takes)
    rw [hchildren]
    exact hsame p _
  | addAttribute before after a hunknown =>
    refine ⟨rfl, fun name hname => ?_, fun p _ => hsame p _⟩
    have hother : decide (a.key = (none, name)) = false := by
      rw [decide_eq_false_iff_not]
      intro hkey
      obtain ⟨hspace, rfl⟩ := Prod.mk.inj hkey
      rcases hunknown with hprefix | hunknown
      · rw [hspace] at hprefix
        cases hprefix
      · exact hunknown hname
    rw [Node.attribute?_element, Node.attribute?_element, List.find?_append, List.find?_append,
      List.find?_cons, hother]
  | @reorder level name attributes others children hdistinct hperm =>
    refine ⟨rfl, fun name hname => ?_, fun p _ => hsame p _⟩
    have hdistinctOthers := (hperm.map Attribute.key).nodup_iff.1 hdistinct
    have hfound : (attributes.find? fun a => decide (a.key = (none, name))) =
        others.find? fun a => decide (a.key = (none, name)) := by
      apply Option.ext
      intro a
      have hmem : a ∈ attributes ∧ a.key = (none, name) ↔ a ∈ others ∧ a.key = (none, name) :=
        and_congr_left fun _ => hperm.mem_iff
      exact (find?_key_eq_some_iff hdistinct).trans
        (hmem.trans (find?_key_eq_some_iff hdistinctOthers).symm)
    rw [Node.attribute?_element, Node.attribute?_element, hfound]
  | @fieldPastUnique name attributes before after field unique hfield hunique =>
    refine ⟨rfl, fun _ _ => rfl, fun p hp => ?_⟩
    have hchildren : (before ++ field :: unique :: after).filter p.takes =
        (before ++ unique :: field :: after).filter p.takes := by
      -- neither passage takes both
      rcases List.mem_pair.1 hp with rfl | rfl
      · simp [Passage.takes, hfield, hunique]
      · simp [Passage.takes, hfield, hunique]
    change List.Forall₂ _ ((before ++ field :: unique :: after).filter p.takes)
      ((before ++ unique :: field :: after).filter p.takes)
    rw [hchildren]
    exact hsame p _
  | @inside level name attributes before after p hp child edited htaken hedit ih =>
    refine ⟨rfl, fun _ _ => rfl, fun q hq => ?_⟩
    have htaking : ∀ q : Passage, q.takes edited = q.takes child := by
      intro q
      rw [Passage.takes, Passage.takes, ih.name]
    change List.Forall₂ _ ((before ++ child :: after).filter q.takes)
      ((before ++ edited :: after).filter q.takes)
    rw [List.filter_append, List.filter_append, List.filter_cons, List.filter_cons, htaking]
    cases hq' : q.takes child with
    | false => exact hsame q _
    | true =>
      -- no other passage takes the child
      have hpq : p = q := Level.passage_unique hp hq htaken hq'
      subst hpq
      exact forall₂_replace (fun x => ⟨rfl, .refl _ x⟩) ⟨ih.name, ih.readsAlike⟩ _ _

/-! ## Moves -/

/-- Two entities of different kinds that stand side by side in a database of a document change
places. -/
inductive Move : Node → Node → Prop where
  | mk {root : String} {rootAttributes attributes : List Attribute} (before after : List Node)
    (start rest : List Node) {x y : Node} {kind other : EntityKind}
    (hx : x.name? = some kind.word) (hy : y.name? = some other.word) (hne : kind ≠ other) :
    Move (.element root rootAttributes
        (before ++ .element "database" attributes (start ++ x :: y :: rest) :: after))
      (.element root rootAttributes
        (before ++ .element "database" attributes (start ++ y :: x :: rest) :: after))

theorem Move.symm {a b : Node} (h : Move a b) : Move b a := by
  cases h with
  | mk before after start rest hx hy hne => exact .mk before after start rest hy hx hne.symm

/-- Two neighbours can change places in a list of which a filter keeps not both. -/
theorem filter_swap {α : Type} {p : α → Bool} {u v : α} (h : p u = false ∨ p v = false)
    (first last : List α) :
    (first ++ v :: u :: last).filter p = (first ++ u :: v :: last).filter p := by
  rcases h with hu | hv
  · simp [List.filter_cons, hu]
  · simp [List.filter_cons, hv]

/-- A database in which two entities of different kinds change places is read as the same. -/
theorem Database.ofXml_swap {name : String} {attributes : List Attribute} {start rest : List Node}
    {x y : Node} {kind other : EntityKind} (hx : x.name? = some kind.word)
    (hy : y.name? = some other.word) (hne : kind ≠ other) {d : Database}
    (h : Database.ofXml (.element name attributes (start ++ x :: y :: rest)) = .ok d) :
    Database.ofXml (.element name attributes (start ++ y :: x :: rest)) = .ok d := by
  have hdeclared : ∀ (x y : Node) (kind other : EntityKind), x.name? = some kind.word →
      y.name? = some other.word →
      (Node.element name attributes (start ++ x :: y :: rest)).declared =
        (Node.element name attributes start).declared ++ (kind, x) :: (other, y)
          :: (Node.element name attributes rest).declared := by
    intro x y kind other hx hy
    simp [Node.declared, Node.children, EntityKind.ofElement?_eq_some_iff.2 hx,
      EntityKind.ofElement?_eq_some_iff.2 hy]
  rw [Database.ofXml_eq] at h
  obtain ⟨found, hname, h⟩ := bind_eq_ok_iff.1 h
  obtain ⟨notNull?, hnotNull, h⟩ := bind_eq_ok_iff.1 h
  obtain ⟨entities, hentities, h⟩ := bind_eq_ok_iff.1 h
  cases h
  rw [hdeclared x y kind other hx hy] at hentities
  obtain ⟨first, u, v, last, rfl, hu, hv, hswapped⟩ := mapM_swap hentities
  have hkind : u.kind = kind := (Entity.normal_of_ofXml hu).1.kind
  have hother : v.kind = other := (Entity.normal_of_ofXml hv).1.kind
  -- the list of a kind has at most one of the two
  have hlists : ∀ listed : EntityKind, (first ++ v :: u :: last).filter (·.kind == listed) =
      (first ++ u :: v :: last).filter (·.kind == listed) := by
    intro listed
    refine filter_swap ?_ first last
    rw [hkind, hother, beq_eq_false_iff_ne, beq_eq_false_iff_ne]
    by_contra hboth
    rw [not_or, not_not, not_not] at hboth
    exact hne (hboth.1.trans hboth.2.symm)
  rw [Database.ofXml_eq, hdeclared y x other kind hy hx, bind_eq_ok_iff]
  refine ⟨found, hname, bind_eq_ok_iff.2 ⟨notNull?, hnotNull, bind_eq_ok_iff.2 ⟨_, hswapped, ?_⟩⟩⟩
  rw [hlists, hlists, hlists]
  rfl

theorem Schema.model_eq_ok_iff {root : Node} {m : Schema} : Schema.model root = .ok m
    ↔ root.name? = some "dbSchema"
      ∧ (root.childrenNamed "database").mapM Database.ofXml = .ok m.databases := by
  by_cases hname : root.name? = some "dbSchema"
  · rw [Schema.model, if_neg (not_not_intro hname), and_iff_right hname]
    constructor
    · intro h
      obtain ⟨databases, hread, h⟩ := bind_eq_ok_iff.1 h
      cases h
      exact hread
    · exact fun h => bind_eq_ok_iff.2 ⟨m.databases, h, rfl⟩
  · rw [Schema.model, if_pos hname]
    exact iff_of_false (fun h => nomatch h) (fun h => hname h.1)

/-- A document in which they do so is accepted as the same schema. -/
theorem Move.ofXml_eq_ok {a b : Node} (h : Move a b) {s : Schema} (hs : Schema.ofXml a = .ok s) :
    Schema.ofXml b = .ok s := by
  rw [Schema.ofXml] at hs ⊢
  obtain ⟨m, hm, hvalid⟩ := bind_eq_ok_iff.1 hs
  refine bind_eq_ok_iff.2 ⟨m, ?_, hvalid⟩
  obtain @⟨root, rootAttributes, attributes, before, after, start, rest, x, y, kind, other, hx, hy,
    hne⟩ := h
  have hdatabases : ∀ children, (Node.element root rootAttributes
        (before ++ .element "database" attributes children :: after)).childrenNamed "database" =
      before.filter (·.name? == some "database") ++ .element "database" attributes children
        :: after.filter (·.name? == some "database") := by
    intro children
    simp [Node.childrenNamed, Node.children, Node.name?]
  rw [Schema.model_eq_ok_iff, hdatabases] at hm ⊢
  refine ⟨hm.1, mapM_eq_ok_of_forall₂ (forall₂_replace ?_ ?_ _ _) hm.2⟩
  · exact fun _ _ h => h
  · exact fun _ h => Database.ofXml_swap hx hy hne h

/-! ## Documents between which edits lead -/

/-- Edits of a document in either direction leave what is read of it or why it is refused; its
attributes can always be put in another order. If entities are moved past those of other kinds as
well, an accepted document is still accepted, as the same schema. -/
theorem Schema.unknown_parts_ignored (a b : Node) :
    (∀ s, read? s = some a → a.Regular)
    ∧ (Relation.EqvGen (Edit .schema) a b →
      Schema.ofXml a = Schema.ofXml b
        ∧ ∀ s t, read? s = some a → read? t = some b → Schema.ofText s = Schema.ofText t)
    ∧ (Relation.EqvGen (fun x y => Edit .schema x y ∨ Move x y) a b →
      ∀ s, Schema.ofXml a = .ok s ↔ Schema.ofXml b = .ok s) := by
  refine ⟨fun s => regular_of_read?, ?_, ?_⟩
  · intro h
    have hread : Schema.ofXml a = Schema.ofXml b := by
      induction h with
      | rel x y hedit => exact hedit.agree.readsAlike
      | refl x => rfl
      | symm x y _ ih => exact ih.symm
      | trans x y z _ _ hxy hyz => exact hxy.trans hyz
    refine ⟨hread, fun s t hs ht => ?_⟩
    rw [Schema.ofText, Schema.ofText, hs, ht]
    exact hread
  · intro h s
    induction h with
    | rel x y hstep =>
      rcases hstep with hedit | hmove
      · rw [show Schema.ofXml x = Schema.ofXml y from hedit.agree.readsAlike]
      · exact ⟨hmove.ofXml_eq_ok, hmove.symm.ofXml_eq_ok⟩
    | refl x => rfl
    | symm x y _ ih => exact ih.symm
    | trans x y z _ _ hxy hyz => exact hxy.trans hyz

/-- An attribute without a name space. -/
def plainAttribute (name value : String) : Attribute :=
  { name, value }

/-- A document with the entities of one database. -/
def letterDocument (entities : List Node) : Node :=
  .element "dbSchema" [] [.element "database" [plainAttribute "name" "main"] entities]

def letterField : Node :=
  .element "field" [plainAttribute "name" "CODE", plainAttribute "jdbcDataType" "INTEGER"] []

def letterUnique : Node :=
  .element "unique" [] [.element "uniqueField" [plainAttribute "name" "CODE"] []]

/-- A table with these attributes beside its name. -/
def letterTable (attributes : List Attribute) (children : List Node) : Node :=
  .element "table" (attributes ++ [plainAttribute "name" "LETTER"]) children

def letterView : Node :=
  .element "view" [plainAttribute "name" "LETTER_VIEW"] [letterField]

/-- A table and a view. -/
def alphabetDocument : Node :=
  letterDocument [letterTable [] [letterField, letterUnique], letterView]

/-- The table with a comment in front of it, an attribute that is not known, and its unique group in
front of its field. -/
def annotatedDocument : Node :=
  letterDocument [.comment "of the alphabet",
    letterTable [plainAttribute "since" "1"] [letterUnique, letterField], letterView]

/-- The view in front of the table. -/
def reversedDocument : Node :=
  letterDocument [letterView, letterTable [] [letterField, letterUnique]]

/-- The same schema is read from all three documents. -/
theorem Schema.unknown_parts_ignored_alphabetDocument :
    Relation.EqvGen (Edit .schema) alphabetDocument annotatedDocument
      ∧ Move alphabetDocument reversedDocument
      ∧ ∃ s, Schema.ofXml annotatedDocument = .ok s ∧ Schema.ofXml reversedDocument = .ok s := by
  have hcomment : Edit .schema alphabetDocument
      (letterDocument [.comment "of the alphabet", letterTable [] [letterField, letterUnique],
        letterView]) :=
    .inside [] [] List.mem_cons_self rfl (.addChild [] _ (.comment _) (by decide))
  have hinTable : ∀ {table edited : Node}, Edit .entity table edited → table.name? = some "table" →
      Edit .schema (letterDocument [.comment "of the alphabet", table, letterView])
        (letterDocument [.comment "of the alphabet", edited, letterView]) := by
    intro table edited hedit hname
    refine .inside [] [] List.mem_cons_self rfl
      (.inside [.comment _] [_] List.mem_cons_self ?_ hedit)
    rw [Passage.takes, hname]
    decide
  have hattribute : Edit .entity (letterTable [] [letterField, letterUnique])
      (letterTable [plainAttribute "since" "1"] [letterField, letterUnique]) :=
    .addAttribute [] [plainAttribute "name" "LETTER"] _ (.inr (by decide))
  have hunique : Edit .entity (letterTable [plainAttribute "since" "1"] [letterField, letterUnique])
      (letterTable [plainAttribute "since" "1"] [letterUnique, letterField]) :=
    .fieldPastUnique [] [] rfl rfl
  have hedits : Relation.EqvGen (Edit .schema) alphabetDocument annotatedDocument :=
    .trans _ _ _ (.rel _ _ hcomment)
      (.trans _ _ _ (.rel _ _ (hinTable hattribute rfl)) (.rel _ _ (hinTable hunique rfl)))
  have hmove : Move alphabetDocument reversedDocument :=
    @Move.mk _ _ _ [] [] [] [] _ _ .table .view rfl rfl (by decide)
  have hread : Schema.ofXml alphabetDocument = .ok { databases := [
      { name := "main"
        tables := [{ kind := .table, name := "LETTER", uniqueGroups := [["CODE"]]
                     fields := [{ name := "CODE", type := .integer }] }]
        views := [{ kind := .view, name := "LETTER_VIEW"
                    fields := [{ name := "CODE", type := .integer }] }] }] } := by
    rfl
  obtain ⟨hsame, -⟩ := (unknown_parts_ignored _ _).2.1 hedits
  have hmoved := (unknown_parts_ignored _ _).2.2 (.rel _ _ (.inr hmove))
  exact ⟨hedits, hmove, _, hsame ▸ hread, (hmoved _).1 hread⟩

end SchemaForge
