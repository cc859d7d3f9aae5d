import SchemaForge.Schema.Validation
import SchemaForge.Xml.Reader

namespace SchemaForge

/-! # Schema documents

A schema is written as an XML document:

    <dbSchema>
      <database name="main" fieldsDefaultNotNull="true">
        <table name="INDIVIDUAL">
          <field name="_id" jdbcDataType="BIGINT" primaryKey="true" increment="true"/>
          <field name="NAME" jdbcDataType="VARCHAR" size="255"/>
          <unique><uniqueField name="NAME"/></unique>
        </table>
        <view name="INDIVIDUAL_VIEW">…</view>
        <query name="INDIVIDUAL_QUERY">…</query>
      </database>
    </dbSchema>

Elements and attributes that are not known are passed over, and an attribute without a value counts
as absent. Whether a column refuses nulls is settled while reading: by its own `notNull`, else by
the `fieldsDefaultNotNull` of its entity, else by that of its database. A foreign key to an
enumeration always refuses them.
-/

open Xml

/-! ## Attributes -/

/-- The value of an attribute that must be there. -/
def Xml.Node.required (element name : String) (node : Node) : Except Fault String :=
  match node.attribute? name with
  | some value => .ok value
  | none => .error (.missingAttribute element name)

/-- The value of a truth attribute. -/
def Xml.Node.truth? (name : String) (node : Node) : Except Fault (Option Bool) :=
  match node.attribute? name with
  | none => .ok none
  | some value =>
    if Text.sameName value "true" then .ok (some true)
    else if Text.sameName value "false" then .ok (some false)
    else .error (.invalidAttribute name value)

/-- The number that decimal digits denote. -/
def Chars.decimal? (cs : List Char) : Option Nat :=
  if cs.isEmpty || !cs.all Char.isDigit then none
  else some (cs.foldl (fun n c => 10 * n + (c.toNat - 48)) 0)

/-- The number that a text denotes: digits, with or without a plus sign before them, for a number
below 2³². -/
def Text.word32? (s : String) : Option UInt32 := do
  let n ← Chars.decimal? (match s.toList with | '+' :: cs => cs | cs => cs)
  if n < 0x100000000 then some (UInt32.ofNat n) else none

/-- The value of a number attribute. -/
def Xml.Node.word32? (name : String) (node : Node) : Except Fault (Option UInt32) :=
  match node.attribute? name with
  | none => .ok none
  | some value =>
    match Text.word32? value with
    | some n => .ok (some n)
    | none => .error (.invalidAttribute name value)

/-- The kind of foreign key that a field element names. -/
def Xml.Node.foreignKind (node : Node) : Except Fault ForeignKeyKind :=
  match node.attribute? "foreignKeyType" with
  | none => .ok .ignore
  | some value =>
    match ForeignKeyKind.ofText? value with
    | some kind => .ok kind
    | none => .error (.invalidAttribute "foreignKeyType" value)

/-! ## Elements -/

/-- The column type that a field element names. -/
def Xml.Node.columnType (node : Node) : Except Fault ColumnType := do
  let text ← node.required "field" "jdbcDataType"
  match ColumnType.ofText? text with
  | some type => .ok type
  | none => .error (.unknownType text)

/-- Reads a field element; `notNull` is the default of the elements around it. -/
def Field.ofXml (notNull : Bool) (node : Node) : Except Fault Field := do
  let name ← node.required "field" "name"
  let type ← node.columnType
  let size? ← node.word32? "size"
  let decimals? ← node.word32? "decimals"
  let primaryKey ← node.truth? "primaryKey"
  let increment ← node.truth? "increment"
  let unique ← node.truth? "unique"
  let indexed ← node.truth? "index"
  let foreignKind ← node.foreignKind
  let ownNotNull ← node.truth? "notNull"
  return {
    name, type, size?, decimals?, foreignKind
    givenVariable? := node.attribute? "varName"
    notNull := foreignKind == .enumeration || ownNotNull.getD notNull
    defaultText := (node.attribute? "defaultValue").getD ""
    primaryKey := primaryKey.getD false
    increment := increment.getD false
    unique := unique.getD false
    indexed := indexed.getD false
    foreignTable? := node.attribute? "foreignKeyTable"
    foreignField? := node.attribute? "foreignKeyField"
    enumClass? := node.attribute? "enumerationClass"
    enumDefault? := node.attribute? "enumerationDefault"
    enumerations := (node.attribute? "enumerations").getD "" }

/-- Reads the column names of a unique element. -/
def Entity.uniqueGroup (node : Node) : Except Fault (List String) :=
  (node.childrenNamed "uniqueField").mapM (·.required "uniqueField" "name")

/-- Reads the element of an entity; `notNull?` is the default of its database. -/
def Entity.ofXml (notNull? : Option Bool) (kind : EntityKind) (node : Node) :
    Except Fault Entity := do
  let name ← node.required kind.word "name"
  let readOnly ← node.truth? "readOnly"
  let fieldsNotNull? ← node.truth? "fieldsDefaultNotNull"
  let notNull := (fieldsNotNull?.or notNull?).getD false
  let fields ← (node.childrenNamed "field").mapM (Field.ofXml notNull)
  let groups ← (node.childrenNamed "unique").mapM Entity.uniqueGroup
  return {
    kind, name, fieldsNotNull?, fields
    class? := node.attribute? "className"
    enumerations := (node.attribute? "enumerations").getD ""
    readOnly := readOnly.getD false
    uniqueGroups := groups.filter (!·.isEmpty) }

/-- The kind of entity that an element declares. -/
def EntityKind.ofElement? (node : Node) : Option EntityKind :=
  [EntityKind.table, .view, .query].find? (node.name? == some ·.word)

/-- Reads a database element. -/
def Database.ofXml (node : Node) : Except Fault Database := do
  let name ← node.required "database" "name"
  let fieldsNotNull? ← node.truth? "fieldsDefaultNotNull"
  let declared := node.children.filterMap fun child =>
    (EntityKind.ofElement? child).map fun kind => (kind, child)
  let entities ← declared.mapM fun (kind, child) => Entity.ofXml fieldsNotNull? kind child
  return {
    name, fieldsNotNull?
    tables := entities.filter (·.kind == .table)
    views := entities.filter (·.kind == .view)
    queries := entities.filter (·.kind == .query) }

/-- Reads the root element of a schema document, without checking that the schema is valid. -/
def Schema.model (root : Node) : Except Fault Schema := do
  if root.name? ≠ some "dbSchema" then throw (.unexpectedRoot (root.name?.getD ""))
  return { databases := ← (root.childrenNamed "database").mapM Database.ofXml }

/-- Reads the root element of a schema document; the schema is valid. -/
def Schema.ofXml (root : Node) : Except Fault Schema := do
  let schema ← Schema.model root
  schema.validate
  return schema

/-- Reads a schema document. -/
def Schema.ofText (text : String) : Except Fault Schema :=
  match Xml.read? text with
  | some root => Schema.ofXml root
  | none => .error .malformedXml

end SchemaForge
