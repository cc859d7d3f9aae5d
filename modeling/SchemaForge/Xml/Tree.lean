import SchemaForge.Text.Blank

namespace SchemaForge

/-! # XML trees

The content of a document after reading: elements with their attributes and children, and the texts,
comments and instructions between them. An element is known by its local name. An attribute keeps
its name space, so that one with a prefix is never taken for one without.
-/

namespace Xml

/-- An attribute. The name space is absent for a name without a prefix. -/
structure Attribute where
  space : Option String := none
  name : String
  value : String
deriving DecidableEq, Repr, Inhabited

/-- A node of a document. -/
inductive Node where
  | element (name : String) (attributes : List Attribute) (children : List Node)
  | text (content : String)
  | comment (content : String)
  | instruction (target content : String)
deriving Repr, Inhabited

namespace Node

/-- The local name of an element; nothing for any other node. -/
def name? : Node → Option String
  | element name _ _ => some name
  | _ => none

/-- The attributes of an element. -/
def attributes : Node → List Attribute
  | element _ attributes _ => attributes
  | _ => []

/-- The children of an element. -/
def children : Node → List Node
  | element _ _ children => children
  | _ => []

/-- The children that are elements with this name. -/
def childrenNamed (name : String) (node : Node) : List Node :=
  node.children.filter (·.name? == some name)

/-- The trimmed value of the attribute without prefix that has this name; nothing when there is
none or when it is blank. -/
def attribute? (name : String) (node : Node) : Option String :=
  Text.filled? <|
    (node.attributes.find? fun a => a.space.isNone && a.name == name).map (·.value)

end Node

end Xml

end SchemaForge
