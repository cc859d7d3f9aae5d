import SchemaForge.Xml.Markup
import SchemaForge.Xml.Tree

namespace SchemaForge

/-! # Reading XML documents

The parts of a document are matched into a tree. The elements that have begun and not ended are kept
on a stack, each with the name spaces in scope in it.
-/

namespace Xml

/-! ## Name spaces -/

/-- The prefixes in scope, and what they stand for. -/
abbrev Scope := List (String × String)

/-- A name that begins with the site of the standard. -/
def standardName (path : String) : String :=
  "http:" ++ "//www.w3.org/" ++ path

/-- The name space that the prefix `xml` always stands for. -/
def xmlSpace : String :=
  standardName "XML/1998/namespace"

/-- The name space of declarations of name spaces, which no prefix may stand for. -/
def declarationSpace : String :=
  standardName "2000/xmlns/"

/-- Adds the declaration of a prefix to those of the same tag. -/
def declarePrefix? (declared : Scope) (space uri : String) : Option Scope :=
  if uri = declarationSpace ∨ (space == "xml") != (uri == xmlSpace) then none
  else if declared.any (·.1 == space) then none
  else if uri = xmlSpace then some declared
  else some (declared ++ [(space, uri)])

/-- The declarations of name spaces among the attributes of a tag. -/
def declarations? : Scope → List (QName × String) → Option Scope
  | declared, [] => some declared
  | declared, (name, value) :: rest =>
    if name.space = "xmlns" then do declarations? (← declarePrefix? declared name.name value) rest
    else if name.name = "xmlns" ∧ (value = xmlSpace ∨ value = declarationSpace) then none
    else declarations? declared rest

/-- The attributes of a tag that declare no name space. -/
def ownAttributes (attributes : List (QName × String)) : List (QName × String) :=
  attributes.filter fun (name, _) => name.space ≠ "xmlns" && name.name ≠ "xmlns"

/-- The name space of an attribute; none without a prefix. -/
def attributeSpace? (scope : Scope) (space : String) : Option (Option String) :=
  if space = "xml" then some (some xmlSpace)
  else if space = "" then some none
  else (scope.lookup space).map some

/-- The attributes of an element. No two may have the same name in the same name space. -/
def resolve? (scope : Scope) (before : List Attribute) :
    List (QName × String) → Option (List Attribute)
  | [] => some before
  | (name, value) :: rest => do
    let space ← attributeSpace? scope name.space
    if before.any fun a => a.space == space && a.name == name.name then none
    resolve? scope (before ++ [⟨space, name.name, value⟩]) rest

/-! ## Elements -/

/-- An element that has begun and not ended. -/
structure OpenElement where
  name : QName
  scope : Scope
  attributes : List Attribute
  children : List Node

/-- The element with what has been read of it. -/
def OpenElement.close (e : OpenElement) : Node :=
  .element e.name.name e.attributes e.children

/-- Begins an element inside a scope. -/
def OpenElement.ofTag? (scope : Scope) (name : QName) (attributes : List (QName × String)) :
    Option OpenElement := do
  let scope := (← declarations? [] attributes) ++ scope
  if name.space = "xmlns" then none
  if name.space ≠ "" && (scope.lookup name.space).isNone then none
  return ⟨name, scope, ← resolve? scope [] (ownAttributes attributes), []⟩

/-- What has been read of a document. -/
inductive Progress where
  | before
  | inside (innermost : OpenElement) (others : List OpenElement)
  | after (root : Node)

namespace Progress

/-- Adds a complete node to the innermost element; the first complete element is the root. -/
def add (node : Node) : List OpenElement → Progress
  | [] => .after node
  | e :: others => .inside { e with children := e.children ++ [node] } others

/-- The elements that have begun and not ended, the innermost first. -/
def openElements : Progress → List OpenElement
  | inside e others => e :: others
  | _ => []

/-- Begins an element, and ends it if its tag says so. -/
def start? (p : Progress) (name : QName) (attributes : List (QName × String)) (closed : Bool) :
    Option Progress := do
  let scope := (p.openElements.head?.map (·.scope)).getD []
  let e ← OpenElement.ofTag? scope name attributes
  return if closed then add e.close p.openElements else .inside e p.openElements

/-- Reads one part of the document. Outside the root there are only blanks, comments and
instructions. -/
def step (p : Progress) (part : Markup) : Option Progress :=
  match p, part with
  | after _, .start _ _ _ => none
  | p, .start name attributes closed => p.start? name attributes closed
  | inside e others, .stop name => if e.name = name then some (add e.close others) else none
  | inside e others, .text raw =>
    (Chars.tokens? textChar? raw).map fun content =>
      add (.text (String.ofList content)) (e :: others)
  | inside e others, .literal content =>
    some (add (.text (String.ofList content)) (e :: others))
  | inside e others, .comment content =>
    some (add (.comment (String.ofList content)) (e :: others))
  | inside e others, .instruction target content =>
    some (add (.instruction target (String.ofList content)) (e :: others))
  | p, .text raw => if raw.all isSpace then some p else none
  | p, .comment _ => some p
  | p, .instruction _ _ => some p
  | _, _ => none

end Progress

/-- The text without the mark of its byte order. -/
def skipMark (cs : List Char) : List Char :=
  match cs with
  | c :: rest => if c.toNat = 0xFEFF then rest else cs
  | [] => []

/-- Reads a document: its root element, or nothing if the document is not well formed. -/
def read? (s : String) : Option Node := do
  let body ← afterDeclaration? (skipMark s.toList)
  match ← (← Chars.tokens? markup? body).foldlM Progress.step .before with
  | .after root => some root
  | _ => none

end Xml

end SchemaForge
