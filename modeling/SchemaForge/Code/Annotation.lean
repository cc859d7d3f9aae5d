import SchemaForge.Fault

namespace SchemaForge

/-! # Checked parts of declarations

Annotations, the names of thrown exceptions and of implemented interfaces, and the literals of enums
are given as texts and checked before they become part of a declaration.
-/

namespace Code

/-- An annotation: the trimmed text, with an at sign before it if it has none. -/
def annotation (s : String) : Except Fault String :=
  let text := Text.trim s
  if text = "" ∨ text = "@" then .error .annotationBlank
  else if text.toList.head? = some '@' then .ok text
  else .ok ("@" ++ text)

/-- The trimmed name of an exception class. -/
def exception (s : String) : Except Fault String :=
  if Text.isBlank s then .error .blankException else .ok (Text.trim s)

/-- The trimmed name of an interface. -/
def interface (s : String) : Except Fault String :=
  if Text.isBlank s then .error .blankInterface else .ok (Text.trim s)

/-- The annotations of a declaration. -/
def annotations (texts : List String) : Except Fault (List String) :=
  texts.mapM annotation

/-- The literals of an enum, which has one at least. -/
def literals (name : String) (values : List String) : Except Fault (List String) :=
  if values.isEmpty then .error (.emptyEnum name) else .ok values

/-- Adds the trimmed name of a class to the imports; blank and repeated names are passed over. -/
def addImport (imports : List String) (name : String) : List String :=
  let name := Text.trim name
  if name = "" ∨ name ∈ imports then imports else imports ++ [name]

/-- The imports that a list of class names gives. -/
def imports (names : List String) : List String :=
  names.foldl addImport []

/-- The keyword when a property holds. -/
def keyword (holds : Bool) (word : String) : String :=
  if holds then word ++ " " else ""

/-- Whether a text says nothing. -/
def orNothing (s : String) (shown : String → String) : String :=
  if Text.isBlank s then "" else shown s

end Code

end SchemaForge
