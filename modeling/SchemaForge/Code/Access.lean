import SchemaForge.Language

namespace SchemaForge

/-! # Visibility -/

/-- Who may use a declaration. -/
inductive Access where
  | everyone
  | subclasses
  /-- The other classes of the module in Kotlin, and of the package in Java. -/
  | neighbours
  | owner
deriving DecidableEq, Repr, Inhabited

/-- The keyword for an access, with the blank behind it. Kotlin has none for everyone and Java none
for the package. -/
def Access.keyword (l : Language) : Access → String
  | everyone =>
    match l with
    | .kotlin => ""
    | .java => "public "
  | subclasses => "protected "
  | neighbours =>
    match l with
    | .kotlin => "internal "
    | .java => ""
  | owner => "private "

end SchemaForge
