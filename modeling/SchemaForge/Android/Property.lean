import SchemaForge.Android.Conversion
import SchemaForge.Code.JavaClass
import SchemaForge.Code.KotlinClass

namespace SchemaForge

/-! # Properties of records -/

namespace Column

/-- The Kotlin property of a column. -/
def kotlinProperty (c : Column) : KotlinProperty :=
  { name := c.variableName, type := c.typeName .kotlin, value := c.initial .kotlin, mutable := true }

/-- Whether a property must not hand out its value, because others could change it. -/
def isShared (c : Column) : Bool :=
  match c.content with
  | .date library => library.isMutable
  | _ => false

/-- The Java field of a column, with its accessors. The annotations tell whether it may be null. -/
def javaVariable (annotated : Bool) (c : Column) : JavaVariable :=
  let v := JavaVariable.withAccessors
    { name := c.variableName, type := c.typeName .java, value := c.initial .java, copied := c.isShared }
  if annotated then v.withNullability (if c.isNullable then .possible else .never) else v

end Column

end SchemaForge
