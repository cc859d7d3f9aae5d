import SchemaForge.Android.Library
import SchemaForge.Android.Resolved
import SchemaForge.Code.JavaClass
import SchemaForge.Code.KotlinClass

namespace SchemaForge

/-! # Enumerations

The enum that stands for an enumeration table. Its literals have the order of the rows, so that the
key of a row is the ordinal of its literal. In Java the enum knows the texts that are shown.
-/

namespace Resolved

/-- The names of the literals. -/
def literals (r : Resolved) : List String :=
  r.entity.enumItems.map (·.name)

/-- The enum in Kotlin. -/
def kotlinEnumeration (r : Resolved) : KotlinClass :=
  { name := r.className, package := r.package, kind := .enum r.literals
    fileHeader := generatedHeader (r.className ++ ".kt"), annotations := [Library.quiet] }

/-- The statements that enter the text of a literal. -/
def entry (item : EnumItem) : String :=
  "enumStringMap.put(" ++ item.name ++ ", " ++ Literal.quote .java item.value ++ ");\n"
    ++ "stringList.add(" ++ Literal.quote .java item.value ++ ");\n"

/-- The enum in Java. -/
def javaEnumeration (r : Resolved) : JavaClass :=
  let name := r.className
  { name, package := r.package, kind := .enum r.literals
    fileHeader := generatedHeader (name ++ ".java"), annotations := [Library.quiet]
    imports := Code.imports ["java.util.Map", "java.util.EnumMap", "java.util.List",
      "java.util.ArrayList", "java.util.Collections"]
    constants :=
      [{ JavaVariable.constant "enumStringMap" ("Map<" ++ name ++ ", String>")
          ("new EnumMap<" ++ name ++ ", String>(" ++ name ++ ".class)") with access := .owner },
        { JavaVariable.constant "stringList" "List<String>" "new ArrayList<String>()" with
          access := .owner }]
    staticInit := Text.trimEnd (Text.concat (r.entity.enumItems.map entry))
    methods :=
      [{ name := "getString", result := "String", isStatic := true
         parameters := [{ name := "key", type := name }], content := "return enumStringMap.get(key);" },
        { name := "getList", result := "List<String>", isStatic := true
          content := "return Collections.unmodifiableList(stringList);" }] }

end Resolved

end SchemaForge
