import SchemaForge.Android.BaseRecord
import SchemaForge.Android.Constants
import SchemaForge.Android.Enumeration
import SchemaForge.Android.JavaLifecycle
import SchemaForge.Android.KotlinLifecycle
import SchemaForge.Android.Manager
import SchemaForge.Android.Record
import SchemaForge.Files.Source
import SchemaForge.Schema.Validation

namespace SchemaForge

/-! # Generation

The classes of a schema are made one after the other, each from its entity resolved anew and put
together from checked parts, and the first fault ends the run. An entity gives five files, an
enumeration table two; behind them are the files for all databases.
-/

/-- A class of either language. -/
inductive SourceClass where
  | kotlin (c : KotlinClass)
  | java (c : JavaClass)
deriving DecidableEq, Repr

namespace SourceClass

/-- The name of the file that holds the class. -/
def fileName : SourceClass → String
  | kotlin c => c.fileName
  | java c => c.fileName

/-- The package of the class. -/
def package : SourceClass → String
  | kotlin c => c.package
  | java c => c.package

/-- The class put together from its parts, each of which is checked. -/
def assembled : SourceClass → Except Fault SourceClass
  | kotlin c => return .kotlin (← c.assembled)
  | java c => return .java (← c.assembled)

/-- The text of the source file. -/
def render (style : Style) : SourceClass → String
  | kotlin c => c.render style
  | java c => c.render style

end SourceClass

/-- A class in its directory. -/
structure Artifact where
  directory : String
  policy : Policy
  source : SourceClass
deriving DecidableEq, Repr

/-- The path of the file that holds the class. -/
def Artifact.path (a : Artifact) : String :=
  Path.join a.directory a.source.fileName

/-- The file of an artifact. -/
def Artifact.file (style : Style) (a : Artifact) : SourceFile :=
  { path := a.path, policy := a.policy, contents := a.source.render style }

/-- The artifact of a class that is put together for a directory. -/
def Artifact.of (directory : String) (policy : Policy) (source : SourceClass) :
    Except Fault Artifact :=
  return ⟨directory, policy, ← source.assembled⟩

/-- A class that is made for an entity, and what becomes of its file. -/
structure Builder where
  policy : Policy
  make : Resolved → SourceClass

namespace Scope

/-- The classes of an entity, those that every run writes anew and those that are edited. -/
def builders (s : Scope) : List Builder :=
  match s.language, s.entity.isEnumeration with
  | .kotlin, true =>
    [⟨.overwrite, fun r => .kotlin r.kotlinConstants⟩,
      ⟨.overwrite, fun r => .kotlin r.kotlinEnumeration⟩]
  | .java, true =>
    [⟨.overwrite, fun r => .java r.javaConstants⟩,
      ⟨.overwrite, fun r => .java r.javaEnumeration⟩]
  | .kotlin, false =>
    [⟨.overwrite, fun r => .kotlin r.kotlinConstants⟩,
      ⟨.overwrite, fun r => .kotlin r.kotlinBaseRecord⟩,
      ⟨.createOnly, fun r => .kotlin r.kotlinRecord⟩,
      ⟨.overwrite, fun r => .kotlin r.kotlinBaseManager⟩,
      ⟨.createOnly, fun r => .kotlin r.kotlinManager⟩]
  | .java, false =>
    [⟨.overwrite, fun r => .java r.javaConstants⟩,
      ⟨.overwrite, fun r => .java r.javaBaseRecord⟩,
      ⟨.createOnly, fun r => .java r.javaRecord⟩,
      ⟨.overwrite, fun r => .java r.javaBaseManager⟩,
      ⟨.createOnly, fun r => .java r.javaManager⟩]

/-- Makes a class of an entity, for which the entity is resolved. -/
def build (s : Scope) (b : Builder) : Except Fault Artifact := do
  let r ← s.resolve
  Artifact.of s.directory b.policy (b.make r)

/-- The artifacts of an entity. -/
def artifacts (s : Scope) : Except Fault (List Artifact) :=
  s.builders.mapM s.build

end Scope

namespace Run

/-- The classes for all databases together. -/
def sharedSources (run : Run) (s : Schema) : List (Policy × SourceClass) :=
  match run.options.language with
  | .kotlin =>
    [(.overwrite, .kotlin (Lifecycle.kotlinCreation run s)),
      (.overwrite, .kotlin (Lifecycle.kotlinNames run s)),
      (.createOnly, .kotlin (Lifecycle.kotlinUpgrades run s)),
      (.createOnly, .kotlin (Lifecycle.kotlinConfig run s))]
  | .java =>
    [(.overwrite, .java (Lifecycle.javaCreation run s)),
      (.overwrite, .java (Lifecycle.javaNames run s)),
      (.createOnly, .java (Lifecycle.javaUpgrades run s)),
      (.createOnly, .java (Lifecycle.javaConfig run s))]

/-- The class that holds the managers of a database. -/
def holder (run : Run) (d : Database) : SourceClass :=
  match run.options.language with
  | .kotlin => .kotlin (Lifecycle.kotlinHolder run d)
  | .java => .java (Lifecycle.javaHolder run d)

/-- The databases that get a holder; injected managers need none. -/
def heldDatabases (run : Run) (s : Schema) : List Database :=
  if run.options.injection then [] else s.databases

/-- The artifacts that belong to no entity. -/
def lifecycleArtifacts (run : Run) (s : Schema) : Except Fault (List Artifact) := do
  let shared ← (run.sharedSources s).mapM fun (policy, source) => Artifact.of "" policy source
  let holders ← (run.heldDatabases s).mapM fun d =>
    Artifact.of (run.directoryOf d) .overwrite (run.holder d)
  return shared ++ holders

/-- The entities of a schema, each in its place, in the order of generation. -/
def scopes (run : Run) (s : Schema) : List Scope :=
  s.databases.flatMap fun d => d.entities.map (Scope.mk run d)

/-- The artifacts of an entity, with a failure that tells where it happened. -/
def entityArtifacts (scope : Scope) : Except Failure (List Artifact) :=
  during (.generating scope.entity.kind scope.entity.name) (failing scope.artifacts)

/-- The artifacts of a schema. -/
def artifacts (run : Run) (s : Schema) : Except Failure (List Artifact) := do
  let entities ← (run.scopes s).mapM entityArtifacts
  let lifecycle ← failing (run.lifecycleArtifacts s)
  return entities.flatten ++ lifecycle

/-- The files of a schema. -/
def generate (run : Run) (s : Schema) : Except Failure (List SourceFile) := do
  return (← run.artifacts s).map (·.file run.style)

/-- The files of a schema that is valid. -/
def generateValid (run : Run) (s : Schema) : Except Failure (List SourceFile) := do
  during .validating (failing s.validate)
  run.generate s

end Run

end SchemaForge
