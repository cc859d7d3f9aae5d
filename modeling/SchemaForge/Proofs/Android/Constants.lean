import Mathlib.Data.List.Nodup
import SchemaForge.Proofs.Android.Statements
import SchemaForge.Proofs.Literal.Quoted
import SchemaForge.Proofs.Schema.Validity

namespace SchemaForge

/-! # The constants that are declared

Which constants the class of an entity's constants declares, in either language, and what those of
its columns hold. Three kinds of names meet in one class: fixed ones, the names of columns and those
of columns with their table. They are kept apart by what they begin with, and two columns by the
validity of the entity.
-/

/-! ## Names -/

namespace Field

/-- The constant that holds the name of the column. -/
def columnConstant (f : Field) : String :=
  "C_" ++ f.constantName

/-- The constant that holds the name of the column with its table before it. -/
def fullColumnConstant (f : Field) : String :=
  "FULL_C_" ++ f.constantName

end Field

theorem Column.fullConstant_eq (c : Column) : c.fullConstant = c.field.fullColumnConstant := by
  rw [fullConstant, constant, ← String.append_assoc]
  rfl

/-- Holds for a name that begins like that of the constant of a column. -/
def namesColumn (name : String) : Bool :=
  Text.beginsWith "C_" name || Text.beginsWith "FULL_C_" name

/-- The constants of an entity before those of its columns. -/
def EntityKind.leadingConstantNames (kind : EntityKind) (hasKey : Bool) : List String :=
  ["DATABASE"] ++ (if kind = .query then [] else ["TABLE", "FULL_TABLE"])
    ++ (if hasKey then ["PRIMARY_KEY_COLUMN"] else [])

/-- The constants of an entity behind those of its columns. -/
def EntityKind.trailingConstantNames (kind : EntityKind) : List String :=
  (if kind = .table then ["CREATE_TABLE", "DROP_TABLE", "INSERT_STATEMENT", "UPDATE_STATEMENT"]
    else []) ++ ["ALL_COLUMNS", "ALL_COLUMNS_FULL"]

/-- The fixed names are pairwise different, and none is like that of a column. -/
theorem EntityKind.nodup_constantNames (kind : EntityKind) (hasKey : Bool) :
    (kind.leadingConstantNames hasKey ++ kind.trailingConstantNames).Nodup
      ∧ ∀ name ∈ kind.leadingConstantNames hasKey ++ kind.trailingConstantNames,
        namesColumn name = false := by
  cases kind <;> cases hasKey <;> decide

namespace Entity

/-- The constants of the columns, in their order. -/
def columnConstantNames (e : Entity) : List String :=
  e.fields.flatMap fun f => [f.columnConstant, f.fullColumnConstant]

/-- The constants of an entity, in order. -/
def constantNames (e : Entity) : List String :=
  e.kind.leadingConstantNames (e.fields.any (·.primaryKey)) ++ e.columnConstantNames
    ++ e.kind.trailingConstantNames

theorem namesColumn_of_mem {e : Entity} {name : String} (h : name ∈ e.columnConstantNames) :
    namesColumn name = true := by
  obtain ⟨f, -, hname⟩ := List.mem_flatMap.1 h
  simp only [List.mem_cons, List.not_mem_nil, or_false] at hname
  rcases hname with rfl | rfl
  · simp [namesColumn, Text.beginsWith, Field.columnConstant]
  · simp [namesColumn, Text.beginsWith, Field.fullColumnConstant]

/-- Columns with different constants have different names with and without their table. -/
theorem nodup_columnConstantNames {e : Entity} (h : (e.fields.map (·.constantName)).Nodup) :
    e.columnConstantNames.Nodup := by
  have hprefixes : ∀ f g : Field, f.columnConstant ≠ g.fullColumnConstant := by
    intro f g hsame
    have hlist := congrArg String.toList hsame
    simp [Field.columnConstant, Field.fullColumnConstant] at hlist
  rw [columnConstantNames, List.nodup_flatMap]
  refine ⟨fun f _ => by simpa using hprefixes f f, (List.pairwise_map.1 h).imp fun {f g} hne => ?_⟩
  have hcolumn : f.columnConstant ≠ g.columnConstant := by
    simpa [Field.columnConstant] using hne
  have hfull : f.fullColumnConstant ≠ g.fullColumnConstant := by
    simpa [Field.fullColumnConstant] using hne
  simp [Function.onFun, hprefixes g f, (hprefixes f g).symm, hcolumn.symm, hfull.symm]

/-- The constants of a valid entity have different names. -/
theorem nodup_constantNames {e : Entity} (h : e.validate = .ok ()) : e.constantNames.Nodup := by
  obtain ⟨hfixed, hapart⟩ := e.kind.nodup_constantNames (e.fields.any (·.primaryKey))
  have hcolumns := nodup_columnConstantNames (nodup_constantNames_of_validate h)
  have hperm : e.constantNames.Perm (e.columnConstantNames
      ++ (e.kind.leadingConstantNames (e.fields.any (·.primaryKey))
        ++ e.kind.trailingConstantNames)) := by
    rw [constantNames, ← List.append_assoc]
    exact List.perm_append_comm.append_right _
  rw [hperm.nodup_iff, List.nodup_append]
  refine ⟨hcolumns, hfixed, ?_⟩
  intro name hname fixed hmem hsame
  have hlike := namesColumn_of_mem hname
  rw [hsame, hapart fixed hmem] at hlike
  cases hlike

end Entity

/-! ## Declarations -/

/-- The names of the constants of a class. -/
def SourceClass.constantNames (c : SourceClass) : List String :=
  match c with
  | .kotlin c => c.constants.map (·.name)
  | .java c => c.constants.map (·.name)

/-- The expression for an array of constants. -/
def Language.arrayOf (l : Language) (constants : List String) : String :=
  match l with
  | .kotlin => "arrayOf(" ++ ", ".intercalate constants ++ ")"
  | .java => "new String[]\x7b\n" ++ ",\n".intercalate (constants.map ("\t" ++ ·)) ++ "\x7d"

theorem Constant.expression_list (l : Language) (name : String) (constants : List String) :
    (Constant.mk name (.list constants)).expression l = l.arrayOf constants := by
  cases l <;> rfl

namespace Resolved

variable {s : Scope} {r : Resolved}

theorem constantNames_constantsSource :
    r.constantsSource.constantNames = r.constants.map (·.name) := by
  unfold constantsSource SourceClass.constantNames
  cases r.language <;> simp [kotlinConstants, javaConstants, Function.comp_def]

/-- A constant whose name no other has is the one that is found by its name. -/
theorem constantValues_of_mem_constants (hdistinct : (r.constants.map (·.name)).Nodup)
    {c : Constant} (h : c ∈ r.constants) :
    r.constantsSource.constantValues c.name = [c.expression r.language] := by
  have honly : r.constants.filter (·.name = c.name) = [c] := by
    have hsame : ∀ d ∈ r.constants, decide (d.name = c.name) = decide (d = c) := by
      intro d hd
      have hinjective : d.name = c.name → d = c := List.inj_on_of_nodup_map hdistinct hd h
      rw [decide_eq_decide]
      exact ⟨hinjective, fun heq => congrArg Constant.name heq⟩
    rw [List.filter_congr hsame, List.filter_eq,
      List.count_eq_one_of_mem (List.Nodup.of_map _ hdistinct) h, List.replicate_one]
  rw [constantValues_eq, honly, List.map_singleton]

/-- There is a key column when a field is a primary key. -/
theorem isSome_key? (h : s.resolve = .ok r) :
    r.key?.isSome = s.entity.fields.any (·.primaryKey) := by
  obtain ⟨-, hcolumns, -⟩ := Scope.resolve_eq_ok_iff.1 h
  rw [key?, List.isSome_find?, ← Scope.map_field_of_mapM hcolumns, List.any_map]
  rfl

theorem map_name_tableConstants :
    r.tableConstants.map (·.name) =
      if r.entity.kind = .query then [] else ["TABLE", "FULL_TABLE"] := by
  unfold tableConstants
  split <;> rfl

theorem map_name_keyConstants (h : s.resolve = .ok r) :
    r.keyConstants.map (·.name) =
      if s.entity.fields.any (·.primaryKey) then ["PRIMARY_KEY_COLUMN"] else [] := by
  rw [← isSome_key? h, keyConstants]
  cases r.key? <;> rfl

theorem map_name_columnConstants (h : s.resolve = .ok r) :
    r.columnConstants.map (·.name) = s.entity.columnConstantNames := by
  obtain ⟨-, hcolumns, -⟩ := Scope.resolve_eq_ok_iff.1 h
  rw [Entity.columnConstantNames, ← Scope.map_field_of_mapM hcolumns, List.flatMap_map,
    columnConstants, List.map_flatMap]
  simp only [List.map_cons, List.map_nil, Column.fullConstant_eq]
  rfl

theorem map_name_statementConstants :
    r.statementConstants.map (·.name) = if r.entity.kind = .table then
      ["CREATE_TABLE", "DROP_TABLE", "INSERT_STATEMENT", "UPDATE_STATEMENT"] else [] := by
  rw [statementConstants, Entity.isTable]
  simp only [beq_iff_eq]
  split <;> rfl

/-- The constants are those of the entity, whatever its columns are resolved to. -/
theorem map_name_constants (h : s.resolve = .ok r) :
    r.constants.map (·.name) = s.entity.constantNames := by
  have hentity : r.entity = s.entity := by rw [(Scope.resolve_eq_ok_iff.1 h).1]
  simp only [constants, List.map_append, map_name_tableConstants, map_name_keyConstants h,
    map_name_columnConstants h, map_name_statementConstants, hentity, Entity.constantNames,
    EntityKind.leadingConstantNames, EntityKind.trailingConstantNames, List.append_assoc]
  rfl

end Resolved

/-- The constants that a class declares are those of an entity, each once, and those of its columns
hold their names. -/
structure Entity.ConstantsDeclared (e : Entity) (l : Language) (constants : SourceClass) :
    Prop where
  /-- They are declared in this order. -/
  names : constants.constantNames = e.constantNames
  distinct : constants.constantNames.Nodup
  /-- The constant of a column stands for the name of its field. -/
  columns : ∀ f ∈ e.fields, ∃ literal, constants.constantValues f.columnConstant = [literal]
    ∧ Literal.decode? l literal = some f.name
  /-- The other one stands for that name with the name of the entity before it. -/
  fullColumns : ∀ f ∈ e.fields, ∃ literal,
    constants.constantValues f.fullColumnConstant = [literal]
      ∧ Literal.decode? l literal = some (e.name ++ "." ++ f.name)
  /-- The arrays list the constants of the columns in the order of the fields. -/
  allColumns : constants.constantValues "ALL_COLUMNS" =
    [l.arrayOf (e.fields.map (·.columnConstant))]
  allColumnsFull : constants.constantValues "ALL_COLUMNS_FULL" =
    [l.arrayOf (e.fields.map (·.fullColumnConstant))]

theorem Resolved.constantsDeclared {s : Scope} {r : Resolved} (h : s.resolve = .ok r)
    (hvalid : s.entity.validate = .ok ()) :
    s.entity.ConstantsDeclared s.language r.constantsSource := by
  obtain ⟨hscope, hcolumns, -⟩ := Scope.resolve_eq_ok_iff.1 h
  have hlanguage : r.language = s.language := by rw [hscope]
  have hfields : r.columns.map (·.field) = s.entity.fields := Scope.map_field_of_mapM hcolumns
  have hnames : r.constants.map (·.name) = s.entity.constantNames := map_name_constants h
  have hdistinct : (r.constants.map (·.name)).Nodup := by
    rw [hnames]
    exact Entity.nodup_constantNames hvalid
  have hvalue : ∀ c ∈ r.constants,
      r.constantsSource.constantValues c.name = [c.expression s.language] := by
    intro c hc
    rw [constantValues_of_mem_constants hdistinct hc, hlanguage]
  -- the two constants of a field are those of the column that it is resolved to
  have hcolumn : ∀ f ∈ s.entity.fields,
      ⟨f.columnConstant, .text f.name⟩ ∈ r.constants
        ∧ ⟨f.fullColumnConstant, .text (s.entity.name ++ "." ++ f.name)⟩ ∈ r.constants := by
    intro f hf
    rw [← hfields] at hf
    obtain ⟨c, hc, rfl⟩ := List.mem_map.1 hf
    have hdeclared : ∀ d, d ∈ r.columnConstants → d ∈ r.constants := by
      intro d hd
      simp [constants, hd]
    constructor
    · exact hdeclared _ (List.mem_flatMap.2 ⟨c, hc, List.mem_cons_self⟩)
    · refine hdeclared _ (List.mem_flatMap.2 ⟨c, hc, ?_⟩)
      rw [c.fullConstant_eq, hscope]
      exact List.mem_cons_of_mem _ List.mem_cons_self
  constructor
  case names => rw [constantNames_constantsSource, hnames]
  case distinct => rwa [constantNames_constantsSource]
  case columns =>
    intro f hf
    refine ⟨_, hvalue _ (hcolumn f hf).1, ?_⟩
    rw [Constant.expression_text, Literal.decode?_quote]
  case fullColumns =>
    intro f hf
    refine ⟨_, hvalue _ (hcolumn f hf).2, ?_⟩
    rw [Constant.expression_text, Literal.decode?_quote]
  case allColumns =>
    have hmem : ⟨"ALL_COLUMNS", .list (r.columns.map (·.constant))⟩ ∈ r.constants := by
      simp [constants]
    rw [hvalue _ hmem, Constant.expression_list, ← hfields, List.map_map]
    rfl
  case allColumnsFull =>
    have hmem : ⟨"ALL_COLUMNS_FULL", .list (r.columns.map (·.fullConstant))⟩ ∈ r.constants := by
      simp [constants]
    rw [hvalue _ hmem, Constant.expression_list, ← hfields, List.map_map]
    simp only [Column.fullConstant_eq]
    rfl

/-- Whenever sources are generated for a valid entity, the first of them declares its constants: the
name of the database, those of the table and of the key column where there are any, two for each
column, the statements of a table, and the two arrays of columns. No two have the same name, and the
literals of a column stand for its name, without and with the name of the entity before it. -/
theorem Scope.constants_declared {s : Scope} {as : List Artifact}
    (hvalid : s.entity.validate = .ok ()) (h : s.artifacts = .ok as) :
    ∃ (constants : SourceClass) (others : List Artifact),
      as = ⟨s.directory, .overwrite, constants⟩ :: others
      ∧ constants.fileName = s.constantsName ++ "." ++ s.language.extension
      ∧ s.entity.ConstantsDeclared s.language constants := by
  obtain ⟨r, hresolve, -, rfl⟩ := Scope.artifacts_eq_ok_iff.1 h
  have hscope : r.toScope = s := (Scope.resolve_eq_ok_iff.1 hresolve).1
  have hfirst : ∃ others, r.artifacts = ⟨r.directory, .overwrite, r.constantsSource⟩ :: others := by
    unfold Resolved.artifacts Scope.builders Resolved.constantsSource
    cases r.language <;> cases r.entity.isEnumeration <;> exact ⟨_, rfl⟩
  obtain ⟨others, hothers⟩ := hfirst
  refine ⟨r.constantsSource, others, ?_, ?_, Resolved.constantsDeclared hresolve hvalid⟩
  · rw [hothers, hscope]
  · rw [Resolved.fileName_constantsSource, hscope]

/-- The constants of a table of three columns in Java. -/
theorem Scope.constants_declared_personTable :
    ∃ (constants : SourceClass) (others : List Artifact),
      (Scope.mk { package := "org", created := "today", options := { language := .java } }
          { name := "main", tables := [personTable] } personTable).artifacts =
        .ok (⟨"person", .overwrite, constants⟩ :: others)
      ∧ constants.constantNames = ["DATABASE", "TABLE", "FULL_TABLE", "PRIMARY_KEY_COLUMN", "C_ID",
          "FULL_C_ID", "C_NAME", "FULL_C_NAME", "C_AGE", "FULL_C_AGE", "CREATE_TABLE", "DROP_TABLE",
          "INSERT_STATEMENT", "UPDATE_STATEMENT", "ALL_COLUMNS", "ALL_COLUMNS_FULL"]
      ∧ constants.constantValues "ALL_COLUMNS" =
          ["new String[]\x7b\n\tC_ID,\n\tC_NAME,\n\tC_AGE\x7d"] := by
  let s : Scope := .mk { package := "org", created := "today", options := { language := .java } }
    { name := "main", tables := [personTable] } personTable
  have hgenerable : personTable.Generable :=
    Entity.generable_of_plain (by decide) (by decide) (by decide)
  obtain ⟨as, has⟩ : ∃ as, s.artifacts = .ok as := Scope.exists_artifacts_iff.2 hgenerable
  have hvalid : personTable.validate = .ok () := by decide
  obtain ⟨constants, others, rfl, -, hdeclared⟩ := Scope.constants_declared hvalid has
  have hdirectory : s.directory = "person" := by decide
  rw [hdirectory] at has
  refine ⟨constants, others, has, ?_, ?_⟩
  · rw [hdeclared.names]
    decide
  · rw [hdeclared.allColumns]
    decide

end SchemaForge
