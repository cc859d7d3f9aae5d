import SchemaForge.Proofs.Android.Outline

namespace SchemaForge

/-! # What the classes of an entity refer to

The constants that an entity has depend on its kind, on its key and on its columns, and so do the
references of its classes; but different functions make the ones and the others. Here they are
compared: what a class refers to, read off the outline of its members, is declared in the class of
the constants or in the record.
-/

/-! ## What is referred to -/

/-- The statements that the records of a kind declare. -/
def EntityKind.statementNames : EntityKind → List String
  | .table => []
  | .view => ["DROP_VIEW", "CREATE_VIEW"]
  | .query => ["QUERY", "QUERY_RAW"]

namespace Outline

variable {l : Language} {o : Options} {kind : EntityKind} {columns : List Column} {x : Reference}

/-- The references of all members of a class. -/
def references (members : List Member) : List Reference :=
  members.flatMap (·.code.references)

theorem mem_references_keyColumn (h : x ∈ (keyColumn l columns).references) :
    ∃ c ∈ columns, x = .column c.field := by
  unfold keyColumn at h
  cases hkey : columns.find? (·.isKey) with
  | none => simp [hkey] at h
  | some key =>
    have hx : x = .column key.field := by simpa [hkey, ref] using h
    exact ⟨key, List.mem_of_find?_eq_some hkey, hx⟩

theorem mem_references_takeValue {c : Column} (h : x ∈ (takeValue l c).references) :
    x = .column c.field := by
  have hmem : x ∈ (Expression.orMark c
      (Expression.fromValues? l c (ref (.column c.field)))).references := by
    simpa [takeValue] using h
  have hname := Expression.mem_references_orMark hmem
    fun _ => Expression.mem_references_fromValues?
  simpa [ref] using hname

theorem mem_references_takeCursor {c : Column} (h : x ∈ (takeCursor l c).references) :
    x = .column c.field := by
  have hmem : x ∈ (Expression.orMark c
      (Expression.fromCursor? l c (ref (.column c.field)))).references := by
    simpa [takeCursor] using h
  have hname := Expression.mem_references_orMark hmem
    fun _ => Expression.mem_references_fromCursor?
  simpa [ref] using hname

theorem mem_references_copied (h : x ∈ (copied l columns).references) : x = .record := by
  cases l <;> simpa [copied, ref] using h

/-- A base record refers to the record, to the arrays of columns and to single columns. -/
theorem mem_references_baseRecord (h : x ∈ references (baseRecord l columns)) :
    x = .record ∨ x ∈ [.constant "ALL_COLUMNS", .constant "ALL_COLUMNS_FULL"]
      ∨ ∃ c ∈ columns, x = .column c.field := by
  have hwritten : ∀ c, c ∈ written columns → c ∈ columns := fun c hc => (List.mem_filter.1 hc).1
  simp only [references, baseRecord, cloned, put, ref, List.flatMap_append, List.flatMap_cons,
    List.flatMap_nil, List.flatMap_map, List.mem_append, List.mem_flatMap,
    Snippet.references_plain, Snippet.references_append, Snippet.references_reference,
    Snippet.mem_references_each, List.mem_singleton, List.not_mem_nil, and_false, exists_false,
    or_false, false_or] at h
  rcases h with hkey | rfl | rfl | ⟨c, hc, rfl⟩ | hcopied | ⟨c, hc, htaken⟩ | ⟨c, hc, htaken⟩
  · exact .inr (.inr (mem_references_keyColumn hkey))
  · simp
  · simp
  · exact .inr (.inr ⟨c, hwritten c hc, rfl⟩)
  · exact .inl (mem_references_copied hcopied)
  · exact .inr (.inr ⟨c, hwritten c hc, mem_references_takeValue htaken⟩)
  · exact .inr (.inr ⟨c, hc, mem_references_takeCursor htaken⟩)

theorem mem_references_selection (h : x ∈ (selection columns).references) :
    ∃ c ∈ columns, x = .column c.field ∨ x = .fullColumn c.field := by
  simpa [selection, ref, Snippet.mem_references_separated, or_comm] using h

theorem mem_references_builderFields (h : x ∈ (builderFields columns).references) :
    ∃ c ∈ columns, x = .column c.field ∨ x = .fullColumn c.field := by
  simpa [builderFields, ref, Snippet.mem_references_each, or_comm] using h

/-- A record with statements refers to the columns, and that of a view to its table. -/
theorem mem_references_record (h : x ∈ references (record l o kind columns)) :
    (x = .constant "TABLE" ∧ kind = .view)
      ∨ ∃ c ∈ columns, x = .column c.field ∨ x = .fullColumn c.field := by
  cases kind with
  | table => simp [references, record, statements] at h
  | view =>
    have hview : x = .constant "TABLE" ∨ x ∈ (builderFields columns).references
        ∨ x ∈ (selection columns).references := by
      cases hbuilder : o.queryBuilder <;>
        simp [references, record, statements, viewStatements, ref, hbuilder] at h <;> tauto
    rcases hview with htable | hcolumn | hcolumn
    · exact .inl ⟨htable, rfl⟩
    · exact .inr (mem_references_builderFields hcolumn)
    · exact .inr (mem_references_selection hcolumn)
  | query =>
    have hquery : x ∈ (builderFields columns).references
        ∨ x ∈ (selection columns).references := by
      cases hbuilder : o.queryBuilder <;>
        simp [references, record, statements, queryStatements, hbuilder] at h <;> tauto
    rcases hquery with hcolumn | hcolumn
    · exact .inr (mem_references_builderFields hcolumn)
    · exact .inr (mem_references_selection hcolumn)

/-- What a base manager refers to, the same in both languages. -/
def managerReferences (kind : EntityKind) (hasKey : Bool) : List Reference :=
  [.record, .constant "DATABASE", .constant "ALL_COLUMNS"] ++ match kind with
    | .table =>
      [.constant "TABLE", .constant "CREATE_TABLE", .constant "DROP_TABLE",
        .constant "INSERT_STATEMENT", .constant "UPDATE_STATEMENT"]
        ++ if hasKey then [.constant "PRIMARY_KEY_COLUMN"] else []
    | .view => [.constant "TABLE", .own "DROP_VIEW", .own "CREATE_VIEW"]
    | .query => []

theorem references_baseManager_subset :
    references (baseManager l kind columns) ⊆
      managerReferences kind (columns.any (·.isKey)) := by
  unfold baseManager
  -- of the columns only matters whether one is the key, so there are finitely many managers
  generalize columns.any (·.isKey) = hasKey
  cases l <;> cases kind <;> cases hasKey <;> decide

/-- The key column is referred to only where there is one, and the statements of a kind by the
entities of that kind. -/
theorem declared_of_mem_managerReferences (kind : EntityKind) (hasKey : Bool) :
    ∀ x ∈ managerReferences kind hasKey, x = .record
      ∨ (∃ name ∈ kind.leadingConstantNames hasKey ++ kind.trailingConstantNames,
        x = .constant name)
      ∨ ∃ name ∈ kind.statementNames, x = .own name := by
  cases kind <;> cases hasKey <;> decide

/-- A manager refers to the statement of its query. -/
theorem references_manager :
    references (manager l kind) = if kind = .query then [.own "QUERY"] else [] := by
  cases l <;> cases kind <;> rfl

end Outline

/-! ## What is declared -/

/-- Holds for a reference to what is there: a constant that is declared, which for a column is one
that stands for the name of its field. -/
def Reference.Resolves (e : Entity) (l : Language) (constants record : SourceClass) :
    Reference → Prop
  | .record => record.fileName = e.className ++ "." ++ l.extension
  | .own name => name ∈ record.constantNames
  | .constant name => name ∈ constants.constantNames
  | .column f => f ∈ e.fields ∧ ∃ literal,
      constants.constantValues f.columnConstant = [literal]
        ∧ Literal.decode? l literal = some f.name
  | .fullColumn f => f ∈ e.fields ∧ ∃ literal,
      constants.constantValues f.fullColumnConstant = [literal]
        ∧ Literal.decode? l literal = some (e.name ++ "." ++ f.name)

namespace Resolved

variable {s : Scope} {r : Resolved} {x : Reference}

theorem fileName_recordSource :
    r.recordSource.fileName = r.className ++ "." ++ r.language.extension := by
  unfold recordSource
  cases hlanguage : r.language <;> rfl

theorem fileName_baseManagerSource :
    r.baseManagerSource.fileName = r.baseManagerName ++ "." ++ r.language.extension := by
  unfold baseManagerSource
  cases hlanguage : r.language <;> rfl

theorem fileName_managerSource :
    r.managerSource.fileName = r.managerName ++ "." ++ r.language.extension := by
  unfold managerSource
  cases hlanguage : r.language <;> rfl

/-- The record of a view declares the statements that its base manager refers to, and that of a
query the one that its manager does. -/
theorem constantNames_recordSource :
    r.recordSource.constantNames = r.entity.kind.statementNames := by
  have htemplate : ∀ l, (r.sqlTemplate l).constants.map (·.1) = r.entity.kind.statementNames := by
    intro l
    unfold sqlTemplate viewTemplate queryTemplate
    cases r.entity.kind <;> cases r.options.queryBuilder <;> rfl
  unfold recordSource SourceClass.constantNames
  cases r.language with
  | kotlin =>
    rw [← htemplate .kotlin]
    simp [kotlinRecord, Function.comp_def]
  | java =>
    rw [← htemplate .java]
    simp [javaRecord, JavaVariable.constant, Function.comp_def]

theorem resolves_column (h : s.resolve = .ok r) (hvalid : s.entity.validate = .ok ()) {c : Column}
    (hc : c ∈ r.columns) :
    (Reference.column c.field).Resolves s.entity s.language r.constantsSource r.recordSource
      ∧ (Reference.fullColumn c.field).Resolves s.entity s.language r.constantsSource
          r.recordSource := by
  obtain ⟨-, hcolumns, -⟩ := Scope.resolve_eq_ok_iff.1 h
  have hdeclared := constantsDeclared h hvalid
  have hfield : c.field ∈ s.entity.fields := by
    rw [← Scope.map_field_of_mapM hcolumns]
    exact List.mem_map_of_mem hc
  exact ⟨⟨hfield, hdeclared.columns _ hfield⟩, ⟨hfield, hdeclared.fullColumns _ hfield⟩⟩

theorem resolves_constant (h : s.resolve = .ok r) {name : String}
    (hname : name ∈ s.entity.constantNames) :
    (Reference.constant name).Resolves s.entity s.language r.constantsSource r.recordSource := by
  change name ∈ r.constantsSource.constantNames
  rwa [constantNames_constantsSource, map_name_constants h]

theorem resolves_own (h : s.resolve = .ok r) {name : String}
    (hname : name ∈ s.entity.kind.statementNames) :
    (Reference.own name).Resolves s.entity s.language r.constantsSource r.recordSource := by
  change name ∈ r.recordSource.constantNames
  rwa [constantNames_recordSource, (Scope.resolve_eq_ok_iff.1 h).1]

theorem resolves_record (h : s.resolve = .ok r) :
    Reference.record.Resolves s.entity s.language r.constantsSource r.recordSource := by
  change r.recordSource.fileName = s.className ++ "." ++ s.language.extension
  rw [fileName_recordSource, (Scope.resolve_eq_ok_iff.1 h).1]

/-- What a base manager refers to is declared for an entity of its kind. -/
theorem resolves_managerReferences (h : s.resolve = .ok r)
    (hx : x ∈ Outline.managerReferences s.entity.kind (s.entity.fields.any (·.primaryKey))) :
    x.Resolves s.entity s.language r.constantsSource r.recordSource := by
  rcases Outline.declared_of_mem_managerReferences _ _ x hx with
    rfl | ⟨name, hname, rfl⟩ | ⟨name, hname, rfl⟩
  · exact resolves_record h
  · apply resolves_constant h
    rw [Entity.constantNames, List.append_assoc]
    rcases List.mem_append.1 hname with hleading | htrailing
    · exact List.mem_append_left _ hleading
    · exact List.mem_append_right _ (List.mem_append_right _ htrailing)
  · exact resolves_own h hname

end Resolved

/-- The classes of an entity refer to what is declared: their members are outlined, with nothing of
the classes' names in them, and each reference in the outlines is to a constant of the class for it
or to one of the record. -/
structure Scope.ReferencesDeclared (s : Scope) (columns : List Column)
    (constants baseRecord record baseManager manager : SourceClass) : Prop where
  inBaseRecord : baseRecord.members =
    (Outline.baseRecord s.language columns).map (·.fill s.referenceText)
  inRecord : record.members =
    (Outline.record s.language s.options s.entity.kind columns).map (·.fill s.referenceText)
  inBaseManager : baseManager.members =
    (Outline.baseManager s.language s.entity.kind columns).map (·.fill s.referenceText)
  inManager : manager.members =
    (Outline.manager s.language s.entity.kind).map (·.fill s.referenceText)
  declared : ∀ x ∈ Outline.references (Outline.baseRecord s.language columns
      ++ Outline.record s.language s.options s.entity.kind columns
      ++ Outline.baseManager s.language s.entity.kind columns
      ++ Outline.manager s.language s.entity.kind),
    x.Resolves s.entity s.language constants record

theorem Resolved.referencesDeclared {s : Scope} {r : Resolved} (h : s.resolve = .ok r)
    (hvalid : s.entity.validate = .ok ()) :
    s.ReferencesDeclared r.columns r.constantsSource r.baseRecordSource r.recordSource
      r.baseManagerSource r.managerSource := by
  have hscope : r.toScope = s := (Scope.resolve_eq_ok_iff.1 h).1
  have hcolumn : ∀ c ∈ r.columns, ∀ x : Reference, x = .column c.field ∨ x = .fullColumn c.field →
      x.Resolves s.entity s.language r.constantsSource r.recordSource := by
    rintro c hc x (rfl | rfl)
    · exact (resolves_column h hvalid hc).1
    · exact (resolves_column h hvalid hc).2
  constructor
  case inBaseRecord => rw [members_baseRecordSource, hscope]
  case inRecord => rw [members_recordSource, hscope]
  case inBaseManager => rw [members_baseManagerSource, hscope]
  case inManager => rw [members_managerSource, hscope]
  case declared =>
    intro x hx
    -- class by class, since each knows on its own what it refers to
    simp only [Outline.references, List.flatMap_append, List.mem_append] at hx
    rcases hx with ((hx | hx) | hx) | hx
    · rcases Outline.mem_references_baseRecord hx with rfl | harray | ⟨c, hc, rfl⟩
      · exact resolves_record h
      · simp only [List.mem_cons, List.not_mem_nil, or_false] at harray
        rcases harray with rfl | rfl <;> apply resolves_constant h <;>
          simp [Entity.constantNames, EntityKind.trailingConstantNames]
      · exact hcolumn c hc _ (.inl rfl)
    · rcases Outline.mem_references_record hx with ⟨rfl, hview⟩ | ⟨c, hc, hx⟩
      · exact resolves_constant h
          (by simp [Entity.constantNames, EntityKind.leadingConstantNames, hview])
      · exact hcolumn c hc x hx
    · apply resolves_managerReferences h
      rw [← isSome_key? h, key?, List.isSome_find?]
      exact Outline.references_baseManager_subset hx
    · have hquery : s.entity.kind = .query ∧ x = .own "QUERY" := by
        have hmem : x ∈ Outline.references (Outline.manager s.language s.entity.kind) := hx
        rw [Outline.references_manager] at hmem
        split at hmem
        · next hkind => exact ⟨hkind, List.mem_singleton.1 hmem⟩
        · cases hmem
      obtain ⟨hkind, rfl⟩ := hquery
      exact resolves_own h (by simp [EntityKind.statementNames, hkind])

/-- The classes of an entity with records are made in this order. -/
theorem Resolved.artifacts_eq {r : Resolved} (h : r.entity.isEnumeration = false) :
    r.artifacts = [⟨r.directory, .overwrite, r.constantsSource⟩,
      ⟨r.directory, .overwrite, r.baseRecordSource⟩, ⟨r.directory, .createOnly, r.recordSource⟩,
      ⟨r.directory, .overwrite, r.baseManagerSource⟩,
      ⟨r.directory, .createOnly, r.managerSource⟩] := by
  unfold artifacts Scope.builders constantsSource baseRecordSource recordSource baseManagerSource
    managerSource
  cases r.language <;> simp [h]

/-- Whenever a valid schema is generated, the base record, the record and the managers of each
entity refer to no constant that is not declared: in the class of its constants, where that of a
column stands for the name of its field, or in the record. -/
theorem Run.references_declared {run : Run} {s : Schema} {files : List SourceFile} {d : Database}
    {e : Entity} (hvalid : s.validate = .ok ()) (hgenerate : run.generate s = .ok files)
    (hd : d ∈ s.databases) (he : e ∈ d.entities) (hrecords : e.isEnumeration = false) :
    ∃ (columns : List Column) (constants baseRecord record baseManager manager : SourceClass),
      e.fields.mapM (Scope.mk run d e).column = .ok columns ∧ columns.map (·.field) = e.fields
      ∧ [constants, baseRecord, record, baseManager, manager].map (·.fileName) =
        [(Scope.mk run d e).constantsName, (Scope.mk run d e).baseRecordName,
          (Scope.mk run d e).className, (Scope.mk run d e).baseManagerName,
          (Scope.mk run d e).managerName].map (· ++ "." ++ run.options.language.extension)
      ∧ (∀ a ∈ [Artifact.mk (Scope.mk run d e).directory .overwrite constants,
          Artifact.mk (Scope.mk run d e).directory .overwrite baseRecord,
          Artifact.mk (Scope.mk run d e).directory .createOnly record,
          Artifact.mk (Scope.mk run d e).directory .overwrite baseManager,
          Artifact.mk (Scope.mk run d e).directory .createOnly manager], a.file run.style ∈ files)
      ∧ (Scope.mk run d e).ReferencesDeclared columns constants baseRecord record baseManager
          manager := by
  obtain ⟨r, hresolve, hfiles⟩ := exists_resolve_of_generate hgenerate hd he
  have hscope : r.toScope = Scope.mk run d e := (Scope.resolve_eq_ok_iff.1 hresolve).1
  have hcolumns := (Scope.resolve_eq_ok_iff.1 hresolve).2.1
  have hordinary : r.entity.isEnumeration = false := by rwa [hscope]
  refine ⟨r.columns, r.constantsSource, r.baseRecordSource, r.recordSource, r.baseManagerSource,
    r.managerSource, hcolumns, Scope.map_field_of_mapM hcolumns, ?_, ?_,
    Resolved.referencesDeclared hresolve (s.validate_entity hvalid hd he)⟩
  · simp only [List.map_cons, List.map_nil, Resolved.fileName_constantsSource,
      Resolved.fileName_baseRecordSource, Resolved.fileName_recordSource,
      Resolved.fileName_baseManagerSource, Resolved.fileName_managerSource, hscope]
    rfl
  · rw [← hscope, ← Resolved.artifacts_eq hordinary]
    exact hfiles

/-- A view of two columns. -/
def personView : Entity :=
  { kind := .view, name := "PERSON_VIEW"
    fields := [{ name := "NAME", type := .varchar }, { name := "AGE", type := .integer }] }

/-- The files of a view: the base record reads the columns by their constants, the statement of the
record refers to these too, and the base manager refers to that statement. -/
theorem Run.references_declared_personView :
    ∃ (files : List SourceFile) (constants baseRecord record baseManager : SourceClass),
      Run.generate { package := "org", created := "today" }
          { databases := [{ name := "main", views := [personView] }] } = .ok files
      ∧ [constants, baseRecord, record, baseManager].map (·.fileName) =
        ["PersonViewConst.kt", "PersonViewBaseRecord.kt", "PersonView.kt",
          "PersonViewBaseManager.kt"]
      ∧ (Artifact.mk "personview" .overwrite constants).file {} ∈ files
      ∧ (Artifact.mk "personview" .overwrite baseRecord).file {} ∈ files
      ∧ (Artifact.mk "personview" .createOnly record).file {} ∈ files
      ∧ (Artifact.mk "personview" .overwrite baseManager).file {} ∈ files
      ∧ ("setContent", "name = values.getAsString(PersonViewConst.C_NAME)\n"
          ++ "age = values.getAsInteger(PersonViewConst.C_AGE)\n") ∈ baseRecord.members
      ∧ record.members =
          [("DROP_VIEW", "\"DROP VIEW IF EXISTS \" + PersonViewConst.TABLE"),
            ("CREATE_VIEW", "\"CREATE VIEW IF NOT EXISTS \" + PersonViewConst.TABLE"
              ++ " + \" AS SELECT \" + PersonViewConst.FULL_C_NAME + \" AS \" + "
              ++ "PersonViewConst.C_NAME + \", \" + PersonViewConst.FULL_C_AGE + \" AS \" + "
              ++ "PersonViewConst.C_AGE + \" FROM \" + PersonViewConst.TABLE"),
            ("init", ""), ("constructor", ""), ("constructor", "setContent(cursor)"),
            ("constructor", "setContent(values)")]
      ∧ ("createSql", "PersonView.CREATE_VIEW") ∈ baseManager.members
      ∧ "CREATE_VIEW" ∈ record.constantNames
      ∧ "TABLE" ∈ constants.constantNames
      ∧ ∃ literal, constants.constantValues "C_AGE" = [literal]
        ∧ Literal.decode? .kotlin literal = some "AGE" := by
  let database : Database := { name := "main", views := [personView] }
  let run : Run := { package := "org", created := "today" }
  let s : Scope := .mk run database personView
  let age : Field := { name := "AGE", type := .integer }
  have hgenerable : personView.Generable :=
    Entity.generable_of_plain (by decide) (by decide) (by decide)
  obtain ⟨files, hfiles⟩ : ∃ files, run.generate { databases := [database] } = .ok files :=
    exists_generate_of_singleton rfl hgenerable
  have hvalid : Schema.validate { databases := [database] } = .ok () := by decide
  obtain ⟨columns, constants, baseRecord, record, baseManager, manager, hcolumns, -, hnames, hmade,
      hreferences⟩ :=
    Run.references_declared (d := database) (e := personView) hvalid hfiles (by simp)
      (by simp [Database.entities, database]) (by decide)
  have hplain : personView.fields.mapM s.column = .ok
      [⟨{ name := "NAME", type := .varchar }, .plain⟩, ⟨age, .plain⟩] := by decide
  rw [hplain] at hcolumns
  cases hcolumns
  have hdirectory : s.directory = "personview" := by decide
  rw [hdirectory] at hmade
  refine ⟨files, constants, baseRecord, record, baseManager, hfiles, ?_, hmade _ (by simp),
    hmade _ (by simp), hmade _ (by simp), hmade _ (by simp), ?_, ?_, ?_, ?_, ?_, ?_⟩
  · exact (congrArg (List.take 4) hnames).trans (by decide)
  · rw [hreferences.inBaseRecord]
    decide +kernel
  · rw [hreferences.inRecord]
    decide +kernel
  · rw [hreferences.inBaseManager]
    decide
  · exact hreferences.declared (.own "CREATE_VIEW") (by decide)
  · exact hreferences.declared (.constant "TABLE") (by decide)
  · have hconstant : age.columnConstant = "C_AGE" := by decide
    obtain ⟨-, literal, hvalues, hdecoded⟩ := hreferences.declared (.column age) (by decide)
    rw [hconstant] at hvalues
    exact ⟨literal, hvalues, hdecoded⟩

end SchemaForge
