import SchemaForge.Proofs.Android.Soundness

namespace SchemaForge

/-! # Success and failure of generation

The classes of an entity are made one after the other, and each of them could fail. In fact they all
succeed when the entity can be resolved and has literals where it is an enumeration, and otherwise
the fault is the same in both languages: that of the first field without an enumeration, then a
second key, then missing literals. Nothing that is made for all databases fails, so a run fails with
the first entity that does.
-/

/-! ## Checks of an entity -/

/-- An entity for which sources can be generated. -/
structure Entity.Generable (e : Entity) : Prop extends e.Resolvable where
  literals : e.isEnumeration → e.enumItems ≠ []

/-- Sources can be generated for an entity without columns of ordinals that has one key at most, and
literals if it is an enumeration table. -/
theorem Entity.generable_of_plain {e : Entity} (hfields : ∀ f ∈ e.fields, f.isEnumeration = false)
    (hkeys : (e.fields.filter (·.primaryKey)).length ≤ 1)
    (hliterals : e.isEnumeration → e.enumItems ≠ []) : e.Generable := by
  refine ⟨⟨?_, hkeys⟩, hliterals⟩
  intro f hf henum
  rw [hfields f hf] at henum
  cases henum

/-- The fault with which generation fails for an entity: that of the first check that fails, in the
order of the constructors. -/
inductive Entity.Fails (e : Entity) : Fault → Prop
  /-- The first field that cannot be resolved is reported. -/
  | enumeration {before after : List Field} {f : Field} (split : e.fields = before ++ f :: after)
      (passed : ∀ g ∈ before, g.Resolvable) (stuck : ¬ f.Resolvable) :
      e.Fails (.emptyEnumeration e.name f.name)
  /-- The second key is reported. -/
  | keys {first second : Field} {rest : List Field} (columns : ∀ f ∈ e.fields, f.Resolvable)
      (keys : e.fields.filter (·.primaryKey) = first :: second :: rest) :
      e.Fails (.duplicateKey e.name second.variableName)
  /-- The class without literals is reported. -/
  | literals (resolvable : e.Resolvable) (enumeration : e.isEnumeration)
      (none : e.enumItems = []) : e.Fails (.emptyEnum e.className)

/-! ## Making the classes of an entity -/

namespace SourceClass

/-- A class whose parts would pass their checks. -/
def Sound : SourceClass → Prop
  | kotlin c => c.Sound
  | java c => c.Sound

theorem assembled_of_sound {c : SourceClass} (h : c.Sound) : c.assembled = .ok c := by
  cases c with
  | kotlin c => simp only [assembled, KotlinClass.assembled_of_sound h]; rfl
  | java c => simp only [assembled, JavaClass.assembled_of_sound h]; rfl

end SourceClass

theorem Artifact.of_eq_ok {directory : String} {policy : Policy} {source : SourceClass}
    (h : source.Sound) : Artifact.of directory policy source = .ok ⟨directory, policy, source⟩ := by
  simp only [Artifact.of, SourceClass.assembled_of_sound h]
  rfl

/-- The artifacts that are made of a resolved entity. -/
def Resolved.artifacts (r : Resolved) : List Artifact :=
  r.builders.map fun b => ⟨r.directory, b.policy, b.make r⟩

theorem Resolved.mem_artifacts_of_mem_builders {r : Resolved} {b : Builder} (h : b ∈ r.builders) :
    ⟨r.directory, b.policy, b.make r⟩ ∈ r.artifacts :=
  List.mem_map_of_mem h

namespace Scope

variable {s : Scope}

/-- The classes that are made of a resolved entity are sound. -/
theorem sound_of_mem_builders {r : Resolved} (h : s.resolve = .ok r)
    (hliterals : s.entity.isEnumeration → s.entity.enumItems ≠ []) {b : Builder}
    (hb : b ∈ s.builders) : (b.make r).Sound := by
  have hscope : r.toScope = s := (resolve_eq_ok_iff.1 h).1
  have hnested : ∀ e ∈ r.nestedEnums, e.2 ≠ [] := fun e => Resolved.nestedEnums_ne_nil h
  unfold builders at hb
  -- five classes of an entity with records, two of an enumeration table
  cases hlanguage : s.language <;> cases henum : s.entity.isEnumeration <;>
    simp only [hlanguage, henum, List.mem_cons, List.not_mem_nil, or_false] at hb
  · rcases hb with rfl | rfl | rfl | rfl | rfl
    · exact Resolved.kotlinConstants_sound
    · exact Resolved.kotlinBaseRecord_sound hnested
    · exact Resolved.kotlinRecord_sound
    · exact Resolved.kotlinBaseManager_sound
    · exact Resolved.kotlinManager_sound
  · rcases hb with rfl | rfl
    · exact Resolved.kotlinConstants_sound
    · exact Resolved.kotlinEnumeration_sound (hscope ▸ hliterals henum)
  · rcases hb with rfl | rfl | rfl | rfl | rfl
    · exact Resolved.javaConstants_sound
    · exact Resolved.javaBaseRecord_sound hnested
    · exact Resolved.javaRecord_sound
    · exact Resolved.javaBaseManager_sound
    · exact Resolved.javaManager_sound
  · rcases hb with rfl | rfl
    · exact Resolved.javaConstants_sound
    · exact Resolved.javaEnumeration_sound (hscope ▸ hliterals henum)

/-- The classes of an entity that is resolved and has its literals are all made. -/
theorem artifacts_of_resolve {r : Resolved} (h : s.resolve = .ok r)
    (hliterals : s.entity.isEnumeration → s.entity.enumItems ≠ []) :
    s.artifacts = .ok r.artifacts := by
  have hscope : r.toScope = s := (resolve_eq_ok_iff.1 h).1
  have hmap : s.artifacts =
      .ok (s.builders.map fun b => ⟨s.directory, b.policy, b.make r⟩) := by
    apply mapM_eq_ok_map
    intro b hb
    rw [build, h]
    exact Artifact.of_eq_ok (sound_of_mem_builders h hliterals hb)
  rw [hmap, Resolved.artifacts, hscope]

/-- An entity that is not resolved fails with its first class. -/
theorem artifacts_of_resolve_error {fault : Fault} (h : s.resolve = .error fault) :
    s.artifacts = .error fault := by
  have hbuild : ∀ b, s.build b = .error fault := by
    intro b
    rw [build, h]
    rfl
  unfold artifacts builders
  -- no list of builders is empty, and whichever is first resolves the entity
  split <;> rw [List.mapM_cons, hbuild] <;> rfl

/-- An enumeration table without literals fails with its enum, in either language under the name of
its class. -/
theorem artifacts_of_no_literals {r : Resolved} (h : s.resolve = .ok r)
    (henum : s.entity.isEnumeration) (hnone : s.entity.enumItems = []) :
    s.artifacts = .error (.emptyEnum s.className) := by
  have hscope : r.toScope = s := (resolve_eq_ok_iff.1 h).1
  have hkotlin : r.kotlinEnumeration.assembled = .error (.emptyEnum s.className) := by
    rw [KotlinClass.assembled_of_no_literals]
    · simp [Resolved.kotlinEnumeration, hscope]
    · simp [Resolved.kotlinEnumeration, Resolved.literals, hscope, hnone]
  have hjava : r.javaEnumeration.assembled = .error (.emptyEnum s.className) := by
    rw [JavaClass.assembled_of_no_literals]
    · simp [Resolved.javaEnumeration, hscope]
    · simp [Resolved.javaEnumeration, Resolved.literals, hscope, hnone]
  unfold artifacts builders
  -- the constants come before the enum, and nothing of them fails
  cases hlanguage : s.language <;> simp only [henum, List.mapM_cons, build, h] <;>
    rw [bind_eq_error_iff]
  · refine .inr ⟨_, Artifact.of_eq_ok (Resolved.kotlinConstants_sound (r := r)), ?_⟩
    simp only [Artifact.of, SourceClass.assembled, hkotlin, bind, Except.bind]
  · refine .inr ⟨_, Artifact.of_eq_ok (Resolved.javaConstants_sound (r := r)), ?_⟩
    simp only [Artifact.of, SourceClass.assembled, hjava, bind, Except.bind]

/-- The artifacts of an entity are those of the resolved entity. -/
theorem artifacts_eq_ok_iff {as : List Artifact} :
    s.artifacts = .ok as ↔
      ∃ r, s.resolve = .ok r ∧ (s.entity.isEnumeration → s.entity.enumItems ≠ [])
        ∧ as = r.artifacts := by
  constructor
  · intro h
    rcases exists_ok_or_error s.resolve with ⟨r, hr⟩ | ⟨fault, hfault⟩
    · by_cases hliterals : s.entity.isEnumeration → s.entity.enumItems ≠ []
      · rw [artifacts_of_resolve hr hliterals] at h
        cases h
        exact ⟨r, hr, hliterals, rfl⟩
      · rw [Classical.not_imp, ne_eq, not_not] at hliterals
        rw [artifacts_of_no_literals hr hliterals.1 hliterals.2] at h
        cases h
    · rw [artifacts_of_resolve_error hfault] at h
      cases h
  · rintro ⟨r, hr, hliterals, rfl⟩
    exact artifacts_of_resolve hr hliterals

/-- Artifacts are made for an entity when it is generable. -/
theorem exists_artifacts_iff : (∃ as, s.artifacts = .ok as) ↔ s.entity.Generable := by
  constructor
  · rintro ⟨as, h⟩
    obtain ⟨r, hr, hliterals, -⟩ := artifacts_eq_ok_iff.1 h
    exact ⟨exists_resolve_iff.1 ⟨r, hr⟩, hliterals⟩
  · intro h
    obtain ⟨r, hr⟩ := exists_resolve_iff.2 h.toResolvable
    exact ⟨r.artifacts, artifacts_of_resolve hr h.literals⟩

/-- The fault of an entity is that of the first check that fails. -/
theorem artifacts_eq_error_iff {fault : Fault} :
    s.artifacts = .error fault ↔ s.entity.Fails fault := by
  constructor
  · intro h
    rcases exists_ok_or_error s.resolve with ⟨r, hr⟩ | ⟨cause, hcause⟩
    · by_cases hliterals : s.entity.isEnumeration → s.entity.enumItems ≠ []
      · rw [artifacts_of_resolve hr hliterals] at h
        cases h
      · rw [Classical.not_imp, ne_eq, not_not] at hliterals
        rw [artifacts_of_no_literals hr hliterals.1 hliterals.2] at h
        cases h
        exact .literals (exists_resolve_iff.1 ⟨r, hr⟩) hliterals.1 hliterals.2
    · rw [artifacts_of_resolve_error hcause] at h
      cases h
      rcases resolve_eq_error_iff.1 hcause with
        ⟨before, f, after, hsplit, hpassed, hstuck, rfl⟩ |
        ⟨hcolumns, first, second, rest, hkeys, rfl⟩
      · exact .enumeration hsplit hpassed hstuck
      · exact .keys hcolumns hkeys
  · intro h
    cases h with
    | enumeration hsplit hpassed hstuck =>
      apply artifacts_of_resolve_error
      exact resolve_eq_error_iff.2 (.inl ⟨_, _, _, hsplit, hpassed, hstuck, rfl⟩)
    | keys hcolumns hkeys =>
      apply artifacts_of_resolve_error
      exact resolve_eq_error_iff.2 (.inr ⟨hcolumns, _, _, _, hkeys, rfl⟩)
    | literals hresolvable henum hnone =>
      obtain ⟨r, hr⟩ := exists_resolve_iff.2 hresolvable
      exact artifacts_of_no_literals hr henum hnone

end Scope

/-! ## Making all classes -/

/-- The entities of a schema in the order of generation. -/
def Schema.entities (s : Schema) : List Entity :=
  s.databases.flatMap (·.entities)

namespace Run

variable {run : Run} {s : Schema}

/-- The artifacts for all databases. -/
def lifecycle (run : Run) (s : Schema) : List Artifact :=
  ((run.sharedSources s).map fun (policy, source) => ⟨"", policy, source⟩)
    ++ (run.heldDatabases s).map fun d => ⟨run.directoryOf d, .overwrite, run.holder d⟩

/-- The same run for sources in another language. -/
def inLanguage (run : Run) (l : Language) : Run :=
  { run with options := { run.options with language := l } }

/-- What is made for all databases is always made. -/
theorem lifecycleArtifacts_eq : run.lifecycleArtifacts s = .ok (run.lifecycle s) := by
  have hshared : ∀ entry ∈ run.sharedSources s, entry.2.Sound := by
    unfold sharedSources
    split <;> simp only [List.forall_mem_cons]
    · exact ⟨Lifecycle.kotlinCreation_sound, Lifecycle.kotlinNames_sound,
        Lifecycle.kotlinUpgrades_sound, Lifecycle.kotlinConfig_sound, List.forall_mem_nil _⟩
    · exact ⟨Lifecycle.javaCreation_sound, Lifecycle.javaNames_sound,
        Lifecycle.javaUpgrades_sound, Lifecycle.javaConfig_sound, List.forall_mem_nil _⟩
  have hholder : ∀ d, (run.holder d).Sound := by
    intro d
    unfold holder
    split
    · exact Lifecycle.kotlinHolder_sound
    · exact Lifecycle.javaHolder_sound
  have hfirst : ((run.sharedSources s).mapM fun (policy, source) => Artifact.of "" policy source) =
      .ok ((run.sharedSources s).map fun (policy, source) => ⟨"", policy, source⟩) :=
    mapM_eq_ok_map fun entry hentry => Artifact.of_eq_ok (hshared entry hentry)
  have hsecond : ((run.heldDatabases s).mapM fun d =>
        Artifact.of (run.directoryOf d) .overwrite (run.holder d)) =
      .ok ((run.heldDatabases s).map fun d => ⟨run.directoryOf d, .overwrite, run.holder d⟩) :=
    mapM_eq_ok_map fun d _ => Artifact.of_eq_ok (hholder d)
  rw [lifecycleArtifacts, hfirst, hsecond]
  rfl

theorem map_entity_scopes (run : Run) (s : Schema) :
    (run.scopes s).map (·.entity) = s.entities := by
  simp [scopes, Schema.entities, List.map_flatMap, Function.comp_def]

theorem entityArtifacts_eq_ok_iff {scope : Scope} {as : List Artifact} :
    entityArtifacts scope = .ok as ↔ scope.artifacts = .ok as := by
  rw [entityArtifacts, during_eq_ok_iff, failing_eq_ok_iff]

/-- The failure of an entity tells its kind and its name. -/
theorem entityArtifacts_eq_error_iff {scope : Scope} {failure : Failure} :
    entityArtifacts scope = .error failure ↔ ∃ fault, scope.entity.Fails fault
      ∧ failure = ⟨[.generating scope.entity.kind scope.entity.name], fault⟩ := by
  simp only [entityArtifacts, during_eq_error_iff, failing_eq_error_iff,
    Scope.artifacts_eq_error_iff]
  constructor
  · rintro ⟨-, ⟨fault, hfault, rfl⟩, rfl⟩
    exact ⟨fault, hfault, rfl⟩
  · rintro ⟨fault, hfault, rfl⟩
    exact ⟨_, ⟨fault, hfault, rfl⟩, rfl⟩

/-- The artifacts of a schema are those of its entities, all of them resolved, and behind them those
for all databases. -/
theorem artifacts_eq_ok_iff {as : List Artifact} :
    run.artifacts s = .ok as ↔ ∃ rs : List Resolved,
      List.Forall₂ (fun scope r => scope.resolve = .ok r
        ∧ (scope.entity.isEnumeration → scope.entity.enumItems ≠ [])) (run.scopes s) rs
      ∧ as = rs.flatMap (·.artifacts) ++ run.lifecycle s := by
  have hentities : ∀ made, (run.scopes s).mapM entityArtifacts = .ok made ↔
      ∃ rs : List Resolved, List.Forall₂ (fun scope r => scope.resolve = .ok r
        ∧ (scope.entity.isEnumeration → scope.entity.enumItems ≠ [])) (run.scopes s) rs
        ∧ made = rs.map (·.artifacts) := by
    intro made
    rw [mapM_eq_ok_iff, ← forall₂_exists_eq_iff]
    simp only [entityArtifacts_eq_ok_iff, Scope.artifacts_eq_ok_iff, and_assoc]
  unfold artifacts
  rw [bind_eq_ok_iff]
  constructor
  · rintro ⟨made, hmade, hrest⟩
    obtain ⟨rs, hrs, rfl⟩ := (hentities _).1 hmade
    rw [lifecycleArtifacts_eq] at hrest
    cases hrest
    exact ⟨rs, hrs, by rw [List.flatMap_def]⟩
  · rintro ⟨rs, hrs, rfl⟩
    refine ⟨_, (hentities _).2 ⟨rs, hrs, rfl⟩, ?_⟩
    rw [lifecycleArtifacts_eq, List.flatMap_def]
    rfl

theorem generate_eq_ok_iff {files : List SourceFile} :
    run.generate s = .ok files ↔
      ∃ as, run.artifacts s = .ok as ∧ files = as.map (·.file run.style) := by
  unfold generate
  rw [bind_eq_ok_iff]
  simp only [pure, Except.pure, Except.ok.injEq, eq_comm]

/-- The files of a schema hold those of each entity. -/
theorem exists_resolve_of_generate {files : List SourceFile} {d : Database} {e : Entity}
    (h : run.generate s = .ok files) (hd : d ∈ s.databases) (he : e ∈ d.entities) :
    ∃ r, (Scope.mk run d e).resolve = .ok r ∧ ∀ a ∈ r.artifacts, a.file run.style ∈ files := by
  obtain ⟨as, has, rfl⟩ := generate_eq_ok_iff.1 h
  obtain ⟨rs, hrs, rfl⟩ := artifacts_eq_ok_iff.1 has
  have hscope : Scope.mk run d e ∈ run.scopes s :=
    List.mem_flatMap.2 ⟨d, hd, List.mem_map_of_mem he⟩
  obtain ⟨r, hr, hresolve, -⟩ := exists_of_mem_left hrs _ hscope
  refine ⟨r, hresolve, fun a ha => List.mem_map_of_mem ?_⟩
  exact List.mem_append_left _ (List.mem_flatMap.2 ⟨r, hr, ha⟩)

/-- A schema is generated when each of its entities can be. -/
theorem exists_generate_iff :
    (∃ files, run.generate s = .ok files) ↔ ∀ e ∈ s.entities, e.Generable := by
  have hscopes : (∃ made, (run.scopes s).mapM entityArtifacts = .ok made) ↔
      ∀ e ∈ s.entities, e.Generable := by
    simp only [exists_mapM_eq_ok_iff, entityArtifacts_eq_ok_iff, Scope.exists_artifacts_iff,
      ← map_entity_scopes run s, List.forall_mem_map]
  rw [← hscopes]
  constructor
  · rintro ⟨files, h⟩
    obtain ⟨as, has, -⟩ := generate_eq_ok_iff.1 h
    obtain ⟨made, hmade, -⟩ := bind_eq_ok_iff.1 has
    exact ⟨made, hmade⟩
  · rintro ⟨made, hmade⟩
    have has : run.artifacts s = .ok (made.flatten ++ run.lifecycle s) := by
      rw [artifacts, hmade, lifecycleArtifacts_eq]
      rfl
    exact ⟨_, generate_eq_ok_iff.2 ⟨_, has, rfl⟩⟩

/-- A schema with one entity is generated when this can be. -/
theorem exists_generate_of_singleton {e : Entity} (hentities : s.entities = [e])
    (h : e.Generable) : ∃ files, run.generate s = .ok files := by
  rw [exists_generate_iff, hentities]
  simpa using h

/-- A run fails with the first entity that fails. -/
theorem generate_eq_error_iff {failure : Failure} :
    run.generate s = .error failure ↔ ∃ before e after fault,
      s.entities = before ++ e :: after ∧ (∀ b ∈ before, b.Generable) ∧ e.Fails fault
        ∧ failure = ⟨[.generating e.kind e.name], fault⟩ := by
  have hentities : run.generate s = .error failure ↔
      (run.scopes s).mapM entityArtifacts = .error failure := by
    -- behind the entities there is nothing that fails
    unfold generate artifacts
    rw [bind_eq_error_iff, bind_eq_error_iff, lifecycleArtifacts_eq]
    simp [bind, Except.bind, failing, pure, Except.pure]
  rw [hentities, mapM_eq_error_iff, ← map_entity_scopes run s]
  simp only [entityArtifacts_eq_ok_iff, Scope.exists_artifacts_iff, entityArtifacts_eq_error_iff]
  constructor
  · rintro ⟨before, scope, after, hsplit, hbefore, fault, hfails, rfl⟩
    refine ⟨before.map (·.entity), scope.entity, after.map (·.entity), fault, ?_, ?_, hfails, rfl⟩
    · rw [hsplit, List.map_append, List.map_cons]
    · exact List.forall_mem_map.2 hbefore
  · rintro ⟨before, e, after, fault, hsplit, hbefore, hfails, rfl⟩
    obtain ⟨scopesBefore, rest, hscopes, rfl, hrest⟩ := List.map_eq_append_iff.1 hsplit
    obtain ⟨scope, scopesAfter, rfl, rfl, -⟩ := List.map_eq_cons_iff.1 hrest
    exact ⟨scopesBefore, scope, scopesAfter, hscopes, List.forall_mem_map.1 hbefore, fault,
      hfails, rfl⟩

/-- A run succeeds exactly when every field of ordinals of every entity has an enumeration, no
entity has two keys and every enumeration table has literals. Otherwise it fails with the first
entity for which that is not so, and with the first of these checks that fails for it; nothing but
the schema decides which, so that the failure is the same in both languages. -/
theorem generation_outcome (run : Run) (s : Schema) :
    ((∃ files, run.generate s = .ok files) ↔ ∀ d ∈ s.databases,
        ∀ e ∈ d.tables ++ d.views ++ d.queries,
          (∀ f ∈ e.fields, f.isEnumeration →
            (f.foreignKind = .enumeration ∧ Text.Filled f.foreignTable?)
              ∨ Text.Filled f.enumClass? ∨ f.enumValues ≠ [])
          ∧ (e.fields.filter (·.primaryKey)).length ≤ 1
          ∧ (e.isEnumeration → e.enumItems ≠ []))
    ∧ (∀ failure, run.generate s = .error failure ↔ ∃ before e after fault,
        s.databases.flatMap (fun d => d.tables ++ d.views ++ d.queries) = before ++ e :: after
          ∧ (∀ b ∈ before, b.Generable) ∧ e.Fails fault
          ∧ failure = ⟨[.generating e.kind e.name], fault⟩)
    ∧ ∀ failure, (run.inLanguage .kotlin).generate s = .error failure ↔
        (run.inLanguage .java).generate s = .error failure := by
  have hgenerable : ∀ e : Entity, e.Generable ↔
      (∀ f ∈ e.fields, f.Resolvable) ∧ (e.fields.filter (·.primaryKey)).length ≤ 1
        ∧ (e.isEnumeration → e.enumItems ≠ []) := by
    intro e
    constructor
    · intro h
      exact ⟨h.columns, h.keys, h.literals⟩
    · rintro ⟨hcolumns, hkeys, hliterals⟩
      exact ⟨⟨hcolumns, hkeys⟩, hliterals⟩
  refine ⟨?_, fun failure => generate_eq_error_iff, fun failure => ?_⟩
  · rw [exists_generate_iff, Schema.entities]
    simp only [List.forall_mem_flatMap, hgenerable]
    rfl
  · rw [generate_eq_error_iff, generate_eq_error_iff]

end Run

end SchemaForge
