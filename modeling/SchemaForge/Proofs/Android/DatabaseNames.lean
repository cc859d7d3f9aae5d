import SchemaForge.Proofs.Android.Coverage
import SchemaForge.Proofs.Text.Words

namespace SchemaForge

/-! # Databases under names of their own

The classes for all databases name a database three times: by the constant for its name, by its
functions and by the constants for its versions. Each name is made of the words of the database's
name, in capitals, capitalised or as a variable, and nothing looks whether another database has got
it. Databases meet under a name when their words cannot be told apart in its spelling.
-/

namespace Database

/-- The words of the name of a database. -/
def nameWords (d : Database) : List (List Char) :=
  Chars.words d.plainName.toList

/-- The name of a database as it begins the constants for its versions. -/
def versionsName (d : Database) : String :=
  Naming.variableName d.plainName

/-- Holds for databases that have the same constants for their versions. -/
def SharesVersions (l : Language) (d e : Database) : Prop :=
  match l with
  | .kotlin => d.versionsName = e.versionsName
  -- the name is taken apart once more, together with the words for a version
  | .java => (Chars.words d.versionsName.toList).map Chars.upper =
        (Chars.words e.versionsName.toList).map Chars.upper
      ∧ (Chars.LeftOpen d.versionsName.toList ↔ Chars.LeftOpen e.versionsName.toList)

/-- Holds for databases that cannot be told apart by some name. -/
inductive Meets (l : Language) (d e : Database) : Prop where
  /-- The constants for their names are the same. -/
  | constants (h : d.nameWords.map Chars.upper = e.nameWords.map Chars.upper)
  /-- Their functions are the same. -/
  | functions (h : d.nameWords.flatMap Chars.capitalize = e.nameWords.flatMap Chars.capitalize)
  /-- The constants for their versions are the same. -/
  | versions (h : d.SharesVersions l e)

variable {d e : Database}

/-! ## Names of two databases -/

theorem nameConstant_eq_iff : d.nameConstant = e.nameConstant
    ↔ d.nameWords.map Chars.upper = e.nameWords.map Chars.upper := by
  rw [nameConstant, nameConstant, String.append_left_inj, Naming.constantName_eq_iff]
  rfl

theorem functionPart_eq_iff : d.functionPart = e.functionPart
    ↔ d.nameWords.flatMap Chars.capitalize = e.nameWords.flatMap Chars.capitalize := by
  rw [functionPart, functionPart, Naming.className, Naming.className, String.ofList_inj]
  rfl

/-- The constants for a version are the same when those for the other are. -/
theorem versionConstant_eq_iff {part : String} (hpart : part ∈ ["TablesVersion", "ViewsVersion"])
    (l : Language) : d.versionConstant l part = e.versionConstant l part
      ↔ d.SharesVersions l e := by
  have hchars : Chars.Capitalised part.toList ∧ (∀ c ∈ part.toList, Chars.isAlphanumeric c)
      ∧ ∃ first rest, Chars.words part.toList = first :: rest := by
    rcases List.mem_pair.1 hpart with rfl | rfl
    · exact ⟨.mk (by decide) (by decide) (by decide), List.all_eq_true.1 (by decide), _, _, rfl⟩
    · exact ⟨.mk (by decide) (by decide) (by decide), List.all_eq_true.1 (by decide), _, _, rfl⟩
  obtain ⟨hcapitalised, hletters, first, rest, hwords⟩ := hchars
  cases l with
  | kotlin => exact String.append_left_inj part
  | java =>
    change Naming.constantName (d.versionsName ++ part) =
      Naming.constantName (e.versionsName ++ part) ↔ _
    rw [Naming.constantName_eq_iff, String.toList_append, String.toList_append,
      Chars.upper_words_append_iff hcapitalised hletters hwords]
    rfl

theorem tablesVersion_ne_viewsVersion (l : Language) (d e : Database) :
    d.tablesVersion l ≠ e.viewsVersion l := by
  intro heq
  cases l with
  | kotlin =>
    have hchars : d.versionsName.toList ++ "Tabl".toList ++ "esVersion".toList =
        e.versionsName.toList ++ "Vie".toList ++ "wsVersion".toList := by
      have hchars := congrArg String.toList heq
      simpa [tablesVersion, viewsVersion, versionConstant, versionsName] using hchars
    exact absurd (List.append_inj' hchars (by decide)).2 (by decide)
  | java =>
    change Naming.constantName (d.versionsName ++ "TablesVersion") =
      Naming.constantName (e.versionsName ++ "ViewsVersion") at heq
    obtain ⟨before, goesOn, -, -, hwords⟩ := Chars.exists_words_append d.versionsName.toList
    obtain ⟨others, otherGoesOn, -, -, hothers⟩ := Chars.exists_words_append e.versionsName.toList
    rw [Naming.constantName_eq_iff, String.toList_append, String.toList_append,
      hwords "TablesVersion".toList "Tables".toList ["Version".toList]
        (.mk (by decide) (by decide) (by decide)) (List.all_eq_true.1 (by decide)) (by decide),
      hothers "ViewsVersion".toList "Views".toList ["Version".toList]
        (.mk (by decide) (by decide) (by decide)) (List.all_eq_true.1 (by decide)) (by decide)]
      at heq
    simp only [List.map_append, List.map_cons, Chars.upper_append] at heq
    -- the words before the last end differently
    have hword := (List.cons.inj (List.append_inj' heq rfl).2).1
    rw [show Chars.upper "Tables".toList = ['T'] ++ "ABLES".toList by decide,
      show Chars.upper "Views".toList = "VIEWS".toList by decide, ← List.append_assoc] at hword
    exact absurd (List.append_inj' hword (by decide)).2 (by decide)

/-- Two databases have no version constant in common when they do not share these. -/
theorem disjoint_versions_iff {l : Language} :
    List.Disjoint [d.tablesVersion l, d.viewsVersion l] [e.tablesVersion l, e.viewsVersion l]
      ↔ ¬ d.SharesVersions l e := by
  have htables : d.tablesVersion l = e.tablesVersion l ↔ d.SharesVersions l e :=
    versionConstant_eq_iff (by decide) l
  have hviews : d.viewsVersion l = e.viewsVersion l ↔ d.SharesVersions l e :=
    versionConstant_eq_iff (by decide) l
  constructor
  · intro hdisjoint hshares
    refine hdisjoint List.mem_cons_self ?_
    rw [htables.2 hshares]
    exact List.mem_cons_self
  · intro hshares name hname hother
    rcases List.mem_pair.1 hname with rfl | rfl
    · rcases List.mem_pair.1 hother with heq | heq
      · exact hshares (htables.1 heq)
      · exact tablesVersion_ne_viewsVersion l d e heq
    · rcases List.mem_pair.1 hother with heq | heq
      · exact tablesVersion_ne_viewsVersion l e d heq.symm
      · exact hshares (hviews.1 heq)

end Database

/-! ## Names of functions -/

namespace Lifecycle

/-- What stands around the name of a database in the names of its functions. -/
def functionAffixes : List (String × String) :=
  [("create", "Tables"), ("create", "Views"), ("drop", "Views")]

/-- The beginning and the end of the name of a function are those of what stands around. -/
theorem ends_functionName {affixes : String × String} (h : affixes ∈ functionAffixes) (s : String) :
    (affixes.1 ++ s ++ affixes.2).toList.head? = affixes.1.toList.head?
      ∧ (affixes.1 ++ s ++ affixes.2).toList.reverse.take 2 = affixes.2.toList.reverse.take 2 := by
  have hlong : ∀ a ∈ functionAffixes, a.1.toList ≠ [] ∧ 2 ≤ a.2.toList.reverse.length := by decide
  obtain ⟨hfirst, hlast⟩ := hlong affixes h
  simp only [String.toList_append, List.reverse_append]
  constructor
  · rw [List.append_assoc, List.head?_append_of_ne_nil _ hfirst]
  · rw [List.take_append_of_le_length hlast]

/-- The name of a database is known from the name of a function, and so is what stands around it. -/
theorem functionName_inj {affixes others : String × String} (h : affixes ∈ functionAffixes)
    (hothers : others ∈ functionAffixes) {s t : String}
    (heq : affixes.1 ++ s ++ affixes.2 = others.1 ++ t ++ others.2) : affixes = others ∧ s = t := by
  have hends : ∀ a ∈ functionAffixes, ∀ b ∈ functionAffixes,
      a.1.toList.head? = b.1.toList.head? →
        a.2.toList.reverse.take 2 = b.2.toList.reverse.take 2 → a = b := by decide
  obtain ⟨hfirst, hlast⟩ := ends_functionName h s
  obtain ⟨hotherFirst, hotherLast⟩ := ends_functionName hothers t
  obtain rfl : affixes = others :=
    hends affixes h others hothers (by rw [← hfirst, heq, hotherFirst])
      (by rw [← hlast, heq, hotherLast])
  exact ⟨rfl, (String.append_right_inj _).1 ((String.append_left_inj _).1 heq)⟩

/-- The functions of a database, each with what stands around the name of that. -/
theorem exists_map_name_proceduresOf (l : Language) (d : Database) :
    ∃ shapes : List (String × String), shapes.Sublist functionAffixes
      ∧ ("create", "Tables") ∈ shapes
      ∧ (proceduresOf l d).map (·.name) = shapes.map fun a => a.1 ++ d.functionPart ++ a.2 := by
  unfold proceduresOf
  split
  · exact ⟨[("create", "Tables")], by decide, by decide, rfl⟩
  · exact ⟨functionAffixes, List.Sublist.refl _, by decide, rfl⟩

theorem nodup_map_name_proceduresOf (l : Language) (d : Database) :
    ((proceduresOf l d).map (·.name)).Nodup := by
  obtain ⟨shapes, hshapes, -, hnames⟩ := exists_map_name_proceduresOf l d
  have hnodup : shapes.Nodup := hshapes.nodup (by decide)
  rw [hnames]
  exact hnodup.map_on fun a ha b hb heq =>
    (functionName_inj (hshapes.subset ha) (hshapes.subset hb) heq).1

/-- Two databases have no function in common when they have different names in those. -/
theorem disjoint_map_name_proceduresOf_iff {l : Language} {d e : Database} :
    ((proceduresOf l d).map (·.name)).Disjoint ((proceduresOf l e).map (·.name))
      ↔ d.functionPart ≠ e.functionPart := by
  obtain ⟨shapes, hshapes, htables, hnames⟩ := exists_map_name_proceduresOf l d
  obtain ⟨others, hothers, hotherTables, hotherNames⟩ := exists_map_name_proceduresOf l e
  rw [hnames, hotherNames]
  constructor
  · intro hdisjoint heq
    -- both have a function for their tables
    refine hdisjoint (List.mem_map_of_mem htables) ?_
    rw [heq]
    exact List.mem_map_of_mem hotherTables
  · intro hne name hname hother
    obtain ⟨a, ha, rfl⟩ := List.mem_map.1 hname
    obtain ⟨b, hb, heq⟩ := List.mem_map.1 hother
    exact hne (functionName_inj (hothers.subset hb) (hshapes.subset ha) heq).2.symm

/-- The functions for the events have names that no function of a database has. -/
theorem eventName_ne {l : Language} {d : Database} {event name : String}
    (hevent : event ∈ ["onCreate", "onCreateViews", "onDropViews"])
    (hname : name ∈ (proceduresOf l d).map (·.name)) : event ≠ name := by
  obtain ⟨shapes, hshapes, -, hnames⟩ := exists_map_name_proceduresOf l d
  rw [hnames] at hname
  obtain ⟨a, ha, rfl⟩ := List.mem_map.1 hname
  have hmem := hshapes.subset ha
  have hfirsts : ∀ a ∈ functionAffixes, ∀ event ∈ ["onCreate", "onCreateViews", "onDropViews"],
      event.toList.head? ≠ a.1.toList.head? := by decide
  rintro rfl
  exact hfirsts a hmem _ hevent (ends_functionName hmem d.functionPart).1

/-- The functions of the class that creates databases have different names when no two databases
have the same name in those. -/
theorem nodup_map_name_procedures {l : Language} {s : Schema} :
    ((procedures l s).map (·.name)).Nodup
      ↔ s.databases.Pairwise fun d e => d.functionPart ≠ e.functionPart := by
  have hnames : (procedures l s).map (·.name) = ["onCreate", "onCreateViews", "onDropViews"]
      ++ s.databases.flatMap fun d => (proceduresOf l d).map (·.name) := by
    rw [procedures, List.map_append, List.map_flatMap]
    rfl
  have hevents : ∀ event ∈ ["onCreate", "onCreateViews", "onDropViews"],
      ∀ name ∈ s.databases.flatMap fun d => (proceduresOf l d).map (·.name), event ≠ name := by
    intro event hevent name hname
    obtain ⟨d, -, hd⟩ := List.mem_flatMap.1 hname
    exact eventName_ne hevent hd
  rw [hnames, List.nodup_append, List.nodup_flatMap]
  constructor
  · rintro ⟨-, ⟨-, hpairs⟩, -⟩
    exact hpairs.imp fun hdisjoint => disjoint_map_name_proceduresOf_iff.1 hdisjoint
  · intro hpairs
    refine ⟨by decide, ⟨fun d _ => nodup_map_name_proceduresOf l d, ?_⟩, hevents⟩
    exact hpairs.imp fun hne => disjoint_map_name_proceduresOf_iff.2 hne

end Lifecycle

/-! ## Distinct names -/

namespace Run

theorem nodup_constantNames_namesSource {run : Run} {s : Schema} :
    (run.namesSource s).constantNames.Nodup
      ↔ s.databases.Pairwise fun d e => d.nameConstant ≠ e.nameConstant := by
  rw [constantNames_namesSource, List.Nodup, List.pairwise_map]

theorem nodup_constantNames_upgradesSource {run : Run} {s : Schema} :
    (run.upgradesSource s).constantNames.Nodup
      ↔ s.databases.Pairwise fun d e => ¬ d.SharesVersions run.options.language e := by
  rw [constantNames_upgradesSource, List.nodup_flatMap]
  constructor
  · rintro ⟨-, hpairs⟩
    exact hpairs.imp fun hdisjoint => Database.disjoint_versions_iff.1 hdisjoint
  · intro hpairs
    refine ⟨fun d _ => ?_, hpairs.imp fun hshares => Database.disjoint_versions_iff.2 hshares⟩
    simp [Database.tablesVersion_ne_viewsVersion]

/-- The classes for all databases have different names for different databases when no two of these
meet: different constants for their names and versions, and different functions. -/
theorem database_names_apart_iff (run : Run) (s : Schema) :
    (run.namesSource s).constantNames.Nodup
      ∧ ((run.creationSource s).functions.map (·.1)).Nodup
      ∧ (run.upgradesSource s).constantNames.Nodup
    ↔ s.databases.Pairwise fun d e => ¬ d.Meets run.options.language e := by
  have hfunctions : (run.creationSource s).functions.map (·.1) =
      (Lifecycle.procedures run.options.language s).map (·.name) := by
    rw [functions_creationSource, List.map_map]
    rfl
  rw [hfunctions, nodup_constantNames_namesSource, Lifecycle.nodup_map_name_procedures,
    nodup_constantNames_upgradesSource, ← List.pairwise_and_iff, ← List.pairwise_and_iff]
  apply List.Pairwise.iff
  intro d e
  rw [Ne, Ne, Database.nameConstant_eq_iff, Database.functionPart_eq_iff]
  constructor
  · rintro ⟨hconstants, hfunctions, hversions⟩ hmeets
    cases hmeets with
    | constants h => exact hconstants h
    | functions h => exact hfunctions h
    | versions h => exact hversions h
  · intro hmeets
    exact ⟨fun h => hmeets (.constants h), fun h => hmeets (.functions h),
      fun h => hmeets (.versions h)⟩

/-- Databases whose names differ by a dot only. -/
def dottedSchema : Schema :=
  { databases := [{ name := "a.b" }, { name := "ab" }] }

/-- The databases are generated under the same names in either language. -/
theorem database_names_shared_dottedSchema :
    dottedSchema.validate = .ok ()
    ∧ dottedSchema.databases.Pairwise (fun d e => Text.sameName d.name e.name = false)
    ∧ ∀ l : Language,
      let run : Run := { package := "org", created := "today", options := { language := l } }
      (∃ files, run.generate dottedSchema = .ok files)
      ∧ (run.namesSource dottedSchema).constantNames = ["AB_DATABASE_NAME", "AB_DATABASE_NAME"]
      ∧ (run.creationSource dottedSchema).functions.map (·.1) =
        ["onCreate", "onCreateViews", "onDropViews", "createAbTables", "createAbTables"]
      ∧ ¬ ((run.namesSource dottedSchema).constantNames.Nodup
        ∧ ((run.creationSource dottedSchema).functions.map (·.1)).Nodup
        ∧ (run.upgradesSource dottedSchema).constantNames.Nodup) := by
  refine ⟨rfl, by decide, fun l => ⟨?_, ?_, ?_, ?_⟩⟩
  · refine exists_generate_iff.2 fun e he => ?_
    have hnone : dottedSchema.entities = [] := rfl
    rw [hnone] at he
    cases he
  · rw [constantNames_namesSource]
    decide
  · rw [functions_creationSource, List.map_map]
    cases l <;> decide
  · rw [database_names_apart_iff, dottedSchema, List.pairwise_pair]
    exact not_not_intro (.constants (by decide))

end Run

end SchemaForge
