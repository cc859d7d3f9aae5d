import SchemaForge.Proofs.Android.Constants
import SchemaForge.Proofs.Literal.Expression
import SchemaForge.Proofs.Text.Lines

namespace SchemaForge

/-! # Constants in both languages

An entity is resolved without regard to the language, so that both languages declare the same
constants. They quote in different ways: only Kotlin escapes the dollar, and only Java cuts the
statement that creates a table into lines. Read back as the languages do it, every text is the same
in both, except that cutting into lines loses the carriage returns before the ends of lines.
-/

/-! ## An entity in another language -/

/-- The same place for sources in another language. -/
def Scope.inLanguage (s : Scope) (l : Language) : Scope :=
  { s with run := s.run.inLanguage l }

/-- The same columns for sources in another language. -/
def Resolved.inLanguage (r : Resolved) (l : Language) : Resolved :=
  { r with toScope := r.toScope.inLanguage l }

namespace Scope

variable {s : Scope} {r : Resolved}

/-- A field is resolved to the same column for every language. -/
theorem column_inLanguage (s : Scope) (l : Language) : (s.inLanguage l).column = s.column :=
  rfl

theorem resolve_inLanguage (h : s.resolve = .ok r) (l : Language) :
    (s.inLanguage l).resolve = .ok (r.inLanguage l) := by
  obtain ⟨hscope, hcolumns, hkeys⟩ := resolve_eq_ok_iff.1 h
  rw [resolve_eq_ok_iff, column_inLanguage]
  exact ⟨by rw [Resolved.inLanguage, hscope], hcolumns, hkeys⟩

/-- What is made for an entity in one language is made in every other. -/
theorem artifacts_inLanguage (h : s.resolve = .ok r)
    (hliterals : s.entity.isEnumeration → s.entity.enumItems ≠ []) (l : Language) :
    (s.inLanguage l).artifacts = .ok (r.inLanguage l).artifacts :=
  artifacts_of_resolve (resolve_inLanguage h l) hliterals

end Scope

/-! ## What constants stand for -/

/-- The statements that create a table are not blank. -/
theorem Constant.scriptText_createTable_ne_empty (e : Entity) :
    scriptText (Sql.createTable e) ≠ "" := by
  have hfirst : 'C' ∈ (Sql.createTable e).toList := by
    have hstart : 'C' ∈ "CREATE TABLE IF NOT EXISTS ".toList := by decide
    unfold Sql.createTable
    simp only [String.toList_append, List.append_assoc]
    exact List.mem_append_left _ hstart
  have hkept : 'C' ∈ (Text.removeChar '\t' (Sql.createTable e)).toList := by
    rw [Text.removeChar, String.toList_ofList]
    exact List.mem_filter.2 ⟨hfirst, by decide⟩
  exact Text.trimEnd_ne_empty hkept (by decide)

/-- The literals of the lines of a script stand for the script, whose end is trimmed and therefore
no line feed, without the carriage returns before its line feeds. -/
theorem Constant.evaluate?_java_script (name : String) {script : String}
    (h : scriptText script ≠ "") :
    Literal.evaluate? .java (Constant.mk name (.script script)).java.value =
      some (Text.dropReturns (scriptText script)) := by
  have hend : (scriptText script).toList.getLast? ≠ some '\n' := by
    intro hlast
    have hspace : Chars.isSpace '\n' = false := Text.getLast?_trimEnd hlast
    revert hspace
    decide
  have hvalue : (Constant.mk name (.script script)).java.value =
      Literal.lineSeparator.intercalate
        ((Text.lines (scriptText script)).map (Literal.quote .java)) := by
    simp only [Constant.java, JavaVariable.constant, Literal.lineSeparator]
  rw [hvalue, Literal.evaluate?_lines (Text.lines_ne_nil h), Text.intercalate_lines hend]

/-- A declaration of a constant of an entity in Kotlin and one in Java that agree. -/
structure Entity.ConstantAgrees (e : Entity) (kotlin : KotlinProperty) (java : JavaVariable) :
    Prop where
  name : kotlin.name = java.name
  /-- Either both declare a text or neither does. -/
  kind : kotlin.isConstant = true ↔ java.type = "String"
  /-- A text is the same in both languages. -/
  text : kotlin.isConstant → kotlin.name ≠ "CREATE_TABLE" → ∃ text,
    Literal.evaluate? .kotlin kotlin.value = some text
      ∧ Literal.evaluate? .java java.value = some text
  /-- The statement that creates the table is without its tabs and the blanks at its end, and in
  Java also without the carriage returns before its line feeds. -/
  script : kotlin.name = "CREATE_TABLE" →
    Literal.evaluate? .kotlin kotlin.value =
        some (Text.trimEnd (Text.removeChar '\t' (Sql.createTable e)))
      ∧ Literal.evaluate? .java java.value =
        some (Text.dropReturns (Text.trimEnd (Text.removeChar '\t' (Sql.createTable e))))
  /-- What is no text is an array of the same constants. -/
  array : kotlin.isConstant = false → ∃ constants,
    kotlin.value = Language.kotlin.arrayOf constants ∧ java.value = Language.java.arrayOf constants

namespace Constant

variable {e : Entity} {name : String}

theorem agrees_text (text : String) (h : name ≠ "CREATE_TABLE") :
    e.ConstantAgrees (Constant.mk name (.text text)).kotlin
      (Constant.mk name (.text text)).java := by
  constructor
  case name => rfl
  case kind => exact ⟨fun _ => rfl, fun _ => rfl⟩
  case text =>
    intro _ _
    exact ⟨text, Literal.evaluate?_quote .kotlin text, Literal.evaluate?_quote .java text⟩
  case script => exact fun hname => absurd hname h
  case array => rintro ⟨⟩

theorem agrees_list (constants : List String) (h : name ≠ "CREATE_TABLE") :
    e.ConstantAgrees (Constant.mk name (.list constants)).kotlin
      (Constant.mk name (.list constants)).java := by
  constructor
  case name => rfl
  case kind =>
    have hkotlin : (Constant.mk name (.list constants)).kotlin.isConstant = false := rfl
    have hjava : (Constant.mk name (.list constants)).java.type = "String[]" := rfl
    rw [hkotlin, hjava]
    decide
  case text => rintro ⟨⟩
  case script => exact fun hname => absurd hname h
  case array => exact fun _ => ⟨constants, rfl, rfl⟩

theorem agrees_script (e : Entity) :
    e.ConstantAgrees (Constant.mk "CREATE_TABLE" (.script (Sql.createTable e))).kotlin
      (Constant.mk "CREATE_TABLE" (.script (Sql.createTable e))).java := by
  constructor
  case name => rfl
  case kind => exact ⟨fun _ => rfl, fun _ => rfl⟩
  case text => exact fun _ hname => absurd rfl hname
  case script =>
    intro _
    exact ⟨Literal.evaluate?_quote .kotlin _,
      evaluate?_java_script _ (scriptText_createTable_ne_empty e)⟩
  case array => rintro ⟨⟩

end Constant

namespace Resolved

variable {r : Resolved} {c : Constant}

/-- No constant of a column is named like that of the statement that creates the table. -/
theorem name_ne_of_mem_columnConstants (h : c ∈ r.columnConstants) :
    c.name ≠ "CREATE_TABLE" ∧ ∃ text, c.value = .text text := by
  obtain ⟨column, -, hmem⟩ := List.mem_flatMap.1 h
  simp only [List.mem_cons, List.not_mem_nil, or_false] at hmem
  rcases hmem with rfl | rfl
  · refine ⟨fun hname => ?_, _, rfl⟩
    simpa [Column.constant] using congrArg String.toList hname
  · refine ⟨fun hname => ?_, _, rfl⟩
    simpa [Column.fullConstant] using congrArg String.toList hname

/-- Every constant of an entity is declared alike in both languages. -/
theorem agrees_of_mem_constants (h : c ∈ r.constants) :
    r.entity.ConstantAgrees c.kotlin c.java := by
  simp only [constants, List.mem_append, List.mem_cons, List.not_mem_nil, or_false] at h
  rcases h with ((((rfl | htable) | hkey) | hcolumn) | hstatement) | rfl | rfl
  · exact Constant.agrees_text _ (by decide)
  · unfold tableConstants at htable
    split at htable
    · cases htable
    · simp only [List.mem_cons, List.not_mem_nil, or_false] at htable
      rcases htable with rfl | rfl <;> exact Constant.agrees_text _ (by decide)
  · unfold keyConstants at hkey
    split at hkey
    · rw [List.mem_singleton.1 hkey]
      exact Constant.agrees_text _ (by decide)
    · cases hkey
  · obtain ⟨name, value⟩ := c
    obtain ⟨hname, text, rfl⟩ := name_ne_of_mem_columnConstants hcolumn
    exact Constant.agrees_text text hname
  · unfold statementConstants at hstatement
    split at hstatement
    · simp only [List.mem_cons, List.not_mem_nil, or_false] at hstatement
      rcases hstatement with rfl | rfl | rfl | rfl
      · exact Constant.agrees_script r.entity
      · exact Constant.agrees_text _ (by decide)
      · exact Constant.agrees_text _ (by decide)
      · exact Constant.agrees_text _ (by decide)
    · cases hstatement
  · exact Constant.agrees_list _ (by decide)
  · exact Constant.agrees_list _ (by decide)

/-- The constants are the first class of an entity. -/
theorem exists_artifacts_eq_constantsSource_cons (r : Resolved) :
    ∃ others, r.artifacts = ⟨r.directory, .overwrite, r.constantsSource⟩ :: others := by
  unfold artifacts Scope.builders constantsSource
  cases r.language <;> cases r.entity.isEnumeration <;> exact ⟨_, rfl⟩

/-- The declarations of both languages stand side by side. -/
theorem forall₂_agrees_constants (r : Resolved) :
    List.Forall₂ r.entity.ConstantAgrees (r.constants.map (·.kotlin))
      (r.constants.map (·.java)) := by
  rw [List.forall₂_map_left_iff, List.forall₂_map_right_iff, List.forall₂_same]
  exact fun c hc => agrees_of_mem_constants hc

end Resolved

/-- Whenever sources are generated for an entity, in whatever language, they are in both languages,
and the class of its constants, which is the first, declares in both the same constants in the same
order: texts that are the same when each language reads its own literals, but for carriage returns
in the statement that creates a table, and arrays of the same constants. -/
theorem Scope.constants_agree {s : Scope} {as : List Artifact} (h : s.artifacts = .ok as) :
    ∃ (kotlin : KotlinClass) (java : JavaClass) (kotlinOthers javaOthers : List Artifact),
      (s.inLanguage .kotlin).artifacts =
          .ok (⟨s.directory, .overwrite, .kotlin kotlin⟩ :: kotlinOthers)
      ∧ (s.inLanguage .java).artifacts =
          .ok (⟨s.directory, .overwrite, .java java⟩ :: javaOthers)
      ∧ kotlin.name = s.constantsName ∧ java.name = s.constantsName
      ∧ kotlin.constants.map (·.name) = s.entity.constantNames
      ∧ List.Forall₂ s.entity.ConstantAgrees kotlin.constants java.constants := by
  obtain ⟨r, hresolve, hliterals, -⟩ := artifacts_eq_ok_iff.1 h
  have hscope : r.toScope = s := (resolve_eq_ok_iff.1 hresolve).1
  have hfirst : ∀ l, ∃ others, (s.inLanguage l).artifacts =
      .ok (⟨s.directory, .overwrite, (r.inLanguage l).constantsSource⟩ :: others) := by
    intro l
    obtain ⟨others, hothers⟩ := (r.inLanguage l).exists_artifacts_eq_constantsSource_cons
    have hdirectory : (r.inLanguage l).directory = s.directory := by
      rw [← hscope]
      rfl
    exact ⟨others, by rw [artifacts_inLanguage hresolve hliterals l, hothers, hdirectory]⟩
  obtain ⟨kotlinOthers, hkotlin⟩ := hfirst .kotlin
  obtain ⟨javaOthers, hjava⟩ := hfirst .java
  have hagree : List.Forall₂ s.entity.ConstantAgrees (r.inLanguage .kotlin).kotlinConstants.constants
      (r.inLanguage .java).javaConstants.constants := by
    rw [← hscope]
    exact r.forall₂_agrees_constants
  refine ⟨(r.inLanguage .kotlin).kotlinConstants, (r.inLanguage .java).javaConstants, kotlinOthers,
    javaOthers, hkotlin, hjava, ?_, ?_, ?_, hagree⟩
  · rw [← hscope]
    rfl
  · rw [← hscope]
    rfl
  · have hconstants : (r.inLanguage .kotlin).kotlinConstants.constants =
        r.constants.map (·.kotlin) := rfl
    rw [← Resolved.map_name_constants hresolve, hconstants, List.map_map]
    exact List.map_congr_left fun c _ => c.name_kotlin

/-- A table with a default of two lines, as a document on another system has them. -/
def noteTable : Entity :=
  { kind := .table, name := "NOTE"
    fields := [{ name := "BODY", type := .varchar, defaultText := "$1\r\n2" }] }

/-- The constants that are generated in the two languages have the dollar of a default both, and the
carriage return in Kotlin only. -/
theorem Scope.constants_agree_noteTable :
    ∃ (kotlin : KotlinClass) (java : JavaClass) (kotlinOthers javaOthers : List Artifact)
      (k : KotlinProperty) (j : JavaVariable),
      (Scope.mk { package := "org", created := "today", options := { language := .kotlin } }
          { name := "main", tables := [noteTable] } noteTable).artifacts =
        .ok (⟨"note", .overwrite, .kotlin kotlin⟩ :: kotlinOthers)
      ∧ (Scope.mk { package := "org", created := "today", options := { language := .java } }
          { name := "main", tables := [noteTable] } noteTable).artifacts =
        .ok (⟨"note", .overwrite, .java java⟩ :: javaOthers)
      ∧ kotlin.name = "NoteConst" ∧ java.name = "NoteConst"
      ∧ k ∈ kotlin.constants ∧ j ∈ java.constants
      ∧ k.name = "CREATE_TABLE" ∧ j.name = "CREATE_TABLE"
      ∧ Literal.evaluate? .kotlin k.value =
          some "CREATE TABLE IF NOT EXISTS NOTE (\nBODY TEXT DEFAULT '$1\r\n2'\n);"
      ∧ Literal.evaluate? .java j.value =
          some "CREATE TABLE IF NOT EXISTS NOTE (\nBODY TEXT DEFAULT '$1\n2'\n);" := by
  let s : Scope := .mk { package := "org", created := "today" }
    { name := "main", tables := [noteTable] } noteTable
  have hgenerable : noteTable.Generable :=
    Entity.generable_of_plain (by decide) (by decide) (by decide)
  obtain ⟨as, has⟩ : ∃ as, s.artifacts = .ok as := Scope.exists_artifacts_iff.2 hgenerable
  have hdirectory : s.directory = "note" := by decide
  have hconstants : s.constantsName = "NoteConst" := by decide
  obtain ⟨kotlin, java, kotlinOthers, javaOthers, hkotlinFile, hjavaFile, hkotlinName, hjavaName,
    hnames, hagree⟩ := Scope.constants_agree has
  rw [hdirectory] at hkotlinFile hjavaFile
  have hdeclared : "CREATE_TABLE" ∈ kotlin.constants.map (·.name) := by
    rw [hnames]
    decide
  obtain ⟨k, hk, hname⟩ := List.mem_map.1 hdeclared
  obtain ⟨j, hj, hsame⟩ := exists_of_mem_left hagree k hk
  obtain ⟨hkotlin, hjava⟩ := hsame.script hname
  refine ⟨kotlin, java, kotlinOthers, javaOthers, k, j, hkotlinFile, hjavaFile,
    hkotlinName.trans hconstants, hjavaName.trans hconstants, hk, hj, hname, hsame.name ▸ hname,
    hkotlin.trans ?_, hjava.trans ?_⟩
  · decide
  · decide

end SchemaForge
