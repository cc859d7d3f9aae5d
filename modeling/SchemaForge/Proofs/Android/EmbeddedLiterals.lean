import SchemaForge.Proofs.Android.Languages
import SchemaForge.Proofs.Sql.Parts

namespace SchemaForge

/-! # Literals of a definition in its constant

The constant of a table has the statements that create it without their indentation. All tabs are
left out of them, and in Java they are cut into lines, which loses the carriage returns before line
feeds. Where literals begin and end does not matter for that, so a literal with such characters is
another one in the constant.
-/

namespace Language

/-- A script as the constant for it in a language stands for it. -/
def readScript (l : Language) (script : String) : String :=
  match l with
  | .kotlin => Constant.scriptText script
  | .java => Text.dropReturns (Constant.scriptText script)

/-- What is left of a part of a script that is not at its end. -/
def readPart (l : Language) (s : String) : String :=
  match l with
  | .kotlin => Text.removeChar '\t' s
  | .java => Text.dropReturns (Text.removeChar '\t' s)

theorem visible_readPart (l : Language) (s : String) :
    Chars.visible (l.readPart s).toList = Chars.visible s.toList := by
  have htabs := Text.visible_removeChar (c := '\t') rfl s
  cases l with
  | kotlin => exact htabs
  | java => exact (Text.visible_dropReturns _).trans htabs

theorem trimmed_readPart (l : Language) {s : String} (h : Text.Trimmed s) :
    Text.Trimmed (l.readPart s) := by
  have htabs : Text.Trimmed (Text.removeChar '\t' s) := Text.trimmed_removeChar rfl h
  cases l with
  | kotlin => exact htabs
  | java => exact Text.trimmed_dropReturns htabs

/-- A part is left as it is when it has no tab and, in Java, no carriage return before a line feed. -/
theorem readPart_eq_self_iff (l : Language) (s : String) :
    l.readPart s = s ↔
      '\t' ∉ s.toList ∧ (l = .java → ¬ ['\r', '\n'] <:+: s.toList) := by
  cases l with
  | kotlin => simp [readPart, Text.removeChar_eq_self_iff]
  | java =>
    rw [readPart, ← Text.dropReturns_eq_self_iff, ← Text.removeChar_eq_self_iff]
    constructor
    · intro h
      -- nothing that is left out comes back, so that no tab has been left out
      have hlength := Text.length_dropReturns_le (Text.removeChar '\t' s)
      rw [h] at hlength
      have htabs := Text.removeChar_eq_self_of_length_le hlength
      rw [htabs] at h
      exact ⟨htabs, fun _ => h⟩
    · rintro ⟨htabs, hreturns⟩
      rw [htabs, hreturns rfl]

end Language

/-- What the constant for a script stands for in either language. -/
theorem Constant.evaluate?_script (l : Language) (name : String) {script : String}
    (h : scriptText script ≠ "") :
    Literal.evaluate? l ((Constant.mk name (.script script)).expression l) =
      some (l.readScript script) := by
  cases l with
  | kotlin => exact Literal.evaluate?_quote .kotlin (scriptText script)
  | java => exact Constant.evaluate?_java_script name h

namespace Sql

variable {parts : List Part}

/-- A script is laid out anew in a constant, with each literal read as a part by itself. -/
theorem laidOut_readScript (l : Language) (h : ∀ s ∈ literalsOf parts, Text.Trimmed s) :
    LaidOut l.readPart parts (l.readScript (written parts)) := by
  have htabs : LaidOut (Text.removeChar '\t') parts (Text.removeChar '\t' (written parts)) :=
    (keepsLiterals_written parts).removeChar rfl
  have hwritten : ∀ s ∈ literalsOf parts, Text.Trimmed (Text.removeChar '\t' s) :=
    fun s hs => Text.trimmed_removeChar rfl (h s hs)
  have hscript := htabs.trimEnd hwritten
  cases l with
  | kotlin => exact hscript
  | java => exact hscript.dropReturns hwritten

/-- A constant keeps the literals of its script exactly when each is left as it is. -/
theorem keepsLiterals_readScript_iff (l : Language)
    (h : ∀ s ∈ literalsOf parts, Text.Trimmed s) :
    KeepsLiterals parts (l.readScript (written parts)) ↔
      ∀ s ∈ literalsOf parts, l.readPart s = s := by
  have hlaid := laidOut_readScript l h
  constructor
  · intro hkeeps
    exact hlaid.write_eq hkeeps l.visible_readPart h (fun s hs => l.trimmed_readPart (h s hs))
      (rfl : Chars.visible [] = Chars.visible []) rfl
  · exact hlaid.congr

end Sql

/-- Whenever sources are generated for a table, the first of them has one constant for the statements
that create it, and its value stands for these statements without tabs, without the blanks at their
end and, in Java, without carriage returns before line feeds. The statements are made up of parts, of
which the defaults of columns and the texts of rows are literals. The constant keeps them, in another
layout, exactly when none of them has a tab or, in Java, a carriage return before a line feed. -/
theorem Scope.constant_keeps_literals_iff {s : Scope} {as : List Artifact}
    (h : s.artifacts = .ok as) (htable : s.entity.isTable) :
    ∃ (constants : SourceClass) (value : String) (others : List Artifact),
      as = ⟨s.directory, .overwrite, constants⟩ :: others
      ∧ constants.fileName = s.constantsName ++ "." ++ s.language.extension
      ∧ constants.constantValues "CREATE_TABLE" = [value]
      ∧ Literal.evaluate? s.language value =
          some (s.language.readScript (Sql.createTable s.entity))
      ∧ Sql.written (Sql.tableParts s.entity) = Sql.createTable s.entity
      ∧ Sql.literalsOf (Sql.tableParts s.entity) = Sql.tableLiterals s.entity
      ∧ (Sql.KeepsLiterals (Sql.tableParts s.entity)
            (s.language.readScript (Sql.createTable s.entity)) ↔
          ∀ literal ∈ Sql.tableLiterals s.entity, '\t' ∉ literal.toList
            ∧ (s.language = .java → ¬ ['\r', '\n'] <:+: literal.toList)) := by
  obtain ⟨r, hresolve, -, rfl⟩ := Scope.artifacts_eq_ok_iff.1 h
  have hscope : r.toScope = s := (Scope.resolve_eq_ok_iff.1 hresolve).1
  subst hscope
  obtain ⟨others, hothers⟩ := r.exists_artifacts_eq_constantsSource_cons
  have hmem : ⟨"CREATE_TABLE", .script (Sql.createTable r.entity)⟩ ∈ r.statementConstants := by
    simp [Resolved.statementConstants, htable]
  have hvalue := r.constantValues_eq "CREATE_TABLE"
  rw [Resolved.filter_constants_of_mem hmem, List.map_singleton] at hvalue
  have htrimmed : ∀ literal ∈ Sql.literalsOf (Sql.tableParts r.entity), Text.Trimmed literal := by
    intro literal hliteral
    rw [Sql.literalsOf_tableParts] at hliteral
    exact Sql.trimmed_of_mem_tableLiterals hliteral
  refine ⟨r.constantsSource, _, others, hothers, Resolved.fileName_constantsSource, hvalue,
    Constant.evaluate?_script _ _ (Constant.scriptText_createTable_ne_empty r.entity),
    Sql.written_tableParts r.entity, Sql.literalsOf_tableParts r.entity, ?_⟩
  have hkeeps := Sql.keepsLiterals_readScript_iff r.language htrimmed
  rw [Sql.written_tableParts, Sql.literalsOf_tableParts] at hkeeps
  rw [hkeeps]
  exact forall₂_congr fun literal _ => r.language.readPart_eq_self_iff literal

/-- A table with a default in which a tab stands between two words. -/
def tabbedTable : Entity :=
  { kind := .table, name := "NOTE"
    fields := [{ name := "BODY", type := .varchar, defaultText := "a\tb" }] }

/-- The tab is in the statements and not in the constant. -/
theorem Scope.literal_changed_tabbedTable :
    ∃ (as : List Artifact) (constants : SourceClass) (value text : String)
        (others : List Artifact),
      (Scope.mk { package := "org", created := "today" }
          { name := "main", tables := [tabbedTable] } tabbedTable).artifacts = .ok as
      ∧ tabbedTable.isTable
      ∧ as = ⟨"note", .overwrite, constants⟩ :: others
      ∧ constants.constantValues "CREATE_TABLE" = [value]
      ∧ Literal.evaluate? .kotlin value = some text
      ∧ text = "CREATE TABLE IF NOT EXISTS NOTE (\nBODY TEXT DEFAULT 'ab'\n);"
      ∧ Sql.tableLiterals tabbedTable = ["'a\tb'"]
      ∧ ¬ Sql.KeepsLiterals (Sql.tableParts tabbedTable) text := by
  let s : Scope := .mk { package := "org", created := "today" }
    { name := "main", tables := [tabbedTable] } tabbedTable
  have hgenerable : tabbedTable.Generable :=
    Entity.generable_of_plain (by decide) (by decide) (by decide)
  obtain ⟨as, has⟩ : ∃ as, s.artifacts = .ok as := Scope.exists_artifacts_iff.2 hgenerable
  have htable : s.entity.isTable := by decide
  obtain ⟨constants, value, others, hfirst, -, hvalue, htext, -, -, hkeeps⟩ :=
    Scope.constant_keeps_literals_iff has htable
  have hdirectory : s.directory = "note" := by decide
  rw [hdirectory] at hfirst
  have hliterals : Sql.tableLiterals s.entity = ["'a\tb'"] := by decide
  refine ⟨as, constants, value, _, others, has, htable, hfirst, hvalue, htext, by decide, hliterals,
    ?_⟩
  rw [hkeeps, hliterals]
  intro hplain
  exact (hplain _ List.mem_cons_self).1 (by decide)

end SchemaForge
