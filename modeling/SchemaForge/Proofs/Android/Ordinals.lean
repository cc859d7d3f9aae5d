import SchemaForge.Proofs.Android.Languages
import SchemaForge.Proofs.Literal.Quoted
import SchemaForge.Proofs.Sql.Literal

namespace SchemaForge

/-! # Ordinals of enumeration tables

The literals of an enumeration table are written three times: as rows, as the literals of the enum
in either language, and in Java once more with the texts that are shown for them. All of these go
through the same items in the same order, so that the number in a row is the ordinal of the literal
whose text the row holds.
-/

/-! ## Rows -/

namespace Sql

variable {e : Entity} {key value : Field}

/-- The rows of a table: its literals with their ordinals. -/
def rows (e : Entity) (key value : Field) : List String :=
  e.enumItems.mapIdx (insertRow e key value)

theorem length_rows (e : Entity) (key value : Field) :
    (rows e key value).length = e.enumItems.length := by
  rw [rows, List.length_mapIdx]

theorem getElem?_rows {i : Nat} {item : EnumItem} (h : e.enumItems[i]? = some item) :
    (rows e key value)[i]? = some (insertRow e key value i item) := by
  rw [rows, List.getElem?_mapIdx, h, Option.map_some]

theorem enumerationRows_eq (henum : e.isEnumeration) (hkey : e.key? = some key)
    (hvalue : e.fields.find? (·.type == .varchar) = some value) :
    enumerationRows e = "\n" ++ Text.concat (rows e key value) ++ "\n" := by
  simp [enumerationRows, enumerationColumns?, henum, hkey, hvalue, rows]

/-! ## Tables -/

/-- The forms in which a value may stand as a default: as it is, as a truth value, as the time at
which a row is made, or between apostrophes, with its own doubled or not. -/
def defaultForms (value : String) : List String :=
  [value, "0", "1", "CURRENT_TIMESTAMP", "'" ++ value ++ "'",
    "'" ++ Text.replaceChar '\'' "''" value ++ "'"]

/-- The text declares the column of a field. -/
def IsColumn (f : Field) (text : String) : Prop :=
  ∃ affinity ∈ ["INTEGER", "REAL", "TEXT", "BLOB"], ∃ default,
    (if Text.isBlank f.defaultText then default = ""
      else ∃ form ∈ defaultForms (Text.trim f.defaultText), default = " DEFAULT " ++ form)
    ∧ text = "\t" ++ f.name ++ " " ++ affinity ++ default
      ++ (if f.notNull && !f.increment then " NOT NULL" else "")
      ++ (if f.primaryKey then " PRIMARY KEY" else "")
      ++ (if f.increment then " AUTOINCREMENT" else "")

/-- The constraints that follow the columns of a table. -/
def constraints (e : Entity) : List String :=
  let unique := (e.fields.filter (·.unique)).map (·.name)
  ((if unique.isEmpty then [] else [unique]).map fun names =>
      ",\n\tUNIQUE(" ++ ", ".intercalate names ++ ")")
    ++ (e.fields.filter (·.isForeignKey)).map (fun f =>
      ",\n\tFOREIGN KEY (" ++ f.name ++ ") REFERENCES " ++ f.foreignTable?.getD "" ++ " ("
        ++ f.foreignField?.getD "" ++ ")")
    ++ e.uniqueGroups.map fun names => ",\n\tUNIQUE(" ++ ", ".intercalate names ++ ")"

/-- The statements for a table of these columns: it is created, then the indexes on its columns, and
then its rows are inserted. -/
def scriptOf (e : Entity) (columns rows : List String) : String :=
  "CREATE TABLE IF NOT EXISTS " ++ e.name ++ " (\n"
    ++ ",\n".intercalate columns ++ Text.concat (constraints e) ++ "\n);\n\n"
    ++ Text.concat ((e.fields.filter (·.indexed)).map fun f =>
      "CREATE INDEX IF NOT EXISTS " ++ (e.name ++ f.name ++ "_IDX") ++ " ON " ++ e.name ++ " ("
        ++ f.name ++ ");\n\n")
    ++ ("\n" ++ Text.concat rows ++ "\n")

theorem defaultLiteral_mem (f : Field) :
    defaultLiteral f ∈ defaultForms (Text.trim f.defaultText) := by
  unfold defaultLiteral defaultForms literal
  dsimp only
  split_ifs <;> simp

theorem isColumn_columnDefinition (f : Field) : IsColumn f (columnDefinition f) := by
  have haffinity : f.type.affinity.name ∈ ["INTEGER", "REAL", "TEXT", "BLOB"] := by
    cases f.type.affinity <;> decide
  refine ⟨f.type.affinity.name, haffinity, _, ?_, rfl⟩
  split
  · rfl
  · exact ⟨_, defaultLiteral_mem f, rfl⟩

theorem append_concat_constraints (e : Entity) (before : String) :
    before ++ Text.concat (constraints e) =
      before ++ (if (uniqueColumns e).isEmpty then "" else uniqueConstraint (uniqueColumns e))
      ++ Text.concat (e.foreignKeys.map foreignKeyConstraint)
      ++ Text.concat (e.uniqueGroups.map uniqueConstraint) := by
  have hunique : Text.concat ((if (uniqueColumns e).isEmpty then [] else [uniqueColumns e]).map
      uniqueConstraint) =
        if (uniqueColumns e).isEmpty then "" else uniqueConstraint (uniqueColumns e) := by
    cases (uniqueColumns e).isEmpty <;> simp [Text.concat_cons]
  rw [← hunique, String.append_assoc, String.append_assoc, ← Text.concat_append,
    ← Text.concat_append]
  simp only [← List.append_assoc]
  rfl

/-- The statements for an enumeration table are made of its columns and its rows. -/
theorem createTable_eq_scriptOf (henum : e.isEnumeration) (hkey : e.key? = some key)
    (hvalue : e.fields.find? (·.type == .varchar) = some value) :
    createTable e = scriptOf e (e.fields.map columnDefinition) (rows e key value) := by
  unfold createTable scriptOf
  rw [enumerationRows_eq henum hkey hvalue, append_concat_constraints]
  rfl

end Sql

/-- The field that is the key of an entity that is resolved is the one that is found. -/
theorem Scope.key?_of_resolve {s : Scope} {r : Resolved} (h : s.resolve = .ok r) {key : Field}
    (hkey : key ∈ s.entity.fields) (hprimary : key.primaryKey) : s.entity.key? = some key := by
  rw [Entity.key?, ← List.head?_filter,
    Resolved.filter_primaryKey_eq_singleton h hkey hprimary, List.head?_cons]

/-! ## Enums -/

namespace Resolved

theorem suffix_entry (item : EnumItem) : [';', '\n'] <:+ (entry item).toList := by
  unfold entry
  rw [String.toList_append]
  exact (by decide : [';', '\n'] <:+ ");\n".toList).trans (List.suffix_append _ _)

/-- The initialisation of the enum in Java is what enters the texts of its literals, but for the end
of the last line. -/
theorem staticInit_javaEnumeration {r : Resolved} (h : r.entity.enumItems ≠ []) :
    r.javaEnumeration.staticInit ++ "\n" = Text.concat (r.entity.enumItems.map entry) := by
  have hend : [';', '\n'] <:+ (Text.concat (r.entity.enumItems.map entry)).toList := by
    apply Text.suffix_concat (by simpa using h)
    intro s hs
    obtain ⟨item, -, rfl⟩ := List.mem_map.1 hs
    exact suffix_entry item
  exact Text.trimEnd_append_newline hend (by decide)

/-- The classes of an enumeration table are its constants and its enum. -/
theorem artifacts_of_isEnumeration {r : Resolved} (henum : r.entity.isEnumeration) :
    r.artifacts = [⟨r.directory, .overwrite, r.constantsSource⟩,
      ⟨r.directory, .overwrite, match r.language with
        | .kotlin => .kotlin r.kotlinEnumeration
        | .java => .java r.javaEnumeration⟩] := by
  unfold artifacts Scope.builders constantsSource
  cases r.language <;> simp [henum]

end Resolved

/-- The ordinals of an enumeration table are the same in its rows, in the enum of either language
and in what the enum in Java enters. -/
structure Entity.OrdinalsMatch (e : Entity) (key value : Field) (rows : List String)
    (kotlin : KotlinClass) (java : JavaClass) (entries : List String) : Prop where
  /-- The statements for the table insert these rows and no others. -/
  script : ∃ columns, List.Forall₂ Sql.IsColumn e.fields columns
    ∧ Sql.createTable e = Sql.scriptOf e columns rows
  rowCount : rows.length = e.enumItems.length
  /-- A row holds the ordinal as the key, and a literal that stands for the text shown. -/
  row : ∀ (i : Nat) (item : EnumItem), e.enumItems[i]? = some item → ∃ literal,
    rows[i]? = some ("INSERT INTO " ++ e.name ++ " (" ++ key.name ++ ", " ++ value.name
        ++ ") VALUES (" ++ toString i ++ ", " ++ literal ++ ");\n")
      ∧ Sql.decode? literal = some item.value
  /-- The literals of both enums are the names, in order. -/
  kotlinLiterals : kotlin.kind = .enum (e.enumItems.map (·.name))
  javaLiterals : java.kind = .enum (e.enumItems.map (·.name))
  /-- The enum in Java enters the texts, one literal after the other. -/
  block : java.staticInit ++ "\n" = Text.concat entries
  entryCount : entries.length = e.enumItems.length
  /-- A text is put under the name of its literal and is added to the list of all texts. -/
  entry : ∀ (i : Nat) (item : EnumItem), e.enumItems[i]? = some item → ∃ literal,
    entries[i]? = some ("enumStringMap.put(" ++ item.name ++ ", " ++ literal ++ ");\n"
        ++ "stringList.add(" ++ literal ++ ");\n")
      ∧ Literal.decode? .java literal = some item.value

theorem Resolved.ordinalsMatch {s : Scope} {r : Resolved} (h : s.resolve = .ok r)
    (henum : s.entity.isEnumeration) (hliterals : s.entity.enumItems ≠ []) {key value : Field}
    (hkey : key ∈ s.entity.fields) (hprimary : key.primaryKey)
    (hvalue : s.entity.fields.find? (·.type == .varchar) = some value) :
    s.entity.OrdinalsMatch key value (Sql.rows s.entity key value)
      (r.inLanguage .kotlin).kotlinEnumeration (r.inLanguage .java).javaEnumeration
      (s.entity.enumItems.map entry) := by
  have hentity : ∀ l, (r.inLanguage l).entity = s.entity := by
    intro l
    rw [← (Scope.resolve_eq_ok_iff.1 h).1]
    rfl
  constructor
  case script =>
    refine ⟨s.entity.fields.map Sql.columnDefinition, ?_, ?_⟩
    · rw [List.forall₂_map_right_iff]
      exact List.forall₂_same.2 fun f _ => Sql.isColumn_columnDefinition f
    · exact Sql.createTable_eq_scriptOf henum (Scope.key?_of_resolve h hkey hprimary) hvalue
  case rowCount => exact Sql.length_rows _ _ _
  case row =>
    intro i item hitem
    exact ⟨Sql.literal item.value, Sql.getElem?_rows hitem, Sql.decode?_literal item.value⟩
  case kotlinLiterals =>
    rw [← hentity .kotlin]
    rfl
  case javaLiterals =>
    rw [← hentity .java]
    rfl
  case block =>
    rw [← hentity .java] at hliterals ⊢
    exact staticInit_javaEnumeration hliterals
  case entryCount => rw [List.length_map]
  case entry =>
    intro i item hitem
    refine ⟨Literal.quote .java item.value, ?_, Literal.decode?_quote .java item.value⟩
    rw [List.getElem?_map, hitem]
    rfl

/-- Whenever sources are generated for an enumeration table, in whatever language, they are in both
languages, and each has its constants and an enum. If the table has a key and a column of texts, the
first of which is taken, the `i`-th row inserts the number `i` and the text of the `i`-th literal,
which is the `i`-th of both enums and has the `i`-th of the texts that the enum in Java enters. -/
theorem Scope.ordinals_match {s : Scope} {as : List Artifact} (h : s.artifacts = .ok as)
    (henum : s.entity.isEnumeration) {key value : Field} (hkey : key ∈ s.entity.fields)
    (hprimary : key.primaryKey)
    (hvalue : s.entity.fields.find? (·.type == .varchar) = some value) :
    ∃ (kotlinConstants javaConstants : Artifact) (kotlin : KotlinClass) (java : JavaClass)
      (rows entries : List String),
      (s.inLanguage .kotlin).artifacts =
          .ok [kotlinConstants, ⟨s.directory, .overwrite, .kotlin kotlin⟩]
      ∧ (s.inLanguage .java).artifacts =
          .ok [javaConstants, ⟨s.directory, .overwrite, .java java⟩]
      ∧ kotlin.name = s.className ∧ java.name = s.className
      ∧ s.entity.OrdinalsMatch key value rows kotlin java entries := by
  obtain ⟨r, hresolve, hliterals, -⟩ := artifacts_eq_ok_iff.1 h
  have hscope : r.toScope = s := (resolve_eq_ok_iff.1 hresolve).1
  have hartifacts : ∀ l, ∃ constants, (s.inLanguage l).artifacts = .ok [constants,
      ⟨s.directory, .overwrite, match l with
        | .kotlin => .kotlin (r.inLanguage .kotlin).kotlinEnumeration
        | .java => .java (r.inLanguage .java).javaEnumeration⟩] := by
    intro l
    have hrecords : (r.inLanguage l).entity.isEnumeration := by
      rw [← hscope] at henum
      exact henum
    refine ⟨⟨s.directory, .overwrite, (r.inLanguage l).constantsSource⟩, ?_⟩
    rw [artifacts_inLanguage hresolve hliterals l, Resolved.artifacts_of_isEnumeration hrecords,
      ← hscope]
    cases l <;> rfl
  obtain ⟨kotlinConstants, hkotlin⟩ := hartifacts .kotlin
  obtain ⟨javaConstants, hjava⟩ := hartifacts .java
  refine ⟨kotlinConstants, javaConstants, _, _, _, _, hkotlin, hjava, ?_, ?_,
    Resolved.ordinalsMatch hresolve henum (hliterals henum) hkey hprimary hvalue⟩
  · rw [← hscope]
    rfl
  · rw [← hscope]
    rfl

/-- An enumeration table of which a text has quotes of both kinds. -/
def moodTable : Entity :=
  { kind := .table, name := "MOOD", enumerations := "FINE=It's \"fine\",,BAD"
    fields := [{ name := "ID", type := .integer, primaryKey := true },
      { name := "NAME", type := .varchar }] }

/-- The script of a table of two literals with its rows, the enum in both languages, and what the
enum in Java enters first. -/
theorem Scope.ordinals_match_moodTable :
    ∃ (kotlinConstants javaConstants : Artifact) (kotlin : KotlinClass) (java : JavaClass)
      (columns rows entries : List String) (first second shown : String),
      (Scope.mk { package := "org", created := "today", options := { language := .kotlin } }
          { name := "main", tables := [moodTable] } moodTable).artifacts =
        .ok [kotlinConstants, ⟨"mood", .overwrite, .kotlin kotlin⟩]
      ∧ (Scope.mk { package := "org", created := "today", options := { language := .java } }
          { name := "main", tables := [moodTable] } moodTable).artifacts =
        .ok [javaConstants, ⟨"mood", .overwrite, .java java⟩]
      ∧ kotlin.name = "Mood" ∧ java.name = "Mood"
      ∧ Sql.createTable moodTable = Sql.scriptOf moodTable columns rows
      ∧ rows.length = 2
      ∧ rows[0]? = some ("INSERT INTO MOOD (ID, NAME) VALUES (0, " ++ first ++ ");\n")
      ∧ Sql.decode? first = some "It's \"fine\""
      ∧ rows[1]? = some ("INSERT INTO MOOD (ID, NAME) VALUES (1, " ++ second ++ ");\n")
      ∧ Sql.decode? second = some "Bad"
      ∧ kotlin.kind = .enum ["FINE", "BAD"] ∧ java.kind = .enum ["FINE", "BAD"]
      ∧ java.staticInit ++ "\n" = Text.concat entries
      ∧ entries[0]? = some ("enumStringMap.put(FINE, " ++ shown ++ ");\n"
          ++ "stringList.add(" ++ shown ++ ");\n")
      ∧ Literal.decode? .java shown = some "It's \"fine\"" := by
  let s : Scope := .mk { package := "org", created := "today" }
    { name := "main", tables := [moodTable] } moodTable
  let key : Field := { name := "ID", type := .integer, primaryKey := true }
  have hkey : key ∈ s.entity.fields := by simp [s, moodTable, key]
  have hgenerable : moodTable.Generable :=
    Entity.generable_of_plain (by decide) (by decide) (by decide)
  obtain ⟨as, has⟩ : ∃ as, s.artifacts = .ok as := Scope.exists_artifacts_iff.2 hgenerable
  have hitems : moodTable.enumItems = [⟨"FINE", "It's \"fine\""⟩, ⟨"BAD", "Bad"⟩] := by decide
  have hdirectory : s.directory = "mood" := by decide
  have hname : s.className = "Mood" := by decide
  obtain ⟨kotlinConstants, javaConstants, kotlin, java, rows, entries, hkotlin, hjava, hkotlinName,
    hjavaName, hmatch⟩ := Scope.ordinals_match has (by decide) hkey rfl rfl
  rw [hdirectory] at hkotlin hjava
  obtain ⟨columns, -, hscript⟩ := hmatch.script
  obtain ⟨first, hfirst, hfirstText⟩ :=
    hmatch.row 0 ⟨"FINE", "It's \"fine\""⟩ (congrArg (·[0]?) hitems)
  obtain ⟨second, hsecond, hsecondText⟩ := hmatch.row 1 ⟨"BAD", "Bad"⟩ (congrArg (·[1]?) hitems)
  obtain ⟨shown, hshown, hshownText⟩ :=
    hmatch.entry 0 ⟨"FINE", "It's \"fine\""⟩ (congrArg (·[0]?) hitems)
  have hcount : rows.length = 2 := by
    rw [hmatch.rowCount]
    exact congrArg List.length hitems
  have hnames : moodTable.enumItems.map (·.name) = ["FINE", "BAD"] := by rw [hitems]; rfl
  have hkotlinKind : kotlin.kind = .enum ["FINE", "BAD"] :=
    hmatch.kotlinLiterals.trans (congrArg KotlinKind.enum hnames)
  have hjavaKind : java.kind = .enum ["FINE", "BAD"] :=
    hmatch.javaLiterals.trans (congrArg JavaKind.enum hnames)
  exact ⟨kotlinConstants, javaConstants, kotlin, java, columns, rows, entries, first, second, shown,
    hkotlin, hjava, hkotlinName.trans hname, hjavaName.trans hname, hscript, hcount, hfirst,
    hfirstText, hsecond, hsecondText, hkotlinKind, hjavaKind, hmatch.block, hshown, hshownText⟩

end SchemaForge
