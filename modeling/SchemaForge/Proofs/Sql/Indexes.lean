import Mathlib.Data.List.Nodup
import SchemaForge.Proofs.Schema.Validity
import SchemaForge.Proofs.Text.Ascii
import SchemaForge.Proofs.Text.Pieces
import SchemaForge.Sql.Ddl

namespace SchemaForge

/-! # The indexes of a database

An index is named after its table and its column, which are put together without anything between
them. In a valid database the tables have different names and so have the columns of each, but a
table whose name goes on with what a column of another begins with may run together with it. The
index that comes second is not made then, as there is one of its name.
-/

namespace Sql

/-! ## Statements -/

/-- An index that a schema asks for. -/
structure Index where
  table : Entity
  column : Field
deriving DecidableEq, Repr

/-- The name of an index. -/
def Index.name (i : Index) : String :=
  indexName i.table i.column

/-- The name of an index as names are compared, without regard to the case of ASCII letters. -/
def Index.comparedName (i : Index) : String :=
  Text.lowerAscii i.name

/-- The definition of a table, without its indexes and rows. -/
def tableDefinition (table : Entity) : String :=
  "CREATE TABLE IF NOT EXISTS " ++ table.name ++ " (\n"
    ++ ",\n".intercalate (table.fields.map columnDefinition)
    ++ (if (uniqueColumns table).isEmpty then "" else uniqueConstraint (uniqueColumns table))
    ++ Text.concat (table.foreignKeys.map foreignKeyConstraint)
    ++ Text.concat (table.uniqueGroups.map uniqueConstraint)
    ++ "\n);\n\n"

/-- What a script consists of. -/
inductive Statement where
  | drops (d : Database)
  | table (table : Entity)
  | index (i : Index)
  | rows (table : Entity)

namespace Statement

/-- The text of a statement. -/
def text : Statement → String
  | drops d => Sql.drops d
  | table t => tableDefinition t
  | index i => createIndex i.table i.column
  | rows t => enumerationRows t

/-- The index that a statement creates. -/
def index? : Statement → Option Index
  | index i => some i
  | drops _ | table _ | rows _ => none

end Statement

/-- The indexes that a table asks for. -/
def indexesOf (table : Entity) : List Index :=
  (table.fields.filter (·.indexed)).map (Index.mk table)

/-- The statements for a table. -/
def tableStatements (table : Entity) : List Statement :=
  .table table :: ((indexesOf table).map .index ++ [.rows table])

/-- The statements that create a database. -/
def script (d : Database) (withDrops : Bool) : List Statement :=
  (if withDrops then [.drops d] else []) ++ d.tables.flatMap tableStatements

theorem concat_tableStatements (table : Entity) :
    Text.concat ((tableStatements table).map (·.text)) = createTable table := by
  have hindexes : (indexesOf table).map (fun i => createIndex i.table i.column) =
      (table.fields.filter (·.indexed)).map (createIndex table) := by
    rw [indexesOf, List.map_map]
    rfl
  have hsplit : createTable table = tableDefinition table
      ++ Text.concat ((indexesOf table).map fun i => createIndex i.table i.column)
      ++ enumerationRows table := by
    rw [hindexes]
    rfl
  rw [hsplit, String.append_assoc]
  simp [tableStatements, Text.concat_append, Statement.text, Function.comp_def]

/-- The script has all the text that creates a database. -/
theorem concat_script (d : Database) (withDrops : Bool) :
    Text.concat ((script d withDrops).map (·.text)) = createDatabase d withDrops := by
  have htables : ∀ tables : List Entity,
      Text.concat ((tables.flatMap tableStatements).map (·.text)) =
        Text.concat (tables.map createTable) := by
    intro tables
    induction tables with
    | nil => rfl
    | cons t tables ih =>
      rw [List.flatMap_cons, List.map_append, Text.concat_append, concat_tableStatements, ih]
      rfl
  rw [script, List.map_append, Text.concat_append, htables, createDatabase]
  cases withDrops <;> simp [Statement.text]

/-- The indexes that a script creates are those that the tables ask for. -/
theorem filterMap_index?_script (d : Database) (withDrops : Bool) :
    (script d withDrops).filterMap (·.index?) = d.tables.flatMap indexesOf := by
  have htable : ∀ t, (tableStatements t).filterMap (·.index?) = indexesOf t := by
    intro t
    simp [tableStatements, Statement.index?, List.filterMap_append, List.filterMap_map]
  have hdrops : (if withDrops then [Statement.drops d] else []).filterMap (·.index?) = [] := by
    cases withDrops <;> rfl
  rw [script, List.filterMap_append, hdrops, List.nil_append, List.filterMap_flatMap]
  simp only [htable]

/-! ## Making indexes -/

/-- Makes an index, unless there is one with its name, in whatever case. -/
def Index.make (made : List Index) (i : Index) : List Index :=
  if made.any (·.comparedName == i.comparedName) then made else made ++ [i]

theorem length_foldl_make_le (indexes made : List Index) :
    (indexes.foldl Index.make made).length ≤ made.length + indexes.length := by
  induction indexes generalizing made with
  | nil => simp
  | cons i indexes ih =>
    have hstep : (Index.make made i).length ≤ made.length + 1 := by
      unfold Index.make
      split <;> simp
    have hrest := ih (Index.make made i)
    rw [List.foldl_cons, List.length_cons]
    omega

/-- All indexes are made, behind those that there are, when their names are different from each
other and from the names of those. -/
theorem foldl_make_eq_iff (indexes made : List Index) :
    indexes.foldl Index.make made = made ++ indexes ↔
      (∀ i ∈ indexes, ∀ m ∈ made, m.comparedName ≠ i.comparedName)
        ∧ (indexes.map (·.comparedName)).Nodup := by
  induction indexes generalizing made with
  | nil => simp
  | cons i indexes ih =>
    rw [List.foldl_cons, Index.make]
    split
    · next hany =>
      obtain ⟨m, hm, hname⟩ : ∃ m ∈ made, m.comparedName = i.comparedName := by simpa using hany
      refine iff_of_false (fun hall => ?_) (fun hnames => hnames.1 i (by simp) m hm hname)
      -- one index is left out, so that there are too few in the end
      have hlength := length_foldl_make_le indexes made
      rw [hall, List.length_append, List.length_cons] at hlength
      omega
    · next hany =>
      have hfirst : ∀ m ∈ made, m.comparedName ≠ i.comparedName := by simpa using hany
      rw [List.append_cons made i indexes, ih]
      simp only [List.mem_append, List.mem_singleton, List.forall_mem_cons, List.map_cons,
        List.nodup_cons, List.mem_map, not_exists, not_and]
      constructor
      · rintro ⟨hothers, hnodup⟩
        exact ⟨⟨hfirst, fun j hj m hm => hothers j hj m (.inl hm)⟩,
          fun j hj hsame => hothers j hj i (.inr rfl) hsame.symm, hnodup⟩
      · rintro ⟨⟨-, hothers⟩, hnew, hnodup⟩
        refine ⟨fun j hj m hm => ?_, hnodup⟩
        rcases hm with hm | rfl
        · exact hothers j hj m hm
        · exact fun hsame => hnew j hj hsame.symm

/-! ## Names -/

theorem Index.comparedName_eq (i : Index) : i.comparedName =
    i.table.comparedName ++ Text.lowerAscii i.column.name ++ "_idx" := by
  rw [comparedName, name, indexName, Text.lowerAscii_append, Text.lowerAscii_append]
  rfl

/-- The names of table and column, as names are compared. -/
def Index.place (i : Index) : String × String :=
  (i.table.comparedName, Text.lowerAscii i.column.name)

/-- The table of the second index is named like that of the first with more behind it, and the
column of the first like that of the second with the same before it. -/
def Index.RunsInto (i j : Index) : Prop :=
  ∃ rest, rest ≠ "" ∧ Text.sameName j.table.name (i.table.name ++ rest)
    ∧ Text.sameName i.column.name (rest ++ j.column.name)

theorem Index.RunsInto.comparedName_eq {i j : Index} (h : i.RunsInto j) :
    i.comparedName = j.comparedName := by
  obtain ⟨rest, -, htable, hcolumn⟩ := h
  rw [Text.sameName_iff, Text.lowerAscii_append] at htable hcolumn
  rw [Index.comparedName_eq, Index.comparedName_eq, Entity.comparedName, Entity.comparedName,
    htable, hcolumn]
  simp only [String.append_assoc]

theorem Index.RunsInto.place_ne {i j : Index} (h : i.RunsInto j) : i.place ≠ j.place := by
  obtain ⟨rest, hne, htable, -⟩ := h
  rw [Text.sameName_iff, Text.lowerAscii_append] at htable
  intro hsame
  have hname : Text.lowerAscii i.table.name ++ "" =
      Text.lowerAscii i.table.name ++ Text.lowerAscii rest := by
    rw [String.append_empty, ← htable]
    exact congrArg Prod.fst hsame
  exact hne (Text.lowerAscii_eq_empty_iff.1 ((String.append_right_inj _).1 hname).symm)

theorem Index.runsInto_of_comparedName {i j : Index} {rest : String}
    (htable : j.table.comparedName = i.table.comparedName ++ rest)
    (hcolumn : Text.lowerAscii i.column.name = rest ++ Text.lowerAscii j.column.name)
    (hne : i.place ≠ j.place) : i.RunsInto j := by
  obtain ⟨start, more, hname, hstart, rfl⟩ := Text.lowerAscii_eq_append_iff.1 htable
  refine ⟨more, ?_, ?_, ?_⟩
  · rintro rfl
    have hempty : Text.lowerAscii "" = "" := rfl
    rw [hempty, String.append_empty] at htable
    rw [hempty, String.empty_append] at hcolumn
    exact hne (Prod.ext htable.symm hcolumn)
  · rw [Text.sameName_iff, Text.lowerAscii_append]
    exact htable
  · rw [Text.sameName_iff, Text.lowerAscii_append]
    exact hcolumn

/-- Indexes on different columns have the same name when one of them runs into the other. -/
theorem Index.comparedName_eq_iff {i j : Index} (hne : i.place ≠ j.place) :
    i.comparedName = j.comparedName ↔ i.RunsInto j ∨ j.RunsInto i := by
  constructor
  · intro h
    rw [Index.comparedName_eq, Index.comparedName_eq, String.append_left_inj,
      Text.append_eq_append_iff] at h
    -- one of the tables has a name that goes on where that of the other ends
    rcases h with ⟨rest, htable, hcolumn⟩ | ⟨rest, htable, hcolumn⟩
    · exact .inl (runsInto_of_comparedName htable hcolumn hne)
    · exact .inr (runsInto_of_comparedName htable hcolumn hne.symm)
  · rintro (h | h)
    · exact h.comparedName_eq
    · exact h.comparedName_eq.symm

end Sql

/-! ## Databases -/

namespace Database

variable {d : Database}

open Sql

/-- The columns of a valid database have different places. -/
theorem nodup_places (h : d.validate = .ok ()) :
    ((d.tables.flatMap indexesOf).map (·.place)).Nodup := by
  obtain ⟨hnames, -, hentities⟩ := validate_eq_ok_iff.1 h
  rw [List.map_append] at hnames
  have htables : d.tables.Pairwise fun t u => t.comparedName ≠ u.comparedName :=
    List.pairwise_map.1 (List.nodup_append'.1 hnames).1
  rw [List.map_flatMap, List.nodup_flatMap]
  -- places in one table have different columns, and those in two have different tables
  constructor
  · intro t ht
    have hcolumns := (Entity.validate_eq_ok_iff.1 (hentities t (by simp [ht]))).1
    have hindexed := hcolumns.filter (·.indexed)
    rw [indexesOf, List.map_map, List.Nodup, List.pairwise_map]
    refine hindexed.imp fun hdifferent hsame => hdifferent ?_
    exact congrArg Prod.snd hsame
  · refine htables.imp fun {t u} hdifferent => List.disjoint_left.2 fun place ht hu => ?_
    simp only [indexesOf, List.map_map, List.mem_map, Function.comp_apply] at ht hu
    obtain ⟨f, -, rfl⟩ := ht
    obtain ⟨g, -, hsame⟩ := hu
    exact hdifferent (congrArg Prod.fst hsame).symm

/-- Two of the indexes of the database run together. -/
def RunsTogether (d : Database) : Prop :=
  ∃ t ∈ d.tables, ∃ f ∈ t.fields, ∃ u ∈ d.tables, ∃ g ∈ u.fields,
    f.indexed = true ∧ g.indexed = true ∧ Index.RunsInto ⟨t, f⟩ ⟨u, g⟩

theorem mem_indexes_iff {i : Index} : i ∈ d.tables.flatMap indexesOf ↔
    i.table ∈ d.tables ∧ i.column ∈ i.table.fields ∧ i.column.indexed = true := by
  simp only [List.mem_flatMap, indexesOf, List.mem_map, List.mem_filter]
  constructor
  · rintro ⟨t, ht, f, ⟨hf, hindexed⟩, rfl⟩
    exact ⟨ht, hf, hindexed⟩
  · rintro ⟨ht, hf, hindexed⟩
    exact ⟨i.table, ht, i.column, ⟨hf, hindexed⟩, rfl⟩

/-- The indexes of a valid database have different names when no two of them run together. -/
theorem nodup_comparedNames_iff (h : d.validate = .ok ()) :
    ((d.tables.flatMap indexesOf).map (·.comparedName)).Nodup ↔ ¬ d.RunsTogether := by
  have hplaces := nodup_places h
  constructor
  · rintro hnodup ⟨t, ht, f, hf, u, hu, g, hg, hfIndexed, hgIndexed, hruns⟩
    have hi : (⟨t, f⟩ : Index) ∈ d.tables.flatMap indexesOf :=
      mem_indexes_iff.2 ⟨ht, hf, hfIndexed⟩
    have hj : (⟨u, g⟩ : Index) ∈ d.tables.flatMap indexesOf :=
      mem_indexes_iff.2 ⟨hu, hg, hgIndexed⟩
    have hsame := List.inj_on_of_nodup_map hnodup hi hj hruns.comparedName_eq
    exact hruns.place_ne (congrArg Index.place hsame)
  · intro hapart
    refine (List.Nodup.of_map _ hplaces).map_on ?_
    intro i hi j hj hsame
    by_contra hne
    have hplace : i.place ≠ j.place :=
      fun hplace => hne (List.inj_on_of_nodup_map hplaces hi hj hplace)
    obtain ⟨hit, hif, hiIndexed⟩ := mem_indexes_iff.1 hi
    obtain ⟨hjt, hjf, hjIndexed⟩ := mem_indexes_iff.1 hj
    rcases (Index.comparedName_eq_iff hplace).1 hsame with hruns | hruns
    · exact hapart ⟨_, hit, _, hif, _, hjt, _, hjf, hiIndexed, hjIndexed, hruns⟩
    · exact hapart ⟨_, hjt, _, hjf, _, hit, _, hif, hjIndexed, hiIndexed, hruns⟩

/-- The script of a valid database creates indexes of different names, and so makes all of them,
unless two of them run together: the name of a table goes on with what an indexed column of another
table begins with. -/
theorem index_names_apart_iff (h : d.validate = .ok ()) (withDrops : Bool) :
    createDatabase d withDrops = Text.concat ((script d withDrops).map (·.text))
      ∧ ((((script d withDrops).filterMap (·.index?)).map (Text.lowerAscii ·.name)).Nodup ↔
        ¬ d.RunsTogether)
      ∧ (((script d withDrops).filterMap (·.index?)).foldl Index.make [] =
        (script d withDrops).filterMap (·.index?) ↔ ¬ d.RunsTogether) := by
  have hmade := foldl_make_eq_iff (d.tables.flatMap indexesOf) []
  simp only [List.nil_append, List.not_mem_nil, false_implies, implies_true, true_and] at hmade
  refine ⟨(concat_script d withDrops).symm, ?_, ?_⟩
  · rw [filterMap_index?_script]
    exact nodup_comparedNames_iff h
  · rw [filterMap_index?_script, hmade, nodup_comparedNames_iff h]

/-- Two tables, the second named like the first with one letter more; both have an index. -/
def letterDatabase : Database :=
  { name := "main"
    tables := [
      { kind := .table, name := "A"
        fields := [{ name := "BC", type := .integer, indexed := true }] },
      { kind := .table, name := "AB"
        fields := [{ name := "C", type := .integer, indexed := true }] }] }

/-- Both indexes are named alike, and only the first is made. -/
theorem index_names_letterDatabase :
    letterDatabase.validate = .ok ()
    ∧ ((script letterDatabase false).filterMap (·.index?)).map (·.name) = ["ABC_IDX", "ABC_IDX"]
    ∧ ¬ (((script letterDatabase false).filterMap (·.index?)).map (Text.lowerAscii ·.name)).Nodup
    ∧ ((script letterDatabase false).filterMap (·.index?)).foldl Index.make [] ≠
      (script letterDatabase false).filterMap (·.index?) := by
  have hvalid : letterDatabase.validate = .ok () := by decide
  have hruns : letterDatabase.RunsTogether :=
    ⟨_, List.mem_cons_self, _, List.mem_singleton_self _, _,
      List.mem_cons_of_mem _ List.mem_cons_self, _, List.mem_singleton_self _, rfl, rfl, "B",
      by decide, by decide, by decide⟩
  obtain ⟨-, hnames, hmade⟩ := index_names_apart_iff hvalid false
  refine ⟨hvalid, by decide, ?_, ?_⟩
  · rw [hnames]
    exact fun hapart => hapart hruns
  · rw [Ne, hmade]
    exact fun hapart => hapart hruns

end Database

end SchemaForge
