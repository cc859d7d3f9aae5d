import Mathlib.Data.List.Nodup
import SchemaForge.Proofs.Schema.Validity
import SchemaForge.Proofs.Text.Ascii

namespace SchemaForge

/-! # Looking up tables

A table is looked up by its name, and the first table with that name is found. Validity keeps the
names of tables apart with the same comparison that the look-up makes, so that in a valid database
there is never a second one, and the order of the tables does not matter.
-/

/-- In a list of which the members have different keys, a member is found by its key. -/
theorem find?_key_eq_some_iff {α κ : Type} [DecidableEq κ] {key : α → κ} {xs : List α}
    (hkeys : (xs.map key).Nodup) {k : κ} {x : α} :
    xs.find? (key · == k) = some x ↔ x ∈ xs ∧ key x = k := by
  constructor
  · intro h
    exact ⟨List.mem_of_find?_eq_some h, by simpa using List.find?_some h⟩
  · rintro ⟨hx, rfl⟩
    cases hfound : xs.find? (key · == key x) with
    | none =>
      rw [List.find?_eq_none] at hfound
      exact absurd (beq_self_eq_true (key x)) (hfound x hx)
    | some y =>
      have hy : y ∈ xs := List.mem_of_find?_eq_some hfound
      have hsame : key y = key x := by simpa using List.find?_some hfound
      rw [List.inj_on_of_nodup_map hkeys hy hx hsame]

namespace Database

variable {d : Database}

/-- The tables of a valid database have different names, as they share a name space with views. -/
theorem nodup_comparedNames_tables (h : d.validate = .ok ()) :
    (d.tables.map (·.comparedName)).Nodup := by
  have hnames := (validate_eq_ok_iff.1 h).1
  rw [List.map_append] at hnames
  exact hnames.of_append_left

theorem table?_eq_some_iff (h : (d.tables.map (·.comparedName)).Nodup) {name : String}
    {t : Entity} : d.table? name = some t ↔ t ∈ d.tables ∧ Text.sameName name t.name := by
  have hlookup : d.table? name = d.tables.find? (·.comparedName == Text.lowerAscii name) := rfl
  rw [hlookup, find?_key_eq_some_iff h, Text.sameName_iff, Entity.comparedName,
    eq_comm (a := Text.lowerAscii name)]

theorem table?_eq_none_iff {name : String} :
    d.table? name = none ↔ ∀ t ∈ d.tables, ¬ Text.sameName name t.name := by
  simp only [table?, List.find?_eq_none, Text.sameName_iff, eq_comm (a := Text.lowerAscii name)]

/-- In a valid database a name finds the table whose name agrees with it letter by letter, where only
letters of ASCII agree with their other form; it finds nothing when there is no such table. In which
order the tables stand makes no difference. -/
theorem lookup_unambiguous (h : d.validate = .ok ()) :
    (∀ t ∈ d.tables, ∀ name,
        d.table? name = some t ↔ List.Forall₂ Chars.SameLetter name.toList t.name.toList)
      ∧ (∀ name, d.table? name = none ↔
        ∀ t ∈ d.tables, ¬ List.Forall₂ Chars.SameLetter name.toList t.name.toList)
      ∧ ∀ tables, tables.Perm d.tables →
        ∀ name, ({ d with tables } : Database).table? name = d.table? name := by
  have hnames := nodup_comparedNames_tables h
  refine ⟨fun t ht name => ?_, fun name => ?_, fun tables hperm name => ?_⟩
  · rw [table?_eq_some_iff hnames, Text.sameName_iff_forall₂]
    exact and_iff_right ht
  · simp only [table?_eq_none_iff, Text.sameName_iff_forall₂]
  · have hreordered : (({ d with tables } : Database).tables.map (·.comparedName)).Nodup :=
      (hperm.map _).nodup_iff.2 hnames
    apply Option.ext
    intro t
    rw [table?_eq_some_iff hnames, table?_eq_some_iff hreordered]
    exact and_congr_left fun _ => hperm.mem_iff

/-- Two tables whose names differ in the case of a letter that is not one of ASCII. -/
def stateDatabase : Database :=
  { name := "main"
    tables := [{ kind := .table, name := "ÉTAT" }, { kind := .table, name := "état" }]
    views := [{ kind := .view, name := "ETAT" }] }

/-- Either table is found in every writing of its other letters, also when they change places; the
view is not found. -/
theorem lookup_stateDatabase :
    stateDatabase.validate = .ok ()
    ∧ stateDatabase.table? "État" = some { kind := .table, name := "ÉTAT" }
    ∧ stateDatabase.table? "éTAT" = some { kind := .table, name := "état" }
    ∧ stateDatabase.table? "ETAT" = none
    ∧ ({ stateDatabase with tables := stateDatabase.tables.reverse } : Database).table? "éTAT" =
      some { kind := .table, name := "état" } := by
  have hvalid : stateDatabase.validate = .ok () := by decide
  obtain ⟨hfound, hnone, horder⟩ := lookup_unambiguous hvalid
  have hsmall : stateDatabase.table? "éTAT" = some { kind := .table, name := "état" } := by
    rw [hfound _ (by decide), ← Text.sameName_iff_forall₂]
    decide
  refine ⟨hvalid, ?_, hsmall, ?_, ?_⟩
  · rw [hfound _ (by decide), ← Text.sameName_iff_forall₂]
    decide
  · rw [hnone]
    simp only [← Text.sameName_iff_forall₂]
    decide
  · rw [horder _ (List.reverse_perm _), hsmall]

end Database

end SchemaForge
