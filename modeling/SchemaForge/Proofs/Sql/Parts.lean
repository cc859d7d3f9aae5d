import SchemaForge.Proofs.Text.Visible
import SchemaForge.Sql.Ddl

namespace SchemaForge

/-! # Definitions and the literals in them

The definition of a table has literals in it: the defaults of its columns and, for an enumeration
table, the texts of its rows. A text that is laid out in another way keeps them when it has the same
literals and, around them, the same visible characters. As literals begin and end with visible
characters, a text can be read in one way only as the definition with its literals changed.
-/

namespace Sql

/-! ## Parts -/

/-- A part of a definition. -/
inductive Part where
  /-- What stands before, between or behind literals. -/
  | around (s : String)
  | literal (s : String)
deriving DecidableEq, Repr

namespace Part

def text : Part → String
  | around s | literal s => s

def literal? : Part → Option String
  | around _ => none
  | literal s => some s

end Part

/-- The text that parts make up. -/
def written (parts : List Part) : String :=
  Text.concat (parts.map (·.text))

/-- The literals among parts, in order. -/
def literalsOf (parts : List Part) : List String :=
  parts.filterMap (·.literal?)

@[simp] theorem written_nil : written [] = "" :=
  rfl

@[simp] theorem written_cons (p : Part) (parts : List Part) :
    written (p :: parts) = p.text ++ written parts :=
  rfl

@[simp] theorem written_append (first second : List Part) :
    written (first ++ second) = written first ++ written second := by
  rw [written, List.map_append, Text.concat_append]
  rfl

theorem written_intercalate (sep : List Part) (blocks : List (List Part)) :
    written (sep.intercalate blocks) = (written sep).intercalate (blocks.map written) := by
  induction blocks with
  | nil => rfl
  | cons block blocks ih =>
    cases blocks with
    | nil => simp
    | cons next blocks =>
      have hblocks : (block :: next :: blocks).map written =
          written block :: written next :: blocks.map written := rfl
      rw [List.intercalate_cons_cons, written_append, written_append, ih, hblocks,
        String.intercalate_cons_cons]
      rfl

/-- Blocks of parts, one for each item, make up the texts of the items. -/
theorem written_flatten_mapIdx {α : Type} {block : Nat → α → List Part} {row : Nat → α → String}
    (h : ∀ i a, written (block i a) = row i a) (items : List α) :
    written (items.mapIdx block).flatten = Text.concat (items.mapIdx row) := by
  induction items generalizing block row with
  | nil => rfl
  | cons a items ih =>
    rw [List.mapIdx_cons, List.mapIdx_cons, List.flatten_cons, written_append, h,
      ih fun i b => h (i + 1) b, Text.concat_cons]

@[simp] theorem literalsOf_append (first second : List Part) :
    literalsOf (first ++ second) = literalsOf first ++ literalsOf second :=
  List.filterMap_append

theorem literalsOf_around (s : String) (parts : List Part) :
    literalsOf (.around s :: parts) = literalsOf parts :=
  rfl

theorem literalsOf_flatten_mapIdx {α : Type} {block : Nat → α → List Part} {row : α → String}
    (h : ∀ i a, literalsOf (block i a) = [row a]) (items : List α) :
    literalsOf (items.mapIdx block).flatten = items.map row := by
  induction items generalizing block with
  | nil => rfl
  | cons a items ih =>
    rw [List.mapIdx_cons, List.flatten_cons, literalsOf_append, h, ih fun i b => h (i + 1) b]
    rfl

/-- No literals are between blocks when what separates them has none. -/
theorem literalsOf_intercalate {sep : List Part} (h : literalsOf sep = [])
    (blocks : List (List Part)) : literalsOf (sep.intercalate blocks) = blocks.flatMap literalsOf := by
  induction blocks with
  | nil => rfl
  | cons block blocks ih =>
    cases blocks with
    | nil => simp
    | cons next blocks =>
      rw [List.intercalate_cons_cons, literalsOf_append, literalsOf_append, h, ih,
        List.append_nil]
      rfl

/-! ## The definition of a table -/

/-- What stands before the default of a column. -/
def columnStart (f : Field) : String :=
  "\t" ++ f.name ++ " " ++ f.type.affinity.name

/-- What stands behind the default of a column. -/
def columnEnd (f : Field) : String :=
  (if f.notNull && !f.increment then " NOT NULL" else "")
    ++ (if f.primaryKey then " PRIMARY KEY" else "")
    ++ (if f.increment then " AUTOINCREMENT" else "")

/-- The definition of a column, with its default where there is one. -/
def columnParts (f : Field) : List Part :=
  if Text.isBlank f.defaultText then [.around (columnStart f ++ columnEnd f)]
  else [.around (columnStart f ++ " DEFAULT "), .literal (defaultLiteral f), .around (columnEnd f)]

/-- What stands behind the columns of a table: its constraints and its indexes. -/
def tableEnd (table : Entity) : String :=
  (if (uniqueColumns table).isEmpty then "" else uniqueConstraint (uniqueColumns table))
    ++ Text.concat (table.foreignKeys.map foreignKeyConstraint)
    ++ Text.concat (table.uniqueGroups.map uniqueConstraint)
    ++ "\n);\n\n"
    ++ Text.concat ((table.fields.filter (·.indexed)).map (createIndex table))

/-- The statement that inserts a row, with the text of its literal. -/
def rowParts (table : Entity) (key value : Field) (ordinal : Nat) (item : EnumItem) : List Part :=
  [.around ("INSERT INTO " ++ table.name ++ " (" ++ key.name ++ ", " ++ value.name ++ ") VALUES ("
      ++ toString ordinal ++ ", "),
    .literal (Sql.literal item.value), .around ");\n"]

/-- The rows of an enumeration table. -/
def enumerationParts (table : Entity) : List Part :=
  match enumerationColumns? table with
  | none => []
  | some (key, value) =>
    .around "\n" :: (table.enumItems.mapIdx (rowParts table key value)).flatten ++ [.around "\n"]

/-- The statements that create a table, its indexes and its rows. -/
def tableParts (table : Entity) : List Part :=
  .around ("CREATE TABLE IF NOT EXISTS " ++ table.name ++ " (\n")
    :: [.around ",\n"].intercalate (table.fields.map columnParts)
    ++ .around (tableEnd table) :: enumerationParts table

theorem written_columnParts (f : Field) : written (columnParts f) = columnDefinition f := by
  unfold columnParts columnDefinition
  split <;> simp [Part.text, columnStart, columnEnd, String.append_assoc]

theorem written_rowParts (table : Entity) (key value : Field) (ordinal : Nat) (item : EnumItem) :
    written (rowParts table key value ordinal item) = insertRow table key value ordinal item := by
  unfold insertRow
  simp only [rowParts, written_cons, written_nil, Part.text, String.append_assoc,
    String.append_empty]

theorem written_enumerationParts (table : Entity) :
    written (enumerationParts table) = enumerationRows table := by
  unfold enumerationParts enumerationRows
  cases enumerationColumns? table with
  | none => rfl
  | some columns =>
    simp only [written_cons, written_append, written_flatten_mapIdx (written_rowParts table _ _),
      List.cons_append, written_nil, Part.text, String.append_assoc, String.append_empty]

/-- The parts make up the statements as they are printed. -/
theorem written_tableParts (table : Entity) : written (tableParts table) = createTable table := by
  have hcolumns : (table.fields.map columnParts).map written = table.fields.map columnDefinition := by
    rw [List.map_map]
    exact List.map_congr_left fun f _ => written_columnParts f
  unfold createTable tableParts tableEnd
  simp only [List.cons_append, written_cons, written_append, written_intercalate, hcolumns,
    written_enumerationParts, written_nil, Part.text, String.append_assoc, String.append_empty]

/-- The literals in the definition of a table: the defaults of its columns, and the texts of the rows
of an enumeration table. -/
def tableLiterals (table : Entity) : List String :=
  (table.fields.filter (!Text.isBlank ·.defaultText)).map defaultLiteral
    ++ if (enumerationColumns? table).isSome then table.enumItems.map (literal ·.value) else []

theorem literalsOf_tableParts (table : Entity) :
    literalsOf (tableParts table) = tableLiterals table := by
  have hcolumns : (table.fields.map columnParts).flatMap literalsOf =
      (table.fields.filter (!Text.isBlank ·.defaultText)).map defaultLiteral := by
    induction table.fields with
    | nil => rfl
    | cons f fields ih =>
      rw [List.map_cons, List.flatMap_cons, ih, columnParts]
      cases hblank : Text.isBlank f.defaultText <;> simp [hblank, literalsOf, Part.literal?]
  have hrows : ∀ key value, literalsOf (table.enumItems.mapIdx (rowParts table key value)).flatten =
      table.enumItems.map (literal ·.value) := by
    intro key value
    exact literalsOf_flatten_mapIdx (fun _ _ => rfl) table.enumItems
  have henumeration : literalsOf (enumerationParts table) =
      if (enumerationColumns? table).isSome then table.enumItems.map (literal ·.value) else [] := by
    unfold enumerationParts
    cases enumerationColumns? table with
    | none => rfl
    | some columns =>
      simp only [List.cons_append, literalsOf_around, literalsOf_append, hrows, Option.isSome_some,
        if_true]
      exact List.append_nil _
  rw [tableParts, List.cons_append, literalsOf_around, literalsOf_append, literalsOf_around,
    literalsOf_intercalate rfl, hcolumns, henumeration, tableLiterals]

theorem trimmed_between (s : String) : Text.Trimmed ("'" ++ s ++ "'") := by
  have hfirst : ("'" ++ s ++ "'").toList.head? = some '\'' := by simp
  have hlast : ("'" ++ s ++ "'").toList.getLast? = some '\'' := Text.getLast?_append _ rfl
  refine ⟨Text.trim_eq_self hfirst hlast (by decide) (by decide), fun hempty => ?_⟩
  rw [hempty] at hfirst
  cases hfirst

/-- A default that is not blank is written as a text that begins and ends with visible characters. -/
theorem trimmed_defaultLiteral {f : Field} (h : Text.isBlank f.defaultText = false) :
    Text.Trimmed (defaultLiteral f) := by
  have hvalue : Text.Trimmed (Text.trim f.defaultText) := by
    refine ⟨Text.trim_trim f.defaultText, fun hempty => ?_⟩
    rw [Text.trim_eq_empty_iff, h] at hempty
    cases hempty
  have hdigit : Text.Trimmed (if Text.sameName (Text.trim f.defaultText) "true"
      || Text.trim f.defaultText == "1" then "1" else "0") :=
    .ite ⟨by decide, by decide⟩ ⟨by decide, by decide⟩
  have hdate : Text.Trimmed (if Text.sameName (Text.trim f.defaultText) "now"
      then "CURRENT_TIMESTAMP" else "'" ++ Text.trim f.defaultText ++ "'") :=
    .ite ⟨by decide, by decide⟩ (trimmed_between _)
  have htext : Text.Trimmed (literal (Text.trim f.defaultText)) := trimmed_between _
  unfold defaultLiteral
  exact .ite hvalue (.ite hdigit (.ite hdate (.ite htext hvalue)))

theorem trimmed_of_mem_tableLiterals {table : Entity} {s : String} (h : s ∈ tableLiterals table) :
    Text.Trimmed s := by
  rcases List.mem_append.1 h with hdefault | hrow
  · obtain ⟨f, hf, rfl⟩ := List.mem_map.1 hdefault
    have hfilled : Text.isBlank f.defaultText = false := by simpa using (List.mem_filter.1 hf).2
    exact trimmed_defaultLiteral hfilled
  · split at hrow
    · obtain ⟨item, -, rfl⟩ := List.mem_map.1 hrow
      exact trimmed_between _
    · cases hrow

/-! ## Layouts -/

/-- Holds for a text that has parts in some layout: what stands around the literals keeps its visible
characters, and every literal is written as `write` tells. -/
inductive LaidOut (write : String → String) : List Part → String → Prop where
  | nil : LaidOut write [] ""
  | around {s t u : String} {parts : List Part}
      (hvisible : Chars.visible t.toList = Chars.visible s.toList)
      (hrest : LaidOut write parts u) : LaidOut write (.around s :: parts) (t ++ u)
  | literal (s : String) {u : String} {parts : List Part} (hrest : LaidOut write parts u) :
      LaidOut write (.literal s :: parts) (write s ++ u)

/-- Holds for a text that has the same literals as a definition and differs from it in the layout
around them only. -/
def KeepsLiterals (parts : List Part) (t : String) : Prop :=
  LaidOut id parts t

theorem keepsLiterals_written (parts : List Part) : KeepsLiterals parts (written parts) := by
  induction parts with
  | nil => exact .nil
  | cons p parts ih =>
    cases p with
    | around s => exact .around rfl ih
    | literal s => exact .literal s ih

namespace LaidOut

variable {write other : String → String} {parts : List Part} {t : String}

/-- How literals are written matters only for those that are there. -/
theorem congr (h : LaidOut write parts t) (hsame : ∀ s ∈ literalsOf parts, write s = other s) :
    LaidOut other parts t := by
  induction h with
  | nil => exact .nil
  | around hvisible _ ih => exact .around hvisible (ih hsame)
  | literal s _ ih =>
    rw [hsame s List.mem_cons_self]
    exact .literal s (ih fun u hu => hsame u (List.mem_cons_of_mem s hu))

/-- Blanks that are left out everywhere are left out of the literals too. -/
theorem removeChar {c : Char} (hc : Chars.isSpace c) (h : LaidOut write parts t) :
    LaidOut (fun s => Text.removeChar c (write s)) parts (Text.removeChar c t) := by
  induction h with
  | nil => exact .nil
  | around hvisible _ ih =>
    rw [Text.removeChar_append]
    exact .around ((Text.visible_removeChar hc _).trans hvisible) ih
  | literal s _ ih =>
    rw [Text.removeChar_append]
    exact .literal s ih

/-- Blanks at the end of a text are never in a literal. -/
theorem trimEnd (h : LaidOut write parts t)
    (hwritten : ∀ s ∈ literalsOf parts, Text.Trimmed (write s)) :
    LaidOut write parts (Text.trimEnd t) := by
  induction h with
  | nil => exact .nil
  | @around s t u parts hvisible _ ih =>
    have hrest := ih hwritten
    rw [Text.trimEnd_append]
    split
    · next hblank =>
      rw [hblank] at hrest
      rw [← String.append_empty (s := Text.trimEnd t)]
      exact .around ((Text.visible_trimEnd t).trans hvisible) hrest
    · exact .around hvisible hrest
  | @literal s u parts _ ih =>
    have hrest := ih fun v hv => hwritten v (List.mem_cons_of_mem s hv)
    rw [Text.trimEnd_append]
    split
    · next hblank =>
      rw [hblank] at hrest
      rw [(hwritten s List.mem_cons_self).trimEnd_eq, ← String.append_empty (s := write s)]
      exact .literal s hrest
    · exact .literal s hrest

/-- Carriage returns that are left out before line feeds are left out of the literals too. -/
theorem dropReturns (h : LaidOut write parts t)
    (hwritten : ∀ s ∈ literalsOf parts, Text.Trimmed (write s)) :
    LaidOut (fun s => Text.dropReturns (write s)) parts (Text.dropReturns t) := by
  induction h with
  | nil => exact .nil
  | @around s t u parts hvisible _ ih =>
    -- a carriage return at the end may belong to a line feed of what follows
    obtain ⟨start, happend, hstart⟩ := Text.exists_dropReturns_append t u
    rw [happend]
    exact .around (hstart.trans hvisible) (ih hwritten)
  | @literal s u parts _ ih =>
    rw [(hwritten s List.mem_cons_self).dropReturns_append]
    exact .literal s (ih fun v hv => hwritten v (List.mem_cons_of_mem s hv))

/-- A text has the literals of a definition only when each is written as it is. The induction is on
the parts; what stands before the rest in the two texts need not be the same until a literal begins. -/
theorem write_eq (h : LaidOut write parts t) {u : String} (hkeeps : LaidOut id parts u)
    (hvisible : ∀ s, Chars.visible (write s).toList = Chars.visible s.toList)
    (htrimmed : ∀ s ∈ literalsOf parts, Text.Trimmed s)
    (hwritten : ∀ s ∈ literalsOf parts, Text.Trimmed (write s))
    {before before' : List Char} (hbefore : Chars.visible before = Chars.visible before')
    (heq : before ++ t.toList = before' ++ u.toList) : ∀ s ∈ literalsOf parts, write s = s := by
  induction h generalizing u before before' with
  | nil => exact fun s hs => absurd hs List.not_mem_nil
  | @around s t v parts hsame _ ih =>
    cases hkeeps with
    | @around _ t' u _ hsame' hkeeps =>
      rw [String.toList_append, String.toList_append, ← List.append_assoc, ← List.append_assoc] at heq
      refine ih hkeeps htrimmed hwritten ?_ heq
      rw [Chars.visible_append, Chars.visible_append, hbefore, hsame, hsame']
  | @literal s v parts _ ih =>
    cases hkeeps with
    | @literal _ u _ hkeeps =>
      have hs : Text.Trimmed s := htrimmed s List.mem_cons_self
      have hw : Text.Trimmed (write s) := hwritten s List.mem_cons_self
      rw [String.toList_append, String.toList_append] at heq
      have hstart : before = before' :=
        Chars.eq_of_append_eq_of_head? heq hbefore (hw.head?_append _) (hs.head?_append _)
      rw [hstart, List.append_cancel_left_eq] at heq
      have hliteral : write s = s := by
        rw [← String.toList_inj]
        exact Chars.eq_of_append_eq_of_getLast? heq (hvisible s) (Text.trimmed_iff.1 hw).2.2
          (Text.trimmed_iff.1 hs).2.2
      rw [hliteral, id, List.append_cancel_left_eq] at heq
      have hrest := ih hkeeps (fun x hx => htrimmed x (List.mem_cons_of_mem s hx))
        (fun x hx => hwritten x (List.mem_cons_of_mem s hx))
        (rfl : Chars.visible [] = Chars.visible []) heq
      intro x hx
      rcases List.mem_cons.1 hx with rfl | hx
      · exact hliteral
      · exact hrest x hx

end LaidOut

end Sql

end SchemaForge
