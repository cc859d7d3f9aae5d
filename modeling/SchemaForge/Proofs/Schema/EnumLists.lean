import SchemaForge.Proofs.Text.Blank
import SchemaForge.Proofs.Text.Pieces
import SchemaForge.Schema.Basic

namespace SchemaForge

/-! # Lists of literals

An enumeration lists its literals between commas, each with or without the text that is shown for
it. Whatever blanks stand around them, and whatever blank pieces between them, the literals that
were written are read, in their order. What is read for a text of any other form can have no comma,
no space and no blank at its ends; the name of a literal of a table can be empty, however, where a
piece has nothing before its equals sign.
-/

/-! ## Pieces -/

namespace Entity

/-- The literal that a piece between commas gives; a blank one gives none. -/
def pieceItem? (piece : List Char) : Option EnumItem :=
  if piece.all Chars.isSpace then none else some (enumItem (Chars.trim piece))

/-- Every piece is read by itself. -/
theorem enumItems_eq (e : Entity) :
    e.enumItems = (Chars.splitOn ',' e.enumerations.toList).filterMap pieceItem? := by
  rw [enumItems]
  induction Chars.splitOn ',' e.enumerations.toList with
  | nil => rfl
  | cons piece pieces ih =>
    rw [List.map_cons]
    by_cases hblank : piece.all Chars.isSpace = true
    · have hnone : pieceItem? piece = none := if_pos hblank
      have htrim : Chars.trim piece = [] := (Chars.trim_eq_nil_iff piece).2 hblank
      rw [List.filterMap_cons_none hnone, htrim, List.filter_cons_of_neg (by simp), ih]
    · have hsome : pieceItem? piece = some (enumItem (Chars.trim piece)) := if_neg hblank
      have htrim : Chars.trim piece ≠ [] := by rwa [Ne, Chars.trim_eq_nil_iff]
      rw [List.filterMap_cons_some hsome, List.filter_cons_of_pos (by simpa using htrim),
        List.map_cons, ih]

end Entity

/-! ## Written lists -/

/-- A literal as it is written, alone or with a text. -/
structure WrittenItem where
  name : String
  text? : Option String := none
  name_trimmed : Text.Trimmed name
  name_plain : ∀ c ∈ [',', '=', ' '], c ∉ name.toList
  text_trimmed : ∀ text, text? = some text → Text.Trimmed text
  text_plain : ∀ text, text? = some text → ',' ∉ text.toList

namespace WrittenItem

/-- The literal with the text that is shown for it. -/
def item (i : WrittenItem) : EnumItem :=
  ⟨i.name, i.text?.getD (Naming.displayName i.name)⟩

/-- The literal in a list. -/
def written (i : WrittenItem) : String :=
  match i.text? with
  | none => i.name
  | some text => i.name ++ "=" ++ text

variable (i : WrittenItem)

/-- No comma is in a written literal, so that it stays in one piece. -/
theorem notMem_written : ',' ∉ i.written.toList := by
  have hname : ',' ∉ i.name.toList := i.name_plain ',' (by simp)
  unfold written
  split
  · exact hname
  · next text htext =>
    simp [hname, i.text_plain text htext]

/-- The name begins a written literal and its last part ends it, so that there are no blanks at its
ends. -/
theorem trimmed_written : Text.Trimmed i.written := by
  unfold written
  split
  · exact i.name_trimmed
  · next text htext =>
    have hname := i.name_trimmed
    have htrimmed := i.text_trimmed text htext
    have htrim : Text.trim (i.name ++ "=" ++ text) = i.name ++ "=" ++ text := by
      have hfirst := (Text.trim_eq_self_iff.1 hname.trim_eq).1
      have hlast := (Text.trim_eq_self_iff.1 htrimmed.trim_eq).2
      rw [Text.trim_eq_self_iff]
      simp only [String.toList_append]
      constructor
      · intro c hc
        rw [List.append_assoc, List.head?_append_of_ne_nil _ hname.toList_ne_nil] at hc
        exact hfirst c hc
      · intro c hc
        rw [List.getLast?_append_of_ne_nil _ htrimmed.toList_ne_nil] at hc
        exact hlast c hc
    refine ⟨htrim, fun hempty => ?_⟩
    have hlength := congrArg String.length hempty
    simp at hlength

/-- A written literal is read back. -/
theorem enumItem_written : Entity.enumItem i.written.toList = i.item := by
  have hequals : '=' ∉ i.name.toList := i.name_plain '=' (by simp)
  have hname : Text.removeChar ' ' (String.ofList (Chars.trim i.name.toList)) = i.name := by
    change Text.removeChar ' ' (Text.trim i.name) = i.name
    rw [i.name_trimmed.trim_eq, Text.removeChar_eq_self_iff.2 (i.name_plain ' ' (by simp))]
  unfold written item
  split
  · next hnone =>
    rw [Entity.enumItem, Chars.splitOnce?_eq, if_neg hequals, Entity.bareItem, hname, hnone]
    rfl
  · next text hsome =>
    have htext := i.text_trimmed text hsome
    have hsplit : Chars.splitOnce? '=' (i.name ++ "=" ++ text).toList =
        some (i.name.toList, text.toList) := by
      rw [String.toList_append, String.toList_append, List.append_assoc]
      exact Chars.splitOnce?_append_sep hequals text.toList
    have hblank : text.toList.all Chars.isSpace = false := htext.isBlank
    rw [Entity.enumItem, hsplit]
    simp only [hblank, Bool.false_eq_true, if_false, hname]
    rw [hsome, Option.getD_some]
    exact congrArg _ htext.trim_eq

/-- It is also read back with blanks around it. -/
theorem pieceItem?_written {before after : String} (hbefore : Text.isBlank before)
    (hafter : Text.isBlank after) :
    Entity.pieceItem? (before ++ i.written ++ after).toList = some i.item := by
  have htrim : Chars.trim (before ++ i.written ++ after).toList = i.written.toList := by
    rw [← Text.toList_trim, Text.trim_around hbefore hafter, i.trimmed_written.trim_eq]
  have hne : Chars.trim (before ++ i.written ++ after).toList ≠ [] := by
    rw [htrim]
    simpa using i.trimmed_written.ne_empty
  rw [Ne, Chars.trim_eq_nil_iff] at hne
  rw [Entity.pieceItem?, if_neg hne, htrim, i.enumItem_written]

end WrittenItem

/-- The pieces between the commas of a list of literals: each literal is in a piece of its own, with
or without blanks around it, and there may be blank pieces anywhere. -/
inductive Lists : List WrittenItem → List String → Prop
  | nil : Lists [] []
  | blank {items : List WrittenItem} {pieces : List String} {piece : String}
      (blank : Text.isBlank piece) (rest : Lists items pieces) : Lists items (piece :: pieces)
  | item {items : List WrittenItem} {pieces : List String} {before after : String}
      (i : WrittenItem) (blankBefore : Text.isBlank before) (blankAfter : Text.isBlank after)
      (rest : Lists items pieces) : Lists (i :: items) ((before ++ i.written ++ after) :: pieces)

namespace Lists

variable {items : List WrittenItem} {pieces : List String}

/-- There is no comma inside a piece. -/
theorem notMem (h : Lists items pieces) : ∀ piece ∈ pieces, ',' ∉ piece.toList := by
  have hblank : ∀ {s : String}, Text.isBlank s → ',' ∉ s.toList := by
    intro s hs hmem
    exact absurd (List.all_eq_true.1 hs ',' hmem) (by decide)
  induction h with
  | nil => simp
  | blank hpiece rest ih =>
    rw [List.forall_mem_cons]
    exact ⟨hblank hpiece, ih⟩
  | item i hbefore hafter rest ih =>
    rw [List.forall_mem_cons]
    refine ⟨?_, ih⟩
    simp [hblank hbefore, i.notMem_written, hblank hafter]

/-- The pieces give the literals, in their order. -/
theorem filterMap_pieceItem? (h : Lists items pieces) :
    (pieces.map String.toList).filterMap Entity.pieceItem? = items.map (·.item) := by
  induction h with
  | nil => rfl
  | blank hpiece rest ih =>
    rw [List.map_cons, List.filterMap_cons_none, ih]
    exact if_pos hpiece
  | item i hbefore hafter rest ih =>
    rw [List.map_cons, List.filterMap_cons_some (i.pieceItem?_written hbefore hafter), ih,
      List.map_cons]

end Lists

/-- An enumeration that is written as a list of literals, with any blanks around them and any blank
pieces between them, has these literals in this order; one that is written without a text shows the
words of its name. -/
theorem Entity.enumItems_of_lists {e : Entity} {items : List WrittenItem} {pieces : List String}
    (hlists : Lists items pieces) (htext : e.enumerations = ",".intercalate pieces) :
    e.enumItems = items.map fun i => ⟨i.name, i.text?.getD (Naming.displayName i.name)⟩ := by
  have hsplit : (Chars.splitOn ',' e.enumerations.toList).filterMap pieceItem? =
      (pieces.map String.toList).filterMap pieceItem? := by
    rw [htext, String.toList_intercalate]
    by_cases hne : pieces = []
    · -- a text without any piece is read as a blank one
      subst hne
      rfl
    · have hpieces : ∀ piece ∈ pieces.map String.toList, ',' ∉ piece :=
        List.forall_mem_map.2 hlists.notMem
      have hcomma : ",".toList = [','] := rfl
      rw [hcomma, Chars.splitOn_intercalate (by simpa using hne) hpieces]
  rw [enumItems_eq, hsplit, hlists.filterMap_pieceItem?]
  rfl

/-- The types of persons: one alone, one with a text and one with a text that has an equals sign. -/
def personTypeItems : List WrittenItem :=
  [{ name := "HEAD", name_trimmed := ⟨by decide, by decide⟩, name_plain := by simp
     text_trimmed := by rintro _ ⟨⟩
     text_plain := by rintro _ ⟨⟩ },
    { name := "SPOUSE", text? := some "Husband or Wife"
      name_trimmed := ⟨by decide, by decide⟩, name_plain := by simp
      text_trimmed := by rintro _ ⟨⟩; exact ⟨by decide, by decide⟩
      text_plain := by rintro _ ⟨⟩; decide },
    { name := "CHILD_OF_HEAD", text? := some "age=<18"
      name_trimmed := ⟨by decide, by decide⟩, name_plain := by simp
      text_trimmed := by rintro _ ⟨⟩; exact ⟨by decide, by decide⟩
      text_plain := by rintro _ ⟨⟩; decide }]

/-- They are read from a text with blanks and blank pieces. -/
theorem Entity.enumItems_of_personTypeItems :
    ∃ pieces, Lists personTypeItems pieces
      ∧ ",".intercalate pieces = "HEAD, SPOUSE=Husband or Wife ,, \t,\nCHILD_OF_HEAD=age=<18"
      ∧ ({ kind := .table, name := "PERSON_TYPE"
           enumerations := "HEAD, SPOUSE=Husband or Wife ,, \t,\nCHILD_OF_HEAD=age=<18" } :
          Entity).enumItems =
        [⟨"HEAD", "Head"⟩, ⟨"SPOUSE", "Husband or Wife"⟩, ⟨"CHILD_OF_HEAD", "age=<18"⟩] := by
  have hlists : Lists personTypeItems
      ["" ++ "HEAD" ++ "", " " ++ "SPOUSE=Husband or Wife" ++ " ", "", " \t",
        "\n" ++ "CHILD_OF_HEAD=age=<18" ++ ""] :=
    .item _ (by decide) (by decide) <| .item _ (by decide) (by decide) <|
      .blank (by decide) <| .blank (by decide) <| .item _ (by decide) (by decide) .nil
  refine ⟨_, hlists, by decide, ?_⟩
  rw [Entity.enumItems_of_lists hlists (by decide)]
  decide

/-! ## Literals -/

/-- A text that can be told apart in a list: it has neither comma nor space, and no blank at its
ends. -/
structure FitsList (s : String) : Prop where
  noComma : ',' ∉ s.toList
  noSpace : ' ' ∉ s.toList
  trim_eq : Text.trim s = s

namespace FitsList

variable {cs : List Char}

/-- What is left of a piece without the blanks at its ends and the spaces inside. -/
theorem of_piece (h : ',' ∉ cs) :
    FitsList (Text.removeChar ' ' (String.ofList (Chars.trim cs))) := by
  have hchars : (Text.removeChar ' ' (String.ofList (Chars.trim cs))).toList =
      (Chars.trim cs).filter (· ≠ ' ') := by
    rw [Text.removeChar, String.toList_ofList, String.toList_ofList]
  have hkeeps : ∀ c, Chars.isSpace c = false → decide (c ≠ ' ') = true :=
    Chars.decide_ne_of_isSpace rfl
  constructor
  case noComma =>
    rw [hchars]
    intro hmem
    exact h ((Chars.trim_infix cs).subset (List.mem_of_mem_filter hmem))
  case noSpace =>
    rw [hchars]
    intro hmem
    simpa using List.of_mem_filter hmem
  case trim_eq =>
    rw [← String.toList_inj, Text.toList_trim, hchars, Chars.trim_filter_trim hkeeps]

/-- Nothing is left only of a blank piece, as a space is at no end of what is trimmed. -/
theorem piece_eq_empty_iff :
    Text.removeChar ' ' (String.ofList (Chars.trim cs)) = "" ↔ cs.all Chars.isSpace := by
  rw [← Chars.trim_eq_nil_iff, Text.removeChar, String.toList_ofList, String.ofList_eq_empty_iff]
  constructor
  · intro h
    obtain ⟨hfirst, -⟩ := Chars.trim_eq_self_iff.1 (Chars.trim_trim cs)
    cases htrim : Chars.trim cs with
    | nil => rfl
    | cons c rest =>
      have hspace : Chars.isSpace c = false := hfirst c (by simp [htrim])
      have hc : c = ' ' := by simpa using List.filter_eq_nil_iff.1 h c (by simp [htrim])
      rw [hc] at hspace
      exact absurd hspace (by decide)
  · intro h
    rw [h]
    rfl

end FitsList

namespace Entity

/-- The name of a literal is what stands before its equals sign. -/
theorem name_enumItem (piece : List Char) : (enumItem piece).name =
    Text.removeChar ' ' (String.ofList (Chars.trim (piece.takeWhile (· ≠ '=')))) := by
  rw [enumItem, Chars.splitOnce?_eq]
  by_cases hmem : '=' ∈ piece
  · simp only [if_pos hmem]
    split <;> rfl
  · have hall : ∀ c ∈ piece, decide (c ≠ '=') = true := by
      intro c hc
      simpa using ne_of_mem_of_not_mem hc hmem
    rw [if_neg hmem, List.takeWhile_eq_self_iff.2 hall]
    rfl

/-- The name of a literal is empty when its piece begins with the equals sign. -/
theorem name_enumItem_eq_empty_iff {piece : List Char} (h : piece.all Chars.isSpace = false) :
    (enumItem (Chars.trim piece)).name = "" ↔ ['='] <+: Chars.trim piece := by
  obtain ⟨hfirst, -⟩ := Chars.trim_eq_self_iff.1 (Chars.trim_trim piece)
  rw [name_enumItem, FitsList.piece_eq_empty_iff]
  cases htrim : Chars.trim piece with
  | nil =>
    rw [Chars.trim_eq_nil_iff, h] at htrim
    cases htrim
  | cons c rest =>
    have hspace : Chars.isSpace c = false := hfirst c (by simp [htrim])
    by_cases hc : c = '='
    · simp [hc]
    · simp [hc, hspace, Ne.symm hc]

theorem mem_enumItems_iff {e : Entity} {i : EnumItem} :
    i ∈ e.enumItems ↔ ∃ piece ∈ Chars.splitOn ',' e.enumerations.toList,
      piece.all Chars.isSpace = false ∧ enumItem (Chars.trim piece) = i := by
  simp [enumItems_eq, pieceItem?]

theorem fitsList_of_mem_enumItems {e : Entity} {i : EnumItem} (h : i ∈ e.enumItems) :
    FitsList i.name := by
  obtain ⟨piece, hpiece, -, rfl⟩ := mem_enumItems_iff.1 h
  rw [name_enumItem]
  apply FitsList.of_piece
  intro hmem
  exact Chars.notMem_of_mem_splitOn hpiece
    ((Chars.trim_infix piece).subset ((List.takeWhile_prefix _).subset hmem))

/-- The literals of a table all have names when each piece has something before its equals sign. -/
theorem forall_name_ne_empty_iff {e : Entity} :
    (∀ i ∈ e.enumItems, i.name ≠ "") ↔
      ∀ piece ∈ Text.splitOn ',' e.enumerations, ¬ Text.beginsWith "=" (Text.trim piece) := by
  have hbegins : ∀ piece : List Char,
      Text.beginsWith "=" (Text.trim (String.ofList piece)) ↔ ['='] <+: Chars.trim piece := by
    intro piece
    have htrim : (Text.trim (String.ofList piece)).toList = Chars.trim piece := by
      rw [Text.toList_trim, String.toList_ofList]
    rw [Text.beginsWith, htrim, List.isPrefixOf_iff_prefix]
    rfl
  simp only [Text.splitOn, List.forall_mem_map, hbegins, mem_enumItems_iff]
  constructor
  · intro hnames piece hpiece hequals
    have hne : piece.all Chars.isSpace = false := by
      rw [← Bool.not_eq_true, ← Chars.trim_eq_nil_iff]
      exact fun hnil => by simp [hnil] at hequals
    exact hnames _ ⟨piece, hpiece, hne, rfl⟩ ((name_enumItem_eq_empty_iff hne).2 hequals)
  · rintro hpieces _ ⟨piece, hpiece, hne, rfl⟩ hempty
    exact hpieces piece hpiece ((name_enumItem_eq_empty_iff hne).1 hempty)

end Entity

/-- The literals that a column lists itself are never empty. -/
theorem Field.fitsList_of_mem_enumValues {f : Field} {literal : String}
    (h : literal ∈ f.enumValues) : FitsList literal ∧ literal ≠ "" := by
  obtain ⟨hmem, hne⟩ := List.mem_filter.1 h
  obtain ⟨_, hsplit, rfl⟩ := List.mem_map.1 hmem
  obtain ⟨piece, hpiece, rfl⟩ := List.mem_map.1 hsplit
  refine ⟨?_, by simpa using hne⟩
  rw [Text.trim, String.toList_ofList]
  exact FitsList.of_piece (Chars.notMem_of_mem_splitOn hpiece)

end SchemaForge
