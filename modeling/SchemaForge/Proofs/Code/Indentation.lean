import SchemaForge.Code.JavaMethod
import SchemaForge.Code.KotlinFunction
import SchemaForge.Proofs.Results
import SchemaForge.Proofs.Text.Lines
import SchemaForge.Proofs.Text.Pieces

namespace SchemaForge

/-! # Indentation of blocks

A block is written line by line: a line of blanks becomes empty, and any other one has a unit for
each level of the depth and for each of its leading tabs. As no line depends on another one, texts
can be put together before or after they are indented, as long as no line of a text lacks its end.
The bodies of functions and methods are such blocks.
-/

/-! ## Lines -/

namespace Style

variable {style : Style} {depth : Nat}

/-- Holds for a line of a block and what is written for it at a depth, without its end: nothing for
blanks, or else units for the depth and the leading tabs, and what is behind these tabs. -/
inductive Indents (style : Style) (depth : Nat) : List Char → String → Prop
  | blank {line : List Char} (h : ∀ c ∈ line, Chars.isSpace c) : Indents style depth line ""
  | filled {tabs : Nat} {body : List Char} (htab : body.head? ≠ some '\t')
      (h : ∃ c ∈ body, Chars.isSpace c = false) :
      Indents style depth (List.replicate tabs '\t' ++ body)
        (Text.repeated style.unit (depth + tabs) ++ String.ofList body)

/-- A line is its leading tabs and a text that begins with none. -/
theorem exists_tabs (line : List Char) : ∃ tabs body, line = List.replicate tabs '\t' ++ body
    ∧ body.head? ≠ some '\t' := by
  induction line with
  | nil => exact ⟨0, [], rfl, by simp⟩
  | cons c line ih =>
    by_cases hc : c = '\t'
    · rcases ih with ⟨tabs, body, rfl, hbody⟩
      exact ⟨tabs + 1, body, by rw [hc]; rfl, hbody⟩
    · exact ⟨0, c :: line, rfl, by simpa using hc⟩

/-- The leading tabs of a line are counted, and what is behind them is kept. -/
theorem indentLine_tabs {tabs : Nat} {body : List Char} (htab : body.head? ≠ some '\t') :
    style.indentLine depth (List.replicate tabs '\t' ++ body) =
      if body.all Chars.isSpace then "\n"
      else Text.repeated style.unit (depth + tabs) ++ String.ofList body ++ "\n" := by
  have hbody : body.takeWhile (· = '\t') = [] ∧ body.dropWhile (· = '\t') = body := by
    cases body with
    | nil => exact ⟨rfl, rfl⟩
    | cons c body =>
      have hc : c ≠ '\t' := by simpa using htab
      exact ⟨by simp [hc], by simp [hc]⟩
  have htabs : ∀ c ∈ List.replicate tabs '\t', decide (c = '\t') = true := by
    intro c hc
    exact decide_eq_true (List.eq_of_mem_replicate hc)
  rw [indentLine, List.takeWhile_append_of_pos htabs, List.dropWhile_append_of_pos htabs, hbody.1,
    hbody.2, List.append_nil, List.length_replicate]
  rfl

/-- Every line is indented, and has its end behind it. -/
theorem exists_indents (style : Style) (depth : Nat) (line : List Char) : ∃ written,
    Indents style depth line written ∧ style.indentLine depth line = written ++ "\n" := by
  rcases exists_tabs line with ⟨tabs, body, rfl, htab⟩
  rw [indentLine_tabs htab]
  by_cases hblank : body.all Chars.isSpace
  · refine ⟨"", .blank fun c hc => ?_, ?_⟩
    · -- tabs are blanks too
      rcases List.mem_append.1 hc with hc | hc
      · rw [List.eq_of_mem_replicate hc]
        decide
      · exact List.all_eq_true.1 hblank c hc
    · rw [if_pos hblank, String.empty_append]
  · refine ⟨_, .filled htab ?_, if_neg hblank⟩
    rw [Bool.not_eq_true, List.all_eq_false] at hblank
    simpa using hblank

/-- A line is indented without an end of its own, where the unit has none. -/
theorem Indents.notMem {line : List Char} {written : String} (h : Indents style depth line written)
    (hunit : '\n' ∉ style.unit.toList) (hline : '\n' ∉ line) : '\n' ∉ written.toList := by
  cases h with
  | blank h => simp
  | filled htab h =>
    rw [String.toList_append, String.toList_ofList, List.mem_append, not_or]
    rw [List.mem_append, not_or] at hline
    exact ⟨mt Text.mem_of_mem_repeated hunit, hline.2⟩

/-! ## Blocks -/

/-- What is written for a block has a line for each of its lines. -/
theorem exists_indents_block (style : Style) (depth : Nat) (block : String) : ∃ written,
    List.Forall₂ (Indents style depth) (Chars.lines block.toList) written
      ∧ style.indentBlock depth block = Text.concat (written.map (· ++ "\n")) := by
  have hlines : List.Forall₂
      (fun line text => ∃ written, Indents style depth line written ∧ text = written ++ "\n")
      (Chars.lines block.toList)
      ((Chars.lines block.toList).map (style.indentLine depth)) := by
    rw [List.forall₂_map_right_iff, List.forall₂_same]
    intro line _
    exact exists_indents style depth line
  rcases forall₂_exists_eq_iff.1 hlines with ⟨written, hwritten, hmap⟩
  exact ⟨written, hwritten, by rw [indentBlock, hmap]⟩

theorem indentBlock_append {first : String} (h : Chars.Ended first.toList) (second : String) :
    style.indentBlock depth (first ++ second) =
      style.indentBlock depth first ++ style.indentBlock depth second := by
  rw [indentBlock, String.toList_append, Chars.lines_append h, List.map_append,
    Text.concat_append]
  rfl

/-- Texts without open lines are indented one after the other. -/
theorem indentBlock_concat {texts : List String} (h : ∀ text ∈ texts, Chars.Ended text.toList) :
    style.indentBlock depth (Text.concat texts) =
      Text.concat (texts.map (style.indentBlock depth)) := by
  induction texts with
  | nil => rfl
  | cons text texts ih =>
    rw [List.forall_mem_cons] at h
    rw [Text.concat_cons, indentBlock_append h.1, ih h.2, List.map_cons, Text.concat_cons]

end Style

/-! ## Bodies -/

/-- Holds for what writes contents as bodies behind a heading: the body of texts that are put
together is that of each text, one after the other. -/
def Style.WritesBodies (style : Style) (depth : Nat) (hasBody : String → Prop)
    (write : String → String) : Prop :=
  ∃ heading, ∀ texts : List String, (∀ text ∈ texts, Chars.Ended text.toList) →
    hasBody (Text.concat texts) →
      write (Text.concat texts) = heading ++ " \x7b\n"
        ++ Text.concat (texts.map (style.indentBlock (depth + 1))) ++ style.pad depth ++ "\x7d\n"

/-- Holds for a function that is written with a body when this is its content. An abstract function
has none, and neither has a constructor that does nothing. -/
def KotlinFunction.HasBody (f : KotlinFunction) (content : String) : Prop :=
  f.isAbstract = false ∧ (f.isConstructor = true → Text.isBlank content = false)

/-- Bodies are written text by text where each is the block of its content. -/
theorem Style.writesBodies {style : Style} {depth : Nat} {hasBody : String → Prop}
    {write : String → String} {heading : String}
    (h : ∀ content, hasBody content → write content =
      heading ++ " \x7b\n" ++ style.indentBlock (depth + 1) content ++ style.pad depth ++ "\x7d\n") :
    style.WritesBodies depth hasBody write := by
  refine ⟨heading, fun texts htexts hbody => ?_⟩
  rw [h _ hbody, indentBlock_concat htexts]

theorem KotlinFunction.writesBodies (style : Style) (depth : Nat) (f : KotlinFunction) :
    style.WritesBodies depth f.HasBody
      fun content => ({ f with content := content }).render style depth false := by
  apply Style.writesBodies
  rintro content ⟨habstract, hconstructor⟩
  have hbody : ({ f with content := content } : KotlinFunction).renderBody style depth false =
      " \x7b\n" ++ style.indentBlock (depth + 1) content ++ style.pad depth ++ "\x7d\n" := by
    rw [renderBody, habstract, if_neg (by decide), if_neg]
    rw [Bool.and_eq_true]
    rintro ⟨hmade, hblank⟩
    exact absurd (hconstructor hmade) (by simp [hblank])
  -- nothing before the body looks at the content
  simp only [render, renderExceptions, signature, hbody]
  simp only [← String.append_assoc]
  rfl

theorem JavaMethod.writesBodies (style : Style) (depth : Nat) (m : JavaMethod) :
    style.WritesBodies depth (fun _ => m.isAbstract = false)
      fun content => ({ m with content := content }).render style depth false := by
  apply Style.writesBodies
  intro content habstract
  have hbody : ({ m with content := content } : JavaMethod).renderBody style depth false =
      " \x7b\n" ++ style.indentBlock (depth + 1) content ++ style.pad depth ++ "\x7d\n" := by
    rw [renderBody, habstract, if_neg (by decide)]
  -- nothing before the body looks at the content
  simp only [render, signature, allAnnotations, hbody]
  simp only [← String.append_assoc]
  rfl

/-- Texts whose lines all have their ends are indented one after the other, and so is the body of a
function or method that is put together from them. For each line of a block one line is written, in
the same order: an empty one for blanks, or else a unit for each level of the depth and for each
leading tab of the line, and what is behind these tabs. A line feed in the unit aside, these lines
are what stands between the line feeds. -/
theorem Style.blocks_compose (style : Style) (depth : Nat) :
    (∀ first second : String, Chars.Ended first.toList →
      style.indentBlock depth (first ++ second) =
        style.indentBlock depth first ++ style.indentBlock depth second)
    ∧ (∀ block : String, ∃ lines written, Chars.IsLines block.toList lines
      ∧ List.Forall₂ (style.Indents depth) lines written
      ∧ style.indentBlock depth block = Text.concat (written.map (· ++ "\n"))
      ∧ ('\n' ∉ style.unit.toList →
        Text.splitOn '\n' (style.indentBlock depth block) = written ++ [""]))
    ∧ (∀ f : KotlinFunction, style.WritesBodies depth f.HasBody
      fun content => ({ f with content := content }).render style depth false)
    ∧ ∀ m : JavaMethod, style.WritesBodies depth (fun _ => m.isAbstract = false)
      fun content => ({ m with content := content }).render style depth false := by
  refine ⟨?_, ?_, fun f => f.writesBodies style depth, fun m => m.writesBodies style depth⟩
  · intro first second hended
    exact indentBlock_append hended second
  · intro block
    have hlines := Chars.isLines_lines block.toList
    rcases exists_indents_block style depth block with ⟨written, hwritten, hblock⟩
    refine ⟨_, written, hlines, hwritten, hblock, fun hunit => ?_⟩
    rw [hblock]
    apply Text.splitOn_ended
    intro text htext
    rcases exists_of_mem_right hwritten text htext with ⟨line, hline, hindents⟩
    exact hindents.notMem hunit (hlines.notMem line hline)

/-- Texts of a body, with a nested line, a carriage return at the end of a line and a line of
blanks. -/
def closingTexts : List String :=
  ["if (open) \x7b\r\n\tclose()\n", "\x7d\n \t\n", "stop()\n"]

theorem Style.blocks_compose_closingTexts :
    (∀ text ∈ closingTexts, Chars.Ended text.toList) ∧ '\n' ∉ (Style.unit {}).toList
    ∧ Style.indentBlock {} 1 ("\x7d\n \t\n" ++ "stop()") = "    \x7d\n\n" ++ "    stop()\n"
    ∧ (∃ written, Text.splitOn '\n' (Style.indentBlock {} 1 (Text.concat closingTexts)) =
      written ++ [""])
    ∧ (∃ heading, ({ isConstructor := true, content := Text.concat closingTexts } :
        KotlinFunction).render {} 0 false =
      heading ++ " \x7b\n    if (open) \x7b\n        close()\n    \x7d\n\n    stop()\n\x7d\n")
    ∧ ∃ heading, ({ name := "finish", result := "void", content := Text.concat closingTexts } :
        JavaMethod).render { unit := "  " } 1 false =
      heading ++ " \x7b\n    if (open) \x7b\n      close()\n    \x7d\n\n    stop()\n  \x7d\n" := by
  have hended : ∀ text ∈ closingTexts, Chars.Ended text.toList := by decide
  have hunit : '\n' ∉ (Style.unit {}).toList := by decide
  refine ⟨hended, hunit, ?_, ?_, ?_, ?_⟩
  · rw [(Style.blocks_compose {} 1).1 _ _ (hended _ (by decide))]
    decide
  · rcases (Style.blocks_compose {} 1).2.1 (Text.concat closingTexts) with
      ⟨-, written, -, -, -, hsplit⟩
    exact ⟨written, hsplit hunit⟩
  · rcases (Style.blocks_compose {} 0).2.2.1 { isConstructor := true } with ⟨heading, hbody⟩
    have hwritten := hbody closingTexts hended ⟨rfl, fun _ => by decide⟩
    simp only [String.append_assoc] at hwritten
    exact ⟨heading, hwritten.trans (congrArg (heading ++ ·) (by decide))⟩
  · rcases (Style.blocks_compose { unit := "  " } 1).2.2.2 { name := "finish", result := "void" }
      with ⟨heading, hbody⟩
    have hwritten := hbody closingTexts hended rfl
    simp only [String.append_assoc] at hwritten
    exact ⟨heading, hwritten.trans (congrArg (heading ++ ·) (by decide))⟩

end SchemaForge
