import SchemaForge.Files.Path
import SchemaForge.Files.Walk
import SchemaForge.Proofs.Text.Pieces

namespace SchemaForge

/-! # Laws of paths

A path is its parts with slashes between them. The steps of a path in a directory are those of the
directory and then those of the path. Paths that differ only in the end of their last name have the
same directory.
-/

namespace Path

/-! ## Parts -/

/-- A text without slashes is a single part. -/
theorem parts_of_notMem {s : String} (h : '/' ∉ s.toList) : parts s = [s] := by
  rw [parts, Text.splitOn, Chars.splitOn_of_notMem h, List.map_singleton, String.ofList_toList]

/-- A path is put together again from its parts. -/
theorem ofParts_parts (path : String) : ofParts (parts path) = path := by
  have hpieces : (parts path).map String.toList = Chars.splitOn '/' path.toList := by
    simp [parts, Text.splitOn, Function.comp_def]
  rw [ofParts, ← String.toList_inj, String.toList_intercalate, hpieces]
  exact Chars.intercalate_splitOn path.toList

theorem noSlash_of_mem_parts {path part : String} (h : part ∈ parts path) : '/' ∉ part.toList := by
  rw [parts, Text.splitOn, List.mem_map] at h
  obtain ⟨piece, hpiece, rfl⟩ := h
  rw [String.toList_ofList]
  exact Chars.notMem_of_mem_splitOn hpiece

/-- Parts without slashes are the parts of the path that they make. -/
theorem parts_ofParts {ps : List String} (hne : ps ≠ []) (h : ∀ part ∈ ps, '/' ∉ part.toList) :
    parts (ofParts ps) = ps := by
  induction ps with
  | nil => exact absurd rfl hne
  | cons part rest ih =>
    rw [List.forall_mem_cons] at h
    have hpart := parts_of_notMem h.1
    by_cases hrest : rest = []
    · subst hrest
      rw [ofParts, String.intercalate_singleton, hpart]
    · have hjoined : ofParts (part :: rest) = part ++ "/" ++ ofParts rest :=
        String.intercalate_cons_of_ne_nil hrest
      rw [hjoined]
      change Text.splitOn '/' (part ++ String.singleton '/' ++ ofParts rest) = _
      rw [Text.splitOn_append_sep]
      change parts part ++ parts (ofParts rest) = _
      rw [hpart, ih hrest h.2]
      rfl

/-! ## Steps -/

theorem steps_ne_nil (path : String) : steps path ≠ [] := by
  simp [steps, parts, Text.splitOn_ne_nil]

/-- A slash between two paths keeps their steps apart. -/
theorem steps_append_slash (first second : String) :
    steps (first ++ "/" ++ second) = steps first ++ steps second := by
  rw [steps, steps, steps, ← List.map_append]
  congr 1
  exact Text.splitOn_append_sep '/' first second

/-- The steps to a path in a directory begin with those to the directory, where a slash at the end
of the directory counts for nothing. -/
theorem exists_steps_join {name : String} (h : isAbsolute name = false) (directory : String) :
    ∃ inside, steps (join directory name) = inside ++ steps name
      ∧ (steps directory = inside ∨ steps directory = inside ++ [.blank]) := by
  unfold join
  rw [if_neg (by simp [h])]
  by_cases hempty : directory = ""
  · subst hempty
    exact ⟨[], by simp, .inr rfl⟩
  by_cases hslash : Text.endsWithChar '/' directory
  · obtain ⟨above, rfl⟩ : ∃ above, directory = above ++ "/" := by
      rw [Text.endsWithChar, beq_iff_eq, List.getLast?_eq_some_iff] at hslash
      obtain ⟨above, habove⟩ := hslash
      exact ⟨String.ofList above, by rw [← String.toList_inj, habove]; simp⟩
    refine ⟨steps above, ?_, .inr ?_⟩
    · rw [if_pos (.inr hslash), steps_append_slash]
    · have hempty := steps_append_slash above ""
      rwa [String.append_empty] at hempty
  · refine ⟨steps directory, ?_, .inl rfl⟩
    rw [if_neg (by simp [hempty, hslash]), steps_append_slash]

/-! ## Beginnings and ends of paths -/

theorem isAbsolute_iff (path : String) : isAbsolute path ↔ path.toList.head? = some '/' := by
  unfold isAbsolute Text.beginsWith
  cases path.toList with
  | nil => simp
  | cons c cs =>
    simp only [String.reduceToList, List.isPrefixOf, Bool.and_true, beq_iff_eq, List.head?_cons,
      Option.some_inj]
    exact eq_comm

theorem isAbsolute_append {first second : String} (h : isAbsolute second = false) :
    isAbsolute (first ++ second) = isAbsolute first := by
  unfold isAbsolute Text.beginsWith at *
  rw [String.toList_append]
  cases hfirst : first.toList with
  | nil => simpa [hfirst] using h
  | cons c cs => simp [List.isPrefixOf]

/-- The empty directory is the one where the program runs. -/
theorem join_empty (name : String) : join "" name = name := by
  simp [join]

/-- What is at the end of a path stays there in a directory. -/
theorem join_append {first second : String} (h : isAbsolute second = false) (directory : String) :
    join directory (first ++ second) = join directory first ++ second := by
  unfold join
  rw [isAbsolute_append h]
  split
  · rfl
  · split <;> simp [String.append_assoc]

/-- A path without slashes leads on from where one is. -/
theorem not_isAbsolute_of_notMem {s : String} (h : '/' ∉ s.toList) : isAbsolute s = false := by
  rw [← Bool.not_eq_true, isAbsolute_iff]
  exact fun hhead => h (List.mem_of_head? hhead)

/-- An end of a path that makes a name of whatever is before it. -/
structure EndsName (s : String) : Prop where
  noSlash : '/' ∉ s.toList
  long : 3 ≤ s.toList.length

theorem EndsName.not_isAbsolute {s : String} (h : EndsName s) : isAbsolute s = false :=
  not_isAbsolute_of_notMem h.noSlash

theorem EndsName.append {part s : String} (h : EndsName s) (hpart : '/' ∉ part.toList) :
    EndsName (part ++ s) := by
  have hnoSlash := h.noSlash
  have hlong := h.long
  constructor
  · simp [hpart, hnoSlash]
  · simp only [String.toList_append, List.length_append]
    omega

theorem EndsName.isMove_append {s : String} (h : EndsName s) (before : String) :
    isMove (before ++ s) := by
  have hlong : 3 ≤ (before ++ s).toList.length := by
    have hs := h.long
    simp only [String.toList_append, List.length_append]
    omega
  unfold isMove PathStep.ofPart
  split
  · next heq => simp [heq] at hlong
  · next heq => simp [heq] at hlong
  · rfl
  · rfl

theorem upToMove_concat (before : List String) {last : String} (h : isMove last) :
    upToMove (before ++ [last]) = before ++ [last] := by
  simp [upToMove, h]

theorem upToMove_concat_stay (before : List String) {last : String} (h : isMove last = false) :
    upToMove (before ++ [last]) = upToMove before := by
  simp [upToMove, h]

/-- The directory of a path does not depend on the end of its name. -/
theorem exists_directory?_append (path : String) :
    ∃ directory, ∀ s, EndsName s → directory? (path ++ s) = some directory := by
  obtain ⟨before, last, hsplit⟩ := Text.exists_splitOn_append '/' path
  refine ⟨ofParts (upToMove before), fun s hs => ?_⟩
  have hparts : parts (path ++ s) = before ++ [last ++ s] := hsplit s hs.noSlash
  have hmoves := upToMove_concat before (hs.isMove_append last)
  unfold directory?
  rw [hparts, hmoves]
  split
  · next hnil => simp at hnil
  · rw [List.dropLast_concat]

/-! ## Moves -/

/-- The steps of a path that lead away. Paths with the same moves lead to the same place. -/
def moves (path : String) : List PathStep :=
  (steps path).filter (·.isMove)

/-- The moves to a path in a directory are those to the directory and then its own. -/
theorem moves_join {name : String} (h : isAbsolute name = false) (directory : String) :
    moves (join directory name) = moves directory ++ moves name := by
  obtain ⟨inside, hsteps, hdirectory⟩ := exists_steps_join h directory
  rw [moves, hsteps, List.filter_append]
  rcases hdirectory with hsame | hblank
  · rw [moves, hsame, moves]
  · have hdropped : [PathStep.blank].filter (·.isMove) = [] := rfl
    rw [moves, hblank, List.filter_append, hdropped, List.append_nil, moves]

/-- A text without slashes is a single step. -/
theorem steps_of_notMem {s : String} (h : '/' ∉ s.toList) : steps s = [.ofPart s] := by
  rw [steps, parts_of_notMem h, List.map_singleton]

/-- The part of a path that says a step. -/
def partOf : PathStep → String
  | .blank => ""
  | .here => "."
  | .up => ".."
  | .down name => name

theorem partOf_ofPart (part : String) : partOf (.ofPart part) = part := by
  unfold PathStep.ofPart
  split <;> rfl

/-- Only a single dot makes no move. -/
theorem moves_eq_nil_iff {part : String} (hslash : '/' ∉ part.toList) (hne : part ≠ "") :
    moves part = [] ↔ part = "." := by
  have hpart := partOf_ofPart part
  rw [moves, steps_of_notMem hslash]
  constructor
  · intro hnil
    cases hstep : PathStep.ofPart part with
    | blank =>
      rw [hstep] at hpart
      exact absurd hpart.symm hne
    | here =>
      rw [hstep] at hpart
      exact hpart.symm
    | up => simp [hstep, PathStep.isMove] at hnil
    | down name => simp [hstep, PathStep.isMove] at hnil
  · rintro rfl
    rfl

/-- Parts with the same moves are the same. -/
theorem eq_of_moves_eq {part other : String} (hpart : '/' ∉ part.toList)
    (hother : '/' ∉ other.toList) (hpartNe : part ≠ "") (hotherNe : other ≠ "")
    (h : moves part = moves other) : part = other := by
  cases hmoves : moves part with
  | nil =>
    have hmovesOther : moves other = [] := by rw [← h, hmoves]
    rw [(moves_eq_nil_iff hpart hpartNe).1 hmoves, (moves_eq_nil_iff hother hotherNe).1 hmovesOther]
  | cons step rest =>
    have hstep : step ∈ moves part := by
      rw [hmoves]
      exact List.mem_cons_self
    have hstepOther : step ∈ moves other := h ▸ hstep
    -- a part has one step, and either is that of this one
    rw [moves, steps_of_notMem hpart, List.mem_filter, List.mem_singleton] at hstep
    rw [moves, steps_of_notMem hother, List.mem_filter, List.mem_singleton] at hstepOther
    rw [← partOf_ofPart part, ← hstep.1, hstepOther.1, partOf_ofPart]

/-- A name is a single move. -/
theorem EndsName.moves_append {s : String} (h : EndsName s) {before : String}
    (hbefore : '/' ∉ before.toList) : moves (before ++ s) = [.down (before ++ s)] := by
  have hname : EndsName (before ++ s) := h.append hbefore
  have hlong := hname.long
  have hpart := partOf_ofPart (before ++ s)
  rw [moves, steps_of_notMem hname.noSlash]
  cases hstep : PathStep.ofPart (before ++ s) with
  | blank =>
    rw [hstep] at hpart
    simp [← hpart, partOf] at hlong
  | here =>
    rw [hstep] at hpart
    simp [← hpart, partOf] at hlong
  | up =>
    rw [hstep] at hpart
    simp [← hpart, partOf] at hlong
  | down name =>
    rw [hstep] at hpart
    rw [← hpart]
    rfl

end Path

namespace FileTree

/-- Where a path can lead to something, so can every beginning of it. -/
theorem admits_of_append {first second : String} (h : admits (first ++ second)) : admits first := by
  simp only [admits, Path.isValid, Bool.and_eq_true, decide_eq_true_eq, Bool.not_eq_true',
    String.utf8ByteSize_append, String.toList_append, List.contains_eq_mem, decide_eq_false_iff_not,
    List.mem_append, not_or] at h ⊢
  obtain ⟨⟨hsize, hzero, -⟩, hrelative⟩ := h
  refine ⟨⟨by omega, hzero⟩, ?_⟩
  rw [← Bool.not_eq_true, Path.isAbsolute, Text.beginsWith,
    List.isPrefixOf_iff_prefix] at hrelative ⊢
  intro hslash
  apply hrelative
  rw [String.toList_append]
  exact hslash.trans (List.prefix_append _ _)

/-- Where a path in a directory can lead to something, so can the directory. -/
theorem admits_of_join {directory name : String} (h : admits (Path.join directory name)) :
    admits directory := by
  unfold Path.join at h
  split at h
  · next habsolute => simp [admits, habsolute] at h
  · split at h
    · exact admits_of_append h
    · rw [String.append_assoc] at h
      exact admits_of_append h

end FileTree

end SchemaForge
