import SchemaForge.Proofs.Files.Account

namespace SchemaForge

/-! # Repeated deliveries

A delivery that is repeated changes nothing. What was in the way of a file is still there, so that
the same files fail. A file that did not fail is there the second time, so that it is skipped if it
is written only once. One that is always written anew replaces what was written after it to the same
place; but what replaced it the first time does so again.
-/

namespace FileTree

variable {s t w : FileTree} {place : Place} {directory : String} {f : SourceFile}
  {files : List SourceFile}

/-- What becomes of a file that is delivered again, by what became of it before. -/
def again (f : SourceFile) (result : WriteResult) : WriteResult :=
  if result = .failed then .failed
  else if f.policy = .createOnly then .skipped
  else .written

theorem again_eq_failed_iff {result : WriteResult} :
    again f result = .failed ↔ result = .failed := by
  cases result <;> cases hpolicy : f.policy <;> simp [again, hpolicy]

theorem again_eq_skipped_iff {result : WriteResult} :
    again f result = .skipped ↔ f.policy = .createOnly ∧ result ≠ .failed := by
  cases result <;> cases hpolicy : f.policy <;> simp [again, hpolicy]

theorem again_eq_written_iff {result : WriteResult} :
    again f result = .written ↔ f.policy = .overwrite ∧ result ≠ .failed := by
  cases result <;> cases hpolicy : f.policy <;> simp [again, hpolicy]

/-! ## One file -/

/-- A file that is always written anew is written if it does not fail. -/
theorem outcome_of_overwrite (hpolicy : f.policy = .overwrite)
    (h : outcome directory t f ≠ .failed) : outcome directory t f = .written := by
  cases hresult : outcome directory t f with
  | written => rfl
  | skipped =>
    rw [outcome_eq_skipped_iff, hpolicy] at hresult
    cases hresult.1
  | failed => exact absurd hresult h

/-- The place of a file that is written holds its contents. -/
theorem node?_of_written (hthere : t.find? directory = some .directory)
    (hplace : Path.target? (Path.join directory f.path) = some place)
    (h : outcome directory t f = .written) :
    (delivered directory t f).node? place = some (.file f.contents) := by
  obtain ⟨found, hfound, hfile⟩ := (turn_delivered hthere f).of_written h
  obtain rfl := Option.some_inj.1 (hfound.symm.trans hplace)
  exact hfile

/-- There is something in the place of a file that does not fail. -/
theorem isSome_node?_of_not_failed (hfits : FitsBelow directory f.path)
    (hthere : t.find? directory = some .directory)
    (hplace : Path.target? (Path.join directory f.path) = some place)
    (h : outcome directory t f ≠ .failed) : ((delivered directory t f).node? place).isSome := by
  cases hresult : outcome directory t f with
  | written =>
    rw [node?_of_written hthere hplace hresult]
    rfl
  | skipped =>
    rw [delivered_of_skipped hresult, ← hfits.find? hthere hplace]
    exact (outcome_eq_skipped_iff.1 hresult).2
  | failed => exact absurd hresult h

/-- A file that failed fails in every later tree. -/
theorem outcome_of_failed (hfits : FitsBelow directory f.path)
    (hthere : s.find? directory = some .directory) (hgrows : s.Grows w)
    (h : outcome directory s f = .failed) : outcome directory w f = .failed := by
  have hlater := find?_directory_of_grows hthere hgrows
  obtain ⟨place, hplace⟩ := hfits.exists_target hthere
  obtain ⟨hskipped, hblocked⟩ := (outcome_eq_failed_iff hfits hthere hplace).1 h
  have hstill := hblocked.of_grows hgrows
  rw [outcome_eq_failed_iff hfits hlater hplace]
  refine ⟨fun hfound => ?_, hstill⟩
  rw [outcome_eq_skipped_iff, hfits.find? hlater hplace] at hfound
  obtain ⟨hpolicy, hsome⟩ := hfound
  rcases hblocked with ⟨above, hway, hne, hfile⟩ | hdirectory
  · -- nothing is below the file that was in the way
    obtain ⟨older, holder⟩ := Option.isSome_iff_exists.1 hfile
    obtain ⟨newer, hnewer⟩ := hgrows.file above older (file?_eq_some_iff.1 holder)
    rw [node?_below_file hway hne (by simp [file?_eq_some_iff.2 hnewer])] at hsome
    cases hsome
  · -- the directory would have been found the first time
    apply hskipped
    rw [outcome_eq_skipped_iff, hfits.find? hthere hplace, hdirectory]
    exact ⟨hpolicy, rfl⟩

/-- What became of a file decides what becomes of it in every later tree. -/
theorem outcome_again (hfits : FitsBelow directory f.path)
    (hthere : s.find? directory = some .directory)
    (hgrows : (delivered directory s f).Grows w) :
    outcome directory w f = again f (outcome directory s f) := by
  have hlater := (grows_delivered directory s f).trans hgrows
  unfold again
  split
  · next hfailed => exact outcome_of_failed hfits hthere hlater hfailed
  · next hfailed =>
    have hthereLater := find?_directory_of_grows hthere hlater
    obtain ⟨place, hplace⟩ := hfits.exists_target hthere
    cases hpolicy : f.policy with
    | createOnly =>
      have hsome := isSome_node?_of_not_failed hfits hthere hplace hfailed
      rw [if_pos rfl, outcome_eq_skipped_iff, hfits.find? hthereLater hplace]
      exact ⟨hpolicy, hgrows.isSome hsome⟩
    | overwrite =>
      -- the file it wrote is there, with whatever contents
      have hfile := node?_of_written hthere hplace (outcome_of_overwrite hpolicy hfailed)
      obtain ⟨newer, hnewer⟩ := hgrows.file place _ hfile
      rw [if_neg (by simp)]
      apply outcome_of_overwrite hpolicy
      rw [ne_eq, outcome_eq_failed_iff hfits hthereLater hplace]
      exact fun hfails => not_blocked_of_file hnewer hfails.2

/-- A file that is delivered again makes nothing that was not there. -/
theorem delivered_again_grows (hfits : FitsBelow directory f.path)
    (hthere : s.find? directory = some .directory)
    (hgrows : (delivered directory s f).Grows w) : (delivered directory w f).Grows w := by
  have hlater := (grows_delivered directory s f).trans hgrows
  have hthereLater := find?_directory_of_grows hthere hlater
  have hagain := outcome_again hfits hthere hgrows
  cases hresult : outcome directory w f with
  | failed =>
    rw [delivered_of_failed hfits hthereLater hresult]
    exact Grows.refl w
  | skipped =>
    rw [delivered_of_skipped hresult]
    exact Grows.refl w
  | written =>
    -- it was written before, so that its file is there
    obtain ⟨hpolicy, hfailed⟩ := again_eq_written_iff.1 (hagain.symm.trans hresult)
    obtain ⟨place, hplace⟩ := hfits.exists_target hthere
    have hfile := node?_of_written hthere hplace (outcome_of_overwrite hpolicy hfailed)
    obtain ⟨newer, hnewer⟩ := hgrows.file place _ hfile
    rw [delivered_of_not_skipped (by simp [hresult])]
    exact hfits.write_grows_of_file hthereLater hplace hnewer f.contents

/-! ## All files -/

/-- What is reported of files that are delivered again, by what was reported of them before. -/
def againAll (files : List SourceFile) (entries : List (String × WriteResult)) :
    List (String × WriteResult) :=
  List.zipWith (fun f entry => (entry.1, again f entry.2)) files entries

/-- Files that are delivered again into a tree that has all they left are reported as said, and make
nothing that was not there. -/
theorem outcomes_again (hfits : ∀ f ∈ files, FitsBelow directory f.path)
    (hthere : s.find? directory = some .directory)
    (hgrows : (files.foldl (delivered directory) s).Grows w) :
    outcomes directory w files = againAll files (outcomes directory s files)
      ∧ (files.foldl (delivered directory) w).Grows w := by
  -- both deliveries go on together, and the second is always in a tree that is later
  induction files generalizing s w with
  | nil => exact ⟨rfl, Grows.refl w⟩
  | cons f files ih =>
    rw [List.forall_mem_cons] at hfits
    rw [List.foldl_cons] at hgrows ⊢
    have hfirst : (delivered directory s f).Grows w :=
      (grows_foldl_delivered directory files _).trans hgrows
    have hnext := hgrows.trans (grows_delivered directory w f)
    have hthereNext := find?_directory_of_grows hthere (grows_delivered directory s f)
    obtain ⟨hentries, hback⟩ := ih hfits.2 hthereNext hnext
    constructor
    · rw [outcomes, outcomes, hentries, outcome_again hfits.1 hthere hfirst]
      rfl
    · exact hback.trans (delivered_again_grows hfits.1 hthere hfirst)

/-! ## Contents -/

/-- In a place that is taken, a file is written the second time exactly when it was the first time. -/
theorem contents?_again (hfits : FitsBelow directory f.path)
    (hthere : s.find? directory = some .directory) (hsome : (s.node? place).isSome) :
    WriteReport.contents? place f (Path.join directory f.path, again f (outcome directory s f)) =
      WriteReport.contents? place f (Path.join directory f.path, outcome directory s f) := by
  unfold WriteReport.contents?
  by_cases hplace : Path.target? (Path.join directory f.path) = some place
  · cases hpolicy : f.policy with
    | createOnly =>
      have hskipped : outcome directory s f = .skipped :=
        outcome_eq_skipped_iff.2 ⟨hpolicy, by rwa [hfits.find? hthere hplace]⟩
      simp [again, hskipped, hpolicy]
    | overwrite =>
      by_cases hfailed : outcome directory s f = .failed
      · simp [again, hfailed]
      · simp [again, outcome_of_overwrite hpolicy hfailed, hpolicy]
  · simp [hplace]

/-- In a place that is taken, what is written last is the same both times. -/
theorem lastContents?_again_of_isSome (hfits : ∀ f ∈ files, FitsBelow directory f.path)
    (hthere : s.find? directory = some .directory) (hsome : (s.node? place).isSome) :
    (⟨againAll files (outcomes directory s files)⟩ : WriteReport).lastContents? files place =
      (⟨outcomes directory s files⟩ : WriteReport).lastContents? files place := by
  induction files generalizing s with
  | nil => rfl
  | cons f files ih =>
    rw [List.forall_mem_cons] at hfits
    have hgrows := grows_delivered directory s f
    rw [outcomes, againAll, List.zipWith_cons_cons, ← againAll, WriteReport.lastContents?_cons,
      WriteReport.lastContents?_cons, contents?_again hfits.1 hthere hsome,
      ih hfits.2 (find?_directory_of_grows hthere hgrows) (hgrows.isSome hsome)]

/-- What is written last the second time was written last the first time. -/
theorem lastContents?_again (hfits : ∀ f ∈ files, FitsBelow directory f.path)
    (hthere : s.find? directory = some .directory) {contents : String}
    (h : (⟨againAll files (outcomes directory s files)⟩ : WriteReport).lastContents? files place =
      some contents) :
    (⟨outcomes directory s files⟩ : WriteReport).lastContents? files place = some contents := by
  induction files generalizing s with
  | nil => cases h
  | cons f files ih =>
    rw [List.forall_mem_cons] at hfits
    have hthereNext := find?_directory_of_grows hthere (grows_delivered directory s f)
    rw [outcomes, againAll, List.zipWith_cons_cons, ← againAll, WriteReport.lastContents?_cons,
      Option.or_eq_some_iff] at h
    rw [outcomes, WriteReport.lastContents?_cons, Option.or_eq_some_iff]
    rcases h with hlater | ⟨hlater, hfirst⟩
    · exact .inl (ih hfits.2 hthereNext hlater)
    · -- the file is written both times, and so its place is taken for those after it
      unfold WriteReport.contents? at hfirst ⊢
      split at hfirst
      · next hwrites =>
        obtain ⟨hagain, hplace⟩ := hwrites
        obtain ⟨hpolicy, hfailed⟩ := again_eq_written_iff.1 hagain
        have hwritten := outcome_of_overwrite hpolicy hfailed
        have hsome : ((delivered directory s f).node? place).isSome := by
          rw [node?_of_written hthere hplace hwritten]
          rfl
        right
        rw [← lastContents?_again_of_isSome hfits.2 hthereNext hsome, if_pos ⟨hwritten, hplace⟩]
        exact ⟨hlater, hfirst⟩
      · cases hfirst

/-- Trees that have all of each other and the same contents are the same. -/
theorem node?_eq_of_grows (htu : s.Grows t) (hut : t.Grows s)
    (hcontents : t.file? place = s.file? place) : t.node? place = s.node? place := by
  cases hnode : s.node? place with
  | none =>
    rw [← Option.not_isSome_iff_eq_none]
    intro hsome
    have hback := hut.isSome hsome
    rw [hnode] at hback
    cases hback
  | some node =>
    cases node with
    | directory => exact htu.directory place hnode
    | file contents =>
      rw [← file?_eq_some_iff, hcontents, file?_eq_some_iff]
      exact hnode

/-- Files that are delivered again leave everything as it is. -/
theorem node?_foldl_again (hfits : ∀ f ∈ files, FitsBelow directory f.path)
    (hthere : s.find? directory = some .directory) (other : Place) :
    (files.foldl (delivered directory) (files.foldl (delivered directory) s)).node? other =
      (files.foldl (delivered directory) s).node? other := by
  obtain ⟨hentries, hback⟩ := outcomes_again hfits hthere (Grows.refl _)
  refine node?_eq_of_grows (grows_foldl_delivered directory files _) hback ?_
  rw [file?_foldl_delivered, hentries]
  cases hagain : (⟨againAll files (outcomes directory s files)⟩ : WriteReport).lastContents?
      files other with
  | none => rw [Option.none_or]
  | some contents =>
    rw [file?_foldl_delivered, lastContents?_again hfits hthere hagain, Option.some_or,
      Option.some_or]

/-! ## Reports -/

theorem map_fst_againAll {entries : List (String × WriteResult)}
    (hlength : entries.length = files.length) :
    (againAll files entries).map (·.1) = entries.map (·.1) := by
  induction files generalizing entries with
  | nil =>
    rw [List.length_nil, List.length_eq_zero_iff] at hlength
    rw [hlength]
    rfl
  | cons f files ih =>
    obtain ⟨entry, rest, rfl⟩ := List.exists_cons_of_length_eq_add_one hlength
    rw [List.length_cons, List.length_cons, Nat.add_right_cancel_iff] at hlength
    rw [againAll, List.zipWith_cons_cons, List.map_cons, ← againAll, ih hlength, List.map_cons]

/-- The same files fail again. -/
theorem paths_failed_againAll {entries : List (String × WriteResult)}
    (hlength : entries.length = files.length) :
    (⟨againAll files entries⟩ : WriteReport).paths .failed =
      (⟨entries⟩ : WriteReport).paths .failed := by
  induction files generalizing entries with
  | nil =>
    rw [List.length_nil, List.length_eq_zero_iff] at hlength
    rw [hlength]
    rfl
  | cons f files ih =>
    obtain ⟨⟨path, result⟩, rest, rfl⟩ := List.exists_cons_of_length_eq_add_one hlength
    rw [List.length_cons, List.length_cons, Nat.add_right_cancel_iff] at hlength
    have hrest := ih hlength
    have hsame : (again f result == .failed) = (result == .failed) := by
      rw [Bool.eq_iff_iff, beq_iff_eq, beq_iff_eq]
      exact again_eq_failed_iff
    simp only [WriteReport.paths] at hrest ⊢
    rw [againAll, List.zipWith_cons_cons, ← againAll, List.filter_cons, List.filter_cons]
    dsimp only
    rw [hsame]
    split
    · rw [List.map_cons, List.map_cons, hrest]
    · exact hrest

/-- A delivery that is repeated leaves every file and directory as it is. The same files fail, and of
the others those that are written only once are skipped. -/
theorem delivery_repeats (hmade : (t.makeDirectory directory).1 = true)
    (hfits : ∀ f ∈ files, FitsBelow directory f.path) :
    ∃ (first second : WriteReport) (u v : FileTree),
      (disk.deliverAll directory files).run.run t = (.ok first, u)
      ∧ (disk.deliverAll directory files).run.run u = (.ok second, v)
      ∧ (∀ place, v.node? place = u.node? place)
      ∧ first.entries.length = files.length
      ∧ second.entries.map (·.1) = first.entries.map (·.1)
      ∧ second.paths .failed = first.paths .failed
      ∧ ∀ (i : Nat) f path result, files[i]? = some f → first.entries[i]? = some (path, result) →
        ∃ repeated, second.entries[i]? = some (path, repeated)
          ∧ (repeated = .failed ↔ result = .failed)
          ∧ (f.policy = .createOnly → result ≠ .failed → repeated = .skipped)
          ∧ (f.policy = .overwrite → result ≠ .failed → repeated = .written) := by
  have hthere := find?_makeDirectory hmade
  have hfirst := run_deliverAll_of_made hmade files
  rw [deliveredAll, if_pos hmade] at hfirst
  -- the directory that the first delivery made is not made again
  have hstays : ∀ u, (t.makeDirectory directory).2.Grows u → (u.makeDirectory directory).2 = u :=
    fun u => makeDirectory_of_grows
  generalize (t.makeDirectory directory).2 = made at hthere hfirst hstays
  have hgrows := grows_foldl_delivered directory files made
  have hthereLater := find?_directory_of_grows hthere hgrows
  have hmadeLater := makeDirectory_of_find? hthereLater
  have hsecond := run_deliverAll_of_made hmadeLater files
  rw [deliveredAll, if_pos hmadeLater, hstays _ hgrows,
    (outcomes_again hfits hthere (Grows.refl _)).1] at hsecond
  have hlength := length_outcomes directory made files
  refine ⟨_, _, _, _, hfirst, hsecond, node?_foldl_again hfits hthere, hlength,
    map_fst_againAll hlength, paths_failed_againAll hlength, ?_⟩
  intro i f path result hf hentry
  refine ⟨again f result, ?_, again_eq_failed_iff, ?_, ?_⟩
  · simp [againAll, List.getElem?_zipWith, hf, hentry]
  · exact fun hpolicy hfailed => again_eq_skipped_iff.2 ⟨hpolicy, hfailed⟩
  · exact fun hpolicy hfailed => again_eq_written_iff.2 ⟨hpolicy, hfailed⟩

theorem fitsBelow_mixedFiles : ∀ f ∈ mixedFiles, FitsBelow "out" f.path := by
  unfold mixedFiles
  simp only [List.forall_mem_cons, List.not_mem_nil, false_implies, implies_true, and_true]
  refine ⟨?_, ?_, ?_, ?_⟩
  · exact ⟨by decide, ⟨"Person.kt", by decide⟩, by unfold Path.GoesUp; decide, by decide⟩
  · exact ⟨by decide, ⟨"Broken.kt", by decide⟩, by unfold Path.GoesUp; decide, by decide⟩
  · exact ⟨by decide, ⟨"Status.kt", by decide⟩, by unfold Path.GoesUp; decide, by decide⟩
  · exact ⟨by decide, ⟨"Status.kt", by decide⟩, by unfold Path.GoesUp; decide, by decide⟩

/-- The blocked file fails both times, and all others are skipped the second time. -/
theorem delivery_repeats_editedTree :
    (editedTree.makeDirectory "out").1 = true ∧ (∀ f ∈ mixedFiles, FitsBelow "out" f.path)
    ∧ ∃ (first second : WriteReport) (u v : FileTree),
      (disk.deliverAll "out" mixedFiles).run.run editedTree = (.ok first, u)
      ∧ (disk.deliverAll "out" mixedFiles).run.run u = (.ok second, v)
      ∧ (∀ place, v.node? place = u.node? place)
      ∧ first.entries.map (·.2) = [.skipped, .failed, .written, .skipped]
      ∧ second.entries[2]? = some ("out/new/Status.kt", .skipped) := by
  have hmade : (editedTree.makeDirectory "out").1 = true := by decide
  refine ⟨hmade, fitsBelow_mixedFiles, ?_⟩
  obtain ⟨first, second, u, v, hfirst, hsecond, hsame, -, -, -, hagain⟩ :=
    delivery_repeats hmade fitsBelow_mixedFiles
  refine ⟨first, second, u, v, hfirst, hsecond, hsame, ?_⟩
  rw [run_deliverAll_of_made hmade, Prod.mk.injEq, Except.ok.injEq] at hfirst
  have hentries : first.entries = [("out/Person.kt", .skipped), ("out/blocked/Broken.kt", .failed),
      ("out/new/Status.kt", .written), ("out/new//Status.kt", .skipped)] := by
    rw [← hfirst.1]
    decide +kernel
  obtain ⟨repeated, hrepeated, -, hskipped, -⟩ := hagain 2 ⟨"new/Status.kt", .createOnly, "first"⟩
    "out/new/Status.kt" .written rfl (by rw [hentries]; rfl)
  rw [hskipped rfl (by simp)] at hrepeated
  exact ⟨by rw [hentries]; rfl, hrepeated⟩

end FileTree

end SchemaForge
