import SchemaForge.Proofs.Files.Delivery
import SchemaForge.Proofs.Files.Placement

namespace SchemaForge

/-! # The account of a delivery

A delivery reports every file once, in order and with what became of it in the tree that the files
before it left. From the report alone it can be told what the tree contains afterwards: in each
place the last file that was written there, and elsewhere what was there before.
-/

namespace WriteReport

variable {report : WriteReport}

/-- The paths with one result are in the order of the report. -/
theorem paths_sublist (report : WriteReport) (result : WriteResult) :
    (report.paths result).Sublist (report.entries.map (·.1)) :=
  List.filter_sublist.map _

/-- Every entry of a report is among the paths of one result. -/
theorem length_paths_add (report : WriteReport) :
    (report.paths .written).length + (report.paths .skipped).length
      + (report.paths .failed).length = report.entries.length := by
  obtain ⟨entries⟩ := report
  simp only [paths, List.length_map]
  induction entries with
  | nil => rfl
  | cons entry entries ih =>
    obtain ⟨path, result⟩ := entry
    cases result <;> simp [← ih] <;> omega

/-- What an entry of a report says to be written in a place, if its file went there. -/
def contents? (place : Place) (f : SourceFile) (entry : String × WriteResult) : Option String :=
  if entry.2 = .written ∧ Path.target? entry.1 = some place then some f.contents else none

/-- The contents that were written last in a place, by the report on these files. -/
def lastContents? (report : WriteReport) (files : List SourceFile) (place : Place) :
    Option String :=
  ((files.zip report.entries).filterMap fun (f, entry) => contents? place f entry).getLast?

/-- What the later entries say to be written last goes before what the first entry says. -/
theorem lastContents?_cons (f : SourceFile) (files : List SourceFile)
    (entry : String × WriteResult) (entries : List (String × WriteResult)) (place : Place) :
    (⟨entry :: entries⟩ : WriteReport).lastContents? (f :: files) place =
      ((⟨entries⟩ : WriteReport).lastContents? files place).or (contents? place f entry) := by
  simp only [lastContents?, List.zip_cons_cons, List.filterMap_cons]
  cases contents? place f entry with
  | none => rw [Option.or_none]
  | some contents => simp [List.getLast?_cons, Option.or_some]

end WriteReport

namespace FileTree

variable {t u : FileTree} {place : Place} {directory : String} {files : List SourceFile}

/-! ## One file -/

theorem outcome_eq_skipped_iff {f : SourceFile} : outcome directory t f = .skipped ↔
    f.policy = .createOnly ∧ (t.find? (Path.join directory f.path)).isSome := by
  unfold outcome
  split
  · next hskip => exact iff_of_true rfl hskip
  · next hwrites => split <;> simp [hwrites]

theorem delivered_of_skipped {f : SourceFile} (h : outcome directory t f = .skipped) :
    delivered directory t f = t :=
  if_pos (outcome_eq_skipped_iff.1 h)

/-- A file that is not skipped is written, or tried to be. -/
theorem delivered_of_not_skipped {f : SourceFile} (h : outcome directory t f ≠ .skipped) :
    delivered directory t f = (t.write (Path.join directory f.path) f.contents).2 :=
  if_neg (mt outcome_eq_skipped_iff.2 h)

theorem outcome_of_not_skipped {f : SourceFile} (h : outcome directory t f ≠ .skipped) :
    outcome directory t f =
      if (t.write (Path.join directory f.path) f.contents).1 then .written else .failed :=
  if_neg (mt outcome_eq_skipped_iff.2 h)

/-- A file that is delivered has its contents in its place, when it is written, and all other
contents stay. -/
theorem file?_delivered (directory : String) (t : FileTree) (f : SourceFile) (other : Place) :
    (delivered directory t f).file? other =
      (WriteReport.contents? other f
        (Path.join directory f.path, outcome directory t f)).or (t.file? other) := by
  by_cases hskipped : outcome directory t f = .skipped
  · rw [delivered_of_skipped hskipped]
    simp [WriteReport.contents?, hskipped]
  · rw [delivered_of_not_skipped hskipped, file?_write, WriteReport.contents?,
      outcome_of_not_skipped hskipped]
    cases (t.write (Path.join directory f.path) f.contents).1 with
    | false => simp
    | true =>
      by_cases hgoes : Path.target? (Path.join directory f.path) = some other <;> simp [hgoes]

/-- What happens to a file at its turn, where it finds the tree `v` and leaves the tree `w`. -/
structure Turn (directory : String) (v : FileTree) (f : SourceFile) (result : WriteResult)
    (w : FileTree) : Prop where
  /-- Only a file that is written once is skipped, where its path leads to something. -/
  skipped_iff : result = .skipped ↔
    f.policy = .createOnly ∧ (v.find? (Path.join directory f.path)).isSome
  /-- Nothing changes when it is skipped. -/
  of_skipped : result = .skipped → w = v
  /-- A path below the directory leads to what is in its place, and a file with such a path fails
  where something is in the way. -/
  failed_iff : FitsBelow directory f.path →
    ∃ place, Path.target? (Path.join directory f.path) = some place
      ∧ v.find? (Path.join directory f.path) = v.node? place
      ∧ (result = .failed ↔ result ≠ .skipped ∧ v.Blocked place)
  /-- Nothing changes when it fails. -/
  of_failed : FitsBelow directory f.path → result = .failed → w = v
  /-- Its contents are in its place when it is written. -/
  of_written : result = .written →
    ∃ place, Path.target? (Path.join directory f.path) = some place
      ∧ w.node? place = some (.file f.contents)

/-- The place of a file that is written. -/
theorem exists_target_of_written {f : SourceFile} (h : outcome directory t f = .written) :
    ∃ place, Path.target? (Path.join directory f.path) = some place := by
  have hskipped : outcome directory t f ≠ .skipped := by simp [h]
  rw [outcome_of_not_skipped hskipped] at h
  cases hwrite : (t.withParent (Path.join directory f.path)).putFile?
      (Path.join directory f.path) f.contents with
  | none => simp [write_of_putFile?_eq_none hwrite] at h
  | some u =>
    obtain ⟨place, -, hplace, -⟩ := exists_place_of_putFile? hwrite
    exact ⟨place, target?_of_place? hplace⟩

/-- A file whose path fits fails where something is in its way, and then changes nothing. -/
theorem outcome_eq_failed_iff {f : SourceFile} (hfits : FitsBelow directory f.path)
    (hthere : t.find? directory = some .directory)
    (hplace : Path.target? (Path.join directory f.path) = some place) :
    outcome directory t f = .failed ↔ outcome directory t f ≠ .skipped ∧ t.Blocked place := by
  by_cases hskipped : outcome directory t f = .skipped
  · simp [hskipped]
  · rw [and_iff_right hskipped, outcome_of_not_skipped hskipped]
    by_cases hblocked : t.Blocked place
    · have hwrite := hfits.write_of_blocked hthere hplace hblocked f.contents
      simp [hwrite, hblocked]
    · obtain ⟨u, hwrite, -⟩ := hfits.exists_write hthere hplace hblocked f.contents
      simp [hwrite, hblocked]

theorem delivered_of_failed {f : SourceFile} (hfits : FitsBelow directory f.path)
    (hthere : t.find? directory = some .directory) (h : outcome directory t f = .failed) :
    delivered directory t f = t := by
  obtain ⟨place, hplace⟩ := hfits.exists_target hthere
  obtain ⟨hskipped, hblocked⟩ := (outcome_eq_failed_iff hfits hthere hplace).1 h
  rw [delivered_of_not_skipped hskipped, hfits.write_of_blocked hthere hplace hblocked]

/-- Every file has its turn. -/
theorem turn_delivered (hthere : t.find? directory = some .directory) (f : SourceFile) :
    Turn directory t f (outcome directory t f) (delivered directory t f) := by
  constructor
  case skipped_iff => exact outcome_eq_skipped_iff
  case of_skipped => exact delivered_of_skipped
  case failed_iff =>
    intro hfits
    obtain ⟨place, hplace⟩ := hfits.exists_target hthere
    exact ⟨place, hplace, hfits.find? hthere hplace, outcome_eq_failed_iff hfits hthere hplace⟩
  case of_failed =>
    intro hfits hfailed
    exact delivered_of_failed hfits hthere hfailed
  case of_written =>
    intro hwritten
    obtain ⟨place, hplace⟩ := exists_target_of_written hwritten
    refine ⟨place, hplace, ?_⟩
    rw [← file?_eq_some_iff, file?_delivered]
    simp [WriteReport.contents?, hwritten, hplace]

/-! ## All files -/

theorem map_fst_outcomes (directory : String) (t : FileTree) (files : List SourceFile) :
    (outcomes directory t files).map (·.1) = files.map fun f => Path.join directory f.path := by
  induction files generalizing t with
  | nil => rfl
  | cons f files ih => rw [outcomes, List.map_cons, List.map_cons, ih]

theorem length_outcomes (directory : String) (t : FileTree) (files : List SourceFile) :
    (outcomes directory t files).length = files.length := by
  have hpaths := congrArg List.length (map_fst_outcomes directory t files)
  simpa only [List.length_map] using hpaths

/-- Files after others find the tree that these leave. -/
theorem outcomes_append (directory : String) (t : FileTree) (before after : List SourceFile) :
    outcomes directory t (before ++ after) =
      outcomes directory t before ++
        outcomes directory (before.foldl (delivered directory) t) after := by
  induction before generalizing t with
  | nil => rfl
  | cons f before ih =>
    rw [List.cons_append, outcomes, outcomes, List.foldl_cons, List.cons_append, ih]

/-- What is reported of the first files is the first part of the report. -/
theorem outcomes_eq_take (directory : String) (t : FileTree) (before after : List SourceFile) :
    outcomes directory t before =
      (outcomes directory t (before ++ after)).take before.length := by
  rw [outcomes_append, List.take_left' (length_outcomes directory t before)]

/-- In each place is the last file that was written there, or what was there before. -/
theorem file?_foldl_delivered (directory : String) (t : FileTree) (files : List SourceFile)
    (other : Place) : (files.foldl (delivered directory) t).file? other =
      ((⟨outcomes directory t files⟩ : WriteReport).lastContents? files other).or
        (t.file? other) := by
  induction files generalizing t with
  | nil => rfl
  | cons f files ih =>
    rw [List.foldl_cons, ih, file?_delivered, ← Option.or_assoc, outcomes,
      WriteReport.lastContents?_cons]

/-- A delivery of files, with the report it gives and the tree it leaves, in which the directory was
made first. -/
structure Account (directory : String) (t : FileTree) (files : List SourceFile)
    (report : WriteReport) (u : FileTree) : Prop where
  /-- Every file is reported once and in order, -/
  paths : report.entries.map (·.1) = files.map fun f => Path.join directory f.path
  /-- so that the paths with one result are in that order too, -/
  inOrder : ∀ result,
    (report.paths result).Sublist (files.map fun f => Path.join directory f.path)
  /-- and no file is left out or reported twice. -/
  lengths : (report.paths .written).length + (report.paths .skipped).length
    + (report.paths .failed).length = files.length
  /-- A place has the contents that are written last in it, or those it had before. -/
  contents : ∀ place, u.file? place = (report.lastContents? files place).or (t.file? place)
  /-- That is what is read on the path of a file. -/
  read : ∀ f ∈ files, FitsBelow directory f.path →
    ∃ place, Path.target? (Path.join directory f.path) = some place
      ∧ u.read? (Path.join directory f.path) =
        (report.lastContents? files place).or (t.file? place)
  /-- No contents change but in the places of the files. -/
  others : ∀ place, (∀ f ∈ files, Path.target? (Path.join directory f.path) ≠ some place) →
    u.file? place = t.file? place
  /-- Whatever becomes of the files before it, a file has its turn in the tree that they leave. -/
  turns : ∀ before f after, files = before ++ f :: after → ∃ v w result,
    (disk.deliverAll directory before).run.run t = (.ok ⟨report.entries.take before.length⟩, v)
      ∧ (disk.deliverAll directory (before ++ [f])).run.run t =
        (.ok ⟨report.entries.take (before.length + 1)⟩, w)
      ∧ report.entries[before.length]? = some (Path.join directory f.path, result)
      ∧ Turn directory v f result w

/-- Where nothing is written, contents stay. -/
theorem lastContents?_eq_none {report : WriteReport}
    (hpaths : report.entries.map (·.1) = files.map fun f => Path.join directory f.path)
    (hother : ∀ f ∈ files, Path.target? (Path.join directory f.path) ≠ some place) :
    report.lastContents? files place = none := by
  rw [WriteReport.lastContents?, List.getLast?_eq_none_iff, List.filterMap_eq_nil_iff]
  rintro ⟨f, path, result⟩ hmem
  have hpath : path ∈ report.entries.map (·.1) :=
    List.mem_map_of_mem (List.of_mem_zip hmem).2
  rw [hpaths, List.mem_map] at hpath
  obtain ⟨g, hg, rfl⟩ := hpath
  simp [WriteReport.contents?, hother g hg]

theorem find?_makeDirectory (h : (t.makeDirectory directory).1 = true) :
    (t.makeDirectory directory).2.find? directory = some .directory := by
  unfold makeDirectory at h ⊢
  split
  · next hadmits =>
    simp only [hadmits, if_true, beq_iff_eq] at h
    exact h
  · next hadmits => simp [hadmits] at h

theorem find?_directory_of_grows {path : String} (h : t.find? path = some .directory)
    (hgrows : t.Grows u) : u.find? path = some .directory := by
  obtain ⟨place, hplace, hnode⟩ := find?_eq_some_iff.1 h
  exact find?_eq_some_iff.2 ⟨place, place?_of_grows hplace hgrows, hgrows.directory place hnode⟩

/-- A delivery into a directory that can be made succeeds, and accounts for every file. -/
theorem delivery_account (hmade : (t.makeDirectory directory).1 = true) (files : List SourceFile) :
    ∃ report u, (disk.deliverAll directory files).run.run t = (.ok report, u)
      ∧ Account directory t files report u := by
  refine ⟨_, _, run_deliverAll_of_made hmade files, ?_⟩
  have hthere := find?_makeDirectory hmade
  have hbefore := file?_makeDirectory t directory
  have hruns : ∀ some, (disk.deliverAll directory some).run.run t =
      (.ok ⟨outcomes directory (t.makeDirectory directory).2 some⟩,
        some.foldl (delivered directory) (t.makeDirectory directory).2) := by
    intro some
    rw [run_deliverAll_of_made hmade, deliveredAll, if_pos hmade]
  rw [deliveredAll, if_pos hmade]
  generalize (t.makeDirectory directory).2 = made at hthere hbefore hruns ⊢
  have hpaths := map_fst_outcomes directory made files
  have hcontents : ∀ place, (files.foldl (delivered directory) made).file? place =
      ((⟨outcomes directory made files⟩ : WriteReport).lastContents? files place).or
        (t.file? place) := by
    intro place
    rw [file?_foldl_delivered, hbefore]
  constructor
  case paths => exact hpaths
  case inOrder => exact fun result => hpaths ▸ WriteReport.paths_sublist _ result
  case lengths => rw [WriteReport.length_paths_add, length_outcomes]
  case contents => exact hcontents
  case read =>
    intro f hf hfits
    have hthereLater :=
      find?_directory_of_grows hthere (grows_foldl_delivered directory files made)
    obtain ⟨place, hplace⟩ := hfits.exists_target hthereLater
    exact ⟨place, hplace, by rw [hfits.read? hthereLater hplace, hcontents]⟩
  case others =>
    intro place hother
    rw [hcontents, lastContents?_eq_none hpaths hother, Option.none_or]
  case turns =>
    rintro before f after rfl
    have hgrows := grows_foldl_delivered directory before made
    have hfirst := outcomes_eq_take directory made before (f :: after)
    have hnext := outcomes_eq_take directory made (before ++ [f]) after
    rw [List.append_assoc, List.singleton_append, List.length_append, List.length_singleton]
      at hnext
    have hturn := turn_delivered (find?_directory_of_grows hthere hgrows) f
    refine ⟨_, _, _, ?_, ?_, ?_, hturn⟩
    · rw [hruns, hfirst]
    · rw [hruns, hnext, List.foldl_append, List.foldl_cons, List.foldl_nil]
    · rw [outcomes_append, outcomes, ← length_outcomes directory made before,
        List.getElem?_append_right (le_refl _), Nat.sub_self, List.getElem?_cons_zero]

/-- A directory with a file that was edited by hand, and one that has the name of a directory. -/
def editedTree : FileTree :=
  ((({} : FileTree).put ["out"] .directory (by decide)).put ["out", "Person.kt"] (.file "edited")
    (by decide)).put ["out", "blocked"] (.file "") (by decide)

/-- Files of both policies. The last two have paths to one place. -/
def mixedFiles : List SourceFile :=
  [⟨"Person.kt", .createOnly, "record"⟩, ⟨"blocked/Broken.kt", .overwrite, "broken"⟩,
    ⟨"new/Status.kt", .createOnly, "first"⟩, ⟨"new//Status.kt", .createOnly, "second"⟩]

/-- The file that is new is skipped at its second turn, and one failure does not stop the others. -/
theorem delivery_account_editedTree :
    (editedTree.makeDirectory "out").1 = true
    ∧ ∃ report u, (disk.deliverAll "out" mixedFiles).run.run editedTree = (.ok report, u)
      ∧ Account "out" editedTree mixedFiles report u
      ∧ report.entries.map (·.2) = [.skipped, .failed, .written, .skipped] := by
  have hmade : (editedTree.makeDirectory "out").1 = true := by decide
  obtain ⟨report, u, hrun, haccount⟩ := delivery_account hmade mixedFiles
  refine ⟨hmade, report, u, hrun, haccount, ?_⟩
  rw [run_deliverAll_of_made hmade, Prod.mk.injEq, Except.ok.injEq] at hrun
  rw [← hrun.1]
  decide +kernel

end FileTree

end SchemaForge
