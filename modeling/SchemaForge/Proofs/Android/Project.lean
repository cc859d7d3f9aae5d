import SchemaForge.Android.Project
import SchemaForge.Proofs.Android.Generation
import SchemaForge.Proofs.Files.Account

namespace SchemaForge

/-! # Generation on a directory tree

Reading a file and making sources of it leave the tree as it is, and they fail or not by what the
files hold. Only a run for which all of that is done begins to write. Then every file has its turn
in the tree that those before it leave, also behind one that could not be written.
-/

namespace FileTree

variable {t u : FileTree} {path directory : String}

/-! ## Steps that could fail -/

section Steps

variable {α β : Type} {x : ExceptT Failure (StateM FileTree) α}
  {f : α → ExceptT Failure (StateM FileTree) β}

/-- Behind a step that succeeds, a run goes on in the tree that the step leaves. -/
theorem run_bind_of_ok {a : α} (h : x.run.run t = (.ok a, u)) :
    (x >>= f).run.run t = (f a).run.run u := by
  rw [ExceptT.run_bind, StateT.run_bind, h]
  rfl

/-- A run ends with a step that fails, in the tree that the step leaves. -/
theorem run_bind_of_error {failure : Failure} (h : x.run.run t = (.error failure, u)) :
    (x >>= f).run.run t = (.error failure, u) := by
  rw [ExceptT.run_bind, StateT.run_bind, h]
  rfl

/-- Where a step that leaves the tree as it is fails, so does the run. -/
theorem exists_run_bind_of_error (h : ∃ failure, x.run.run t = (.error failure, t)) :
    ∃ failure, (x >>= f).run.run t = (.error failure, t) := by
  obtain ⟨failure, hx⟩ := h
  exact ⟨failure, run_bind_of_error hx⟩

end Steps

/-! ## Reading files -/

section Reading

variable {α : Type} {parse : String → Except Fault α}

/-- Holds when a file holds something that is read of its text in some way. -/
def Holds (t : FileTree) (path : String) (parse : String → Except Fault α) (a : α) : Prop :=
  ∃ text, t.read? path = some text ∧ parse text = .ok a

/-- Holds when a file cannot be read, or its text not as what it should be. -/
inductive Unreadable (t : FileTree) (path : String) (parse : String → Except Fault α) : Prop
  | missing (unread : t.read? path = none)
  | refused {text : String} {fault : Fault} (read : t.read? path = some text)
    (refused : parse text = .error fault)

theorem unreadable_or_holds (t : FileTree) (path : String) (parse : String → Except Fault α) :
    t.Unreadable path parse ∨ ∃ a, t.Holds path parse a := by
  cases hread : t.read? path with
  | none => exact .inl (.missing hread)
  | some text =>
    rcases exists_ok_or_error (parse text) with ⟨a, ha⟩ | ⟨fault, hfault⟩
    · exact .inr ⟨a, text, hread, ha⟩
    · exact .inl (.refused hread hfault)

theorem Unreadable.not_holds {a : α} (h : t.Unreadable path parse) :
    ¬ t.Holds path parse a := by
  rintro ⟨text, hread, hok⟩
  cases h with
  | missing hunread => simp [hunread] at hread
  | refused hother hrefused =>
    obtain rfl := Option.some.inj (hother.symm.trans hread)
    simp [hrefused] at hok

/-- What a file holds is read of it in one way only. -/
theorem Holds.unique {a b : α} (ha : t.Holds path parse a) (hb : t.Holds path parse b) : a = b := by
  obtain ⟨text, hread, ha⟩ := ha
  obtain ⟨other, hother, hb⟩ := hb
  obtain rfl : text = other := Option.some.inj (hread.symm.trans hother)
  exact Except.ok.inj (ha.symm.trans hb)

/-- Reading a file always succeeds, perhaps without contents, and leaves the tree as it is. -/
theorem run_read? (t : FileTree) (path : String) :
    (liftM (disk.read? path) : ExceptT Failure (StateM FileTree) _).run.run t =
      (.ok (t.read? path), t) :=
  rfl

/-- Reads of a file what it holds, as part of one activity where there is no file and as part of
another where it holds something else. -/
def readAs (missing refused : Activity) (parse : String → Except Fault α) (path : String) :
    ExceptT Failure (StateM FileTree) α := do
  match ← disk.read? path with
  | some text => MonadExcept.ofExcept (during refused (failing (parse text)))
  | none => throw ⟨[missing], .inaccessible⟩

theorem run_readAs_of_holds {missing refused : Activity} {a : α} (h : t.Holds path parse a) :
    (readAs missing refused parse path).run.run t = (.ok a, t) := by
  obtain ⟨text, hread, hok⟩ := h
  unfold readAs
  rw [run_bind_of_ok (run_read? t path), hread]
  simp only [hok]
  rfl

theorem run_readAs_of_unreadable {missing refused : Activity} (h : t.Unreadable path parse) :
    ∃ failure, (readAs missing refused parse path).run.run t = (.error failure, t) := by
  unfold readAs
  rw [run_bind_of_ok (run_read? t path)]
  cases h with
  | missing hunread =>
    rw [hunread]
    exact ⟨_, rfl⟩
  | refused hread hrefused =>
    rw [hread]
    simp only [hrefused]
    exact ⟨_, rfl⟩

end Reading

theorem schema_eq_readAs (path : String) : disk.schema path =
    readAs (.readingSchema path) (.readingSchema path) Schema.ofText path :=
  rfl

theorem options_eq_readAs (path : String) : disk.options path =
    readAs (.readingOptions path) (.parsingOptions path) Options.ofText path :=
  rfl

/-! ## Writing files -/

/-- A delivery of files one after the other, from one tree to another, with what is reported of
them. -/
inductive Deliveries (directory : String) :
    FileTree → List SourceFile → List (String × WriteResult) → FileTree → Prop
  | nil (t : FileTree) : Deliveries directory t [] [] t
  | cons {t u v : FileTree} {f : SourceFile} {files : List SourceFile} {result : WriteResult}
    {entries : List (String × WriteResult)} (turn : Turn directory t f result u)
    (rest : Deliveries directory u files entries v) :
    Deliveries directory t (f :: files) ((Path.join directory f.path, result) :: entries) v

/-- Files are delivered below a directory that is there, all of them. -/
theorem deliveries_outcomes (hthere : t.find? directory = some .directory)
    (files : List SourceFile) :
    Deliveries directory t files (outcomes directory t files)
      (files.foldl (delivered directory) t) := by
  induction files generalizing t with
  | nil => exact .nil t
  | cons f files ih =>
    -- the directory is still there for the files behind
    have hlater := find?_directory_of_grows hthere (grows_delivered directory t f)
    exact .cons (turn_delivered hthere f) (ih hlater)

theorem exists_run_deliverAll (hmade : (t.makeDirectory directory).1 = true)
    (files : List SourceFile) :
    ∃ report u, (disk.deliverAll directory files).run.run t = (.ok report, u)
      ∧ Deliveries directory (t.makeDirectory directory).2 files report.entries u := by
  refine ⟨_, _, run_deliverAll_of_made hmade files, ?_⟩
  rw [deliveredAll, if_pos hmade]
  exact deliveries_outcomes (find?_makeDirectory hmade) files

end FileTree

/-! ## Runs -/

namespace Run

variable {run : Run} {s : Schema} {t : FileTree} {path directory : String}

/-- A schema cannot be generated when one of its entities cannot. -/
theorem exists_generate_eq_error_iff : (∃ failure, run.generate s = .error failure) ↔
    ∃ d ∈ s.databases, ∃ e ∈ d.entities, ∃ fault, (Scope.mk run d e).artifacts = .error fault := by
  constructor
  · rintro ⟨failure, h⟩
    obtain ⟨before, e, after, fault, hsplit, -, hfails, -⟩ := generate_eq_error_iff.1 h
    have he : e ∈ s.entities := by simp [hsplit]
    obtain ⟨d, hd, he⟩ := List.mem_flatMap.1 he
    exact ⟨d, hd, e, he, fault, Scope.artifacts_eq_error_iff.2 hfails⟩
  · rintro ⟨d, hd, e, he, fault, hfails⟩
    rcases exists_ok_or_error (run.generate s) with hfiles | hfailure
    · have hgenerable := exists_generate_iff.1 hfiles e (List.mem_flatMap.2 ⟨d, hd, he⟩)
      obtain ⟨made, hmade⟩ := Scope.exists_artifacts_iff (s := Scope.mk run d e).2 hgenerable
      rw [hmade] at hfails
      cases hfails
    · exact hfailure

/-- The files of a schema are those of all its entities, and maybe more. -/
theorem exists_artifacts_of_generate {files : List SourceFile} {d : Database} {e : Entity}
    (h : run.generate s = .ok files) (hd : d ∈ s.databases) (he : e ∈ d.entities) :
    ∃ made, (Scope.mk run d e).artifacts = .ok made ∧ ∀ a ∈ made, a.file run.style ∈ files := by
  have hgenerable := exists_generate_iff.1 ⟨files, h⟩ e (List.mem_flatMap.2 ⟨d, hd, he⟩)
  obtain ⟨made, hmade⟩ := Scope.exists_artifacts_iff (s := Scope.mk run d e).2 hgenerable
  obtain ⟨r, hr, -, rfl⟩ := Scope.artifacts_eq_ok_iff.1 hmade
  obtain ⟨other, hother, hfiles⟩ := exists_resolve_of_generate h hd he
  obtain rfl : r = other := Except.ok.inj (hr.symm.trans hother)
  exact ⟨_, hmade, hfiles⟩

/-- What stops a run on the schema in a file. -/
inductive Stopped (run : Run) (t : FileTree) (path : String) : Prop
  | schema (unreadable : t.Unreadable path Schema.ofText)
  | entity {s : Schema} {d : Database} {e : Entity} {fault : Fault}
    (holds : t.Holds path Schema.ofText s) (database : d ∈ s.databases) (member : e ∈ d.entities)
    (fails : (Scope.mk run d e).artifacts = .error fault)

theorem stopped_iff : run.Stopped t path ↔ t.Unreadable path Schema.ofText ∨
    ∃ s, t.Holds path Schema.ofText s ∧ ∃ failure, run.generate s = .error failure := by
  simp only [exists_generate_eq_error_iff]
  constructor
  · intro h
    cases h with
    | schema hunreadable => exact .inl hunreadable
    | entity hholds hd he hfails => exact .inr ⟨_, hholds, _, hd, _, he, _, hfails⟩
  · rintro (hunreadable | ⟨s, hholds, d, hd, e, he, fault, hfails⟩)
    · exact .schema hunreadable
    · exact .entity hholds hd he hfails

theorem exists_files_of_not_stopped (h : ¬ run.Stopped t path) :
    ∃ s files, t.Holds path Schema.ofText s ∧ run.generate s = .ok files := by
  rw [stopped_iff, not_or] at h
  obtain ⟨s, hholds⟩ := (t.unreadable_or_holds path Schema.ofText).resolve_left h.1
  rcases exists_ok_or_error (run.generate s) with ⟨files, hfiles⟩ | hfailure
  · exact ⟨s, files, hholds, hfiles⟩
  · exact absurd ⟨s, hholds, hfailure⟩ h.2

/-- Holds when a run has made the files of the schema in a file, those of every entity among them,
and then has delivered them below a directory that it made first. -/
inductive Completed (run : Run) (t : FileTree) (path directory : String) (report : WriteReport)
    (u : FileTree) : Prop
  | mk {s : Schema} {files : List SourceFile} (holds : t.Holds path Schema.ofText s)
    (generated : run.generate s = .ok files)
    (whole : ∀ d ∈ s.databases, ∀ e ∈ d.entities, ∃ made,
      (Scope.mk run d e).artifacts = .ok made ∧ ∀ a ∈ made, a.file run.style ∈ files)
    (delivered : FileTree.Deliveries directory (t.makeDirectory directory).2 files
      report.entries u)

end Run

/-! ## Runs on a tree -/

namespace FileTree

variable {t : FileTree} {activity : Activity} {run : Run} {s : Schema} {path directory : String}

theorem run_generate_of_error (h : ∃ failure, run.generate s = .error failure) :
    ∃ failure, (disk.generate activity run s directory).run.run t = (.error failure, t) := by
  obtain ⟨failure, hfailure⟩ := h
  unfold Disk.generate
  rw [hfailure]
  exact ⟨_, rfl⟩

theorem exists_run_generate {files : List SourceFile} (hholds : t.Holds path Schema.ofText s)
    (hfiles : run.generate s = .ok files) (hmade : (t.makeDirectory directory).1 = true) :
    ∃ report u, (disk.generate activity run s directory).run.run t = (.ok report, u)
      ∧ run.Completed t path directory report u := by
  obtain ⟨report, u, hrun, hdelivered⟩ := exists_run_deliverAll hmade files
  refine ⟨report, u, ?_, hholds, hfiles, ?_, hdelivered⟩
  · unfold Disk.generate
    rw [hfiles]
    exact hrun
  · intro d hd e he
    exact Run.exists_artifacts_of_generate hfiles hd he

/-- A run that is stopped has written nothing. -/
theorem run_generateFrom_of_stopped (h : run.Stopped t path) :
    ∃ failure, (disk.generateFrom path run directory).run.run t = (.error failure, t) := by
  unfold Disk.generateFrom
  rw [schema_eq_readAs]
  rcases Run.stopped_iff.1 h with hunreadable | ⟨s, hholds, hfailure⟩
  · exact exists_run_bind_of_error (run_readAs_of_unreadable hunreadable)
  · rw [run_bind_of_ok (run_readAs_of_holds hholds)]
    exact run_generate_of_error hfailure

/-- A run that is not stopped is completed where its directory can be made. -/
theorem exists_run_generateFrom (h : ¬ run.Stopped t path)
    (hmade : (t.makeDirectory directory).1 = true) :
    ∃ report u, (disk.generateFrom path run directory).run.run t = (.ok report, u)
      ∧ run.Completed t path directory report u := by
  obtain ⟨s, files, hholds, hfiles⟩ := Run.exists_files_of_not_stopped h
  unfold Disk.generateFrom
  rw [schema_eq_readAs, run_bind_of_ok (run_readAs_of_holds hholds)]
  exact exists_run_generate hholds hfiles hmade

end FileTree

end SchemaForge
