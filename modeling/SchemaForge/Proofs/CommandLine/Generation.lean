import SchemaForge.CommandLine.Command
import SchemaForge.Proofs.Android.Project

namespace SchemaForge

/-! # All or nothing

The program makes the sources of a schema completely or not at all. Whatever is wrong with the files
that it reads, and wherever in the schema an entity is for which nothing can be made, it is found
before the first directory is made; then the program fails and has changed nothing. Behind that only
single files can fail, which the ending tells.
-/

open FileTree

namespace GenerateCommand

variable {c : GenerateCommand} {created : String} {t : FileTree} {base : Options}

/-- The options that a command starts from: the usual ones, or those in a file. -/
inductive StartsFrom (c : GenerateCommand) (t : FileTree) : Options → Prop
  | usual (given : c.optionsFile? = none) : c.StartsFrom t {}
  | file {path : String} {base : Options} (given : c.optionsFile? = some path)
    (holds : t.Holds path Options.ofText base) : c.StartsFrom t base

/-- The run of a command that starts from these options. -/
def run (c : GenerateCommand) (created : String) (base : Options) : Run :=
  { package := c.package, options := c.effective base, created }

/-- What stops a command. -/
inductive Stopped (c : GenerateCommand) (created : String) (t : FileTree) : Prop
  | options {path : String} (given : c.optionsFile? = some path)
    (unreadable : t.Unreadable path Options.ofText)
  | schema (unreadable : t.Unreadable c.schema Schema.ofText)
  | entity {base : Options} {s : Schema} {d : Database} {e : Entity} {fault : Fault}
    (start : c.StartsFrom t base) (holds : t.Holds c.schema Schema.ofText s)
    (database : d ∈ s.databases) (member : e ∈ d.entities)
    (fails : (Scope.mk (c.run created base) d e).artifacts = .error fault)

theorem unreadable_or_startsFrom (c : GenerateCommand) (t : FileTree) :
    (∃ path, c.optionsFile? = some path ∧ t.Unreadable path Options.ofText)
      ∨ ∃ base, c.StartsFrom t base := by
  cases hgiven : c.optionsFile? with
  | none => exact .inr ⟨{}, .usual hgiven⟩
  | some path =>
    rcases t.unreadable_or_holds path Options.ofText with hunreadable | ⟨base, hholds⟩
    · exact .inl ⟨path, rfl, hunreadable⟩
    · exact .inr ⟨base, .file hgiven hholds⟩

/-- A command is stopped with its options, or with the run that it makes of them. -/
theorem stopped_iff : c.Stopped created t ↔
    (∃ path, c.optionsFile? = some path ∧ t.Unreadable path Options.ofText)
      ∨ ∃ base, c.StartsFrom t base ∧ (c.run created base).Stopped t c.schema := by
  constructor
  · intro h
    cases h with
    | options hgiven hunreadable => exact .inl ⟨_, hgiven, hunreadable⟩
    | schema hunreadable =>
      -- the options are read first, and may stop the command before the schema does
      refine (c.unreadable_or_startsFrom t).imp_right ?_
      rintro ⟨base, hstart⟩
      exact ⟨base, hstart, .schema hunreadable⟩
    | entity hstart hholds hd he hfails => exact .inr ⟨_, hstart, .entity hholds hd he hfails⟩
  · rintro (⟨path, hgiven, hunreadable⟩ | ⟨base, hstart, hstopped⟩)
    · exact .options hgiven hunreadable
    · cases hstopped with
      | schema hunreadable => exact .schema hunreadable
      | entity hholds hd he hfails => exact .entity hstart hholds hd he hfails

/-- A command is not stopped when sources can be generated for all entities of its schema. -/
theorem not_stopped_of_generable {s : Schema} (hstart : c.StartsFrom t base)
    (hholds : t.Holds c.schema Schema.ofText s) (h : ∀ e ∈ s.entities, e.Generable) :
    ¬ c.Stopped created t := by
  rw [stopped_iff, not_or]
  constructor
  · rintro ⟨path, hgiven, hunreadable⟩
    cases hstart with
    | usual hnone => simp [hnone] at hgiven
    | file hfile hbase =>
      obtain rfl := Option.some.inj (hfile.symm.trans hgiven)
      exact hunreadable.not_holds hbase
  · rintro ⟨other, -, hstopped⟩
    rcases Run.stopped_iff.1 hstopped with hunreadable | ⟨found, hfound, failure, hfailure⟩
    · exact hunreadable.not_holds hholds
    · obtain rfl := hholds.unique hfound
      obtain ⟨files, hfiles⟩ := Run.exists_generate_iff.2 h
      rw [hfiles] at hfailure
      cases hfailure

/-- What comes of a command with this report. -/
def verdict (report : WriteReport) : Except Failure String :=
  if report.isSuccess then .ok ""
  else .error ⟨[], .unwritten (report.paths .failed).length⟩

theorem code_verdict_eq_zero_iff {report : WriteReport} :
    (Ending.ofResult (verdict report)).code = 0 ↔
      ∀ entry ∈ report.entries, entry.2 ≠ .failed := by
  have hsuccess : report.isSuccess = true ↔ ∀ entry ∈ report.entries, entry.2 ≠ .failed := by
    simp [WriteReport.isSuccess, WriteReport.paths, List.filter_eq_nil_iff]
  rw [← hsuccess, verdict]
  cases report.isSuccess <;> simp [Ending.ofResult]

/-- With its options at hand, a command reads its schema, generates it and tells what came of it. -/
theorem run_perform_of_startsFrom (hgenerates : c.showsOptions = false)
    (h : c.StartsFrom t base) :
    (c.perform disk created).run.run t =
      (disk.schema c.schema >>= fun s =>
        disk.generate (.generatingSources (c.effective base).language.name) (c.run created base) s
          c.output >>= fun report => ExceptT.mk (pure (verdict report))).run.run t := by
  have hverdict : ∀ report : WriteReport,
      (if report.isSuccess then pure ""
        else throw ⟨[], .unwritten (report.paths .failed).length⟩ :
          ExceptT Failure (StateM FileTree) String) = ExceptT.mk (pure (verdict report)) := by
    intro report
    unfold verdict
    split <;> rfl
  simp only [← hverdict]
  unfold perform
  rw [hgenerates]
  cases h with
  | usual hgiven =>
    rw [hgiven]
    rfl
  | file hgiven hholds =>
    simp only [hgiven, options_eq_readAs]
    rw [run_bind_of_ok (run_readAs_of_holds hholds)]
    rfl

theorem run_perform_of_stopped (hgenerates : c.showsOptions = false) (h : c.Stopped created t) :
    ∃ failure, (c.perform disk created).run.run t = (.error failure, t) := by
  rcases stopped_iff.1 h with ⟨path, hgiven, hunreadable⟩ | ⟨base, hstart, hstopped⟩
  · unfold perform
    simp only [hgiven, options_eq_readAs]
    exact exists_run_bind_of_error (run_readAs_of_unreadable hunreadable)
  · rw [run_perform_of_startsFrom hgenerates hstart, schema_eq_readAs]
    rcases Run.stopped_iff.1 hstopped with hunreadable | ⟨s, hholds, hfailure⟩
    · exact exists_run_bind_of_error (run_readAs_of_unreadable hunreadable)
    · rw [run_bind_of_ok (run_readAs_of_holds hholds)]
      exact exists_run_bind_of_error (run_generate_of_error hfailure)

theorem exists_run_perform (hgenerates : c.showsOptions = false) (h : ¬ c.Stopped created t)
    (hmade : (t.makeDirectory c.output).1 = true) :
    ∃ base report u, c.StartsFrom t base
      ∧ (c.perform disk created).run.run t = (verdict report, u)
      ∧ (c.run created base).Completed t c.schema c.output report u := by
  rw [stopped_iff, not_or] at h
  obtain ⟨base, hstart⟩ := (c.unreadable_or_startsFrom t).resolve_left h.1
  obtain ⟨s, files, hholds, hfiles⟩ :=
    Run.exists_files_of_not_stopped fun hstopped => h.2 ⟨base, hstart, hstopped⟩
  obtain ⟨report, u, hrun, hcompleted⟩ := exists_run_generate hholds hfiles hmade
  refine ⟨base, report, u, hstart, ?_, hcompleted⟩
  rw [run_perform_of_startsFrom hgenerates hstart, schema_eq_readAs,
    run_bind_of_ok (run_readAs_of_holds hholds), run_bind_of_ok hrun]
  rfl

end GenerateCommand

namespace FileTree

/-- The program ends as its command does, and leaves the tree that the command leaves. -/
theorem run_runProgram {texts : List String} {command : Command} {created : String}
    {t u : FileTree} {result : Except Failure String}
    (hcommand : Command.ofArguments? texts = some command)
    (h : (command.perform disk created).run.run t = (result, u)) :
    (runProgram disk created texts).run t = (Ending.ofResult result, u) := by
  unfold runProgram
  rw [hcommand]
  simp only [StateT.run_bind, h]
  rfl

/-- The program fails and changes nothing when the options, the schema or one of its entities stop
it. Otherwise, where its directory can be made, every file of the schema has its turn, and the
program succeeds when none of them fails. The same holds where the schema in a file is generated
with given options. -/
theorem generate_all_or_nothing {texts : List String} {c : GenerateCommand}
    (hcommand : Command.ofArguments? texts = some (.generate c))
    (hgenerates : c.showsOptions = false) (created : String) (t : FileTree) :
    (c.Stopped created t → ∃ report, (runProgram disk created texts).run t =
      ({ code := 1, output := "", report }, t))
    ∧ (¬ c.Stopped created t → (t.makeDirectory c.output).1 = true → ∃ base report ending u,
        (runProgram disk created texts).run t = (ending, u)
          ∧ c.StartsFrom t base
          ∧ (c.run created base).Completed t c.schema c.output report u
          ∧ (ending.code = 0 ↔ ∀ entry ∈ report.entries, entry.2 ≠ .failed))
    ∧ ∀ (run : Run) (path directory : String),
        (run.Stopped t path →
          ∃ failure, (disk.generateFrom path run directory).run.run t = (.error failure, t))
        ∧ (¬ run.Stopped t path → (t.makeDirectory directory).1 = true → ∃ report u,
            (disk.generateFrom path run directory).run.run t = (.ok report, u)
              ∧ run.Completed t path directory report u) := by
  refine ⟨?_, ?_, fun run path directory => ⟨run_generateFrom_of_stopped, ?_⟩⟩
  · intro hstopped
    obtain ⟨failure, hrun⟩ := GenerateCommand.run_perform_of_stopped hgenerates hstopped
    exact ⟨_, run_runProgram hcommand hrun⟩
  · intro hpasses hmade
    obtain ⟨base, report, u, hstart, hrun, hcompleted⟩ :=
      GenerateCommand.exists_run_perform hgenerates hpasses hmade
    exact ⟨base, report, _, u, run_runProgram hcommand hrun, hstart, hcompleted,
      GenerateCommand.code_verdict_eq_zero_iff⟩
  · exact exists_run_generateFrom

/-- A document of two databases. The second one has an enumeration table with these literals. -/
def townDocument (literals : String) : String :=
  "<dbSchema><database name='town'><table name='HOUSE'/></database><database name='state'>"
    ++ "<table name='STATUS' enumerations='" ++ literals ++ "'/></database></dbSchema>"

/-- A tree with the document beside a directory of sources. -/
def townTree (literals : String) : FileTree :=
  editedTree.put ["town.xml"] (.file (townDocument literals)) (by decide)

/-- The schema in the document. -/
def townSchema (literals : String) : Schema where
  databases := [
    { name := "town", tables := [{ kind := .table, name := "HOUSE" }] },
    { name := "state", tables := [{ kind := .table, name := "STATUS", enumerations := literals }] }]

/-- Arguments for the document. -/
def townTexts : List String :=
  ["generate", "--schema=town.xml", "-o", "out", "-p", "com.town"]

/-- The command that they make. -/
def townCommand : GenerateCommand where
  schema := "town.xml"
  output := "out"
  package := "com.town"
  optionsFile? := none
  switches := {}
  dates? := none
  language? := none
  showsOptions := false

/-- Without literals in its second database, not even the first one is written. -/
theorem generate_townTree :
    Command.ofArguments? townTexts = some (.generate townCommand)
    ∧ townCommand.showsOptions = false
    ∧ (∃ report, (runProgram disk "" townTexts).run (townTree ",") =
        ({ code := 1, output := "", report }, townTree ","))
    ∧ ∃ base report ending u, (runProgram disk "" townTexts).run (townTree "OPEN") = (ending, u)
        ∧ townCommand.StartsFrom (townTree "OPEN") base
        ∧ (townCommand.run "" base).Completed (townTree "OPEN") "town.xml" "out" report u
        ∧ (ending.code = 0 ↔ ∀ entry ∈ report.entries, entry.2 ≠ .failed) := by
  have hcommand : Command.ofArguments? townTexts = some (.generate townCommand) := by
    decide +kernel
  have hempty : (townTree ",").Holds "town.xml" Schema.ofText (townSchema ",") :=
    ⟨townDocument ",", by decide +kernel, by decide +kernel⟩
  have hfilled : (townTree "OPEN").Holds "town.xml" Schema.ofText (townSchema "OPEN") :=
    ⟨townDocument "OPEN", by decide +kernel, by decide +kernel⟩
  have hstopped : townCommand.Stopped "" (townTree ",") := by
    apply GenerateCommand.Stopped.entity (.usual rfl) hempty
      (List.mem_cons_of_mem _ List.mem_cons_self) List.mem_cons_self
    exact Scope.artifacts_eq_error_iff.2
      (.literals ⟨by simp, by simp⟩ (by decide +kernel) (by decide +kernel))
  have hpasses : ¬ townCommand.Stopped "" (townTree "OPEN") := by
    have hplain : ∀ e ∈ (townSchema "OPEN").entities, (∀ f ∈ e.fields, f.isEnumeration = false)
        ∧ (e.fields.filter (·.primaryKey)).length ≤ 1
        ∧ (e.isEnumeration → e.enumItems ≠ []) := by
      decide +kernel
    apply GenerateCommand.not_stopped_of_generable (.usual rfl) hfilled
    intro e he
    obtain ⟨hfields, hkeys, hliterals⟩ := hplain e he
    exact Entity.generable_of_plain hfields hkeys hliterals
  refine ⟨hcommand, rfl, ?_, ?_⟩
  · exact (generate_all_or_nothing hcommand rfl "" (townTree ",")).1 hstopped
  · exact (generate_all_or_nothing hcommand rfl "" (townTree "OPEN")).2.1 hpasses
      (by decide +kernel)

end FileTree

end SchemaForge
