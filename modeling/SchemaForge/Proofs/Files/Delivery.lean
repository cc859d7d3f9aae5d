import Mathlib.Data.Fintype.EquivFin
import SchemaForge.Files.Disk
import SchemaForge.Proofs.Files.SameFile

namespace SchemaForge

/-! # Hand edits and the delivery of files

Files are delivered one after the other, each into the tree that those before it leave. What becomes
of a file that was there is decided by the paths of the run alone: it is kept, unless a file that is
always written anew goes to the same place. A file that is written only once could also go to a
place that is taken, when its path leads there only after its directories are made; it does not
where the directories of its path have been made for a file before it.
-/

namespace FileTree

variable {t u : FileTree} {place : Place} {directory : String} {files : List SourceFile}

/-! ## Delivery as a function of the tree -/

/-- What becomes of a file that is delivered below a directory. -/
def outcome (directory : String) (t : FileTree) (f : SourceFile) : WriteResult :=
  if f.policy = .createOnly ∧ (t.find? (Path.join directory f.path)).isSome then .skipped
  else if (t.write (Path.join directory f.path) f.contents).1 then .written
  else .failed

/-- The tree after a file is delivered below a directory. -/
def delivered (directory : String) (t : FileTree) (f : SourceFile) : FileTree :=
  if f.policy = .createOnly ∧ (t.find? (Path.join directory f.path)).isSome then t
  else (t.write (Path.join directory f.path) f.contents).2

/-- What is reported of files that are delivered one after the other below a directory. -/
def outcomes (directory : String) (t : FileTree) : List SourceFile → List (String × WriteResult)
  | [] => []
  | f :: files =>
    (Path.join directory f.path, outcome directory t f)
      :: outcomes directory (delivered directory t f) files

/-- The tree after files are delivered below a directory; they are not where the directory cannot be
made. -/
def deliveredAll (t : FileTree) (directory : String) (files : List SourceFile) : FileTree :=
  if (t.makeDirectory directory).1 then
    files.foldl (delivered directory) (t.makeDirectory directory).2
  else (t.makeDirectory directory).2

theorem run_has (t : FileTree) (path : String) :
    (disk.has path).run t = ((t.find? path).isSome, t) :=
  rfl

theorem run_makeDirectory (t : FileTree) (path : String) :
    (disk.makeDirectory path).run t = t.makeDirectory path :=
  rfl

theorem run_write (t : FileTree) (path contents : String) :
    (disk.write path contents).run t = t.write path contents :=
  rfl

/-- A file is written, and it is reported whether that was done. -/
theorem run_write_report {β : Type} (t : FileTree) (path contents : String) (written failed : β) :
    (disk.write path contents >>= fun done =>
        if done = true then pure written else pure failed : StateM FileTree β).run t =
      (if (t.write path contents).1 then written else failed, (t.write path contents).2) := by
  rw [StateT.run_bind, run_write]
  rcases t.write path contents with ⟨done, u⟩
  cases done <;> rfl

/-- Delivering a file reports what becomes of it and changes the tree as it says. -/
theorem run_deliver (t : FileTree) (directory : String) (f : SourceFile) :
    (disk.deliver directory f).run t =
      ((Path.join directory f.path, outcome directory t f), delivered directory t f) := by
  have hwrite := run_write_report t (Path.join directory f.path) f.contents
    (Path.join directory f.path, WriteResult.written)
    (Path.join directory f.path, WriteResult.failed)
  rw [← apply_ite (Prod.mk (Path.join directory f.path))] at hwrite
  unfold Disk.deliver outcome delivered
  cases hpolicy : f.policy with
  | overwrite =>
    simp only [reduceCtorEq, if_false, false_and]
    exact hwrite
  | createOnly =>
    simp only [if_true, true_and, StateT.run_bind, run_has]
    cases (t.find? (Path.join directory f.path)).isSome with
    | true => rfl
    | false => exact hwrite

/-- Delivering files one after the other reports what becomes of each, changes the tree as they say,
and does not fail. -/
theorem run_deliverFiles (t : FileTree) (directory : String) (files : List SourceFile) :
    (files.mapM fun f => (liftM (disk.deliver directory f) :
        ExceptT Failure (StateM FileTree) _)).run.run t =
      (.ok (outcomes directory t files), files.foldl (delivered directory) t) := by
  induction files generalizing t with
  | nil => rfl
  | cons f files ih =>
    rw [List.mapM_cons, List.foldl_cons]
    -- the step is lifted into a computation that could fail, which it does not
    change StateT.run (ExceptT.lift (disk.deliver directory f) >>= _ :
      ExceptT Failure (StateM FileTree) _).run t = _
    rw [ExceptT.run_bind_lift, StateT.run_bind, run_deliver]
    change StateT.run (files.mapM _ >>= fun _ => pure _ :
      ExceptT Failure (StateM FileTree) _).run _ = _
    rw [ExceptT.run_bind, StateT.run_bind, ih (delivered directory t f)]
    rfl

/-- Delivering files below a directory that can be made gives a report of all of them. -/
theorem run_deliverAll_of_made {t : FileTree} {directory : String}
    (h : (t.makeDirectory directory).1 = true) (files : List SourceFile) :
    (disk.deliverAll directory files).run.run t =
      (.ok ⟨outcomes directory (t.makeDirectory directory).2 files⟩,
        t.deliveredAll directory files) := by
  unfold Disk.deliverAll deliveredAll
  change StateT.run (ExceptT.lift (disk.makeDirectory directory) >>= _ :
    ExceptT Failure (StateM FileTree) _).run t = _
  rw [ExceptT.run_bind_lift, StateT.run_bind, run_makeDirectory]
  generalize t.makeDirectory directory = made at h ⊢
  obtain ⟨done, u⟩ := made
  obtain rfl : done = true := h
  change StateT.run (files.mapM _ >>= fun _ => pure _ :
    ExceptT Failure (StateM FileTree) WriteReport).run u = _
  rw [ExceptT.run_bind, StateT.run_bind, run_deliverFiles u directory files]
  rfl

/-- Delivering files changes the tree as it says. -/
theorem run_deliverAll (t : FileTree) (directory : String) (files : List SourceFile) :
    ((disk.deliverAll directory files).run.run t).2 = t.deliveredAll directory files := by
  cases hmade : (t.makeDirectory directory).1 with
  | true => rw [run_deliverAll_of_made hmade files]
  | false =>
    unfold Disk.deliverAll deliveredAll
    change (StateT.run (ExceptT.lift (disk.makeDirectory directory) >>= _ :
      ExceptT Failure (StateM FileTree) _).run t).2 = _
    rw [ExceptT.run_bind_lift, StateT.run_bind, run_makeDirectory]
    generalize t.makeDirectory directory = made at hmade ⊢
    obtain ⟨done, u⟩ := made
    obtain rfl : done = false := hmade
    rfl

/-! ## Files that are kept -/

theorem withParent_grows_delivered (t : FileTree) (directory : String) {f : SourceFile}
    (hpolicy : f.policy = .overwrite) :
    (t.withParent (Path.join directory f.path)).Grows (delivered directory t f) := by
  simp only [delivered, hpolicy, reduceCtorEq, false_and, if_false]
  exact withParent_grows_write t _ _

theorem grows_delivered (directory : String) (t : FileTree) (f : SourceFile) :
    t.Grows (delivered directory t f) := by
  unfold delivered
  split
  · exact Grows.refl t
  · exact grows_write t _ _

theorem grows_foldl_delivered (directory : String) (files : List SourceFile) (t : FileTree) :
    t.Grows (files.foldl (delivered directory) t) := by
  induction files generalizing t with
  | nil => exact Grows.refl t
  | cons f files ih => exact (grows_delivered directory t f).trans (ih _)

/-- Holds when before every file that is written only once there is one that is always written anew
and whose path has the same directory. -/
def BasesFirst (directory : String) (files : List SourceFile) : Prop :=
  ∀ before f after, files = before ++ f :: after → f.policy = .createOnly →
    ∃ base ∈ before, base.policy = .overwrite ∧
      Path.directory? (Path.join directory base.path) = Path.directory? (Path.join directory f.path)

/-- A file is kept by the delivery of one that never goes to its place. -/
theorem node?_delivered {f : SourceFile} {contents : String}
    (hfile : t.node? place = some (.file contents))
    (hoverwrite : f.policy = .overwrite →
      (t.withParent (Path.join directory f.path)).place? (Path.join directory f.path) ≠ some place)
    (hcreateOnly : f.policy = .createOnly → t.withParent (Path.join directory f.path) = t) :
    (delivered directory t f).node? place = some (.file contents) := by
  unfold delivered
  split
  · exact hfile
  · next hwritten =>
    rcases node?_write_of_file hfile (Path.join directory f.path) f.contents
      with hkept | ⟨-, hplace⟩
    · exact hkept
    · exfalso
      cases hpolicy : f.policy with
      | overwrite => exact hoverwrite hpolicy hplace
      | createOnly =>
        -- its directories were there before, so that it would have been found
        rw [hcreateOnly hpolicy] at hplace
        have hfound := find?_eq_some_iff.2 ⟨place, hplace, hfile⟩
        exact hwritten ⟨hpolicy, by rw [hfound]; rfl⟩

/-- A file to which no file of the run is written anew is kept by the whole run. Beside it, the
directories of the files that are written anew are made once and for all. -/
theorem node?_foldl_delivered {contents : String} (hbases : BasesFirst directory files)
    (hfile : t.node? place = some (.file contents))
    (hoverwrite : ∀ u, t.Grows u → ∀ g ∈ files, g.policy = .overwrite →
      u.place? (Path.join directory g.path) ≠ some place) (before after : List SourceFile)
    (hsplit : files = before ++ after) :
    (before.foldl (delivered directory) t).node? place = some (.file contents)
      ∧ ∀ base ∈ before, base.policy = .overwrite →
        (before.foldl (delivered directory) t).withParent (Path.join directory base.path) =
          before.foldl (delivered directory) t := by
  -- along the run, from one file to the next
  induction before using List.reverseRecOn generalizing after with
  | nil => exact ⟨hfile, by simp⟩
  | append_singleton before f ih =>
    rw [List.append_assoc, List.singleton_append] at hsplit
    obtain ⟨hkept, hmade⟩ := ih (f :: after) hsplit
    rw [List.foldl_append, List.foldl_cons, List.foldl_nil]
    generalize hu : before.foldl (delivered directory) t = u at hkept hmade ⊢
    have hgrows : t.Grows u := hu ▸ grows_foldl_delivered directory before t
    constructor
    · apply node?_delivered hkept
      · intro hpolicy
        have hparent := hgrows.trans (extends_withParent u (Path.join directory f.path)).grows
        exact hoverwrite _ hparent f (by simp [hsplit]) hpolicy
      · intro hpolicy
        obtain ⟨base, hbase, hbasePolicy, hsame⟩ := hbases before f after hsplit hpolicy
        -- its directory has been made, as it is that of the base
        have hparent := hmade base hbase hbasePolicy
        unfold withParent at hparent ⊢
        rwa [hsame] at hparent
    · intro base hbase hpolicy
      apply withParent_of_grows
      rcases List.mem_append.1 hbase with hbase | hbase
      · rw [hmade base hbase hpolicy]
        exact grows_delivered directory u f
      · obtain rfl := List.mem_singleton.1 hbase
        exact withParent_grows_delivered u directory hpolicy

/-! ## Files that are lost -/

/-- A file keeps its contents, or gets those of a delivered file. -/
theorem node?_delivered_cases {contents : String} (hfile : t.node? place = some (.file contents))
    (directory : String) (f : SourceFile) :
    (delivered directory t f).node? place = some (.file contents)
      ∨ (delivered directory t f).node? place = some (.file f.contents) := by
  unfold delivered
  split
  · exact .inl hfile
  · rcases node?_write_of_file hfile (Path.join directory f.path) f.contents
      with hkept | ⟨hwritten, -⟩
    · exact .inl hkept
    · exact .inr hwritten

/-- The contents of a delivered file stay in a place, or give way to those of another. -/
theorem exists_contents_foldl_delivered {contents : String} {texts : List String}
    (hfile : t.node? place = some (.file contents)) (hcontents : contents ∈ texts)
    (htexts : ∀ f ∈ files, f.contents ∈ texts) : ∃ text ∈ texts,
      (files.foldl (delivered directory) t).node? place = some (.file text) := by
  induction files generalizing t contents with
  | nil => exact ⟨contents, hcontents, hfile⟩
  | cons f files ih =>
    rw [List.forall_mem_cons] at htexts
    rcases node?_delivered_cases hfile directory f with hkept | hwritten
    · exact ih hkept hcontents htexts.2
    · exact ih hwritten htexts.1 htexts.2

/-- The file to which a file is written anew gets the contents of a delivered file. -/
theorem exists_contents_of_overwrite {f : SourceFile} {contents : String} (hf : f ∈ files)
    (hpolicy : f.policy = .overwrite)
    (hplace : t.place? (Path.join directory f.path) = some place)
    (hfile : t.node? place = some (.file contents)) : ∃ text ∈ files.map (·.contents),
      (files.foldl (delivered directory) t).node? place = some (.file text) := by
  obtain ⟨before, after, hsplit⟩ := List.append_of_mem hf
  have hgrows := grows_foldl_delivered directory before t
  obtain ⟨older, holder⟩ := hgrows.file place contents hfile
  have hwritten : (delivered directory (before.foldl (delivered directory) t) f).node? place =
      some (.file f.contents) := by
    simp only [delivered, hpolicy, reduceCtorEq, false_and, if_false]
    exact node?_write_of_place? (place?_of_grows hplace hgrows) holder
  rw [hsplit, List.foldl_append, List.foldl_cons]
  refine exists_contents_foldl_delivered hwritten (by simp) fun g hg => List.mem_map_of_mem ?_
  simp [hg]

/-! ## When edits are kept -/

/-- Holds when whatever is found on the path of a file that is written only once is still found
there, unchanged, after the files are delivered. -/
def KeepsEdits (directory : String) (files : List SourceFile) : Prop :=
  ∀ t : FileTree, ∀ f ∈ files, f.policy = .createOnly →
    ∀ node, t.find? (Path.join directory f.path) = some node →
      ((disk.deliverAll directory files).run.run t).2.find? (Path.join directory f.path) = some node

theorem grows_deliveredAll (t : FileTree) (directory : String) (files : List SourceFile) :
    t.Grows (t.deliveredAll directory files) := by
  have hmade := (extends_makeDirectory t directory).grows
  unfold deliveredAll
  split
  · exact hmade.trans (grows_foldl_delivered directory files _)
  · exact hmade

/-- A file of a tree with other contents is found where it was. -/
theorem exists_edited {contents : String} (hfile : t.node? place = some (.file contents))
    (edit : String) : ∃ u, t.Grows u ∧ u.node? place = some (.file edit) := by
  have hsome : (t.node? place).isSome := by simp [hfile]
  have hroom : t.HasRoom place := ⟨node?_parent hsome, by simp [hfile], validName_of_node? hsome⟩
  have hput : t.put? place (.file edit) = some (t.put place (.file edit) hroom) := dif_pos hroom
  exact ⟨_, grows_of_put? hput, by rw [node?_of_put? hput, if_pos rfl]⟩

/-- A file that the run writes anew is one of its own files afterwards, so that an edit of it is
lost. -/
theorem exists_contents_deliveredAll {f : SourceFile} {contents : String} (hf : f ∈ files)
    (hpolicy : f.policy = .overwrite)
    (hplace : t.place? (Path.join directory f.path) = some place)
    (hfile : t.node? place = some (.file contents)) : ∃ text ∈ files.map (·.contents),
      (t.deliveredAll directory files).node? place = some (.file text) := by
  have hmade := extends_makeDirectory t directory
  -- the path leads through the directory of the run, which is there for that reason
  have hdirectory := makeDirectory_of_find? (find?_of_join hplace)
  rw [deliveredAll, if_pos hdirectory]
  exact exists_contents_of_overwrite hf hpolicy (place?_of_grows hplace hmade.grows)
    (hmade place _ hfile)

theorem not_keepsEdits_of_sameFile {f g : SourceFile} (hf : f ∈ files) (hg : g ∈ files)
    (hcreateOnly : f.policy = .createOnly) (hoverwrite : g.policy = .overwrite)
    (hsame : SameFile (Path.join directory f.path) (Path.join directory g.path)) :
    ¬ KeepsEdits directory files := by
  intro hkeeps
  obtain ⟨t, place, contents, hfplace, hgplace, hfile⟩ := hsame
  -- an edit that no delivered file has as its contents
  obtain ⟨edit, hedit⟩ := Infinite.exists_notMem_finset (files.map (·.contents)).toFinset
  obtain ⟨u, hgrows, hu⟩ := exists_edited hfile edit
  have hfplace := place?_of_grows hfplace hgrows
  have hgplace := place?_of_grows hgplace hgrows
  have hkept := hkeeps u f hf hcreateOnly _ (find?_eq_some_iff.2 ⟨place, hfplace, hu⟩)
  rw [run_deliverAll] at hkept
  obtain ⟨found, hfound, hnode⟩ := find?_eq_some_iff.1 hkept
  have hlater := place?_of_grows hfplace (grows_deliveredAll u directory files)
  obtain rfl : place = found := Option.some.inj (hlater.symm.trans hfound)
  obtain ⟨text, htext, hwritten⟩ := exists_contents_deliveredAll hg hoverwrite hgplace hu
  rw [hwritten] at hnode
  obtain rfl : text = edit := by simpa using hnode
  exact hedit (List.mem_toFinset.2 htext)

theorem keepsEdits_of_apart (hbases : BasesFirst directory files)
    (hapart : ∀ f ∈ files, ∀ g ∈ files, f.policy = .createOnly → g.policy = .overwrite →
      ¬ SameFile (Path.join directory f.path) (Path.join directory g.path)) :
    KeepsEdits directory files := by
  intro t f hf hcreateOnly node hnode
  rw [run_deliverAll]
  obtain ⟨place, hplace, hnode⟩ := find?_eq_some_iff.1 hnode
  have hgrows := grows_deliveredAll t directory files
  refine find?_eq_some_iff.2 ⟨place, place?_of_grows hplace hgrows, ?_⟩
  cases node with
  | directory => exact hgrows.directory place hnode
  | file contents =>
    have hmade := extends_makeDirectory t directory
    have hfile := hmade place _ hnode
    unfold deliveredAll
    split
    · refine (node?_foldl_delivered hbases hfile ?_ files [] (by simp)).1
      intro u hgrows g hg hoverwrite hgplace
      -- the file is still there, and now both paths lead to it
      obtain ⟨newer, hnewer⟩ := hgrows.file place contents hfile
      have hfplace := place?_of_grows hplace (hmade.grows.trans hgrows)
      exact hapart f hf g hg hcreateOnly hoverwrite ⟨u, place, newer, hfplace, hgplace, hnewer⟩
    · exact hfile

/-- Edits are kept exactly when no file that is written only once is also one that is written anew.
-/
theorem keepsEdits_iff (hbases : BasesFirst directory files) :
    KeepsEdits directory files ↔ ∀ f ∈ files, ∀ g ∈ files, f.policy = .createOnly →
      g.policy = .overwrite →
        ¬ SameFile (Path.join directory f.path) (Path.join directory g.path) := by
  constructor
  · intro hkeeps f hf g hg hcreateOnly hoverwrite hsame
    exact not_keepsEdits_of_sameFile hf hg hcreateOnly hoverwrite hsame hkeeps
  · exact keepsEdits_of_apart hbases

end FileTree

end SchemaForge
