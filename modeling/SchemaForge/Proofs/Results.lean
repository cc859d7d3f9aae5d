import Mathlib.Data.List.Forall2
import Mathlib.Order.Bounds.Basic
import SchemaForge.Fault

namespace SchemaForge

/-! # Results of fallible steps

How a computation that can fail comes to its result: a sequence of two steps, a list of steps made
one after the other, checks of the members of a list against those before them, and steps whose
faults are told as part of an activity. A list of steps gives the results of all of them, or the
fault of the first that fails; where all that can go wrong is listed in the order of the steps, that
is the first fault in the list.
-/

section Steps

variable {ε α β : Type}

/-! ## Sequences -/

theorem bind_eq_ok_iff {x : Except ε α} {f : α → Except ε β} {b : β} :
    x >>= f = .ok b ↔ ∃ a, x = .ok a ∧ f a = .ok b := by
  cases x <;> simp [bind, Except.bind]

theorem bind_eq_error_iff {x : Except ε α} {f : α → Except ε β} {e : ε} :
    x >>= f = .error e ↔ x = .error e ∨ ∃ a, x = .ok a ∧ f a = .error e := by
  cases x <;> simp [bind, Except.bind]

/-- Where something is made of the result of a step, it is made when the step succeeds. -/
theorem bind_pure_eq_ok_iff {x : Except ε α} {f : α → β} {b : β} :
    (x >>= fun a => pure (f a)) = .ok b ↔ ∃ a, x = .ok a ∧ f a = b := by
  cases x <;> simp [bind, Except.bind, pure, Except.pure]

theorem bind_pure_eq_error_iff {x : Except ε α} {f : α → β} {e : ε} :
    (x >>= fun a => pure (f a)) = .error e ↔ x = .error e := by
  cases x <;> simp [bind, Except.bind, pure, Except.pure]

/-- A result is a success or a failure. -/
theorem exists_ok_or_error (x : Except ε α) : (∃ a, x = .ok a) ∨ ∃ e, x = .error e := by
  cases x with
  | ok a => exact .inl ⟨a, rfl⟩
  | error e => exact .inr ⟨e, rfl⟩

/-! ## Lists of steps -/

/-- A list of steps succeeds with the results of its steps. -/
theorem mapM_eq_ok_iff {f : α → Except ε β} {xs : List α} {ys : List β} :
    xs.mapM f = .ok ys ↔ List.Forall₂ (fun x y => f x = .ok y) xs ys := by
  induction xs generalizing ys with
  | nil => cases ys <;> simp [pure, Except.pure]
  | cons x xs ih =>
    rw [List.mapM_cons, bind_eq_ok_iff]
    simp only [bind_eq_ok_iff, List.forall₂_cons_left_iff, ih]
    constructor
    · rintro ⟨y, hy, rest, hrest, h⟩
      have hys : y :: rest = ys := by simpa [pure, Except.pure] using h
      exact ⟨y, rest, hy, hrest, hys.symm⟩
    · rintro ⟨y, rest, hy, hrest, rfl⟩
      exact ⟨y, hy, rest, hrest, rfl⟩

/-- What is made of a member of the list is among the results. -/
theorem exists_of_mem_left {R : α → β → Prop} {xs : List α} {ys : List β}
    (h : List.Forall₂ R xs ys) : ∀ x ∈ xs, ∃ y ∈ ys, R x y := by
  induction h with
  | nil => simp
  | cons hxy _ ih =>
    intro x hx
    rcases List.mem_cons.1 hx with rfl | hx
    · exact ⟨_, List.mem_cons_self, hxy⟩
    · obtain ⟨y, hy, hR⟩ := ih x hx
      exact ⟨y, List.mem_cons_of_mem _ hy, hR⟩

/-- Every result is made of a member of the list. -/
theorem exists_of_mem_right {R : α → β → Prop} {xs : List α} {ys : List β}
    (h : List.Forall₂ R xs ys) : ∀ y ∈ ys, ∃ x ∈ xs, R x y :=
  exists_of_mem_left h.flip

/-- Where every member of a list is observed on something that the other list has for it, the list
is the observed one. -/
theorem forall₂_exists_eq_iff {γ : Type} {R : α → γ → Prop} {observed : γ → β} {xs : List α}
    {ys : List β} :
    List.Forall₂ (fun x y => ∃ z, R x z ∧ y = observed z) xs ys ↔
      ∃ zs, List.Forall₂ R xs zs ∧ ys = zs.map observed := by
  induction xs generalizing ys with
  | nil =>
    simp only [List.forall₂_nil_left_iff]
    constructor
    · rintro rfl
      exact ⟨[], rfl, rfl⟩
    · rintro ⟨-, rfl, rfl⟩
      rfl
  | cons x xs ih =>
    simp only [List.forall₂_cons_left_iff, ih]
    constructor
    · rintro ⟨-, -, ⟨z, hz, rfl⟩, ⟨zs, hzs, rfl⟩, rfl⟩
      exact ⟨z :: zs, ⟨z, zs, hz, hzs, rfl⟩, rfl⟩
    · rintro ⟨-, ⟨z, zs, hz, hzs, rfl⟩, rfl⟩
      exact ⟨_, _, ⟨z, hz, rfl⟩, ⟨zs, hzs, rfl⟩, rfl⟩

/-- A list of steps fails with the first of its steps that fails. -/
theorem mapM_eq_error_iff {f : α → Except ε β} {xs : List α} {e : ε} :
    xs.mapM f = .error e ↔ ∃ before x after,
      xs = before ++ x :: after ∧ (∀ y ∈ before, ∃ b, f y = .ok b) ∧ f x = .error e := by
  induction xs with
  | nil => simp [pure, Except.pure]
  | cons x xs ih =>
    -- the first step fails, or it does not and one of the others is the first that does
    rw [List.mapM_cons, bind_eq_error_iff]
    constructor
    · rintro (hx | ⟨y, hy, hrest⟩)
      · exact ⟨[], x, xs, rfl, by simp, hx⟩
      · have hxs : xs.mapM f = .error e := by
          rcases bind_eq_error_iff.1 hrest with h | ⟨ys, -, h⟩
          · exact h
          · simp [pure, Except.pure] at h
        obtain ⟨before, z, after, rfl, hbefore, hz⟩ := ih.1 hxs
        refine ⟨x :: before, z, after, rfl, ?_, hz⟩
        intro w hw
        rcases List.mem_cons.1 hw with rfl | hw
        · exact ⟨y, hy⟩
        · exact hbefore w hw
    · rintro ⟨before, z, after, hsplit, hbefore, hz⟩
      cases before with
      | nil =>
        obtain ⟨rfl, rfl⟩ := List.cons_eq_cons.1 hsplit
        exact .inl hz
      | cons w before =>
        obtain ⟨rfl, rfl⟩ := List.cons_eq_cons.1 hsplit
        obtain ⟨b, hb⟩ := hbefore x List.mem_cons_self
        have hxs : (before ++ z :: after).mapM f = .error e :=
          ih.2 ⟨before, z, after, rfl, fun y hy => hbefore y (List.mem_cons_of_mem x hy), hz⟩
        exact .inr ⟨b, hb, bind_eq_error_iff.2 (.inl hxs)⟩

/-- A list of steps succeeds when each of its steps does. -/
theorem exists_mapM_eq_ok_iff {f : α → Except ε β} {xs : List α} :
    (∃ ys, xs.mapM f = .ok ys) ↔ ∀ x ∈ xs, ∃ y, f x = .ok y := by
  constructor
  · rintro ⟨ys, h⟩ x hx
    obtain ⟨y, -, hy⟩ := exists_of_mem_left (mapM_eq_ok_iff.1 h) x hx
    exact ⟨y, hy⟩
  · intro h
    rcases exists_ok_or_error (xs.mapM f) with hok | ⟨e, he⟩
    · exact hok
    -- the first step that failed would be one of those that succeed
    · obtain ⟨before, x, after, rfl, -, hx⟩ := mapM_eq_error_iff.1 he
      obtain ⟨y, hy⟩ := h x (by simp)
      rw [hy] at hx
      cases hx

/-- Steps with known results give the list of these. -/
theorem mapM_eq_ok_map {f : α → Except ε β} {g : α → β} {xs : List α}
    (h : ∀ x ∈ xs, f x = .ok (g x)) : xs.mapM f = .ok (xs.map g) := by
  rw [mapM_eq_ok_iff, List.forall₂_map_right_iff, List.forall₂_same]
  exact h

/-- Steps that leave everything as it is leave the list as it is. -/
theorem mapM_eq_ok_self {f : α → Except ε α} {xs : List α} (h : ∀ x ∈ xs, f x = .ok x) :
    xs.mapM f = .ok xs := by
  simpa using mapM_eq_ok_map h

/-- What the results of a list of steps have in common with what they are made of. -/
theorem map_eq_of_mapM_eq_ok {γ : Type} {f : α → Except ε β} {xs : List α} {ys : List β}
    (h : xs.mapM f = .ok ys) (observed : β → γ) (known : α → γ)
    (same : ∀ x y, f x = .ok y → observed y = known x) : ys.map observed = xs.map known := by
  have hsteps := mapM_eq_ok_iff.1 h
  induction hsteps with
  | nil => rfl
  | cons hxy hrest ih =>
    rw [List.map_cons, List.map_cons, same _ _ hxy, ih (mapM_eq_ok_iff.2 hrest)]

/-- Leaving out steps leaves out their results. -/
theorem mapM_filter_of_mapM {f : α → Except ε β} {xs : List α} {ys : List β}
    (h : xs.mapM f = .ok ys) (kept : α → Bool) (keptResult : β → Bool)
    (same : ∀ x y, f x = .ok y → keptResult y = kept x) :
    (xs.filter kept).mapM f = .ok (ys.filter keptResult) := by
  rw [mapM_eq_ok_iff] at h ⊢
  induction h with
  | nil => exact .nil
  | @cons x y xs ys hxy _ ih =>
    rw [List.filter_cons, List.filter_cons, same x y hxy]
    split
    · exact .cons hxy ih
    · exact ih

/-- A relation that holds between everything and itself holds between lists that differ in related
members. -/
theorem forall₂_replace {R : α → α → Prop} (hrefl : ∀ x, R x x) {x y : α} (hxy : R x y)
    (before after : List α) : List.Forall₂ R (before ++ x :: after) (before ++ y :: after) :=
  List.rel_append (List.forall₂_same.2 fun z _ => hrefl z)
    (.cons hxy (List.forall₂_same.2 fun z _ => hrefl z))

/-- Steps that come to the same for each member of two lists do so for the lists. -/
theorem mapM_congr_of_forall₂ {f g : α → Except ε β} {xs ys : List α}
    (h : List.Forall₂ (fun x y => f x = g y) xs ys) : xs.mapM f = ys.mapM g := by
  induction h with
  | nil => rfl
  | cons hxy _ ih => rw [List.mapM_cons, List.mapM_cons, hxy, ih]

/-- Steps that succeed with the same results for each member of two lists do so for the lists. -/
theorem mapM_eq_ok_of_forall₂ {f : α → Except ε β} {xs ys : List α}
    (h : List.Forall₂ (fun x y => ∀ z, f x = .ok z → f y = .ok z) xs ys) {zs : List β}
    (hzs : xs.mapM f = .ok zs) : ys.mapM f = .ok zs := by
  rw [mapM_eq_ok_iff] at hzs ⊢
  induction h generalizing zs with
  | nil => exact hzs
  | cons hxy _ ih =>
    obtain ⟨z, others, hz, hothers, rfl⟩ := List.forall₂_cons_left_iff.1 hzs
    exact .cons (hxy z hz) (ih hothers)

/-- Steps in another order give their results in that order. -/
theorem mapM_swap {f : α → Except ε β} {start rest : List α} {x y : α} {zs : List β}
    (h : (start ++ x :: y :: rest).mapM f = .ok zs) : ∃ first u v last,
      zs = first ++ u :: v :: last ∧ f x = .ok u ∧ f y = .ok v
        ∧ (start ++ y :: x :: rest).mapM f = .ok (first ++ v :: u :: last) := by
  simp only [mapM_eq_ok_iff] at h ⊢
  induction start generalizing zs with
  | nil =>
    obtain ⟨u, others, hu, hothers, rfl⟩ := List.forall₂_cons_left_iff.1 h
    obtain ⟨v, last, hv, hlast, rfl⟩ := List.forall₂_cons_left_iff.1 hothers
    exact ⟨[], u, v, last, rfl, hu, hv, .cons hv (.cons hu hlast)⟩
  | cons w start ih =>
    obtain ⟨z, others, hz, hothers, rfl⟩ := List.forall₂_cons_left_iff.1 h
    obtain ⟨first, u, v, last, rfl, hu, hv, hswapped⟩ := ih hothers
    exact ⟨z :: first, u, v, last, rfl, hu, hv, .cons hz hswapped⟩

/-! ## Checks

A check is a step without a result.
-/

theorem exists_check_eq_ok_iff {x : Except ε Unit} : (∃ u, x = .ok u) ↔ x = .ok () :=
  ⟨fun ⟨_, h⟩ => h, fun h => ⟨(), h⟩⟩

theorem check_bind_eq_ok_iff {x : Except ε Unit} {y : Except ε β} {b : β} :
    (x >>= fun _ => y) = .ok b ↔ x = .ok () ∧ y = .ok b := by
  cases x <;> simp [bind, Except.bind]

theorem check_bind_eq_error_iff {x : Except ε Unit} {y : Except ε β} {e : ε} :
    (x >>= fun _ => y) = .error e ↔ x = .error e ∨ x = .ok () ∧ y = .error e := by
  cases x <;> simp [bind, Except.bind]

/-- A list of checks fails where the list of the same steps does. -/
theorem forM_eq_map_mapM (f : α → Except ε Unit) (xs : List α) :
    xs.forM f = (xs.mapM f).map fun _ => () := by
  induction xs with
  | nil => rfl
  | cons x xs ih =>
    rw [List.forM_eq_forM] at ih ⊢
    rw [List.forM_cons, List.mapM_cons, ih]
    cases f x with
    | error e => rfl
    | ok u =>
      simp only [bind, Except.bind]
      cases xs.mapM f <;> rfl

theorem forM_eq_ok_iff {f : α → Except ε Unit} {xs : List α} :
    xs.forM f = .ok () ↔ ∀ x ∈ xs, f x = .ok () := by
  have hsteps : xs.forM f = .ok () ↔ ∃ us, xs.mapM f = .ok us := by
    rw [forM_eq_map_mapM]
    cases xs.mapM f <;> simp [Except.map]
  rw [hsteps, exists_mapM_eq_ok_iff]
  simp only [exists_check_eq_ok_iff]

/-- A list of checks fails with the first of them that fails. -/
theorem forM_eq_error_iff {f : α → Except ε Unit} {xs : List α} {e : ε} :
    xs.forM f = .error e ↔ ∃ before x after,
      xs = before ++ x :: after ∧ (∀ y ∈ before, f y = .ok ()) ∧ f x = .error e := by
  have hsteps : xs.forM f = .error e ↔ xs.mapM f = .error e := by
    rw [forM_eq_map_mapM]
    cases xs.mapM f <;> simp [Except.map]
  rw [hsteps, mapM_eq_error_iff]
  simp only [exists_check_eq_ok_iff]

/-- Checks the members of a list one after the other, each against those before it. -/
def checkEach (check : List α → α → Except ε Unit) (before : List α) : List α → Except ε Unit
  | [] => .ok ()
  | x :: xs => do
    check before x
    checkEach check (before ++ [x]) xs

/-- The checks succeed when each member passes against all before it. -/
theorem checkEach_eq_ok_iff {check : List α → α → Except ε Unit} {before xs : List α} :
    checkEach check before xs = .ok () ↔
      ∀ passed x after, xs = passed ++ x :: after → check (before ++ passed) x = .ok () := by
  induction xs generalizing before with
  | nil => simp [checkEach]
  | cons x xs ih =>
    simp only [checkEach, check_bind_eq_ok_iff, ih]
    constructor
    · rintro ⟨hx, hxs⟩ passed y after hsplit
      cases passed with
      | nil =>
        obtain ⟨rfl, -⟩ := List.cons_eq_cons.1 hsplit
        simpa using hx
      | cons z passed =>
        obtain ⟨rfl, hrest⟩ := List.cons_eq_cons.1 hsplit
        simpa using hxs passed y after hrest
    · intro h
      refine ⟨by simpa using h [] x xs rfl, ?_⟩
      rintro passed y after rfl
      simpa using h (x :: passed) y after rfl

/-- The checks fail with the first member that does not pass against those before it. -/
theorem checkEach_eq_error_iff {check : List α → α → Except ε Unit} {before xs : List α} {e : ε} :
    checkEach check before xs = .error e ↔ ∃ passed x after, xs = passed ++ x :: after
      ∧ checkEach check before passed = .ok () ∧ check (before ++ passed) x = .error e := by
  induction xs generalizing before with
  | nil => simp [checkEach]
  | cons x xs ih =>
    simp only [checkEach, check_bind_eq_error_iff, ih]
    constructor
    · rintro (hx | ⟨hx, passed, y, after, rfl, hpassed, hy⟩)
      · exact ⟨[], x, xs, rfl, rfl, by simpa using hx⟩
      · refine ⟨x :: passed, y, after, rfl, ?_, by simpa using hy⟩
        exact check_bind_eq_ok_iff.2 ⟨hx, hpassed⟩
    · rintro ⟨passed, y, after, hsplit, hpassed, hy⟩
      cases passed with
      | nil =>
        obtain ⟨rfl, rfl⟩ := List.cons_eq_cons.1 hsplit
        exact .inl (by simpa using hy)
      | cons z passed =>
        obtain ⟨rfl, rfl⟩ := List.cons_eq_cons.1 hsplit
        obtain ⟨hx, hpassed⟩ := check_bind_eq_ok_iff.1 hpassed
        exact .inr ⟨hx, passed, y, after, rfl, hpassed, by simpa using hy⟩

/-- The checks of a second list go on behind those of the first. -/
theorem checkEach_append (check : List α → α → Except ε Unit) (before xs ys : List α) :
    checkEach check before (xs ++ ys) =
      (checkEach check before xs >>= fun _ => checkEach check (before ++ xs) ys) := by
  induction xs generalizing before with
  | nil => simp [checkEach, bind, Except.bind]
  | cons x xs ih =>
    rw [List.cons_append, checkEach, checkEach, ih, List.append_assoc, List.singleton_append]
    cases check before x <;> rfl

/-- The checks fail with the last member of the shortest beginning of the list that does not pass.
-/
theorem checkEach_eq_error_iff_isLeast {check : List α → α → Except ε Unit} {xs : List α} {e : ε} :
    checkEach check [] xs = .error e ↔ ∃ i x, xs[i]? = some x
      ∧ IsLeast {j | checkEach check [] (xs.take (j + 1)) ≠ .ok ()} i
      ∧ check (xs.take i) x = .error e := by
  rw [checkEach_eq_error_iff]
  constructor
  · rintro ⟨passed, x, after, rfl, hpassed, hx⟩
    have htake : (passed ++ x :: after).take passed.length = passed := List.take_left
    refine ⟨passed.length, x, by simp, ⟨?_, ?_⟩, by rwa [htake]⟩
    · have hlast : (passed ++ x :: after).take (passed.length + 1) = passed ++ [x] := by
        rw [List.take_length_add_append, List.take_succ_cons, List.take_zero]
      rw [Set.mem_ofPred_eq, hlast, checkEach_append, hpassed]
      intro hok
      have hxok : checkEach check passed [x] = .ok () := hok
      rw [checkEach, check_bind_eq_ok_iff, ← List.nil_append passed, hx] at hxok
      cases hxok.1
    · intro j hj
      by_contra hlt
      apply hj
      -- what is shorter is a beginning of the members that have passed
      have hshorter : (passed ++ x :: after).take (j + 1) = passed.take (j + 1) :=
        List.take_append_of_le_length (by omega)
      rw [← List.take_append_drop (j + 1) passed, checkEach_append, check_bind_eq_ok_iff] at hpassed
      rw [hshorter]
      exact hpassed.1
  · rintro ⟨i, x, hget, ⟨-, hleast⟩, hx⟩
    obtain ⟨hlt, rfl⟩ := List.getElem?_eq_some_iff.1 hget
    refine ⟨xs.take i, xs[i], xs.drop (i + 1), ?_, ?_, hx⟩
    · rw [← List.drop_eq_getElem_cons hlt, List.take_append_drop]
    · cases i with
      | zero => rfl
      | succ k =>
        by_contra hfails
        have hle : k + 1 ≤ k := hleast hfails
        omega

/-- Members are pairwise related when each is related to all before it. -/
theorem pairwise_iff_forall_split {R : α → α → Prop} {xs : List α} :
    xs.Pairwise R ↔ ∀ before x after, xs = before ++ x :: after → ∀ y ∈ before, R y x := by
  constructor
  · rintro h before x after rfl y hy
    exact (List.pairwise_append.1 h).2.2 y hy x List.mem_cons_self
  · induction xs with
    | nil => simp
    | cons z xs ih =>
      intro h
      refine List.pairwise_cons.2 ⟨fun x hx => ?_, ih ?_⟩
      · obtain ⟨before, after, rfl⟩ := List.append_of_mem hx
        exact h (z :: before) x after rfl z List.mem_cons_self
      · rintro before x after rfl y hy
        exact h (z :: before) x after rfl y (List.mem_cons_of_mem z hy)

/-! ## The first of several faults -/

/-- Holds for a result that is the first of these faults, or a success when there are none. -/
def FailsFirst (x : Except ε α) (faults : List ε) : Prop :=
  match x with
  | .ok _ => faults = []
  | .error e => faults.head? = some e

namespace FailsFirst

theorem ok (a : α) : FailsFirst (.ok a : Except ε α) [] :=
  rfl

theorem error (e : ε) : FailsFirst (.error e : Except ε α) [e] :=
  rfl

/-- The faults of a second step come behind those of the first. -/
theorem bind {x : Except ε α} {f : α → Except ε β} {faults others : List ε}
    (hx : FailsFirst x faults) (hf : ∀ a, x = .ok a → FailsFirst (f a) others) :
    FailsFirst (x >>= f) (faults ++ others) := by
  cases x with
  | ok a =>
    obtain rfl : faults = [] := hx
    exact hf a rfl
  | error e =>
    have hhead : faults.head? = some e := hx
    change (faults ++ others).head? = some e
    rw [List.head?_append, hhead, Option.some_or]

/-- The faults of a list of steps are those of its steps one after the other. -/
theorem mapM {f : α → Except ε β} {faults : α → List ε} {xs : List α}
    (h : ∀ x ∈ xs, FailsFirst (f x) (faults x)) : FailsFirst (xs.mapM f) (xs.flatMap faults) := by
  induction xs with
  | nil => exact ok []
  | cons x xs ih =>
    rw [List.forall_mem_cons] at h
    rw [List.mapM_cons, List.flatMap_cons]
    refine h.1.bind fun y _ => ?_
    have hrest := (ih h.2).bind fun ys _ => ok (ε := ε) (y :: ys)
    rwa [List.append_nil] at hrest

theorem eq_error_iff {x : Except ε α} {faults : List ε} (h : FailsFirst x faults) {e : ε} :
    x = .error e ↔ faults.head? = some e := by
  cases x with
  | ok a =>
    obtain rfl : faults = [] := h
    simp
  | error found =>
    have hhead : faults.head? = some found := h
    simp [hhead]

theorem exists_ok_iff {x : Except ε α} {faults : List ε} (h : FailsFirst x faults) :
    (∃ a, x = .ok a) ↔ faults = [] := by
  cases x with
  | ok a => exact ⟨fun _ => h, fun _ => ⟨a, rfl⟩⟩
  | error e =>
    have hhead : faults.head? = some e := h
    constructor
    · rintro ⟨a, ha⟩
      cases ha
    · rintro rfl
      cases hhead

end FailsFirst

end Steps

/-! ## Faults and activities -/

section Activities

variable {α : Type}

theorem failing_eq_ok_iff {x : Except Fault α} {a : α} : failing x = .ok a ↔ x = .ok a := by
  cases x <;> simp [failing]

theorem failing_eq_error_iff {x : Except Fault α} {f : Failure} :
    failing x = .error f ↔ ∃ fault, x = .error fault ∧ f = { fault } := by
  cases x <;> simp [failing, eq_comm]

theorem during_eq_ok_iff {activity : Activity} {x : Except Failure α} {a : α} :
    during activity x = .ok a ↔ x = .ok a := by
  cases x <;> simp [during]

theorem during_eq_error_iff {activity : Activity} {x : Except Failure α} {f : Failure} :
    during activity x = .error f ↔
      ∃ g, x = .error g ∧ f = { g with activities := activity :: g.activities } := by
  cases x <;> simp [during, eq_comm]

end Activities

end SchemaForge
