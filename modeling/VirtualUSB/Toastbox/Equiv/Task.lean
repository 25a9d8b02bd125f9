import VirtualUSB.Toastbox.Task

/-!
# `Task::Run` rests only when no task can go on

A task can go on (`Sched.CanGoOn`) if it is not stopped and does not stand at a `TaskWait` whose
condition fails.  If conditions that fail change nothing (`TaskFn.Quiet`), then

* whenever `Task::Run` leaves its inner loop, every task is stopped or waits for a condition that
  fails, and no piece is ever run again (`scheduler_idle`);
* from the beginning of a round on, a piece is run again exactly if some task can go on
  (`scheduler_works_iff`).

The first needs that the round that found no work has evaluated all conditions in one and the same
state: a call that does no work changes nothing that is shared (`call_of_not_canGoOn`).
-/

namespace VirtualUSB

open LabelledSystem

variable {σ L : Type*} {n : ℕ} {fns : Fin n → TaskFn σ L n} {s s' : Sched σ L n} {i j : Fin n}
  {didWork : Bool} {point : Option L}

/-! ### What calls of the class change -/

theorem TaskCall.apply_didWork (tasks : Fin n → Task L) (c : TaskCall n) (j : Fin n) :
    (c.apply tasks j).didWork = (tasks j).didWork := by
  cases c <;> rw [apply, Function.update_apply] <;> split_ifs with h <;> first | rfl | rw [h]; rfl

theorem foldl_apply_didWork (tasks : Fin n → Task L) (calls : List (TaskCall n)) (j : Fin n) :
    (calls.foldl TaskCall.apply tasks j).didWork = (tasks j).didWork := by
  induction calls generalizing tasks with
  | nil => rfl
  | cons c calls ih => rw [List.foldl_cons, ih, c.apply_didWork]

theorem Task.leave_run {t : Task L} (h : t.state = .run) :
    t.leave = { t with state := .stop, jmp := none } := by
  rw [leave, h]

theorem Task.leave_of_ne {t : Task L} (h : t.state ≠ .run) : t.leave = t := by
  rw [leave]
  split
  · contradiction
  · rfl

namespace Sched

theorem setTask_self (s : Sched σ L n) (i : Fin n) (t : Task L) : (s.setTask i t).tasks i = t :=
  Function.update_self ..

theorem setTask_of_ne (s : Sched σ L n) (t : Task L) (h : j ≠ i) :
    (s.setTask i t).tasks j = s.tasks j :=
  Function.update_of_ne h ..

theorem setTask_setTask (s : Sched σ L n) (i : Fin n) (t t' : Task L) :
    (s.setTask i t).setTask i t' = s.setTask i t' := by
  rw [setTask, setTask, setTask, Function.update_idem]

theorem leave_setTask (s : Sched σ L n) (i : Fin n) (t : Task L) (didWork : Bool) :
    (s.setTask i t).leave i didWork =
      { s.setTask i t.leave with pc := .turn (i + 1) (didWork || t.didWork) } := by
  rw [leave, setTask_setTask, setTask_self]

theorem goOn_setTask (s : Sched σ L n) (i : Fin n) (t : Task L) :
    (s.setTask i t).goOn i point didWork =
      { s.setTask i t.setRunning with pc := .inTask i point didWork } := by
  rw [goOn, setTask_setTask, setTask_self]

theorem await_true {t : Task L} {l : L} {c : σ → Bool × σ} (h : (c s.env).1 = true) :
    (s.setTask i t).await i l c didWork =
      { s.setTask i t.setRunning with env := (c s.env).2, pc := .inTask i (some l) didWork } :=
  (if_pos h).trans (goOn_setTask { s with env := (c s.env).2 } i t)

theorem await_false {t : Task L} {l : L} {c : σ → Bool × σ} (h : (c s.env).1 = false) :
    (s.setTask i t).await i l c didWork =
      { s.setTask i (t.yieldAt l).leave with
        env := (c s.env).2, pc := .turn (i + 1) (didWork || t.didWork) } := by
  have hneg : ¬ (c (s.setTask i t).env).1 = true := ne_true_of_eq_false h
  rw [await, if_neg hneg]
  refine (congrArg (Sched.leave · i didWork) ?_).trans
    (leave_setTask { s with env := (c s.env).2 } i (t.yieldAt l) didWork)
  exact (congrArg _ (congrArg (Task.yieldAt · l) (setTask_self ..))).trans
    (setTask_setTask { s with env := (c s.env).2 } i t (t.yieldAt l))

/-! ### The call of a task -/

theorem call_stop (h : (s.tasks i).state = .stop) : s.call fns i didWork =
    { s.setTask i (s.tasks i).enter with pc := .turn (i + 1) didWork } := by
  have hleave : (s.tasks i).enter.leave = (s.tasks i).enter :=
    Task.leave_of_ne (h.trans_ne nofun)
  rw [call, h]
  refine (leave_setTask ..).trans ?_
  rw [hleave, show (s.tasks i).enter.didWork = false from rfl, Bool.or_false]

theorem call_begin (h : (s.tasks i).state ≠ .stop) (hjmp : (s.tasks i).jmp = none) :
    s.call fns i didWork = { s.setTask i (s.tasks i).enter.setRunning with
      pc := .inTask i none didWork } := by
  rw [call, hjmp]
  split
  · contradiction
  · exact goOn_setTask ..

theorem call_yield {l : L} (h : (s.tasks i).state ≠ .stop) (hjmp : (s.tasks i).jmp = some l)
    (hc : (fns i).cond l = none) : s.call fns i didWork =
      { s.setTask i (s.tasks i).enter.setRunning with pc := .inTask i (some l) didWork } := by
  rw [call, hjmp]
  split
  · contradiction
  · dsimp only
    rw [hc]
    exact goOn_setTask ..

theorem call_wait {l : L} {c : σ → Bool × σ} (h : (s.tasks i).state ≠ .stop)
    (hjmp : (s.tasks i).jmp = some l) (hc : (fns i).cond l = some c) :
    s.call fns i didWork = (s.setTask i (s.tasks i).enter).await i l c didWork := by
  rw [call, hjmp]
  split
  · contradiction
  · dsimp only
    rw [hc]

/-! ### Tasks that can go on -/

/-- The task would run a piece of its function if it were called now. -/
def CanGoOn (fns : Fin n → TaskFn σ L n) (s : Sched σ L n) (i : Fin n) : Prop :=
  (s.tasks i).state ≠ .stop ∧ ∀ l c, (s.tasks i).jmp = some l → (fns i).cond l = some c →
    (c s.env).1 = true

/-- The task is stopped or waits for a condition that fails. -/
def Blocked (fns : Fin n → TaskFn σ L n) (s : Sched σ L n) (i : Fin n) : Prop :=
  (s.tasks i).state = .stop ∨ (s.tasks i).state = .wait ∧ ∃ l c, (s.tasks i).jmp = some l ∧
    (fns i).cond l = some c ∧ (c s.env).1 = false

theorem Blocked.not_canGoOn (h : s.Blocked fns i) : ¬ s.CanGoOn fns i := by
  rintro ⟨hstate, hcond⟩
  rcases h with hstop | ⟨-, l, c, hjmp, hc, hfalse⟩
  · exact hstate hstop
  · rw [hcond l c hjmp hc] at hfalse
    cases hfalse

theorem CanGoOn.congr (h : s.CanGoOn fns i) (htask : s'.tasks i = s.tasks i)
    (henv : s'.env = s.env) : s'.CanGoOn fns i := by
  rw [CanGoOn, htask, henv]
  exact h

theorem Blocked.congr (h : s.Blocked fns i) (htask : s'.tasks i = s.tasks i)
    (henv : s'.env = s.env) : s'.Blocked fns i := by
  rw [Blocked, htask, henv]
  exact h

theorem call_of_canGoOn (h : s.CanGoOn fns i) (didWork : Bool) :
    ∃ point, (s.call fns i didWork).pc = .inTask i point didWork ∧
      ((s.call fns i didWork).tasks i).didWork = true := by
  obtain ⟨hstate, hcond⟩ := h
  cases hjmp : (s.tasks i).jmp with
  | none =>
    rw [call_begin hstate hjmp]
    exact ⟨none, rfl, congrArg Task.didWork (setTask_self ..)⟩
  | some l =>
    cases hc : (fns i).cond l with
    | none =>
      rw [call_yield hstate hjmp hc]
      exact ⟨some l, rfl, congrArg Task.didWork (setTask_self ..)⟩
    | some c =>
      rw [call_wait hstate hjmp hc, await_true (hcond l c hjmp hc)]
      exact ⟨some l, rfl, congrArg Task.didWork (setTask_self ..)⟩

end Sched

/-- Conditions that fail change nothing. -/
def TaskFn.Quiet (fn : TaskFn σ L n) : Prop :=
  ∀ l c env, fn.cond l = some c → (c env).1 = false → (c env).2 = env

namespace Sched

/-- **A call that does no work**: nothing but the task is changed, and it is blocked afterwards. -/
theorem call_of_not_canGoOn (hquiet : (fns i).Quiet) (h : ¬ s.CanGoOn fns i) (didWork : Bool) :
    (s.call fns i didWork).pc = .turn (i + 1) didWork ∧ (s.call fns i didWork).env = s.env ∧
      (∀ j ≠ i, (s.call fns i didWork).tasks j = s.tasks j) ∧
      (s.call fns i didWork).Blocked fns i := by
  by_cases hstate : (s.tasks i).state = .stop
  · rw [call_stop hstate]
    refine ⟨rfl, rfl, fun j hj => setTask_of_ne _ _ hj, .inl ?_⟩
    exact (congrArg Task.state (setTask_self ..)).trans hstate
  · obtain ⟨l, c, hjmp, hc, hfalse⟩ : ∃ l c, (s.tasks i).jmp = some l ∧ (fns i).cond l = some c ∧
        (c s.env).1 = false := by
      by_contra hnone
      refine h ⟨hstate, fun l c hjmp hc => ?_⟩
      by_contra hfalse
      exact hnone ⟨l, c, hjmp, hc, eq_false_of_ne_true hfalse⟩
    have henv : (c s.env).2 = s.env := hquiet l c s.env hc hfalse
    rw [call_wait hstate hjmp hc, await_false hfalse, henv]
    refine ⟨congrArg _ (Bool.or_false _), rfl, fun j hj => setTask_of_ne _ _ hj, ?_⟩
    rw [Blocked, show ∀ t, (s.setTask i t).tasks i = t from setTask_self s i]
    -- a task that has been resumed is stopped, one that waits goes on waiting
    cases hrun : (s.tasks i).state with
    | run => exact .inl (congrArg Task.state
        (Task.leave_run (t := (s.tasks i).enter.yieldAt l) hrun))
    | wait =>
      rw [Task.leave_of_ne (t := (s.tasks i).enter.yieldAt l) (hrun.trans_ne nofun)]
      exact .inr ⟨hrun, l, c, rfl, hc, hfalse⟩
    | stop => exact absurd hrun hstate

/-! ### A piece -/

theorem piece_end (h : ((fns i).code point s.env).2.2 = none) :
    s.piece fns i point didWork = (s.body fns i point).leave i didWork := by
  rw [piece, h]

theorem piece_yield {l : L} (h : ((fns i).code point s.env).2.2 = some l)
    (hc : (fns i).cond l = none) : s.piece fns i point didWork =
      { (s.body fns i point).setTask i (((s.body fns i point).tasks i).setWaiting.yieldAt l) with
        pc := .turn (i + 1) (didWork || ((s.body fns i point).tasks i).didWork) } := by
  rw [piece, h]
  dsimp only
  rw [hc]
  dsimp only
  rw [setTask_self, setTask_setTask, leave_setTask]
  rfl

theorem piece_wait {l : L} {c : σ → Bool × σ} (h : ((fns i).code point s.env).2.2 = some l)
    (hc : (fns i).cond l = some c) : s.piece fns i point didWork =
      ((s.body fns i point).setTask i ((s.body fns i point).tasks i).setWaiting).await i l c
        didWork := by
  rw [piece, h]
  dsimp only
  rw [hc]

/-- A piece is work. -/
theorem piece_worked (fns : Fin n → TaskFn σ L n) (h : (s.tasks i).didWork = true) :
    (s.piece fns i point didWork).pc = .turn (i + 1) true ∨
      ∃ l, (s.piece fns i point didWork).pc = .inTask i (some l) didWork ∧
        ((s.piece fns i point didWork).tasks i).didWork = true := by
  have hbody : ((s.body fns i point).tasks i).didWork = true :=
    (foldl_apply_didWork ..).trans h
  have htrue : (didWork || ((s.body fns i point).tasks i).didWork) = true := by
    rw [hbody, Bool.or_true]
  cases hnext : ((fns i).code point s.env).2.2 with
  | none =>
    rw [piece_end hnext]
    exact .inl (congrArg _ htrue)
  | some l =>
    cases hc : (fns i).cond l with
    | none =>
      rw [piece_yield hnext hc]
      exact .inl (congrArg _ htrue)
    | some c =>
      rw [piece_wait hnext hc]
      cases hcond : (c (s.body fns i point).env).1 with
      | false =>
        rw [await_false hcond]
        exact .inl (congrArg _ htrue)
      | true =>
        rw [await_true hcond]
        exact .inr ⟨l, rfl, congrArg Task.didWork (setTask_self ..)⟩

/-! ### Steps -/

theorem step_turn {k : ℕ} (hpc : s.pc = .turn k didWork) (hk : k < n) :
    s.step fns = (s.call fns ⟨k, hk⟩ didWork, []) := by
  rw [step, hpc]
  exact dif_pos hk

theorem step_round {k : ℕ} (hpc : s.pc = .turn k didWork) (hk : ¬ k < n) :
    s.step fns = ({ s with pc := if didWork then .turn 0 false else .idle }, []) := by
  rw [step, hpc]
  exact dif_neg hk

theorem step_inTask (hpc : s.pc = .inTask i point didWork) :
    s.step fns = (s.piece fns i point didWork, [(i, point)]) := by
  rw [step, hpc]

theorem step_idle (hpc : s.pc = .idle) : s.step fns = ({ s with pc := .turn 0 false }, []) := by
  rw [step, hpc]

/-! ### Rounds -/

/-- What holds within a round: as long as it has found no work, the tasks that have had their turn
are blocked. -/
def Rests (fns : Fin n → TaskFn σ L n) (s : Sched σ L n) : Prop :=
  match s.pc with
  | .turn k didWork => didWork = false → ∀ j : Fin n, j < k → s.Blocked fns j
  | .inTask i _ _ => (s.tasks i).didWork = true
  | .idle => ∀ j, s.Blocked fns j

theorem rests_turn {k : ℕ} (hpc : s.pc = .turn k didWork) :
    s.Rests fns ↔ (didWork = false → ∀ j : Fin n, j < k → s.Blocked fns j) := by
  rw [Rests, hpc]

theorem rests_inTask (hpc : s.pc = .inTask i point didWork) :
    s.Rests fns ↔ (s.tasks i).didWork = true := by
  rw [Rests, hpc]

theorem rests_idle (hpc : s.pc = .idle) : s.Rests fns ↔ ∀ j, s.Blocked fns j := by
  rw [Rests, hpc]

theorem Rests.step (hquiet : ∀ i, (fns i).Quiet) (h : s.Rests fns) : (s.step fns).1.Rests fns := by
  cases hpc : s.pc with
  | turn k didWork =>
    rw [rests_turn hpc] at h
    by_cases hk : k < n
    · rw [step_turn hpc hk]
      by_cases hcan : s.CanGoOn fns ⟨k, hk⟩
      · obtain ⟨point, hpc', hwork⟩ := call_of_canGoOn hcan didWork
        exact (rests_inTask hpc').mpr hwork
      · obtain ⟨hpc', henv, htasks, hblocked⟩ := call_of_not_canGoOn (hquiet _) hcan didWork
        refine (rests_turn hpc').mpr fun hwork j hj => ?_
        rcases Nat.lt_succ_iff_lt_or_eq.mp hj with hlt | rfl
        · exact (h hwork j hlt).congr (htasks j (Fin.ne_of_lt hlt)) henv
        · exact hblocked
    · rw [step_round hpc hk]
      cases didWork with
      | true => exact (rests_turn rfl).mpr fun _ j hj => absurd hj (Nat.not_lt_zero _)
      | false => exact (rests_idle rfl).mpr fun j => h rfl j (j.isLt.trans_le (Nat.not_lt.mp hk))
  | inTask i point didWork =>
    rw [rests_inTask hpc] at h
    rw [step_inTask hpc]
    rcases piece_worked fns h with hpc' | ⟨l, hpc', hwork⟩
    · exact (rests_turn hpc').mpr nofun
    · exact (rests_inTask hpc').mpr hwork
  | idle =>
    rw [step_idle hpc]
    exact (rests_turn rfl).mpr fun _ j hj => absurd hj (Nat.not_lt_zero _)

/-- No task can go on, and none is in a piece. -/
structure Over (fns : Fin n → TaskFn σ L n) (s : Sched σ L n) : Prop where
  cannot : ∀ i, ¬ s.CanGoOn fns i
  outside : ∀ i point didWork, s.pc ≠ .inTask i point didWork

theorem Over.step (hquiet : ∀ i, (fns i).Quiet) (h : s.Over fns) :
    (s.step fns).1.Over fns ∧ (s.step fns).1.env = s.env ∧ (s.step fns).2 = [] := by
  cases hpc : s.pc with
  | turn k didWork =>
    by_cases hk : k < n
    · obtain ⟨hpc', henv, htasks, hblocked⟩ :=
        call_of_not_canGoOn (hquiet _) (h.cannot ⟨k, hk⟩) didWork
      rw [step_turn hpc hk]
      refine ⟨⟨fun i hi => ?_, fun i point d hin => ?_⟩, henv, rfl⟩
      · rcases eq_or_ne i ⟨k, hk⟩ with rfl | hne
        · exact hblocked.not_canGoOn hi
        · exact h.cannot i (hi.congr (htasks i hne).symm henv.symm)
      · cases hpc'.symm.trans hin
    · rw [step_round hpc hk]
      refine ⟨⟨h.cannot, fun i point d hin => ?_⟩, rfl, rfl⟩
      cases didWork <;> cases hin
  | inTask i point didWork => exact absurd hpc (h.outside i point didWork)
  | idle =>
    rw [step_idle hpc]
    exact ⟨⟨h.cannot, fun i point d hin => nomatch hin⟩, rfl, rfl⟩

end Sched

/-! ### Runs -/

variable {env : σ} {is : List Unit} {evs : List (Fin n × Option L)}

theorem over_of_run (hquiet : ∀ i, (fns i).Quiet) (hs : s.Over fns)
    (h : (scheduler fns env).RunFrom s is s' evs) : evs = [] ∧ s'.env = s.env := by
  refine (h.invariant (P := fun s' evs => s'.Over fns ∧ evs = [] ∧ s'.env = s.env)
    ⟨hs, rfl, rfl⟩ fun s' evs _ s'' os ⟨hover, hevs, henv⟩ _ hstep => ?_).2
  obtain ⟨hover', henv', hnil⟩ := hover.step hquiet
  rw [Option.some.inj hstep] at hover' henv' hnil
  exact ⟨hover', List.append_eq_nil_iff.mpr ⟨hevs, hnil⟩, henv'.trans henv⟩

/-- **The scheduler rests only when nobody can go on**: behind a round that has found no work, every
task is stopped or waits for a condition that fails, and no piece is ever run again. -/
theorem scheduler_idle (hquiet : ∀ i, (fns i).Quiet) (hs : s.pc = .turn 0 false)
    (h : (scheduler fns env).RunFrom s is s' evs) (hs' : s'.pc = .idle) :
    (∀ i, s'.Blocked fns i) ∧ ∀ is' s'' evs', (scheduler fns env).RunFrom s' is' s'' evs' →
      evs' = [] ∧ s''.env = s'.env := by
  have hrests : s'.Rests fns := by
    refine h.state_invariant (P := fun s => s.Rests fns) ?_ fun s _ s' os hrests _ hstep => ?_
    · exact (Sched.rests_turn hs).mpr fun _ j hj => absurd hj (Nat.not_lt_zero _)
    · have hnext := hrests.step hquiet
      rwa [Option.some.inj hstep] at hnext
  have hblocked := (Sched.rests_idle hs').mp hrests
  refine ⟨hblocked, fun is' s'' evs' hrun => over_of_run hquiet ⟨fun i => (hblocked i).not_canGoOn,
    fun i point d hpc => ?_⟩ hrun⟩
  cases hs'.symm.trans hpc

/-- The first task makes two items and lets the second one go on only when it has made both; the
second one waits for items and takes them. -/
def makeAndTake : Fin 2 → TaskFn ℕ Unit 2
  | 0 =>
    { cond := fun _ => none
      code := fun point items =>
        match point with
        | none => (items + 1, [.pause 1], some ())
        | some _ => (items + 1, [.resume 1], none) }
  | 1 =>
    { cond := fun _ => some fun items => (decide (0 < items), items)
      code := fun point items =>
        match point with
        | none => (items, [], some ())
        | some _ => (items - 1, [], some ()) }

theorem makeAndTake_quiet : ∀ i, (makeAndTake i).Quiet := by
  intro i l c items hc _
  match i with
  | 0 => cases hc
  | 1 => rw [← Option.some.inj hc]

/-- Three rounds, of which the last one finds no work. -/
def threeRounds : List Unit := List.replicate 14 ()

theorem threeRounds_isSome : ((scheduler makeAndTake 0).exec threeRounds).isSome = true := by
  decide

theorem scheduler_idle_threeRounds :
    Sched.Blocked makeAndTake
        (((scheduler makeAndTake 0).exec threeRounds).get threeRounds_isSome).1 0 ∧
      Sched.Blocked makeAndTake
        (((scheduler makeAndTake 0).exec threeRounds).get threeRounds_isSome).1 1 := by
  have hblocked := (scheduler_idle makeAndTake_quiet rfl (run_exec_get threeRounds_isSome) rfl).1
  exact ⟨hblocked 0, hblocked 1⟩

theorem exists_piece_of_turn {k : ℕ} (hpc : s.pc = .turn k didWork) (hk : k < n)
    (hcan : s.CanGoOn fns ⟨k, hk⟩) :
    ∃ is s' evs, (scheduler fns env).RunFrom s is s' evs ∧ evs ≠ [] := by
  obtain ⟨point, hpc', -⟩ := Sched.call_of_canGoOn hcan didWork
  have hcall : (scheduler fns env).RunFrom s [()] (s.call fns ⟨k, hk⟩ didWork) [] :=
    .single trivial (congrArg some (Sched.step_turn hpc hk))
  exact ⟨_, _, _, hcall.snoc (i := ()) trivial (congrArg some (Sched.step_inTask hpc')), nofun⟩

/-- The turns up to that of a task that can go on. -/
theorem exists_piece (hquiet : ∀ i, (fns i).Quiet) {k m : ℕ} (hpc : s.pc = .turn k didWork)
    (hi : i.val = k + m) (hcan : s.CanGoOn fns i) :
    ∃ is s' evs, (scheduler fns env).RunFrom s is s' evs ∧ evs ≠ [] := by
  induction m generalizing s k with
  | zero =>
    obtain rfl : i.val = k := hi
    exact exists_piece_of_turn hpc i.isLt hcan
  | succ m ih =>
    have hk : k < n := by omega
    by_cases hcan' : s.CanGoOn fns ⟨k, hk⟩
    · exact exists_piece_of_turn hpc hk hcan'
    · obtain ⟨hpc', henv, htasks, -⟩ := Sched.call_of_not_canGoOn (hquiet _) hcan' didWork
      have hne : i ≠ ⟨k, hk⟩ := fun heq => by rw [heq] at hi; simp at hi
      obtain ⟨is, s', evs, hrun, hevs⟩ :=
        ih hpc' (show i.val = k + 1 + m by omega) (hcan.congr (htasks i hne) henv)
      have hcall : (scheduler fns env).RunFrom s [()] (s.call fns ⟨k, hk⟩ didWork) [] :=
        .single trivial (congrArg some (Sched.step_turn hpc hk))
      exact ⟨_, s', evs, hcall.trans hrun, hevs⟩

/-- **Work is found exactly if there is some**: from the beginning of a round on, a piece is run
again exactly if some task can go on. -/
theorem scheduler_works_iff (hquiet : ∀ i, (fns i).Quiet) (hs : s.pc = .turn 0 false) :
    (∃ is s' evs, (scheduler fns env).RunFrom s is s' evs ∧ evs ≠ []) ↔ ∃ i, s.CanGoOn fns i := by
  constructor
  · rintro ⟨is, s', evs, hrun, hne⟩
    by_contra hnone
    refine hne (over_of_run hquiet ⟨fun i hi => hnone ⟨i, hi⟩, fun i point d hpc => ?_⟩ hrun).1
    cases hs.symm.trans hpc
  · rintro ⟨i, hi⟩
    exact exists_piece hquiet hs (Nat.zero_add _).symm hi

theorem scheduler_works_iff_makeAndTake :
    ∃ is s' evs, (scheduler makeAndTake 0).RunFrom { env := 0 } is s' evs ∧ evs ≠ [] :=
  (scheduler_works_iff makeAndTake_quiet rfl).mpr ⟨0, nofun, nofun⟩

end VirtualUSB
