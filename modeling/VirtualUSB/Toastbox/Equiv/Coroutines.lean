import VirtualUSB.Toastbox.Equiv.Task

/-!
# Tasks are coroutines, up to `resume` and `pause`

`scheduler` runs the same pieces in the same order as `coroutines`, which has no states `Run` and
`Wait` but a flag for each task that says whether it is active (`Coroutines.Matches`).

There are two ways in which the tasks differ from that.  A task that is resumed while it stands at a
`TaskWait` has the state `Run` when it looks at its condition; if the condition fails, it returns in
that state and `run()` takes it for one that has come to its end.  And a task that pauses itself is
made to wait by the next macro, so that it is not paused.  `Sched.Plain` excludes both, and it is
the exact condition for a step (`matches_step`) and for a run (`scheduler_matches_iff`).
-/

namespace VirtualUSB

open LabelledSystem

variable {σ L : Type*} {n : ℕ} {fns : Fin n → TaskFn σ L n} {s s' : Sched σ L n}
  {a : Coroutines σ L n} {i j : Fin n} {didWork : Bool} {point : Option L} {pc : RunPc L n}

/-! ### The relation -/

/-- The coroutine for a task. -/
def Task.Is (t : Task L) (place : Option L) (active : Bool) : Prop :=
  place = t.jmp ∧ (active = true ↔ t.state ≠ .stop)

/-- The coroutines for the tasks. -/
structure Coroutines.Matches (a : Coroutines σ L n) (s : Sched σ L n) : Prop where
  env : a.env = s.env
  pc : a.pc = s.pc
  tasks : ∀ i, (s.tasks i).Is (a.place i) (a.active i)
  /-- The task whose piece is run. -/
  running : ∀ i point didWork, s.pc = .inTask i point didWork →
    (s.tasks i).state = .run ∧ (s.tasks i).didWork = true

/-- The turn does not look at the condition of a task that has been resumed and fail, and no task
pauses itself but as the last thing that it ever does. -/
def Sched.Plain (fns : Fin n → TaskFn σ L n) (s : Sched σ L n) : Prop :=
  match s.pc with
  | .turn k _ => ∀ h : k < n, (s.tasks ⟨k, h⟩).state = .run → s.CanGoOn fns ⟨k, h⟩
  | .inTask i point _ => ((s.body fns i point).tasks i).state = .stop →
    ((fns i).code point s.env).2.2 = none ∧ ((s.body fns i point).tasks i).jmp = none
  | .idle => True

/-! ### Calls of the class -/

theorem TaskCall.apply_is {tasks : Fin n → Task L} (c : TaskCall n)
    (h : ∀ i, (tasks i).Is (a.place i) (a.active i)) (j : Fin n) :
    (c.apply tasks j).Is ((a.apply c).place j) ((a.apply c).active j) := by
  cases c with
  | start k =>
    rcases eq_or_ne j k with rfl | hne
    · simp [apply, Coroutines.apply, Task.Is, Task.start]
    · simpa only [apply, Coroutines.apply, Function.update_of_ne hne] using h j
  | pause k =>
    rcases eq_or_ne j k with rfl | hne
    · simpa [apply, Coroutines.apply, Task.Is, Task.pause] using (h j).1
    · simpa only [apply, Coroutines.apply, Function.update_of_ne hne] using h j
  | resume k =>
    rcases eq_or_ne j k with rfl | hne
    · simpa [apply, Coroutines.apply, Task.Is, Task.resume] using (h j).1
    · simpa only [apply, Coroutines.apply, Function.update_of_ne hne] using h j

theorem foldl_apply_is {tasks : Fin n → Task L} (calls : List (TaskCall n))
    (h : ∀ i, (tasks i).Is (a.place i) (a.active i)) (j : Fin n) :
    (calls.foldl TaskCall.apply tasks j).Is ((calls.foldl Coroutines.apply a).place j)
      ((calls.foldl Coroutines.apply a).active j) := by
  induction calls generalizing tasks a with
  | nil => exact h j
  | cons c calls ih => exact ih fun i => c.apply_is h i

theorem foldl_apply_env (calls : List (TaskCall n)) :
    (calls.foldl Coroutines.apply a).env = a.env := by
  induction calls generalizing a with
  | nil => rfl
  | cons c calls ih => exact ih.trans (by cases c <;> rfl)

theorem foldl_apply_ne_wait {tasks : Fin n → Task L} (calls : List (TaskCall n))
    (h : (tasks i).state ≠ .wait) : (calls.foldl TaskCall.apply tasks i).state ≠ .wait := by
  induction calls generalizing tasks with
  | nil => exact h
  | cons c calls ih =>
    refine ih ?_
    -- no call sets a state to `wait`
    cases c <;> rw [TaskCall.apply, Function.update_apply] <;> split_ifs <;>
      first | exact h | exact TaskState.noConfusion

/-! ### Steps -/

theorem Coroutines.await_true {l : L} {c : σ → Bool × σ} {worked : Bool}
    (h : (c a.env).1 = true) : a.await i l c didWork worked =
      { a with env := (c a.env).2, pc := .inTask i (some l) didWork } :=
  if_pos h

theorem Coroutines.await_false {l : L} {c : σ → Bool × σ} {worked : Bool}
    (h : (c a.env).1 = false) : a.await i l c didWork worked =
      { a with
        env := (c a.env).2
        place := Function.update a.place i (some l)
        pc := .turn (i + 1) (didWork || worked) } :=
  if_neg (ne_true_of_eq_false h)

section Turn

variable {t : Task L} {e : σ}

/-- After a turn it is enough to look at the task that had it. -/
theorem matches_turn {k : ℕ} (henv : a.env = e) (hpc : a.pc = .turn k didWork)
    (hothers : ∀ j ≠ i, (s.tasks j).Is (a.place j) (a.active j)) (hplace : a.place i = t.jmp)
    (hactive : a.active i = true ↔ t.state ≠ .stop) :
    a.Matches { s.setTask i t with env := e, pc := .turn k didWork } := by
  refine ⟨henv, hpc, fun j => ?_, fun i' point d hin => nomatch hin⟩
  rcases eq_or_ne j i with rfl | hne
  · exact (s.setTask_self j t).symm ▸ ⟨hplace, hactive⟩
  · exact (s.setTask_of_ne t hne).symm ▸ hothers j hne

theorem matches_inTask (henv : a.env = e) (hpc : a.pc = .inTask i point didWork)
    (hothers : ∀ j ≠ i, (s.tasks j).Is (a.place j) (a.active j)) (hplace : a.place i = t.jmp)
    (hactive : a.active i = true) (hstate : t.state = .run) (hwork : t.didWork = true) :
    a.Matches { s.setTask i t with env := e, pc := .inTask i point didWork } := by
  have hself : (s.setTask i t).tasks i = t := s.setTask_self i t
  refine ⟨henv, hpc, fun j => ?_, fun i' point' d hin => ?_⟩
  · rcases eq_or_ne j i with rfl | hne
    · exact hself.symm ▸ ⟨hplace, iff_of_true hactive (by rw [hstate]; nofun)⟩
    · exact (s.setTask_of_ne t hne).symm ▸ hothers j hne
  · obtain ⟨rfl, -, -⟩ := RunPc.inTask.inj hin
    exact hself.symm ▸ ⟨hstate, hwork⟩

theorem Coroutines.Matches.place_eq (h : a.Matches { s.setTask i t with env := e, pc := pc }) :
    a.place i = t.jmp := by
  have htask := (h.tasks i).1
  rwa [show ∀ t, (s.setTask i t).tasks i = t from s.setTask_self i] at htask

theorem Coroutines.Matches.active_iff (h : a.Matches { s.setTask i t with env := e, pc := pc }) :
    a.active i = true ↔ t.state ≠ .stop := by
  have htask := (h.tasks i).2
  rwa [show ∀ t, (s.setTask i t).tasks i = t from s.setTask_self i] at htask

end Turn

/-- The call of a task is the turn of the coroutine unless it finds the task resumed at a wait. -/
theorem matches_call (h : a.Matches s) (i : Fin n) (didWork : Bool) :
    (a.call fns i didWork).Matches (s.call fns i didWork) ↔
      ((s.tasks i).state = .run → s.CanGoOn fns i) := by
  obtain ⟨hplace, hactive⟩ := h.tasks i
  by_cases hstate : (s.tasks i).state = .stop
  · have hfalse : ¬ a.active i = true := fun hact => hactive.mp hact hstate
    rw [Coroutines.call, if_neg hfalse, Sched.call_stop hstate]
    refine iff_of_true (matches_turn h.env rfl (fun j _ => h.tasks j) hplace hactive) fun hrun => ?_
    rw [hstate] at hrun
    cases hrun
  · have hact : a.active i = true := hactive.mpr hstate
    rw [Coroutines.call, if_pos hact, hplace]
    cases hjmp : (s.tasks i).jmp with
    | none =>
      rw [Sched.call_begin hstate hjmp]
      exact iff_of_true (matches_inTask h.env rfl (fun j _ => h.tasks j) hplace hact rfl rfl)
        fun _ => ⟨hstate, fun l c hl => by rw [hjmp] at hl; cases hl⟩
    | some l =>
      cases hc : (fns i).cond l with
      | none =>
        rw [Sched.call_yield hstate hjmp hc]
        dsimp only
        rw [hc]
        refine iff_of_true (matches_inTask h.env rfl (fun j _ => h.tasks j) hplace hact rfl rfl)
          fun _ => ⟨hstate, fun l' c hl hc' => ?_⟩
        rw [hjmp] at hl
        rw [← Option.some.inj hl, hc] at hc'
        cases hc'
      | some c =>
        rw [Sched.call_wait hstate hjmp hc]
        dsimp only
        rw [hc]
        dsimp only
        cases hcond : (c s.env).1 with
        | true =>
          rw [Sched.await_true hcond, Coroutines.await_true (h.env ▸ hcond), h.env]
          refine iff_of_true (matches_inTask rfl rfl (fun j _ => h.tasks j) hplace hact rfl rfl)
            fun _ => ⟨hstate, fun l' c' hl hc' => ?_⟩
          obtain rfl := Option.some.inj (hjmp.symm.trans hl)
          rwa [← Option.some.inj (hc.symm.trans hc')]
        | false =>
          rw [Sched.await_false hcond, Coroutines.await_false (h.env ▸ hcond), h.env]
          cases hrun : (s.tasks i).state with
          | run =>
            refine iff_of_false (fun hm => ?_) fun hcan => ?_
            · exact hm.active_iff.mp hact (congrArg Task.state
                (Task.leave_run (t := (s.tasks i).enter.yieldAt l) hrun))
            · rw [(hcan rfl).2 l c hjmp hc] at hcond
              cases hcond
          | wait =>
            rw [Task.leave_of_ne (t := (s.tasks i).enter.yieldAt l) (hrun.trans_ne nofun)]
            refine iff_of_true (matches_turn rfl rfl (fun j hj => ?_) (Function.update_self ..)
              hactive) nofun
            show (s.tasks j).Is (Function.update a.place i (some l) j) (a.active j)
            rw [Function.update_of_ne hj]
            exact h.tasks j
          | stop => exact absurd hrun hstate

section Piece

variable {b : Coroutines σ L n} {l : L} {c : σ → Bool × σ}

/-- The end of the function: only a task that pauses itself there keeps its label. -/
theorem matches_end (henv : b.env = s.env) (htasks : ∀ j, (s.tasks j).Is (b.place j) (b.active j))
    (hne : (s.tasks i).state ≠ .wait) (hwork : (s.tasks i).didWork = true) :
    Coroutines.Matches
        { b with
          place := Function.update b.place i none
          active := Function.update b.active i false
          pc := .turn (i + 1) true } (s.leave i didWork) ↔
      ((s.tasks i).state = .stop → (s.tasks i).jmp = none) := by
  have hothers : ∀ j ≠ i, (s.tasks j).Is (Function.update b.place i none j)
      (Function.update b.active i false j) := by
    intro j hj
    rw [Function.update_of_ne hj, Function.update_of_ne hj]
    exact htasks j
  have hactive : ¬ Function.update b.active i false i = true := by
    rw [Function.update_self]
    exact Bool.false_ne_true
  rw [Sched.leave, hwork, Bool.or_true]
  cases hend : (s.tasks i).state with
  | run =>
    rw [Task.leave_run hend]
    exact iff_of_true (matches_turn henv rfl hothers (Function.update_self ..)
      (iff_of_false hactive fun h => h rfl)) TaskState.noConfusion
  | wait => exact absurd hend hne
  | stop =>
    rw [Task.leave_of_ne (hend.trans_ne TaskState.noConfusion)]
    constructor
    · intro hm _
      exact hm.place_eq.symm.trans (Function.update_self ..)
    · intro hjmp
      exact matches_turn henv rfl hothers ((Function.update_self ..).trans (hjmp rfl).symm)
        (iff_of_false hactive fun h => h hend)

theorem is_update (htasks : ∀ j, (s.tasks j).Is (b.place j) (b.active j)) (l : L) :
    ∀ j ≠ i, (s.tasks j).Is (Function.update b.place i (some l) j) (b.active j) := by
  intro j hj
  rw [Function.update_of_ne hj]
  exact htasks j

/-- A task that comes to a `TaskWait`. -/
theorem matches_await (henv : b.env = s.env)
    (htasks : ∀ j, (s.tasks j).Is (b.place j) (b.active j)) (hact : b.active i = true)
    (hwork : (s.tasks i).didWork = true) :
    (b.await i l c didWork true).Matches
      ((s.setTask i (s.tasks i).setWaiting).await i l c didWork) := by
  cases hcond : (c s.env).1 with
  | true =>
    rw [Sched.await_true hcond, Coroutines.await_true (henv ▸ hcond), henv]
    exact matches_inTask rfl rfl (fun j _ => htasks j) (htasks i).1 hact rfl rfl
  | false =>
    have hwork' : (s.tasks i).setWaiting.didWork = true := hwork
    rw [Sched.await_false hcond, Coroutines.await_false (henv ▸ hcond), henv, hwork']
    exact matches_turn rfl rfl (is_update htasks l) (Function.update_self ..)
      (iff_of_true hact nofun)

/-- A task that has paused itself and comes to a `TaskWait` is not paused any more. -/
theorem not_matches_await (hpc : b.pc = .turn (i + 1) true) (hact : b.active i = false) :
    ¬ b.Matches ((s.setTask i (s.tasks i).setWaiting).await i l c didWork) := by
  intro hm
  cases hcond : (c s.env).1 with
  | true =>
    rw [Sched.await_true hcond] at hm
    cases hpc.symm.trans hm.pc
  | false =>
    rw [Sched.await_false hcond] at hm
    exact absurd (hm.active_iff.mpr nofun) (ne_true_of_eq_false hact)

end Piece

/-- A piece is one of the coroutine unless the task pauses itself in it. -/
theorem matches_piece (h : a.Matches s) (hpc : s.pc = .inTask i point didWork) :
    (a.piece fns i point didWork).Matches (s.piece fns i point didWork) ↔
      (((s.body fns i point).tasks i).state = .stop →
        ((fns i).code point s.env).2.2 = none ∧ ((s.body fns i point).tasks i).jmp = none) := by
  obtain ⟨hstate, hwork⟩ := h.running i point didWork hpc
  -- the tasks and the coroutines before the macro
  obtain ⟨b, hb⟩ : ∃ b, ((fns i).code point s.env).2.1.foldl Coroutines.apply
      { a with env := ((fns i).code point s.env).1 } = b := ⟨_, rfl⟩
  have henv : b.env = (s.body fns i point).env := by rw [← hb, foldl_apply_env]; rfl
  have htasks : ∀ j, ((s.body fns i point).tasks j).Is (b.place j) (b.active j) := by
    intro j
    rw [← hb]
    exact foldl_apply_is (a := { a with env := ((fns i).code point s.env).1 }) _ h.tasks j
  have hwork' : ((s.body fns i point).tasks i).didWork = true :=
    (foldl_apply_didWork ..).trans hwork
  have hne : ((s.body fns i point).tasks i).state ≠ .wait :=
    foldl_apply_ne_wait _ (by rw [hstate]; nofun)
  rw [Coroutines.piece, h.env, hb]
  cases hnext : ((fns i).code point s.env).2.2 with
  | none =>
    rw [Sched.piece_end hnext]
    refine (matches_end henv htasks hne hwork').trans ?_
    exact ⟨fun hjmp hstop => ⟨rfl, hjmp hstop⟩, fun himp hstop => (himp hstop).2⟩
  | some l =>
    dsimp only
    cases hend : ((s.body fns i point).tasks i).state with
    | wait => exact absurd hend hne
    | run =>
      have hact : b.active i = true := (htasks i).2.mpr (hend.trans_ne nofun)
      refine iff_of_true ?_ nofun
      rw [hact]
      cases hc : (fns i).cond l with
      | none =>
        rw [Sched.piece_yield hnext hc, hwork', Bool.or_true]
        exact matches_turn henv rfl (is_update htasks l) (Function.update_self ..)
          (iff_of_true hact nofun)
      | some c =>
        rw [Sched.piece_wait hnext hc]
        exact matches_await henv htasks hact hwork'
    | stop =>
      have hact : b.active i = false := by
        by_contra htrue
        exact (htasks i).2.mp (eq_true_of_ne_false htrue) hend
      refine iff_of_false (fun hm => ?_) fun himp => nomatch (himp rfl).1
      rw [hact] at hm
      cases hc : (fns i).cond l with
      | none =>
        rw [Sched.piece_yield hnext hc, hwork', Bool.or_true] at hm
        exact absurd (hm.active_iff.mpr nofun) (ne_true_of_eq_false hact)
      | some c =>
        rw [Sched.piece_wait hnext hc] at hm
        exact not_matches_await (b := { b with
          place := Function.update b.place i (some l), pc := .turn (i + 1) true }) rfl hact hm

theorem Coroutines.step_turn {k : ℕ} (hpc : a.pc = .turn k didWork) (hk : k < n) :
    a.step fns = (a.call fns ⟨k, hk⟩ didWork, []) := by
  rw [step, hpc]
  exact dif_pos hk

theorem Coroutines.step_round {k : ℕ} (hpc : a.pc = .turn k didWork) (hk : ¬ k < n) :
    a.step fns = ({ a with pc := if didWork then .turn 0 false else .idle }, []) := by
  rw [step, hpc]
  exact dif_neg hk

theorem Coroutines.step_inTask (hpc : a.pc = .inTask i point didWork) :
    a.step fns = (a.piece fns i point didWork, [(i, point)]) := by
  rw [step, hpc]

theorem Coroutines.step_idle (hpc : a.pc = .idle) :
    a.step fns = ({ a with pc := .turn 0 false }, []) := by
  rw [step, hpc]

/-- Where `Task::Run` goes on without a task. -/
theorem Coroutines.Matches.move (h : a.Matches s)
    (hpc : ∀ i point didWork, pc ≠ .inTask i point didWork) :
    Coroutines.Matches { a with pc := pc } { s with pc := pc } :=
  ⟨h.env, rfl, h.tasks, fun i point didWork hin => absurd hin (hpc i point didWork)⟩

/-- **A step of the tasks is one of the coroutines** exactly if it is plain. -/
theorem matches_step (fns : Fin n → TaskFn σ L n) (h : a.Matches s) :
    (a.step fns).2 = (s.step fns).2 ∧ ((a.step fns).1.Matches (s.step fns).1 ↔ s.Plain fns) := by
  rw [Sched.Plain]
  cases hpc : s.pc with
  | turn k didWork =>
    have hpc' := h.pc.trans hpc
    by_cases hk : k < n
    · rw [Sched.step_turn hpc hk, Coroutines.step_turn hpc' hk]
      refine ⟨rfl, (matches_call h ⟨k, hk⟩ didWork).trans ⟨fun hcan _ => hcan, fun hcan => hcan hk⟩⟩
    · rw [Sched.step_round hpc hk, Coroutines.step_round hpc' hk]
      refine ⟨rfl, iff_of_true (h.move fun i point d => ?_) fun hk' => absurd hk' hk⟩
      cases didWork <;> nofun
  | inTask i point didWork =>
    rw [Sched.step_inTask hpc, Coroutines.step_inTask (h.pc.trans hpc)]
    exact ⟨rfl, matches_piece h hpc⟩
  | idle =>
    rw [Sched.step_idle hpc, Coroutines.step_idle (h.pc.trans hpc)]
    exact ⟨rfl, iff_of_true (h.move nofun) trivial⟩

/-! ### Runs -/

/-- **The tasks are coroutines** at every moment of a run exactly if all its steps are plain. -/
theorem scheduler_matches_iff {env : σ} {is : List Unit} {evs : List (Fin n × Option L)}
    (h : (scheduler fns env).Run is s evs) :
    (∀ is₁ s₁ evs₁, is₁ <+: is → (scheduler fns env).Run is₁ s₁ evs₁ →
      ∃ a₁, (coroutines fns env).Run is₁ a₁ evs₁ ∧ a₁.Matches s₁) ↔
      (scheduler fns env).RunWhere (fun s _ => s.Plain fns) (scheduler fns env).init is s evs := by
  have hinit : (coroutines fns env).init.Matches (scheduler fns env).init :=
    ⟨rfl, rfl, fun _ => ⟨rfl, iff_of_true rfl nofun⟩, nofun⟩
  refine RunWhere.lockstep_iff (R := fun s a => Coroutines.Matches a s) hinit
    (fun s a _ s' evs hm hs => ?_) h
  obtain ⟨hevs, hiff⟩ := matches_step fns hm
  rw [Option.some.inj hs] at hevs hiff
  exact ⟨_, congrArg some (Prod.ext rfl hevs), hiff⟩

/-! ### A run that is plain -/

theorem Sched.canGoOn_iff : s.CanGoOn fns i ↔ (s.tasks i).state ≠ .stop ∧
    (((s.tasks i).jmp.bind (fns i).cond).all fun c => (c s.env).1) = true := by
  rw [CanGoOn]
  refine and_congr_right fun _ => ?_
  cases (s.tasks i).jmp with
  | none => simp
  | some l =>
    rw [Option.bind_some, Option.all_eq_true]
    exact ⟨fun h c => h l c rfl, fun h l' c hl => Option.some.inj hl ▸ h c⟩

instance : Decidable (s.CanGoOn fns i) :=
  decidable_of_iff _ Sched.canGoOn_iff.symm

instance : Decidable (s.Plain fns) :=
  match hpc : s.pc with
  | .turn k _ =>
    decidable_of_iff (∀ h : k < n, (s.tasks ⟨k, h⟩).state = .run → s.CanGoOn fns ⟨k, h⟩)
      (by rw [Sched.Plain, hpc])
  | .inTask i point _ =>
    decidable_of_iff (((s.body fns i point).tasks i).state = .stop →
      ((fns i).code point s.env).2.2 = none ∧ ((s.body fns i point).tasks i).jmp = none)
      (by rw [Sched.Plain, hpc])
  | .idle => .isTrue (by rw [Sched.Plain, hpc]; trivial)

theorem threeRounds_plain : (scheduler makeAndTake 0).meets (fun s _ => s.Plain makeAndTake)
    (scheduler makeAndTake 0).init threeRounds = true := by
  decide

/-- The task that is paused and resumed goes on like a coroutine. -/
theorem scheduler_matches_iff_threeRounds :
    ∃ a, (coroutines makeAndTake 0).Run threeRounds a
        (((scheduler makeAndTake 0).exec threeRounds).get threeRounds_isSome).2 ∧
      a.Matches (((scheduler makeAndTake 0).exec threeRounds).get threeRounds_isSome).1 := by
  have hrun := run_exec_get threeRounds_isSome
  have hplain := runWhere_of_execFrom (Option.some_get threeRounds_isSome).symm threeRounds_plain
  exact (scheduler_matches_iff hrun).mpr hplain _ _ _ List.prefix_rfl hrun

end VirtualUSB
