import VirtualUSB.Device.Equiv.Handlers

/-!
# What the critical sections do

* `DevStep` lists what a critical section can do, and `step_spec` says that it does nothing else.
* `Dev.Wf` is the invariant of the queues: only IN transfers of an endpoint wait in its deque, and
  no request waits while data is available.
* `run_induction` is the induction over runs that the properties of the device are proved by.
* `readCmds_run`: the loop of `read()` is a sequence of `handle` steps.
-/

namespace VirtualUSB

open Endian Handler LabelledSystem

variable {info : Info} {c : Cmd} {d d' : Dev} {e : EpIdx}

/-! ### The queue invariant -/

/-- The invariant of the queues between critical sections. -/
structure Dev.Wf (d : Dev) : Prop where
  /-- Only IN transfers of the endpoint wait in its deque. -/
  inTransfer : ∀ e, ∀ c ∈ d.inCmds e, isInTransfer e c = true
  /-- No request waits while data is available. -/
  matched : ∀ e, d.inCmds e = [] ∨ d.inData e = []

theorem isInTransfer.submit (h : isInTransfer e c = true) :
    c.command = usbipCmdSubmit ∧ c.direction = usbipDirIn := by
  simp only [isInTransfer, Bool.and_eq_true, beq_iff_eq] at h
  exact ⟨h.1.1.1, h.1.1.2⟩

theorem isInTransfer.epIdx (h : isInTransfer e c = true) : epIdxOf c = some e := by
  simp only [isInTransfer, Bool.and_eq_true, beq_iff_eq] at h
  exact h.2

theorem isInTransfer.not_standard (h : isInTransfer e c = true) : isStandard c = false := by
  simp only [isInTransfer, Bool.and_eq_true, Bool.not_eq_true'] at h
  exact h.1.2

/-- A command waits in the deque of one endpoint only. -/
theorem isInTransfer.unique {e' : EpIdx} (h : isInTransfer e c = true)
    (h' : isInTransfer e' c = true) : e = e' := by
  have he := isInTransfer.epIdx h
  rw [isInTransfer.epIdx h'] at he
  exact (Option.some.inj he).symm

theorem Dev.Wf.inSubmits (h : d.Wf) (e : EpIdx) : InSubmits (d.inCmds e) :=
  fun c hc => isInTransfer.submit (h.inTransfer e c hc)

/-! ### What a critical section can do -/

/-- The effects of the critical sections and the events they emit. -/
inductive DevStep (info : Info) (d : Dev) : Op → Dev → Event → Prop
  | arrive (c : Cmd) : DevStep info d (.arrive c) { d with cmds := d.cmds ++ [c] } (.arrived c)
  | handle {c : Cmd} {cs : List Cmd} {d' : Dev} {x : Option Xfer} (herr : d.err = none)
      (hcmds : d.cmds = c :: cs) (h : Handled info c { d with cmds := cs } d' x) :
      DevStep info d .handle d' (.handled c (unlinkTarget d c) x)
  | reject {c : Cmd} {cs : List Cmd} {e : Err} (herr : d.err = none) (hcmds : d.cmds = c :: cs)
      (hrun : (handleCmd info c).run { d with cmds := cs }
        = (.error (.thrown e), { d with cmds := cs })) :
      DevStep info d .handle { d with cmds := cs, err := some e } (.rejected c e)
  | write {ep : UInt8} {data : List UInt8} (herr : d.err = none) :
      DevStep info d (.write ep data) ((d.pushData (writeIdx ep) data).drained (writeIdx ep))
        (.wrote (writeIdx ep) data)
  | refuse {ep : UInt8} {data : List UInt8} (herr : d.err.isSome = true) :
      DevStep info d (.write ep data) d (.refused (writeIdx ep) data)
  | dequeue {r : Rep} {rs : List Rep} (herr : d.err = none) (hreps : d.reps = r :: rs) :
      DevStep info d .dequeue { d with reps := rs } (.dequeued r)
  | fail (e : Err) : DevStep info d (.fail e) (d.fail e) (.failed e)

theorem writeData_run (hwf : d.Wf) (e : EpIdx) (data : List UInt8) :
    (writeData e data).run d = (.ok (), (d.pushData e data).drained e) := by
  rw [writeData, run_bind_modify]
  exact sendDataForInEndpoint_run _ (hwf.inSubmits e)

/-- Handling the front command does not fail an assertion: it succeeds or it throws. -/
theorem handleStep_cases (info : Info) (hwf : d.Wf) (c : Cmd) (cs : List Cmd) :
    (∃ x d', (handleCmd info c).run { d with cmds := cs } = (.ok x, d') ∧
        Handled info c { d with cmds := cs } d' x ∧
        handleStep info d c cs = some (d', [.handled c (unlinkTarget d c) x])) ∨
      ∃ e, (handleCmd info c).run { d with cmds := cs }
          = (.error (.thrown e), { d with cmds := cs }) ∧
        handleStep info d c cs = some (Dev.fail { d with cmds := cs } e, [.rejected c e]) := by
  have hspec := handleCmd_spec info c { d with cmds := cs } (fun e => hwf.inSubmits e)
  unfold Handler.Spec at hspec
  split at hspec
  · rename_i x d' hrun
    exact Or.inl ⟨x, d', hrun, hspec, by rw [handleStep, hrun]⟩
  · rename_i e d' hrun
    rw [hspec] at hrun
    exact Or.inr ⟨e, hrun, by rw [handleStep, hrun]⟩
  · exact hspec.elim

theorem Dev.step_handle {cs : List Cmd} (herr : d.err = none) (hcmds : d.cmds = c :: cs) :
    d.step info .handle = handleStep info d c cs := by
  rw [Dev.step, herr, hcmds]

theorem Dev.step_dequeue {r : Rep} {rs : List Rep} (herr : d.err = none)
    (hreps : d.reps = r :: rs) :
    d.step info .dequeue = some ({ d with reps := rs }, [.dequeued r]) := by
  simp only [Dev.step, herr, hreps]

/-- **What a critical section does**: on a state that meets the queue invariant it does one of the
things `DevStep` lists. -/
theorem step_spec (hwf : d.Wf) {op : Op} {evs : List Event}
    (h : d.step info op = some (d', evs)) : ∃ ev, evs = [ev] ∧ DevStep info d op d' ev := by
  cases op with
  | arrive c =>
    obtain ⟨rfl, rfl⟩ := by simpa [Dev.step] using h
    exact ⟨_, rfl, .arrive c⟩
  | handle =>
    rw [Dev.step] at h
    split at h
    · rename_i c cs herr hcmds
      rcases handleStep_cases info hwf c cs with ⟨x, d₁, -, hh, hs⟩ | ⟨err, hrun, hs⟩
      · rw [hs] at h
        obtain ⟨rfl, rfl⟩ := by simpa using h
        exact ⟨_, rfl, .handle herr hcmds hh⟩
      · rw [hs, Dev.fail, herr] at h
        obtain ⟨rfl, rfl⟩ := by simpa using h
        exact ⟨_, rfl, .reject herr hcmds hrun⟩
    · cases h
  | write ep data =>
    rw [Dev.step] at h
    split at h
    · unfold writeStep at h
      split at h
      · rename_i herr
        obtain ⟨rfl, rfl⟩ := by simpa using h
        exact ⟨_, rfl, .refuse herr⟩
      · rename_i herr
        rw [writeData_run hwf] at h
        obtain ⟨rfl, rfl⟩ := by simpa using h
        exact ⟨_, rfl, .write (by simpa using herr)⟩
    · cases h
  | dequeue =>
    rw [Dev.step] at h
    split at h
    · rename_i r rs herr hreps
      obtain ⟨rfl, rfl⟩ := by simpa using h
      exact ⟨_, rfl, .dequeue herr hreps⟩
    · cases h
  | fail err =>
    obtain ⟨rfl, rfl⟩ := by simpa [Dev.step] using h
    exact ⟨_, rfl, .fail err⟩

/-- Handling a command changes neither the error nor the commands that still have to be taken. -/
theorem Handled.err_cmds {x : Option Xfer} (h : Handled info c d d' x) :
    d'.err = d.err ∧ d'.cmds = d.cmds := by
  cases h <;> exact ⟨rfl, rfl⟩

/-! ### The queue invariant holds of every run -/

@[simp] theorem Dev.fail_configDesc (d : Dev) (err : Err) :
    (d.fail err).configDesc = d.configDesc := by
  unfold Dev.fail; split_ifs <;> rfl

@[simp] theorem Dev.fail_cmds (d : Dev) (err : Err) : (d.fail err).cmds = d.cmds := by
  unfold Dev.fail; split_ifs <;> rfl

@[simp] theorem Dev.fail_reps (d : Dev) (err : Err) : (d.fail err).reps = d.reps := by
  unfold Dev.fail; split_ifs <;> rfl

@[simp] theorem Dev.fail_inCmds (d : Dev) (err : Err) : (d.fail err).inCmds = d.inCmds := by
  unfold Dev.fail; split_ifs <;> rfl

@[simp] theorem Dev.fail_inData (d : Dev) (err : Err) : (d.fail err).inData = d.inData := by
  unfold Dev.fail; split_ifs <;> rfl

@[simp] theorem Dev.fail_statuses (d : Dev) (err : Err) : (d.fail err).statuses = d.statuses := by
  unfold Dev.fail
  split_ifs <;> rfl

@[simp] theorem Dev.fail_history (d : Dev) (err : Err) : (d.fail err).history = d.history := by
  unfold Dev.fail; split_ifs <;> rfl

theorem Dev.Wf.init : ({} : Dev).Wf where
  inTransfer := by simp
  matched := by simp

/-- The invariant speaks of the deques only. -/
theorem Dev.Wf.congr (hwf : d.Wf) (hcmds : d'.inCmds = d.inCmds) (hdata : d'.inData = d.inData) :
    d'.Wf where
  inTransfer := by rw [hcmds]; exact hwf.inTransfer
  matched := by rw [hcmds, hdata]; exact hwf.matched

/-- The commands that wait after draining waited before. -/
theorem mem_drained_inCmds {e' : EpIdx} (h : c ∈ (d.drained e).inCmds e') :
    c ∈ d.inCmds e' := by
  by_cases he : e' = e
  · subst he
    rw [Dev.drained_inCmds_self, GreedyMatch.drain_requests] at h
    exact List.mem_of_mem_drop h
  · rwa [Dev.drained_inCmds_of_ne he] at h

/-- Draining an endpoint leaves the others alone and re-establishes the invariant of its own. -/
theorem Dev.Wf.drained (hin : ∀ e', ∀ c ∈ d.inCmds e', isInTransfer e' c = true)
    (hmatched : ∀ e', e' ≠ e → d.inCmds e' = [] ∨ d.inData e' = []) : (d.drained e).Wf where
  inTransfer e' c hc := hin e' c (mem_drained_inCmds hc)
  matched e' := by
    by_cases he : e' = e
    · subst he
      rw [Dev.drained_inCmds_self, Dev.drained_inData_self]
      exact GreedyMatch.drain_left_or_right serve (d.inCmds e') (d.inData e')
    · rw [Dev.drained_inCmds_of_ne he, Dev.drained_inData_of_ne he]
      exact hmatched e' he

/-- The commands that wait after an UNLINK waited before. -/
theorem mem_eraseInCmd {f : EpIdx → List Cmd} {n : UInt32} (h : c ∈ (eraseInCmd f n).2 e) :
    c ∈ f e := by
  unfold eraseInCmd at h
  split at h
  · rename_i e' he'
    by_cases hee : e = e'
    · subst hee
      exact List.mem_of_mem_eraseP (by simpa using h)
    · simpa [setDeque_of_ne _ _ hee] using h
  · exact h

/-- UNLINK preserves the queue invariant. -/
theorem Dev.Wf.eraseInCmd (hwf : d.Wf) (n : UInt32) :
    Dev.Wf { d with inCmds := (eraseInCmd d.inCmds n).2 } where
  inTransfer e c hc := hwf.inTransfer e c (mem_eraseInCmd hc)
  matched e := by
    rcases hwf.matched e with hnil | hnil
    · exact Or.inl (List.eq_nil_iff_forall_not_mem.mpr fun c hc =>
        List.not_mem_nil (hnil ▸ mem_eraseInCmd hc))
    · exact Or.inr hnil

theorem Handled.wf {x : Option Xfer} (hwf : d.Wf) (h : Handled info c d d' x) : d'.Wf := by
  cases h with
  | standard => exact hwf.congr rfl rfl
  | out => exact hwf.congr rfl rfl
  | @inTransfer e hin =>
    refine .drained (fun e' c' hc' => ?_) (fun e' he => ?_)
    · by_cases he : e' = e
      · subst he
        exact Dev.forall_mem_pushCmd (hwf.inTransfer e') hin c' hc'
      · rw [Dev.pushCmd_inCmds_of_ne he] at hc'
        exact hwf.inTransfer e' c' hc'
    · rw [Dev.pushCmd_inCmds_of_ne he]
      exact hwf.matched e'
  | unlink => exact (hwf.eraseInCmd _).congr rfl rfl

/-- Every critical section preserves the queue invariant. -/
theorem DevStep.wf {op : Op} {ev : Event} (hwf : d.Wf) (h : DevStep info d op d' ev) : d'.Wf := by
  cases h with
  | arrive => exact hwf.congr rfl rfl
  | @handle c cs _ _ _ _ hh =>
    have hwf' : Dev.Wf { d with cmds := cs } := hwf.congr rfl rfl
    exact hh.wf hwf'
  | reject => exact hwf.congr rfl rfl
  | write =>
    refine .drained hwf.inTransfer fun e' he => ?_
    rw [Dev.pushData_inData_of_ne he]
    exact hwf.matched e'
  | refuse => exact hwf
  | dequeue => exact hwf.congr rfl rfl
  | fail => exact hwf.congr (Dev.fail_inCmds ..) (Dev.fail_inData ..)

/-! ### Induction over runs -/

variable {ok : Dev → Op → Prop} {is : List Op} {evs : List Event}

/-- **Induction over the runs of the device**: a property of the state and the events holds in
every run if it holds at the start and every critical section preserves it. -/
theorem run_induction {d₀ : Dev} {P : Dev → List Event → Prop} (hwf : d₀.Wf) (hinit : P d₀ [])
    (hstep : ∀ d evs op d' ev, d.Wf → P d evs → ok d op → DevStep info d op d' ev →
      P d' (evs ++ [ev]))
    (h : (device info).RunWhere ok d₀ is d evs) : d.Wf ∧ P d evs := by
  refine h.invariant (P := fun d evs => d.Wf ∧ P d evs) ⟨hwf, hinit⟩ ?_
  rintro d evs op d' evs' ⟨hwf, hP⟩ hok hs
  obtain ⟨ev, rfl, hd⟩ := step_spec hwf hs
  exact ⟨hd.wf hwf, hstep d evs op d' ev hwf hP hok hd⟩

/-- The queue invariant holds in every reachable state. -/
theorem wf_of_run {d₀ : Dev} (hwf : d₀.Wf) (h : (device info).RunWhere ok d₀ is d evs) : d.Wf :=
  (run_induction (P := fun _ _ => True) hwf trivial (fun _ _ _ _ _ _ _ _ _ => trivial) h).1

/-- A single critical section only adds to the history. -/
theorem DevStep.history_isPrefix {op : Op} {ev : Event} (h : DevStep info d op d' ev) :
    d.history <+: d'.history := by
  cases h with
  | handle _ _ hh => cases hh <;> exact List.prefix_append _ _
  | write => exact List.prefix_append _ _
  | fail => rw [Dev.fail_history]
  | _ => exact List.prefix_rfl

/-- Replies stay in the history. -/
theorem history_isPrefix_of_run {d₀ : Dev} (hwf : d₀.Wf)
    (h : (device info).RunWhere ok d₀ is d evs) : d₀.history <+: d.history :=
  (run_induction (P := fun d _ => d₀.history <+: d.history) hwf List.prefix_rfl
    (fun _ _ _ _ _ _ hP _ hs => hP.trans hs.history_isPrefix) h).2

/-- The replies the device gives to a command. -/
inductive Answer (info : Info) (c : Cmd) : Rep → Prop
  | standard {cfg cfg' : Option ConfigDescPtr} {rep : Rep} {status : Int32}
      (hc : c.command = usbipCmdSubmit) (hstd : isStandard c = true)
      (hans : StandardAnswer info c cfg cfg' rep status) :
      Answer info c rep
  | out (hc : c.command = usbipCmdSubmit) (hstd : isStandard c = false)
      (hdir : c.direction = usbipDirOut) : Answer info c (retSubmit c [] c.payloadLen)
  | inTransfer {e : EpIdx} (hin : isInTransfer e c = true) (x : Data) :
      Answer info c (serve c x).1.2
  | unlink (hc : c.command = usbipCmdUnlink) (found : Bool) :
      Answer info c (retUnlink c (if found then -econnreset else 0))

@[simp] theorem repCommand_retSubmit (c : Cmd) (p : List UInt8) (n : ℕ) :
    repCommand (retSubmit c p n) = usbipRetSubmit := hfbU32_bfhU32 _

@[simp] theorem repSeqnum_retSubmit (c : Cmd) (p : List UInt8) (n : ℕ) :
    repSeqnum (retSubmit c p n) = c.seqnum := hfbU32_bfhU32 _

@[simp] theorem repCommand_retUnlink (c : Cmd) (status : Int32) :
    repCommand (retUnlink c status) = usbipRetUnlink := hfbU32_bfhU32 _

@[simp] theorem repSeqnum_retUnlink (c : Cmd) (status : Int32) :
    repSeqnum (retUnlink c status) = c.seqnum := hfbU32_bfhU32 _

@[simp] theorem repUnlinkStatus_retUnlink (c : Cmd) (status : Int32) :
    repUnlinkStatus (retUnlink c status) = status := by
  simp [repUnlinkStatus, retUnlink]

/-- A SUBMIT is answered by a RET_SUBMIT, an UNLINK by a RET_UNLINK. -/
theorem Answer.repCommand {r : Rep} (h : Answer info c r) :
    c.command = usbipCmdSubmit ∧ VirtualUSB.repCommand r = usbipRetSubmit ∨
      c.command = usbipCmdUnlink ∧ VirtualUSB.repCommand r = usbipRetUnlink := by
  cases h with
  | standard hc _ hans => cases hans <;> exact Or.inl ⟨hc, repCommand_retSubmit ..⟩
  | out hc => exact Or.inl ⟨hc, repCommand_retSubmit ..⟩
  | inTransfer hin => exact Or.inl ⟨(isInTransfer.submit hin).1, repCommand_retSubmit ..⟩
  | unlink hc => exact Or.inr ⟨hc, repCommand_retUnlink ..⟩

/-- A reply carries the number of its command. -/
theorem Answer.repSeqnum {r : Rep} (h : Answer info c r) :
    VirtualUSB.repSeqnum r = c.seqnum := by
  cases h with
  | standard _ _ hans => cases hans <;> exact repSeqnum_retSubmit ..
  | out => exact repSeqnum_retSubmit ..
  | inTransfer => exact repSeqnum_retSubmit ..
  | unlink => exact repSeqnum_retUnlink ..

/-- The answers of the matcher. -/
theorem answer_of_mem_drain {xs : List Data} {cs : List Cmd}
    (hcs : ∀ c ∈ cs, isInTransfer e c = true) :
    ∀ p ∈ (GreedyMatch.drain serve cs xs).1, Answer info p.1 p.2 :=
  GreedyMatch.forall_mem_drain (P := fun c => isInTransfer e c = true)
    (fun _ x hc => .inTransfer hc x) hcs xs

/-- What a single critical section adds to the history. -/
theorem DevStep.answer {op : Op} {ev : Event} (hwf : d.Wf) (h : DevStep info d op d' ev)
    (hd : ∀ p ∈ d.history, Answer info p.1 p.2) : ∀ p ∈ d'.history, Answer info p.1 p.2 := by
  have hdrain : ∀ (d₁ : Dev) (e : EpIdx), (∀ c ∈ d₁.inCmds e, isInTransfer e c = true) →
      d₁.history = d.history → ∀ p ∈ (d₁.drained e).history, Answer info p.1 p.2 := by
    intro d₁ e hin hhist p hp
    rw [Dev.drained_history, hhist] at hp
    rcases List.mem_append.mp hp with hp | hp
    · exact hd p hp
    · exact answer_of_mem_drain hin p hp
  have henqueue : ∀ (c : Cmd) (rep : Rep), Answer info c rep →
      ∀ p ∈ d.history ++ [(c, rep)], Answer info p.1 p.2 := by
    intro c rep hans p hp
    rcases List.mem_append.mp hp with hp | hp
    · exact hd p hp
    · obtain rfl : p = (c, rep) := by simpa using hp
      exact hans
  cases h with
  | @handle c cs _ _ _ _ hh =>
    cases hh with
    | standard hc hstd _ hans => exact henqueue _ _ (.standard hc hstd hans)
    | out hc hstd hdir => exact henqueue _ _ (.out hc hstd hdir)
    | inTransfer hin =>
      exact hdrain _ _ (Dev.forall_mem_pushCmd (hwf.inTransfer _) hin) rfl
    | unlink hc => exact henqueue _ _ (.unlink hc _)
  | write => exact hdrain _ _ (hwf.inTransfer _) rfl
  | fail => rwa [Dev.fail_history]
  | _ => exact hd

/-- **Every reply ever enqueued is an answer to its command.** -/
theorem answer_of_mem_history (h : (device info).RunWhere ok {} is d evs) :
    ∀ p ∈ d.history, Answer info p.1 p.2 :=
  (run_induction (P := fun d _ => ∀ p ∈ d.history, Answer info p.1 p.2) .init (by simp)
    (fun _ _ _ _ _ hwf hP _ hs => hs.answer hwf hP) h).2

/-- The commands taken from `cmds`, followed by those still in it, are those that were in it and
those that arrived. -/
theorem popped_append_cmds_from {d₀ : Dev} (hwf : d₀.Wf)
    (h : (device info).RunWhere ok d₀ is d evs) :
    popped evs ++ d.cmds = d₀.cmds ++ arrivals evs := by
  refine (run_induction (P := fun d evs => popped evs ++ d.cmds = d₀.cmds ++ arrivals evs) hwf
    (List.append_nil _).symm ?_ h).2
  intro d evs op d' ev _ hP _ hs
  rw [popped_append, arrivals_append, ← List.append_assoc, ← hP]
  cases hs with
  | handle _ hcmds hh => simp [popped, arrivals, hcmds, hh.err_cmds.2]
  | reject _ hcmds => simp [popped, arrivals, hcmds]
  | _ => simp [popped, arrivals]

/-- The commands taken from `cmds`, followed by those still in it, are the commands that arrived. -/
theorem popped_append_cmds (h : (device info).RunWhere ok {} is d evs) :
    popped evs ++ d.cmds = arrivals evs :=
  popped_append_cmds_from .init h

/-- What a critical section enqueues goes to the end of `reps` and of the history alike. -/
theorem Handled.reps {x : Option Xfer} (h : Handled info c d d' x) :
    ∃ new, d'.reps = d.reps ++ new ∧ replies d' = replies d ++ new := by
  cases h with
  | standard => exact ⟨_, rfl, by simp [replies, enqueue]⟩
  | out => exact ⟨_, rfl, by simp [replies, enqueue]⟩
  | inTransfer => exact ⟨_, rfl, by simp [replies, Dev.pushCmd]⟩
  | unlink => exact ⟨_, rfl, by simp [replies, enqueue]⟩

/-- The replies the writer thread took, followed by those it still has to take, are all replies. -/
theorem dequeues_append_reps (h : (device info).RunWhere ok {} is d evs) :
    dequeues evs ++ d.reps = replies d := by
  refine (run_induction (P := fun d evs => dequeues evs ++ d.reps = replies d) .init rfl ?_ h).2
  intro d evs op d' ev _ hP _ hs
  rw [dequeues_append]
  cases hs with
  | handle _ _ hh =>
    obtain ⟨new, hreps, hrep⟩ := hh.reps
    show dequeues evs ++ [] ++ _ = _
    rw [hrep, hreps, List.append_nil, ← List.append_assoc]
    exact congrArg (· ++ new) hP
  | write =>
    show dequeues evs ++ [] ++ (d.reps ++ _) = List.map Prod.snd (d.history ++ _)
    rw [List.append_nil, ← List.append_assoc, hP, List.map_append]
    rfl
  | dequeue _ hreps =>
    rw [hreps] at hP
    show dequeues evs ++ [_] ++ _ = replies d
    rw [← hP, List.append_assoc, List.singleton_append]
  | fail err =>
    show dequeues evs ++ [] ++ (d.fail err).reps = replies (d.fail err)
    rw [List.append_nil, replies, Dev.fail_reps, Dev.fail_history]
    exact hP
  | _ =>
    show dequeues evs ++ [] ++ d.reps = replies d
    rw [List.append_nil, hP]

theorem handledCmds_sublist_popped (evs : List Event) : (handledCmds evs).Sublist (popped evs) := by
  induction evs with
  | nil => exact .slnil
  | cons ev evs ih =>
    cases ev with
    | handled c t x => exact ih.cons_cons c
    | rejected c e => exact ih.cons c
    | _ => exact ih

/-- The commands that were handled arrived, in the same order. -/
theorem handledCmds_sublist_arrivals (h : (device info).RunWhere ok {} is d evs) :
    (handledCmds evs).Sublist (arrivals evs) := by
  rw [← popped_append_cmds h]
  exact (handledCmds_sublist_popped evs).trans (List.sublist_append_left _ _)

/-- While there is no error no command is rejected. -/
theorem popped_eq_handledCmds {d₀ : Dev} (hwf : d₀.Wf) (h : (device info).RunWhere ok d₀ is d evs)
    (herr : d.err = none) : popped evs = handledCmds evs := by
  refine (run_induction (P := fun d evs => d.err = none → popped evs = handledCmds evs) hwf
    (fun _ => rfl) ?_ h).2 herr
  intro d evs op d' ev _ hP _ hs herr'
  rw [popped_append, handledCmds_append]
  cases hs with
  | handle herr => rw [hP herr]; rfl
  | reject => cases herr'
  | fail err =>
    cases hd : d.err <;> simp [Dev.fail, hd] at herr'
  | write herr => rw [hP herr]; rfl
  | _ => rw [hP herr']; rfl

/-! ### `read()` -/

/-- How the loop of `read()` ended: with the `Xfer` of the last command it took, with no command
left, or with an exception. -/
def ReadOut.Done (d' : Dev) (evs : List Event) : ReadOut → Prop
  | .xfer x => d'.err = none ∧ ∃ evs' c t, evs = evs' ++ [.handled c t (some x)] ∧ xfers evs' = []
  | .empty => d'.err = none ∧ d'.cmds = [] ∧ xfers evs = []
  | .threw e => d'.err = some e ∧ xfers evs = []
  | .aborted => False

/-- **`read()` is a sequence of critical sections**: on a device without an error its loop takes
the commands that are there one after the other with `handle` steps, and ends as `ReadOut.Done`
says; it never fails an assertion. -/
theorem readCmds_run {cs : List Cmd} (hwf : d.Wf) (herr : d.err = none) (hcs : d.cmds = cs)
    {out : ReadOut} (h : readCmds info cs d = (out, d', evs)) :
    (∃ is, (device info).RunWhere (fun _ op => op = .handle) d is d' evs) ∧
      out.Done d' evs := by
  induction cs generalizing d evs with
  | nil =>
    obtain ⟨rfl, rfl, rfl⟩ : ReadOut.empty = out ∧ d = d' ∧ [] = evs := by simpa [readCmds] using h
    exact ⟨⟨[], .nil⟩, herr, hcs, rfl⟩
  | cons c cs ih =>
    rw [readCmds] at h
    rcases handleStep_cases info hwf c cs with ⟨x, d₁, hrun, hh, hs⟩ | ⟨e, hrun, hs⟩
    · have hstep : (device info).RunWhere (fun _ op => op = .handle) d [.handle] d₁
          [.handled c (unlinkTarget d c) x] :=
        RunWhere.single rfl ((Dev.step_handle herr hcs).trans hs)
      obtain ⟨herr₁, hcs₁⟩ := hh.err_cmds
      rw [hrun] at h
      cases x with
      | some x =>
        obtain ⟨rfl, rfl, rfl⟩ := by simpa using h
        exact ⟨⟨_, hstep⟩, herr₁.trans herr, [], _, _, rfl, rfl⟩
      | none =>
        -- the command yielded nothing: the loop goes on
        have hwf₁ : Dev.Wf { d with cmds := cs } := hwf.congr rfl rfl
        rcases hrest : readCmds info cs d₁ with ⟨out', d'', evs'⟩
        simp only [hrest] at h
        obtain ⟨rfl, rfl, rfl⟩ := by simpa using h
        obtain ⟨⟨is, his⟩, hdone⟩ := ih (hh.wf hwf₁) (herr₁.trans herr) hcs₁ hrest
        constructor
        · exact ⟨_, hstep.trans his⟩
        · cases out' with
          | xfer x =>
            obtain ⟨he, evs₁, c', t', rfl, hnone⟩ := hdone
            refine ⟨he, .handled c (unlinkTarget d c) none :: evs₁, c', t', rfl, ?_⟩
            simpa [xfers] using hnone
          | empty => exact ⟨hdone.1, hdone.2.1, by simpa [xfers] using hdone.2.2⟩
          | threw e => exact ⟨hdone.1, by simpa [xfers] using hdone.2⟩
          | aborted => exact hdone
    · have hstep : (device info).RunWhere (fun _ op => op = .handle) d [.handle]
          (Dev.fail { d with cmds := cs } e) [.rejected c e] :=
        RunWhere.single rfl ((Dev.step_handle herr hcs).trans hs)
      rw [hrun] at h
      obtain ⟨rfl, rfl, rfl⟩ := by simpa using h
      refine ⟨⟨_, hstep⟩, ?_, rfl⟩
      simp [Dev.fail, herr]

/-- `read()` from the moment it has the lock: on a device that has an error it does nothing. -/
theorem readSection_run (hwf : d.Wf) {out : ReadOut} (h : readSection info d = (out, d', evs)) :
    (∃ is, (device info).RunWhere (fun _ op => op = .handle) d is d' evs) ∧ out.Done d' evs := by
  unfold readSection at h
  split at h
  · rename_i e herr
    obtain ⟨rfl, rfl, rfl⟩ : ReadOut.threw e = out ∧ d = d' ∧ [] = evs := by simpa using h
    exact ⟨⟨[], .nil⟩, herr, rfl⟩
  · rename_i herr
    exact readCmds_run hwf herr rfl h

end VirtualUSB
