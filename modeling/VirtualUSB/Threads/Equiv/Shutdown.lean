import VirtualUSB.Threads.Equiv.Waking

/-!
# Shutting down

* `shutdown_no_deadlock`: no thread waits in `_reset` for itself exactly as long as the reader
  thread and the writer thread never are the first to call `_reset`; in such runs a device that was
  reset and in which no thread can go on has stopped.
* `stop_returns_stopped_iff`: when `stop()` or the destructor returns, the device has stopped,
  exactly if the call did not find another `_reset` still in its wait loop.
-/

namespace VirtualUSB

open LabelledSystem

variable {info : Info} {s s₁ s' : Sys} {th : Thread} {evs : List SysEvent} {is : List Action}

/-! ### Deadlock -/

/-- The reader thread or the writer thread waits in `_reset` for its own bit to be cleared. -/
def Sys.WaitsForItself (s : Sys) : Prop :=
  s.reader.stage = .waiting ∧ s.flags.readThreadRunning = true ∨
    s.writer.stage = .waiting ∧ s.flags.writeThreadRunning = true

/-- No thread can go on.  A call of `recv` or `send` returns at least when its descriptor was shut
down. -/
structure Sys.Quiescent (info : Info) (s : Sys) : Prop where
  client : ∀ t, s.step info (.client t) = none
  start : ∀ t o, s.step info (.start t o) = none
  reader : s.step info .reader = none
  writer : s.step info .writer = none
  recv : ∀ fd, s.reader.receiving = some fd → fd ∉ s.shut
  send : ∀ fd, s.writer.sending = some fd → fd ∉ s.shut

/-- If the reader thread or the writer thread calls `_reset`, the device has been reset before. -/
def ResetsSecond (s : Sys) : Action → Prop
  | .reader => ∀ e, s.reader = .caught e → s.flags.reset = true
  | .writer => ∀ e, s.writer = .caught e → s.flags.reset = true
  | _ => True

/-- `start()` does not fail to create a thread. -/
def CreatesThreads : Action → Prop
  | .start _ (.noReadThread _ _ _) | .start _ (.noWriteThread _ _ _) => False
  | _ => True

/-- `start()` does not fail to create a thread after it has set the bits: it throws before, because
of `bcdDevice`, or the outcome is another one. -/
def StartsBoth (info : Info) (a : Action) : Prop :=
  CreatesThreads a ∨ ∃ e, speedFromBCDUSB (bcdDevice info.deviceDesc) = .error e

/-- A thread in the wait loop of `_reset` has not cleared its bit. -/
theorem Sys.Life.waitsForItself_iff (h : s.Life) :
    s.WaitsForItself ↔ s.reader.stage = .waiting ∨ s.writer.stage = .waiting := by
  constructor
  · exact Or.imp And.left And.left
  · rintro (hwait | hwait)
    · exact .inl ⟨hwait, h.reader (by rw [hwait]; rfl)⟩
    · exact .inr ⟨hwait, h.writer (by rw [hwait]; rfl)⟩

/-- The reader thread enters the wait loop of `_reset` only as the first to call it, and never
leaves it. -/
theorem ReaderStep.waiting_iff (h : ReaderStep s s' evs) (hlife : s.Life) :
    s'.reader.stage = .waiting ↔
      s.reader.stage = .waiting ∨ ¬ ∀ e, s.reader = .caught e → s.flags.reset = true := by
  cases h with
  | copies hpc => simp [hpc, ReaderPc.stage]
  | pushes hpc => simp [hpc, ReaderPc.stage, Sys.notifyAll]
  | @fails e finished s₁ _ hpc hr =>
    have hrun : s.running = true := by
      rw [Sys.running, hlife.reader (by rw [hpc]; rfl), Bool.true_or]
    cases hr with
    | again hreset => simp [hpc, hreset, ReaderPc.stage]
    | waits hreset => simp [hpc, hreset, ReaderPc.stage]
    | closes _ hrun' => exact absurd (hrun.symm.trans hrun') (by simp)
  | loops hpc hl =>
    have hrun : s.running = true := by
      rw [Sys.running, hlife.reader (by rw [hpc]; rfl), Bool.true_or]
    cases hl with
    | waits => simp [hpc, ReaderPc.stage]
    | closes hrun' => exact absurd (hrun.symm.trans hrun') (by simp)
  | exits hpc => simp [hpc, ReaderPc.stage, Sys.notifyAll]

/-- The same of the writer thread. -/
theorem WriterStep.waiting_iff (h : WriterStep s s' evs) (hlife : s.Life) :
    s'.writer.stage = .waiting ↔
      s.writer.stage = .waiting ∨ ¬ ∀ e, s.writer = .caught e → s.flags.reset = true := by
  cases h with
  | copies hpc => simp [hpc, WriterPc.stage]
  | raises hpc => simp [hpc, WriterPc.stage]
  | sleeps hpc => simp [hpc, WriterPc.stage, Sys.wait]
  | takes hpc => simp [hpc, WriterPc.stage]
  | @fails e finished s₁ _ hpc hr =>
    have hrun : s.running = true := by
      rw [Sys.running, hlife.writer (by rw [hpc]; rfl), Bool.or_true]
    cases hr with
    | again hreset => simp [hpc, hreset, WriterPc.stage]
    | waits hreset => simp [hpc, hreset, WriterPc.stage]
    | closes _ hrun' => exact absurd (hrun.symm.trans hrun') (by simp)
  | loops hpc hl =>
    have hrun : s.running = true := by
      rw [Sys.running, hlife.writer (by rw [hpc]; rfl), Bool.or_true]
    cases hl with
    | waits => simp [hpc, WriterPc.stage]
    | closes hrun' => exact absurd (hrun.symm.trans hrun') (by simp)
  | exits hpc => simp [hpc, WriterPc.stage, Sys.notifyAll]

/-- A step puts the reader thread or the writer thread into the wait loop of `_reset` exactly if
it is the first to call `_reset`. -/
theorem SysStep.waits_iff {a : Action} (h : SysStep info s a s' evs) (hlife : s.Life) :
    s'.reader.stage = .waiting ∨ s'.writer.stage = .waiting ↔
      (s.reader.stage = .waiting ∨ s.writer.stage = .waiting) ∨ ¬ ResetsSecond s a := by
  cases h with
  | reader hawake h =>
    rw [h.waiting_iff hlife, h.io.1]
    show _ ↔ _ ∨ ¬ ∀ e, s.reader = .caught e → s.flags.reset = true
    tauto
  | writer hawake h =>
    rw [h.waiting_iff hlife, h.io.1]
    show _ ↔ _ ∨ ¬ ∀ e, s.writer = .caught e → s.flags.reset = true
    tauto
  | client hawake h =>
    rw [h.io.1.1, h.io.2.1]
    simp [ResetsSecond]
  | start hpc hidle h =>
    obtain ⟨hr, hw, -⟩ := hlife.fresh (by rw [hidle])
    obtain ⟨⟨hr', -⟩, hw', -⟩ := h.io
    have hr'' : s'.reader.stage ≠ .waiting := by
      rcases hr' with hr' | hr' <;> rw [hr']
      · simp [hr]
      · simp [ReaderPc.stage]
    have hw'' : s'.writer.stage ≠ .waiting := by
      rcases hw' with hw' | hw' <;> rw [hw']
      · simp [hw]
      · simp [WriterPc.stage]
    simp [ResetsSecond, hr, hw, hr'', hw'']
  | recv h =>
    obtain ⟨fd, pc, hrecv, hpc, rfl⟩ := h.works
    have hon := ReaderPc.stage_of_fd (ReaderPc.fd_of_receiving hrecv)
    simp [ResetsSecond, hon, hpc.1]
  | send h =>
    obtain ⟨fd, pc, hsend, hpc, rfl⟩ := h.works
    have hon := WriterPc.stage_of_fd (WriterPc.fd_of_sending hsend)
    simp [ResetsSecond, hon, hpc.1]
  | _ => simp [ResetsSecond, Sys.setClient, Sys.wake]

/-- The bits are set for the threads that exist only. -/
structure Sys.BitsActive (s : Sys) : Prop where
  reader : s.flags.readThreadRunning = true → s.reader.stage.active = true
  writer : s.flags.writeThreadRunning = true → s.writer.stage.active = true

/-- The bits are left alone, and no thread goes away. -/
theorem Sys.BitsActive.congr (h : s.BitsActive)
    (hreader : s.reader.stage.active = true → s'.reader.stage.active = true)
    (hwriter : s.writer.stage.active = true → s'.writer.stage.active = true)
    (hflags : s'.flags = s.flags ∨ s'.flags = { s.flags with reset := true }) :
    s'.BitsActive where
  reader hbit := hreader (h.reader (by rcases hflags with hf | hf <;> rwa [hf] at hbit))
  writer hbit := hwriter (h.writer (by rcases hflags with hf | hf <;> rwa [hf] at hbit))

/-- The reader thread clears its bit when it goes away. -/
theorem ReaderStep.bitsActive (h : ReaderStep s s' evs) (hbits : s.BitsActive) : s'.BitsActive := by
  cases h with
  | copies hpc => exact ⟨fun _ => rfl, hbits.writer⟩
  | pushes hpc => exact ⟨fun _ => rfl, hbits.writer⟩
  | @fails e finished s₁ _ hpc hr =>
    refine hbits.congr (fun _ => by cases finished <;> rfl) ?_ (.inr hr.flags)
    show _ → s₁.writer.stage.active = true
    rw [hr.threads.2.1]
    exact id
  | @loops finished s₁ hpc hl =>
    refine hbits.congr (fun _ => by cases finished <;> rfl) ?_ (.inl hl.flags)
    show _ → s₁.writer.stage.active = true
    rw [hl.threads.2.1]
    exact id
  | exits hpc => exact ⟨fun hbit => (by cases hbit), hbits.writer⟩

/-- The same of the writer thread. -/
theorem WriterStep.bitsActive (h : WriterStep s s' evs) (hbits : s.BitsActive) : s'.BitsActive := by
  cases h with
  | copies hpc => exact ⟨hbits.reader, fun _ => rfl⟩
  | raises hpc => exact ⟨hbits.reader, fun _ => rfl⟩
  | sleeps hpc => exact ⟨hbits.reader, hbits.writer⟩
  | takes hpc => exact ⟨hbits.reader, fun _ => rfl⟩
  | @fails e finished s₁ _ hpc hr =>
    refine hbits.congr ?_ (fun _ => by cases finished <;> rfl) (.inr hr.flags)
    show _ → s₁.reader.stage.active = true
    rw [hr.threads.1]
    exact id
  | @loops finished s₁ hpc hl =>
    refine hbits.congr ?_ (fun _ => by cases finished <;> rfl) (.inl hl.flags)
    show _ → s₁.reader.stage.active = true
    rw [hl.threads.1]
    exact id
  | exits hpc => exact ⟨hbits.reader, fun hbit => by cases hbit⟩

/-- Every step but `start()` keeps the bits to the threads that exist. -/
theorem SysStep.bitsActive {a : Action} (h : SysStep info s a s' evs)
    (ha : ∀ t o, a ≠ .start t o) (hbits : s.BitsActive) : s'.BitsActive := by
  cases h with
  | client hawake h =>
    refine hbits.congr ?_ ?_ h.flags
    · rw [h.io.1.1]
      exact id
    · rw [h.io.2.1]
      exact id
  | start => exact (ha _ _ rfl).elim
  | reader hawake h => exact h.bitsActive hbits
  | writer hawake h => exact h.bitsActive hbits
  | recv h =>
    obtain ⟨fd, pc, hrecv, hpc, rfl⟩ := h.works
    refine ⟨fun _ => ?_, hbits.writer⟩
    show pc.stage.active = true
    rw [hpc.1]
    rfl
  | send h =>
    obtain ⟨fd, pc, hsend, hpc, rfl⟩ := h.works
    refine ⟨hbits.reader, fun _ => ?_⟩
    show pc.stage.active = true
    rw [hpc.1]
    rfl
  | _ => exact ⟨hbits.reader, hbits.writer⟩

/-- A call that fails sets the reset bit, and neither creates nor ends a thread. -/
theorem Sys.callReset_threads (info : Info) (s : Sys) (t : ℕ) (call : Call) (e : Err) :
    (s.callReset info t call e).1.flags = { s.flags with reset := true } ∧
      (s.callReset info t call e).1.reader = s.reader ∧
      (s.callReset info t call e).1.writer = s.writer := by
  have hr := resetEnter_spec s (.client t) e
  have hfst : (s.callReset info t call e).1
      = ((s.resetEnter (.client t) e).2.1.afterReset info t call
          (s.resetEnter (.client t) e).1).1 := rfl
  rw [hfst, Sys.afterReset_fst]
  exact ⟨hr.flags, hr.threads.1, hr.threads.2.1⟩

/-- **`start()`** leaves a bit without its thread exactly if it fails to create one. -/
theorem Sys.startCall_bitsActive {t : ℕ} {o : StartOutcome} (hlife : s.Life)
    (h : s.startCall info t o = some (s', evs)) :
    s'.BitsActive ↔ StartsBoth info (.start t o) := by
  unfold Sys.startCall at h
  split_ifs at h with hidle
  obtain ⟨hreader, hwriter, -⟩ := hlife.fresh (by rw [hidle])
  have hfails : ∀ {s₁ : Sys} {e : Err}, some (s₁.callReset info t .start e) = some (s', evs) →
      (s'.BitsActive ↔ s₁.BitsActive) := by
    intro s₁ e hs
    obtain ⟨rfl, -⟩ : _ = s' ∧ _ = evs := Prod.ext_iff.mp (Option.some.inj hs)
    obtain ⟨hflags, hr, hw⟩ := Sys.callReset_threads info s₁ t .start e
    constructor
    · exact fun hbits => ⟨fun hbit => hr ▸ hbits.reader (by rw [hflags]; exact hbit),
        fun hbit => hw ▸ hbits.writer (by rw [hflags]; exact hbit)⟩
    · exact fun hbits => hbits.congr (fun hact => by rwa [hr]) (fun hact => by rwa [hw])
        (.inr hflags)
  -- no bit is set before the threads are created
  have hearly : ∀ {s₁ : Sys}, s₁.flags = s.begun.flags → s₁.BitsActive := by
    intro s₁ hflags
    have hnone : s₁.flags = { started := true } := by rw [hflags, Sys.begun, hidle]
    exact ⟨fun hbit => (by rw [hnone] at hbit; cases hbit),
      fun hbit => (by rw [hnone] at hbit; cases hbit)⟩
  dsimp only at h
  split at h
  · rename_i e hspeed
    exact iff_of_true ((hfails h).mpr (hearly rfl)) (.inr ⟨e, hspeed⟩)
  · rename_i speed hspeed
    have hiff : StartsBoth info (.start t o) ↔ CreatesThreads (.start t o) := by
      refine or_iff_left ?_
      rintro ⟨e, he⟩
      rw [hspeed] at he
      cases he
    rw [hiff]
    cases o with
    | noSockets errno => exact iff_of_true ((hfails h).mpr (hearly rfl)) trivial
    | noVhci call errno a b => exact iff_of_true ((hfails h).mpr (hearly rfl)) trivial
    | noReadThread errno a b =>
      refine iff_of_false (fun hbits => ?_) id
      have hact : s.reader.stage.active = true := ((hfails h).mp hbits).reader rfl
      rw [hreader] at hact
      cases hact
    | noWriteThread errno a b =>
      refine iff_of_false (fun hbits => ?_) id
      have hact : s.writer.stage.active = true := ((hfails h).mp hbits).writer rfl
      rw [hwriter] at hact
      cases hact
    | started a b =>
      obtain ⟨rfl, -⟩ : _ = s' ∧ _ = evs := Prod.ext_iff.mp (Option.some.inj h)
      exact iff_of_true ⟨fun _ => rfl, fun _ => rfl⟩ trivial

/-- Without a failure to create a thread, every step keeps the bits to the threads that exist. -/
theorem Sys.step_bitsActive {a : Action} (hwf : s.dev.Wf) (hlife : s.Life)
    (h : s.step info a = some (s', evs)) (ha : StartsBoth info a) (hbits : s.BitsActive) :
    s'.BitsActive := by
  cases a with
  | start t o =>
    rw [Sys.step] at h
    split_ifs at h
    exact (Sys.startCall_bitsActive hlife h).mpr ha
  | _ => exact (sysStep_spec hwf h).bitsActive (by simp) hbits

/-- After a reset the reader thread can always go on: its `recv` returns because the socket was shut
down. -/
theorem Sys.Quiescent.reader_over (h : s.Quiescent info) (hlife : s.Life) (hbits : s.BitsActive)
    (hreset : s.flags.reset = true) (hself : s.reader.stage ≠ .waiting)
    (hawake : s.asleep .reader = false) : s.flags.readThreadRunning = false := by
  by_contra hbit
  have hbit' : s.flags.readThreadRunning = true := by simpa using hbit
  have hopen := (hlife.running (by rw [Sys.running, hbit', Bool.true_or])).1
  have hstep : s.stepReader = none := by
    have hnone := h.reader
    rwa [Sys.step, hawake] at hnone
  have hactive := hbits.reader hbit'
  have hrecv : ∀ fd, s.reader.receiving = some fd → False := by
    intro fd hfd
    apply h.recv fd hfd
    rw [hlife.readerFd fd (ReaderPc.fd_of_receiving hfd)]
    exact hlife.shut hreset hopen
  cases hpc : s.reader with
  | notLaunched => rw [hpc] at hactive; cases hactive
  | launched => simp [Sys.stepReader, hpc] at hstep
  | recvHeader fd buf => exact hrecv fd (by rw [hpc]; rfl)
  | recvPayload fd hd len buf => exact hrecv fd (by rw [hpc]; rfl)
  | push fd cmd => simp [Sys.stepReader, hpc] at hstep
  | caught e => simp [Sys.stepReader, hpc] at hstep
  | resetWait => exact hself (by rw [hpc]; rfl)
  | exiting => simp [Sys.stepReader, hpc] at hstep
  | exited => rw [hpc] at hactive; cases hactive

/-- After a reset the writer thread can always go on: it sees the error, or its `send` returns
because the socket was shut down. -/
theorem Sys.Quiescent.writer_over (h : s.Quiescent info) (hlife : s.Life) (hbits : s.BitsActive)
    (hreset : s.flags.reset = true) (herr : s.dev.err ≠ none) (hself : s.writer.stage ≠ .waiting)
    (hawake : s.asleep .writer = false) : s.flags.writeThreadRunning = false := by
  by_contra hbit
  have hbit' : s.flags.writeThreadRunning = true := by simpa using hbit
  have hopen := (hlife.running (by rw [Sys.running, hbit', Bool.or_true])).1
  have hstep : s.stepWriter = none := by
    have hnone := h.writer
    rwa [Sys.step, hawake] at hnone
  have hactive := hbits.writer hbit'
  have hsend : ∀ fd, s.writer.sending = some fd → False := by
    intro fd hfd
    apply h.send fd hfd
    rw [hlife.writerFd fd (WriterPc.fd_of_sending hfd)]
    exact hlife.shut hreset hopen
  cases hpc : s.writer with
  | notLaunched => rw [hpc] at hactive; cases hactive
  | launched => simp [Sys.stepWriter, hpc] at hstep
  | loop fd =>
    obtain ⟨e, he⟩ := Option.ne_none_iff_exists'.mp herr
    simp [Sys.stepWriter, hpc, he] at hstep
  | sendHeader fd rest payload => exact hsend fd (by rw [hpc]; rfl)
  | sendPayload fd rest => exact hsend fd (by rw [hpc]; rfl)
  | caught e => simp [Sys.stepWriter, hpc] at hstep
  | resetWait => exact hself (by rw [hpc]; rfl)
  | exiting => simp [Sys.stepWriter, hpc] at hstep
  | exited => rw [hpc] at hactive; cases hactive

/-- A device that was reset and whose two threads do not wait for themselves has stopped as soon as
no thread can go on. -/
theorem Sys.Quiescent.stopped (h : s.Quiescent info) (hlife : s.Life) (hbits : s.BitsActive)
    (herr : s.dev.err.isSome = s.flags.reset)
    (hsleep : ∀ th, s.asleep th = true → s.Blocked th) (hself : ¬ s.WaitsForItself)
    (hreset : s.flags.reset = true) : s.Stopped := by
  rw [hlife.waitsForItself_iff, not_or] at hself
  have hsome : s.dev.err ≠ none := by
    intro hnone
    rw [hnone, hreset] at herr
    cases herr
  -- neither thread sleeps: the condition it would wait for cannot become true any more
  have hreader : s.flags.readThreadRunning = false := by
    apply h.reader_over hlife hbits hreset hself.1
    by_contra hasleep
    exact hself.1 (hsleep .reader (by simpa using hasleep)).1
  have hwriter : s.flags.writeThreadRunning = false := by
    apply h.writer_over hlife hbits hreset hsome hself.2
    by_contra hasleep
    rcases hsleep .writer (by simpa using hasleep) with ⟨hwait, -⟩ | ⟨-, hnone, -⟩
    · exact hself.2 hwait
    · exact hsome hnone
  have hrun : s.running = false := by
    rw [Sys.running, hreader, hwriter]
    rfl
  rcases hlife.reset hreset with ⟨th, hth⟩ | hstopped
  · -- the thread in the wait loop of `_reset` finds both bits clear
    exfalso
    cases th with
    | reader => exact hself.1 hth
    | writer => exact hself.2 hth
    | client t =>
      obtain ⟨call, hcall⟩ := hth
      have hawake : s.asleep (.client t) = false := by
        by_contra hasleep
        rcases hsleep (.client t) (by simpa using hasleep) with ⟨-, hrun'⟩ | ⟨-, hnone, -⟩
        · exact absurd (hrun'.symm.trans hrun) (by simp)
        · exact hsome hnone
      have hstep := h.client t
      simp [Sys.step, hawake, Sys.stepClient, hcall] at hstep
  · exact hstopped

/-- **No deadlock in shutdown.**  The reader thread or the writer thread waits for itself exactly if
one of them was the first to call `_reset`.  In a run where neither was, and where `start()` did
not fail to create a thread whose bit it had set, a device that was reset and in which no thread can
go on has stopped. -/
theorem shutdown_no_deadlock (h : (threads info).Run is s evs) :
    (¬ s.WaitsForItself ↔ (threads info).RunWhere ResetsSecond {} is s evs) ∧
      ((threads info).RunWhere ResetsSecond {} is s evs → (∀ a ∈ is, StartsBoth info a) →
        s.flags.reset = true → s.Quiescent info → s.Stopped) := by
  have hiff : ¬ s.WaitsForItself ↔ (threads info).RunWhere ResetsSecond {} is s evs := by
    rw [(life_of_run h).waitsForItself_iff]
    refine RunWhere.iff_of_step (I := fun s => s.dev.Wf ∧ s.Life)
      (P := fun s => ¬ (s.reader.stage = .waiting ∨ s.writer.stage = .waiting)) ⟨.init, .init⟩
      (by simp [ReaderPc.stage, WriterPc.stage, threads]) ?_ ?_ h
    · rintro s a s' os ⟨hwf, hlife⟩ hs
      have hspec := sysStep_spec hwf hs
      exact ⟨hspec.wf hwf, hspec.life hlife⟩
    · rintro s a s' os ⟨hwf, hlife⟩ hs
      rw [(sysStep_spec hwf hs).waits_iff hlife, not_or, not_not]
  refine ⟨hiff, fun hwhere hstarts hreset hq => ?_⟩
  have hinv := (hwhere.and_forall hstarts).state_invariant
    (P := fun s => (s.dev.Wf ∧ s.Life) ∧ s.BitsActive)
    ⟨⟨.init, .init⟩, fun hbit => (by cases hbit), fun hbit => (by cases hbit)⟩ ?_
  · exact hq.stopped (life_of_run h) hinv.2 (err_isSome_of_run h) (blocked_of_run h)
      (hiff.mpr hwhere) hreset
  · rintro s a s' os ⟨⟨hwf, hlife⟩, hbits⟩ ⟨-, hstarts⟩ hs
    have hspec := sysStep_spec hwf hs
    exact ⟨⟨hspec.wf hwf, hspec.life hlife⟩, Sys.step_bitsActive hwf hlife hs hstarts hbits⟩

/-- The device is started and stopped, and both threads exit. -/
def stopRun : List Action :=
  [.call 0 .start, .start 0 (.started 3 4), .reader, .writer, .writer, .call 1 .stop, .client 1,
    .recv .zero, .reader, .writer, .writer, .writer, .reader, .client 1]

/-- In `stopRun` neither thread waits for itself, and the device has stopped. -/
theorem shutdown_no_deadlock_stopRun :
    ∃ s evs, (threads Info.minimal).Run stopRun s evs ∧ ¬ s.WaitsForItself ∧ s.Stopped := by
  have hrun : (threads Info.minimal).Run stopRun _ _ := run_exec_get (by decide)
  have hself : ¬ (((threads Info.minimal).exec stopRun).get (by decide)).1.WaitsForItself := by
    unfold Sys.WaitsForItself
    decide
  refine ⟨_, _, hrun, hself, ?_⟩
  refine (shutdown_no_deadlock hrun).2 ((shutdown_no_deadlock hrun).1.mp hself) ?_ (by decide) ?_
  · simp [stopRun, StartsBoth, CreatesThreads]
  · exact ⟨fun t => by rcases t with _ | _ | t <;> rfl,
      fun t o => by rcases t with _ | _ | t <;> rfl,
      by rfl, by rfl, fun fd hfd => (by cases hfd), fun fd hfd => (by cases hfd)⟩

/-- The reader thread sees the end of the stream and calls `_reset`; the writer thread exits. -/
def endOfStreamRun : List Action :=
  [.call 0 .start, .start 0 (.started 3 4), .reader, .recv .zero, .reader, .writer, .writer,
    .writer, .writer, .reader]

/-- At the end of `endOfStreamRun` the reader thread waits for itself and nothing can go on. -/
theorem not_shutdown_no_deadlock :
    ∃ s evs, (threads Info.minimal).Run endOfStreamRun s evs ∧ s.WaitsForItself ∧
      s.flags.reset = true ∧ s.Quiescent Info.minimal ∧ ¬ s.Stopped := by
  refine ⟨_, _, run_exec_get (by decide), .inl (by decide), by decide, ?_, ?_⟩
  · exact ⟨fun t => by cases t <;> rfl, fun t o => by cases t <;> rfl, by rfl, by rfl,
      fun fd hfd => (by cases hfd), fun fd hfd => (by cases hfd)⟩
  · unfold Sys.Stopped
    decide

/-! ### Stopping -/

/-- From here on neither the reader thread nor the writer thread exists any more. -/
def Sys.IoOver (info : Info) (s : Sys) : Prop :=
  ∀ is s' evs, (threads info).RunFrom s is s' evs →
    s'.reader.stage.active = false ∧ s'.writer.stage.active = false

/-- If a call of `stop()` or of the destructor returns in the step, the device has stopped. -/
def ReturnsStopped (info : Info) (s : Sys) (a : Action) : Prop :=
  ∀ s' evs t call result, s.step info a = some (s', evs) → .returned t call result ∈ evs →
    call = .stop ∨ call = .destroy → s'.Stopped ∧ s'.IoOver info

/-- If `stop()` or the destructor takes the lock in the step, no thread is in the wait loop of
`_reset`. -/
def StopFindsNoReset (s : Sys) : Action → Prop
  | .client t => s.clients t = .entering .stop ∨ s.clients t = .entering .destroy →
      ∀ th, ¬ s.InReset th
  | _ => True

/-- Only a thread that exists takes a step. -/
theorem ReaderStep.active (h : ReaderStep s s' evs) : s.reader.stage.active = true := by
  cases h <;> simp [*, ReaderPc.stage, Stage.active]

theorem WriterStep.active (h : WriterStep s s' evs) : s.writer.stage.active = true := by
  cases h <;> simp [*, WriterPc.stage, Stage.active]

/-- A device that is not idle gets no reader thread any more. -/
theorem SysStep.reader_inactive {a : Action} (h : SysStep info s a s' evs)
    (hidle : s.flags ≠ {}) (hreader : s.reader.stage.active = false) :
    s'.reader.stage.active = false := by
  rcases h.reader_cases with ⟨hpc | ⟨hflags, -⟩, -⟩ | ⟨-, h⟩ | ⟨r, -, h⟩
  · rw [hpc, hreader]
  · exact (hidle hflags).elim
  · exact absurd (h.active.symm.trans hreader) (by simp)
  · obtain ⟨fd, pc, hrecv, -⟩ := h.works
    rw [ReaderPc.stage_of_fd (ReaderPc.fd_of_receiving hrecv)] at hreader
    cases hreader

/-- The same of the writer thread. -/
theorem SysStep.writer_inactive {a : Action} (h : SysStep info s a s' evs)
    (hidle : s.flags ≠ {}) (hwriter : s.writer.stage.active = false) :
    s'.writer.stage.active = false := by
  rcases h.writer_cases with ⟨hpc | ⟨hflags, -⟩, -⟩ | ⟨-, h⟩ | ⟨r, -, h⟩
  · rw [hpc, hwriter]
  · exact (hidle hflags).elim
  · exact absurd (h.active.symm.trans hwriter) (by simp)
  · obtain ⟨fd, pc, hsend, -⟩ := h.works
    rw [WriterPc.stage_of_fd (WriterPc.fd_of_sending hsend)] at hwriter
    cases hwriter

/-- **Stopped is for good**: a device that was reset and has stopped never has threads again. -/
theorem Sys.Life.ioOver (h : s.Life) (hwf : s.dev.Wf) (hreset : s.flags.reset = true)
    (hstopped : s.Stopped) : s.IoOver info := by
  have hreader : s.reader.stage.active = false := by
    by_contra hactive
    exact absurd ((h.reader (by simpa using hactive)).symm.trans hstopped.1) (by simp)
  have hwriter : s.writer.stage.active = false := by
    by_contra hactive
    exact absurd ((h.writer (by simpa using hactive)).symm.trans hstopped.2.1) (by simp)
  intro is s' evs hrun
  have hinv := hrun.state_invariant
    (P := fun s => s.dev.Wf ∧ s.flags.reset = true ∧ s.reader.stage.active = false ∧
      s.writer.stage.active = false) ⟨hwf, hreset, hreader, hwriter⟩ ?_
  · exact hinv.2.2
  · rintro s₁ a s₂ evs' ⟨hwf₁, hreset₁, hr₁, hw₁⟩ - hs
    have hspec := sysStep_spec hwf₁ hs
    have hidle : s₁.flags ≠ {} := fun hidle => by
      rw [hidle] at hreset₁
      cases hreset₁
    exact ⟨hspec.wf hwf₁, hspec.reset hreset₁, hspec.reader_inactive hidle hr₁,
      hspec.writer_inactive hidle hw₁⟩

/-- A call of `stop()` or of the destructor returns in a step of its client thread.  It was at its
beginning, or in the wait loop of `_reset`. -/
theorem ClientStep.stop_returns {t t' : ℕ} {call : Call} {result : CallResult}
    (h : ClientStep info s t' s' evs) (hmem : .returned t call result ∈ evs)
    (hcall : call = .stop ∨ call = .destroy) :
    t' = t ∧
      ((∃ e evs₁ s₁, s.clients t = .entering call ∧ Resets s (.client t) e true s₁ evs₁ ∧
          s' = s₁.setClient t .idle) ∨
        ∃ s₁, s.clients t = .resetting call ∧ Loops s (.client t) true s₁ ∧
          s' = s₁.setClient t .idle) := by
  obtain ⟨rfl, hreturns⟩ := h.returned hmem
  refine ⟨rfl, ?_⟩
  cases hreturns with
  | answers hd hans => cases hans <;> simp at hcall
  | @fails _ e d devEvs s₁ evs₁ hpc hd herr hr =>
    rcases herr with ⟨-, rfl⟩ | ⟨htransfers, -⟩
    · rw [Sys.setDev_self] at hr
      refine .inl ⟨e, evs₁, s₁, hpc.entering fun timeout => ?_, hr, rfl⟩
      rcases hcall with rfl | rfl <;> simp
    · -- `read()` and `write()` are other calls
      rcases hcall with rfl | rfl <;> exact htransfers.elim
  | @loops _ s₁ hpc hl => exact .inr ⟨s₁, hpc, hl, rfl⟩

/-- `start()` is another call. -/
theorem StartStep.not_stop_returns {t t' : ℕ} {o : StartOutcome} {call : Call}
    {result : CallResult} (h : StartStep info s t' o s' evs)
    (hcall : call = .stop ∨ call = .destroy) : .returned t call result ∉ evs := by
  intro hmem
  cases h with
  | @fails _ e s₁ s₂ finished evs₁ hf hr =>
    rcases List.mem_append.mp hmem with hreset | hmem
    · exact hr.not_returned hreset
    · cases finished with
      | false => simp [Sys.afterReset_snd] at hmem
      | true =>
        obtain ⟨-, rfl, -⟩ : t = t' ∧ call = .start ∧ result = _ := by
          simpa [Sys.afterReset_snd] using hmem
        simp at hcall
  | started =>
    obtain ⟨-, rfl, -⟩ : t = t' ∧ call = .start ∧ result = .done := by simpa using hmem
    simp at hcall

/-- The step in which a call of `stop()` or of the destructor returns. -/
theorem SysStep.stop_returns {a : Action} {t : ℕ} {call : Call} {result : CallResult}
    (h : SysStep info s a s' evs) (hmem : .returned t call result ∈ evs)
    (hcall : call = .stop ∨ call = .destroy) :
    a = .client t ∧
      ((∃ e evs₁ s₁, s.clients t = .entering call ∧ Resets s (.client t) e true s₁ evs₁ ∧
          s' = s₁.setClient t .idle) ∨
        ∃ s₁, s.clients t = .resetting call ∧ Loops s (.client t) true s₁ ∧
          s' = s₁.setClient t .idle) := by
  cases h with
  | client hawake h =>
    obtain ⟨rfl, hreturns⟩ := h.stop_returns hmem hcall
    exact ⟨rfl, hreturns⟩
  | start hpc hidle h => exact (h.not_stop_returns hcall hmem).elim
  | timeout =>
    obtain ⟨-, rfl, -⟩ : t = _ ∧ call = .read .finite ∧ result = .nullopt := by simpa using hmem
    simp at hcall
  | reader hawake h =>
    cases h with
    | fails hpc hr => exact (hr.not_returned hmem).elim
    | _ => simp at hmem
  | recv h => cases h <;> simp at hmem
  | writer hawake h =>
    cases h with
    | fails hpc hr => exact (hr.not_returned hmem).elim
    | _ => simp at hmem
  | send h => cases h <;> simp at hmem
  | _ => cases hmem

/-- When both bits are clear the thread that closes the sockets has stopped the device. -/
theorem Sys.Life.stopped_closeSockets (h : s.Life) (hrun : s.running = false) :
    s.closeSockets.Stopped := by
  rw [Sys.running, Bool.or_eq_false_iff] at hrun
  exact ⟨hrun.1, hrun.2, h.closeSockets_socket, h.closeSockets_usbipSocket⟩

/-- The exact condition for a single step. -/
theorem returnsStopped_iff (hwf : s.dev.Wf) (hlife : s.Life) {a : Action}
    (hs : s.step info a = some (s', evs)) : ReturnsStopped info s a ↔ StopFindsNoReset s a := by
  constructor
  · intro hreturns
    cases a with
    | client t =>
      intro hpc th hth
      obtain ⟨hreset, hopen, -⟩ := hlife.inReset th hth
      have hawake : s.asleep (.client t) = false := by
        by_contra hasleep
        rw [Sys.step, if_pos (by simpa using hasleep)] at hs
        cases hs
      -- the second call returns at once, and the sockets are still open
      have hreturned : ∀ call, s.clients t = .entering call → call = .stop ∨ call = .destroy →
          False := by
        intro call hc hcall
        have hstep : s.step info (.client t)
            = some (s.setClient t .idle, [.returned t call .done]) := by
          rw [Sys.step, if_neg (by simp [hawake]), Sys.stepClient, hc]
          rcases hcall with rfl | rfl
          · exact congrArg some (Sys.callReset_of_reset hreset .stop .stopped)
          · exact congrArg some (Sys.callReset_of_reset hreset .destroy .stopped)
        have hstopped := (hreturns _ _ t call .done hstep (List.mem_singleton_self _) hcall).1
        have hsocket : s.socket = -1 := hstopped.2.2.1
        omega
      rcases hpc with hc | hc
      · exact hreturned .stop hc (.inl rfl)
      · exact hreturned .destroy hc (.inr rfl)
    | _ => trivial
  · intro hfinds s₂ evs₂ t call result hs₂ hmem hcall
    have hspec := sysStep_spec hwf hs₂
    have hlife₂ := hspec.life hlife
    have hwf₂ := hspec.wf hwf
    obtain ⟨rfl, ⟨e, evs₁, s₁, hc, hr, rfl⟩ | ⟨s₁, hc, hl, rfl⟩⟩ := hspec.stop_returns hmem hcall
    · -- the call did not wait
      have hno : ∀ th, ¬ s.InReset th := hfinds (by rcases hcall with rfl | rfl <;> simp [hc])
      have hreset₂ : (s₁.setClient t .idle).flags.reset = true := by
        show s₁.flags.reset = true
        rw [hr.flags]
      have hstopped : s₁.Stopped := by
        cases hr with
        | again hreset =>
          rcases hlife.reset hreset with ⟨th, hth⟩ | hstopped
          · exact (hno th hth).elim
          · exact hstopped
        | closes _ hrun => exact hlife.stopped_closeSockets hrun
      exact ⟨hstopped, hlife₂.ioOver hwf₂ hreset₂ hstopped⟩
    · -- the call waited for the threads
      have hreset := (hlife.inReset (.client t) ⟨call, hc⟩).1
      cases hl with
      | closes hrun =>
        have hstopped := hlife.stopped_closeSockets hrun
        exact ⟨hstopped, hlife₂.ioOver hwf₂ hreset hstopped⟩

/-- **Stopped means stopped.**  Every call of `stop()` and of the destructor that returns leaves a
device with clear thread bits, closed sockets and no threads for good, exactly if none of these
calls, when it takes the lock, finds another thread in the wait loop of `_reset`. -/
theorem stop_returns_stopped_iff :
    (threads info).RunWhere (ReturnsStopped info) {} is s evs ↔
      (threads info).RunWhere StopFindsNoReset {} is s evs := by
  refine RunWhere.congr_of_invariant (I := fun s => s.dev.Wf ∧ s.Life) ⟨.init, .init⟩ ?_ ?_
  · rintro s a s' os ⟨hwf, hlife⟩ hs
    have hspec := sysStep_spec hwf hs
    exact ⟨hspec.wf hwf, hspec.life hlife⟩
  · rintro s a s' os ⟨hwf, hlife⟩ hs
    exact returnsStopped_iff hwf hlife hs

/-- The device is started, one thread calls `stop()` and waits, a second one calls `stop()`. -/
def secondStopRun : List Action :=
  [.call 0 .start, .start 0 (.started 3 4), .call 1 .stop, .client 1, .call 2 .stop]

/-- The second call of `stop()` returns while both threads run and the socket is open. -/
theorem not_stop_returns_stopped :
    ∃ s evs s' evs', (threads Info.minimal).Run secondStopRun s evs ∧
      s.step Info.minimal (.client 2) = some (s', evs') ∧ .returned 2 .stop .done ∈ evs' ∧
      s'.flags.readThreadRunning = true ∧ s'.flags.writeThreadRunning = true ∧ s'.socket = 3 ∧
      ¬ ReturnsStopped Info.minimal s (.client 2) := by
  have hrun : (threads Info.minimal).Run secondStopRun _ _ := run_exec_get (by decide)
  refine ⟨_, _, _, _, hrun, rfl, List.mem_singleton_self _, rfl, rfl, rfl, fun hreturns => ?_⟩
  have hstopped := (hreturns _ _ 2 .stop .done rfl (List.mem_singleton_self _) (.inl rfl)).1
  exact absurd hstopped.1 (by decide)

end VirtualUSB
