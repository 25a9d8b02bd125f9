import VirtualUSB.Device.Equiv.System
import VirtualUSB.Threads.System

/-!
# What the steps of the program do

* `Inner` says what `read()` and `write()` do to the device.
* `Resets`, `ClientStep`, `StartStep`, `RecvStep`, `ReaderStep`, `SendStep` and `WriterStep` list
  what the steps can do; the lemmas `_spec` say that they do nothing else.
* `devSimulation`: what happens to the device in a run of the program is a run of the device.
-/

namespace VirtualUSB

open LabelledSystem

variable {info : Info} {d d' : Dev}

/-! ### The device under the calls of the clients -/

/-- The critical sections that `read()` and `write()` consist of. -/
def Op.Inner : Op → Prop
  | .handle | .write _ _ => True
  | _ => False

/-- What `read()` and `write()` do to the device: no command arrives, no reply is taken, and
nothing happens once there is an error. -/
structure Inner (info : Info) (d d' : Dev) (evs : List Event) : Prop where
  run : ∃ is, (device info).RunFrom d is d' evs
  arrivals : arrivals evs = []
  dequeues : dequeues evs = []
  reps : d.reps <+: d'.reps
  err : d.err.isSome = true → d' = d
  idle : d.cmds = [] → d'.cmds = [] ∧ d'.err = d.err

theorem Inner.refl (info : Info) (d : Dev) : Inner info d d [] where
  run := ⟨[], .nil⟩
  arrivals := rfl
  dequeues := rfl
  reps := List.prefix_rfl
  err _ := rfl
  idle h := ⟨h, rfl⟩

/-- A critical section of `read()` or `write()` at the end of others. -/
theorem Inner.snoc {d₀ : Dev} {evs : List Event} {op : Op} {ev : Event} (h : Inner info d₀ d evs)
    (hok : op.Inner) (hs : d.step info op = some (d', [ev]))
    (hd : DevStep info d op d' ev) : Inner info d₀ d' (evs ++ [ev]) := by
  have hrun : ∃ is, (device info).RunFrom d₀ is d' (evs ++ [ev]) :=
    have ⟨is, his⟩ := h.run
    ⟨is ++ [op], his.snoc trivial hs⟩
  -- a device that had an error at the start still has it
  have hquiet : d.err = none → d₀.err.isSome = true → False := by
    intro herr hsome
    rw [h.err hsome] at herr
    simp [herr] at hsome
  cases hd with
  | handle herr hcmds hh =>
    obtain ⟨new, hreps, -⟩ := hh.reps
    refine ⟨hrun, ?_, ?_, ?_, fun hsome => ?_, fun hnil => ?_⟩
    · rw [arrivals_append, h.arrivals]; rfl
    · rw [dequeues_append, h.dequeues]; rfl
    · rw [hreps]
      exact h.reps.trans (List.prefix_append _ _)
    · exact (hquiet herr hsome).elim
    · rw [(h.idle hnil).1] at hcmds
      cases hcmds
  | reject herr hcmds =>
    refine ⟨hrun, ?_, ?_, h.reps, fun hsome => ?_, fun hnil => ?_⟩
    · rw [arrivals_append, h.arrivals]; rfl
    · rw [dequeues_append, h.dequeues]; rfl
    · exact (hquiet herr hsome).elim
    · rw [(h.idle hnil).1] at hcmds
      cases hcmds
  | write herr =>
    refine ⟨hrun, ?_, ?_, h.reps.trans (List.prefix_append _ _), fun hsome => ?_, h.idle⟩
    · rw [arrivals_append, h.arrivals]; rfl
    · rw [dequeues_append, h.dequeues]; rfl
    · exact (hquiet herr hsome).elim
  | refuse =>
    refine ⟨hrun, ?_, ?_, h.reps, h.err, h.idle⟩
    · rw [arrivals_append, h.arrivals]; rfl
    · rw [dequeues_append, h.dequeues]; rfl
  | _ => exact hok.elim

/-- A sequence of critical sections of `read()` and `write()`. -/
theorem Inner.of_run {ok : Dev → Op → Prop} (hok : ∀ d op, ok d op → op.Inner) (hwf : d.Wf)
    {is : List Op} {evs : List Event} (h : (device info).RunWhere ok d is d' evs) :
    Inner info d d' evs := by
  have hinv : d'.Wf ∧ Inner info d d' evs := by
    refine h.invariant (P := fun d' evs => d'.Wf ∧ Inner info d d' evs) ⟨hwf, .refl info d⟩ ?_
    rintro d₁ evs op d₂ evs' ⟨hwf₁, hin⟩ hop hs
    obtain ⟨ev, rfl, hd⟩ := step_spec hwf₁ hs
    exact ⟨hd.wf hwf₁, hin.snoc (hok _ _ hop) hs hd⟩
  exact hinv.2

theorem Inner.wf (hwf : d.Wf) {evs : List Event} (h : Inner info d d' evs) : d'.Wf :=
  have ⟨_, his⟩ := h.run
  wf_of_run hwf his

/-! ### The parts of the state that the operations leave alone -/

namespace Sys

variable {s : Sys}

@[simp] theorem setDev_dev (d : Dev) : (s.setDev d).dev = d := by
  unfold setDev; split_ifs <;> rfl

@[simp] theorem setDev_flags (d : Dev) : (s.setDev d).flags = s.flags := by
  unfold setDev; split_ifs <;> rfl

@[simp] theorem setDev_socket (d : Dev) : (s.setDev d).socket = s.socket := by
  unfold setDev; split_ifs <;> rfl

@[simp] theorem setDev_usbipSocket (d : Dev) : (s.setDev d).usbipSocket = s.usbipSocket := by
  unfold setDev; split_ifs <;> rfl

@[simp] theorem setDev_reader (d : Dev) : (s.setDev d).reader = s.reader := by
  unfold setDev; split_ifs <;> rfl

@[simp] theorem setDev_writer (d : Dev) : (s.setDev d).writer = s.writer := by
  unfold setDev; split_ifs <;> rfl

@[simp] theorem setDev_clients (d : Dev) : (s.setDev d).clients = s.clients := by
  unfold setDev; split_ifs <;> rfl

@[simp] theorem setDev_shut (d : Dev) : (s.setDev d).shut = s.shut := by
  unfold setDev; split_ifs <;> rfl

@[simp] theorem setDev_closed (d : Dev) : (s.setDev d).closed = s.closed := by
  unfold setDev; split_ifs <;> rfl

@[simp] theorem setDev_running (d : Dev) : (s.setDev d).running = s.running := by
  rw [running, running, setDev_flags]

/-- Nothing happened to the device. -/
@[simp] theorem setDev_self : s.setDev s.dev = s := by
  unfold setDev
  rw [if_neg (lt_irrefl _)]

@[simp] theorem setClient_self (t : ℕ) (pc : ClientPc) : (s.setClient t pc).clients t = pc :=
  Function.update_self ..

theorem setClient_of_ne {t t' : ℕ} (h : t' ≠ t) (pc : ClientPc) :
    (s.setClient t pc).clients t' = s.clients t' :=
  Function.update_of_ne h ..

end Sys

/-! ### `_reset` -/

/-- The state in which a thread that called `_reset` on a device that was not reset before has
shut down the sockets and looks at the thread bits. -/
def Sys.failed (s : Sys) (e : Err) : Sys :=
  (({ s with flags := { s.flags with reset := true }, dev := s.dev.fail e } : Sys).notifyAll
    ).shutdownSockets

/-- What a call of `_reset` does up to its wait: whether it returns, the state and the events. -/
inductive Resets (s : Sys) (th : Thread) (e : Err) : Bool → Sys → List SysEvent → Prop
  | again (hreset : s.flags.reset = true) : Resets s th e true s []
  | waits (hreset : s.flags.reset = false) (hrun : s.running = true) :
      Resets s th e false ((s.failed e).wait th) [.dev (.failed e)]
  | closes (hreset : s.flags.reset = false) (hrun : s.running = false) :
      Resets s th e true (s.failed e).closeSockets [.dev (.failed e)]

theorem resetEnter_spec (s : Sys) (th : Thread) (e : Err) :
    Resets s th e (s.resetEnter th e).1 (s.resetEnter th e).2.1 (s.resetEnter th e).2.2 := by
  unfold Sys.resetEnter
  split
  · rename_i hreset
    exact .again hreset
  · rename_i hreset
    have hreset' : s.flags.reset = false := by simpa using hreset
    show Resets s th e ((s.failed e).resetLoop th).1 ((s.failed e).resetLoop th).2 _
    have hrunning : (s.failed e).running = s.running := rfl
    unfold Sys.resetLoop
    rw [hrunning]
    split
    · rename_i hrun
      exact .waits hreset' hrun
    · rename_i hrun
      exact .closes hreset' (by simpa using hrun)

theorem Sys.resetEnter_of_not_reset {s : Sys} (hreset : s.flags.reset = false) (th : Thread)
    (e : Err) :
    s.resetEnter th e
      = (((s.failed e).resetLoop th).1, ((s.failed e).resetLoop th).2, [.dev (.failed e)]) := by
  rw [Sys.resetEnter, if_neg (by simp [hreset])]
  rfl

/-- `_reset` moves no thread. -/
theorem Resets.threads {s s' : Sys} {th : Thread} {e : Err} {finished : Bool}
    {evs : List SysEvent} (h : Resets s th e finished s' evs) :
    s'.reader = s.reader ∧ s'.writer = s.writer ∧ s'.clients = s.clients := by
  cases h <;> exact ⟨rfl, rfl, rfl⟩

/-- What a turn of the wait loop of `_reset` does: whether `_reset` returns, and the state. -/
inductive Loops (s : Sys) (th : Thread) : Bool → Sys → Prop
  | waits (hrun : s.running = true) : Loops s th false (s.wait th)
  | closes (hrun : s.running = false) : Loops s th true s.closeSockets

theorem Loops.threads {s s' : Sys} {th : Thread} {finished : Bool} (h : Loops s th finished s') :
    s'.reader = s.reader ∧ s'.writer = s.writer ∧ s'.clients = s.clients := by
  cases h <;> exact ⟨rfl, rfl, rfl⟩

theorem resetLoop_spec (s : Sys) (th : Thread) :
    Loops s th (s.resetLoop th).1 (s.resetLoop th).2 := by
  unfold Sys.resetLoop
  split
  · rename_i hrun
    exact .waits hrun
  · rename_i hrun
    exact .closes (by simpa using hrun)

/-! ### The steps of the clients -/

/-- The call that a client thread is in when it takes the lock, at the beginning of the call or
after a wait in `read()`. -/
def ClientPc.InCall : ClientPc → Call → Prop
  | .entering call, call' => call = call'
  | .reading timeout, call' => Call.read timeout = call'
  | _, _ => False

theorem ClientPc.InCall.not_resetting {pc : ClientPc} {call : Call} (h : pc.InCall call)
    (call' : Call) : pc ≠ .resetting call' := by
  rintro rfl
  exact h

/-- Only `read()` takes the lock more than once. -/
theorem ClientPc.InCall.entering {pc : ClientPc} {call : Call} (h : pc.InCall call)
    (hread : ∀ timeout, call ≠ .read timeout) : pc = .entering call := by
  cases pc with
  | entering call' => exact congrArg ClientPc.entering h
  | reading timeout => exact (hread timeout h.symm).elim
  | _ => exact h.elim

/-- The calls that end without an error: what they do to the device and what they return. -/
inductive Answers (d d' : Dev) (evs : List Event) : Call → CallResult → Prop
  | err (hd : d' = d) (hevs : evs = []) : Answers d d' evs .err (.error d.err)
  | xfer {timeout : Timeout} {x : Xfer} {evs' : List Event} {c : Cmd} {target : Option Cmd}
      (herr : d'.err = none) (hevs : evs = evs' ++ [.handled c target (some x)])
      (hnone : xfers evs' = []) : Answers d d' evs (.read timeout) (.xfer x)
  | nullopt (herr : d'.err = none) (hcmds : d'.cmds = []) (hnone : xfers evs = []) :
      Answers d d' evs (.read .zero) .nullopt
  | wrote {ep : UInt8} {data : List UInt8} (herr : d'.err = none) (hnone : xfers evs = []) :
      Answers d d' evs (.write ep data) .done

/-- The calls that take and give data. -/
def Call.Transfers : Call → Prop
  | .read _ | .write _ _ => True
  | _ => False

/-- Only `write()` takes a buffer, and only for its endpoint. -/
def Call.Writes (call : Call) (evs : List Event) : Prop :=
  ∀ e, written e evs ≠ [] → ∃ ep data, call = .write ep data ∧ writeIdx ep = e

theorem Call.writes_nil (call : Call) : call.Writes [] := fun _ h => (h rfl).elim

/-- What the step of a client thread can do. -/
inductive ClientStep (info : Info) (s : Sys) (t : ℕ) : Sys → List SysEvent → Prop
  | returns {call : Call} {result : CallResult} {d : Dev} {evs : List Event}
      (hpc : (s.clients t).InCall call) (hd : Inner info s.dev d evs)
      (hans : Answers s.dev d evs call result) (hw : call.Writes evs) :
      ClientStep info s t ((s.setDev d).setClient t .idle)
        (evs.map .dev ++ [.returned t call result])
  | sleeps {timeout : Timeout} {d : Dev} {evs : List Event}
      (hpc : (s.clients t).InCall (.read timeout)) (ht : timeout ≠ .zero)
      (hd : Inner info s.dev d evs) (herr : d.err = none) (hcmds : d.cmds = [])
      (hnone : xfers evs = []) (hw : ∀ e, written e evs = []) :
      ClientStep info s t (((s.setDev d).wait (.client t)).setClient t (.reading timeout))
        (evs.map .dev)
  | fails {call : Call} {e : Err} {d : Dev} {evs : List Event} {finished : Bool} {s₁ : Sys}
      {evs₁ : List SysEvent} (hpc : (s.clients t).InCall call)
      (hd : Inner info s.dev d evs) (hnone : xfers evs = [])
      (herr : (call = .stop ∨ call = .destroy) ∧ d = s.dev ∨ call.Transfers ∧ d.err = some e)
      (hr : Resets (s.setDev d) (.client t) e finished s₁ evs₁) (hw : call.Writes evs) :
      ClientStep info s t (s₁.afterReset info t call finished).1
        (evs.map .dev ++ (evs₁ ++ (s₁.afterReset info t call finished).2))
  | loops {call : Call} {finished : Bool} {s₁ : Sys} (hpc : s.clients t = .resetting call)
      (hl : Loops s (.client t) finished s₁) :
      ClientStep info s t (s₁.afterReset info t call finished).1
        (s₁.afterReset info t call finished).2

variable {s s' : Sys} {t : ℕ} {evs : List SysEvent}

/-- A call that fails, with what it did to the device before. -/
theorem ClientStep.of_callReset {call : Call} {e : Err} {d : Dev} {devEvs : List Event}
    (hpc : (s.clients t).InCall call) (hd : Inner info s.dev d devEvs) (hnone : xfers devEvs = [])
    (herr : (call = .stop ∨ call = .destroy) ∧ d = s.dev ∨ call.Transfers ∧ d.err = some e)
    (hw : call.Writes devEvs) :
    ClientStep info s t ((s.setDev d).callReset info t call e).1
      (devEvs.map .dev ++ ((s.setDev d).callReset info t call e).2) :=
  .fails hpc hd hnone herr (resetEnter_spec _ _ _) hw

/-- Handling commands takes no buffers. -/
theorem written_of_handles (e : EpIdx) (hwf : d.Wf) {is : List Op} {evs : List Event}
    (h : (device info).RunWhere (fun _ op => op = .handle) d is d' evs) : written e evs = [] := by
  refine (run_induction (P := fun _ evs => written e evs = []) hwf rfl ?_ h).2
  intro d evs op d' ev _ hP hop hs
  subst hop
  rw [written_append, hP]
  cases hs <;> rfl

theorem readCall_spec {timeout : Timeout} (hwf : s.dev.Wf)
    (hpc : (s.clients t).InCall (.read timeout))
    (h : s.readCall info t timeout = some (s', evs)) : ClientStep info s t s' evs := by
  unfold Sys.readCall at h
  rcases hread : readSection info s.dev with ⟨out, d, devEvs⟩
  obtain ⟨⟨is, his⟩, hdone⟩ := readSection_run hwf hread
  have hd : Inner info s.dev d devEvs :=
    .of_run (fun d op hop => by subst hop; trivial) hwf his
  have hw : ∀ e, written e devEvs = [] := fun e => written_of_handles e hwf his
  have hw' : (Call.read timeout).Writes devEvs := fun e hne => (hne (hw e)).elim
  rw [hread] at h
  cases out with
  | xfer x =>
    obtain ⟨herr, evs', c, target, hevs, hnone⟩ := hdone
    obtain ⟨rfl, rfl⟩ := by simpa using h
    exact .returns hpc hd (.xfer herr hevs hnone) hw'
  | empty =>
    obtain ⟨herr, hcmds, hnone⟩ := hdone
    by_cases ht : timeout = .zero
    · subst ht
      obtain ⟨rfl, rfl⟩ := by simpa using h
      exact .returns hpc hd (.nullopt herr hcmds hnone) hw'
    · simp only [if_neg ht, Option.some.injEq, Prod.mk.injEq] at h
      obtain ⟨rfl, rfl⟩ := h
      exact .sleeps hpc ht hd herr hcmds hnone hw
  | threw e =>
    obtain ⟨herr, hnone⟩ := hdone
    obtain ⟨rfl, rfl⟩ := by simpa using h
    exact .of_callReset hpc hd hnone (.inr ⟨trivial, herr⟩) hw'
  | aborted => exact hdone.elim

/-- The assertions in the handlers of `read()` hold. -/
theorem Sys.readCall_ne_none (hwf : s.dev.Wf) (timeout : Timeout) :
    s.readCall info t timeout ≠ none := by
  unfold Sys.readCall
  rcases hread : readSection info s.dev with ⟨out, d, devEvs⟩
  have hdone := (readSection_run hwf hread).2
  cases out with
  | aborted => exact hdone.elim
  | empty =>
    dsimp only
    split_ifs <;> exact Option.some_ne_none _
  | _ => exact Option.some_ne_none _

theorem writeCall_spec {ep : UInt8} {data : List UInt8} (hwf : s.dev.Wf)
    (hpc : (s.clients t).InCall (.write ep data))
    (h : s.writeCall info t ep data = some (s', evs)) : ClientStep info s t s' evs := by
  unfold Sys.writeCall at h
  split at h
  · cases h
  · rename_i d devEvs hstep
    obtain ⟨ev, rfl, hdev⟩ := step_spec hwf hstep
    have hinner : Op.Inner (.write ep data) := trivial
    have hd : Inner info s.dev d [ev] := (Inner.refl info s.dev).snoc hinner hstep hdev
    have hnone : xfers [ev] = [] := by cases hdev <;> rfl
    have hw : (Call.write ep data).Writes [ev] := by
      intro e hne
      cases hdev with
      | write =>
        by_cases he : writeIdx ep = e
        · exact ⟨ep, data, rfl, he⟩
        · exact (hne (by simp [written, he])).elim
      | refuse => exact (hne rfl).elim
    split at h
    · rename_i herr
      obtain ⟨rfl, rfl⟩ := by simpa using h
      exact .returns hpc hd (.wrote herr hnone) hw
    · rename_i e herr
      obtain ⟨rfl, rfl⟩ := by simpa using h
      exact .of_callReset hpc hd hnone (.inr ⟨trivial, herr⟩) hw

/-- **What the step of a client thread does.** -/
theorem stepClient_spec (hwf : s.dev.Wf) (h : s.stepClient info t = some (s', evs)) :
    ClientStep info s t s' evs := by
  have hstop : ∀ call, s.clients t = .entering call → call = .stop ∨ call = .destroy →
      s.callReset info t call .stopped = (s', evs) → ClientStep info s t s' evs := by
    intro call hpc hcall hs
    obtain ⟨rfl, rfl⟩ : _ = s' ∧ _ = evs := Prod.ext_iff.mp hs
    have hstep : ClientStep info s t ((s.setDev s.dev).callReset info t call .stopped).1 _ :=
      .of_callReset (hpc ▸ rfl) (.refl info s.dev) rfl (.inl ⟨hcall, rfl⟩) call.writes_nil
    rwa [Sys.setDev_self] at hstep
  unfold Sys.stepClient at h
  split at h
  · rename_i hpc
    exact hstop .stop hpc (.inl rfl) (Option.some.inj h)
  · rename_i hpc
    exact hstop .destroy hpc (.inr rfl) (Option.some.inj h)
  · rename_i hpc
    obtain ⟨rfl, rfl⟩ := by simpa [Sys.return_] using h
    have hstep : ClientStep info s t ((s.setDev s.dev).setClient t .idle) _ :=
      .returns (hpc ▸ rfl) (.refl info s.dev) (.err rfl rfl) (Call.writes_nil _)
    rwa [Sys.setDev_self] at hstep
  · rename_i timeout hpc
    exact readCall_spec hwf (hpc ▸ rfl) h
  · rename_i ep data hpc
    exact writeCall_spec hwf (hpc ▸ rfl) h
  · rename_i timeout hpc
    exact readCall_spec hwf (hpc ▸ rfl) h
  · rename_i call hpc
    obtain ⟨rfl, rfl⟩ : _ = s' ∧ _ = evs := Prod.ext_iff.mp (Option.some.inj h)
    exact .loops hpc (resetLoop_spec _ _)
  · cases h

theorem Sys.afterReset_fst (s : Sys) (t : ℕ) (call : Call) (finished : Bool) :
    (s.afterReset info t call finished).1
      = s.setClient t (if finished then .idle else .resetting call) := by
  cases finished <;> rfl

theorem Sys.afterReset_snd (s : Sys) (t : ℕ) (call : Call) (finished : Bool) :
    (s.afterReset info t call finished).2
      = if finished then [.returned t call (s.failResult info call)] else [] := by
  cases finished <;> rfl

/-- How a call of a client thread returns in a step: with an answer, after a `_reset` that did not
wait, or out of the wait loop of `_reset`. -/
inductive ClientReturns (info : Info) (s : Sys) (t : ℕ) : Sys → Call → CallResult → Prop
  | answers {call : Call} {result : CallResult} {d : Dev} {evs : List Event}
      (hd : Inner info s.dev d evs) (hans : Answers s.dev d evs call result) :
      ClientReturns info s t ((s.setDev d).setClient t .idle) call result
  | fails {call : Call} {e : Err} {d : Dev} {evs : List Event} {s₁ : Sys} {evs₁ : List SysEvent}
      (hpc : (s.clients t).InCall call) (hd : Inner info s.dev d evs)
      (herr : (call = .stop ∨ call = .destroy) ∧ d = s.dev ∨ call.Transfers ∧ d.err = some e)
      (hr : Resets (s.setDev d) (.client t) e true s₁ evs₁) :
      ClientReturns info s t (s₁.setClient t .idle) call (s₁.failResult info call)
  | loops {call : Call} {s₁ : Sys} (hpc : s.clients t = .resetting call)
      (hl : Loops s (.client t) true s₁) :
      ClientReturns info s t (s₁.setClient t .idle) call (s₁.failResult info call)

theorem Resets.not_returned {th : Thread} {e : Err} {finished : Bool}
    (h : Resets s th e finished s' evs) {t : ℕ} {call : Call} {result : CallResult} :
    .returned t call result ∉ evs := by
  cases h <;> simp

/-- **A call returns only in a step of its client thread.** -/
theorem ClientStep.returned {t' : ℕ} {call : Call} {result : CallResult}
    (h : ClientStep info s t s' evs) (hmem : .returned t' call result ∈ evs) :
    t' = t ∧ ClientReturns info s t s' call result := by
  have hdev : ∀ devEvs : List Event, .returned t' call result ∉ devEvs.map SysEvent.dev := by
    simp
  cases h with
  | returns hpc hd hans =>
    rcases List.mem_append.mp hmem with hmem | hmem
    · exact (hdev _ hmem).elim
    · obtain ⟨rfl, rfl, rfl⟩ := SysEvent.returned.inj (List.mem_singleton.mp hmem)
      exact ⟨rfl, .answers hd hans⟩
  | sleeps => exact (hdev _ hmem).elim
  | @fails call' e d devEvs finished s₁ evs₁ hpc hd hnone herr hr =>
    rcases List.mem_append.mp hmem with hmem | hmem
    · exact (hdev _ hmem).elim
    · rcases List.mem_append.mp hmem with hreset | hmem
      · exact (hr.not_returned hreset).elim
      · cases finished with
        | false => exact (List.not_mem_nil hmem).elim
        | true =>
          obtain ⟨rfl, rfl, rfl⟩ := SysEvent.returned.inj (List.mem_singleton.mp hmem)
          exact ⟨rfl, .fails hpc hd herr hr⟩
  | @loops call' finished s₁ hpc hl =>
    cases finished with
    | false => exact (List.not_mem_nil hmem).elim
    | true =>
      obtain ⟨rfl, rfl, rfl⟩ := SysEvent.returned.inj (List.mem_singleton.mp hmem)
      exact ⟨rfl, .loops hpc hl⟩

/-- On a device that was reset a call of `_reset` returns at once. -/
theorem Sys.callReset_of_reset (hreset : s.flags.reset = true) (call : Call) (e : Err) :
    s.callReset info t call e
      = (s.setClient t .idle, [.returned t call (s.failResult info call)]) := by
  have henter : s.resetEnter (.client t) e = (true, s, []) := by
    rw [Sys.resetEnter, if_pos hreset]
  rw [Sys.callReset, henter]
  rfl

/-- Without threads a call of `_reset` closes the sockets and returns. -/
theorem Sys.callReset_of_not_running (hreset : s.flags.reset = false) (hrun : s.running = false)
    (call : Call) (e : Err) :
    s.callReset info t call e
      = ((s.failed e).closeSockets.setClient t .idle,
        [.dev (.failed e), .returned t call ((s.failed e).closeSockets.failResult info call)]) := by
  have hrun' : (s.failed e).running = false := hrun
  have hloop : (s.failed e).resetLoop (.client t) = (true, (s.failed e).closeSockets) := by
    rw [Sys.resetLoop, hrun']
    rfl
  rw [Sys.callReset, Sys.resetEnter_of_not_reset hreset, hloop]
  rfl

/-- While a thread bit is set a call of `_reset` waits. -/
theorem Sys.callReset_of_running (hreset : s.flags.reset = false) (hrun : s.running = true)
    (call : Call) (e : Err) :
    s.callReset info t call e
      = (((s.failed e).wait (.client t)).setClient t (.resetting call), [.dev (.failed e)]) := by
  have hrun' : (s.failed e).running = true := hrun
  have hloop : (s.failed e).resetLoop (.client t) = (false, (s.failed e).wait (.client t)) := by
    rw [Sys.resetLoop, hrun']
    rfl
  rw [Sys.callReset, Sys.resetEnter_of_not_reset hreset, hloop]
  rfl

@[simp] theorem devEvents_afterReset (s : Sys) (t : ℕ) (call : Call) (finished : Bool) :
    devEvents (s.afterReset info t call finished).2 = [] := by
  cases finished <;> rfl

/-! ### `start()` -/

/-- `start()` has set its bit. -/
def Sys.begun (s : Sys) : Sys :=
  { s with flags := { s.flags with started := true } }

/-- The states in which `start()` throws: how far it got. -/
inductive StartFails (s : Sys) : StartOutcome → Sys → Prop
  | early (o : StartOutcome) : StartFails s o s.begun
  | noVhci (call : VhciCall) (errno a b : ℕ) :
      StartFails s (.noVhci call errno a b) { s.begun with socket := a, usbipSocket := b }
  | noReadThread (errno : ℕ) {a b : ℕ} (hne : a ≠ b) :
      StartFails s (.noReadThread errno a b) (s.begun.attached a b)
  | noWriteThread (errno : ℕ) {a b : ℕ} (hne : a ≠ b) :
      StartFails s (.noWriteThread errno a b) { s.begun.attached a b with reader := .launched }

/-- What `start()` can do on an idle device. -/
inductive StartStep (info : Info) (s : Sys) (t : ℕ) : StartOutcome → Sys → List SysEvent → Prop
  | fails {o : StartOutcome} {e : Err} {s₁ s₂ : Sys} {finished : Bool} {evs₁ : List SysEvent}
      (hf : StartFails s o s₁) (hr : Resets s₁ (.client t) e finished s₂ evs₁) :
      StartStep info s t o (s₂.afterReset info t .start finished).1
        (evs₁ ++ (s₂.afterReset info t .start finished).2)
  | started {a b : ℕ} (hne : a ≠ b) :
      StartStep info s t (.started a b)
        (({ s.begun.attached a b with reader := .launched, writer := .launched } : Sys).setClient
          t .idle) [.returned t .start .done]

/-- **What `start()` does.** -/
theorem startCall_spec {o : StartOutcome} (ho : o.distinct = true)
    (h : s.startCall info t o = some (s', evs)) :
    s.flags = {} ∧ StartStep info s t o s' evs := by
  have hfails : ∀ {s₁ : Sys} {e : Err}, StartFails s o s₁ →
      some (s₁.callReset info t .start e) = some (s', evs) → StartStep info s t o s' evs := by
    intro s₁ e hf hs
    obtain ⟨rfl, rfl⟩ : _ = s' ∧ _ = evs := Prod.ext_iff.mp (Option.some.inj hs)
    exact .fails hf (resetEnter_spec _ _ _)
  unfold Sys.startCall at h
  split at h
  · rename_i hflags
    refine ⟨hflags, ?_⟩
    split at h
    · exact hfails (.early o) h
    · cases o with
      | noSockets errno => exact hfails (.early _) h
      | noVhci call errno a b => exact hfails (.noVhci call errno a b) h
      | noReadThread errno a b =>
        have hne : a ≠ b := by simpa [StartOutcome.distinct] using ho
        exact hfails (.noReadThread errno hne) h
      | noWriteThread errno a b =>
        have hne : a ≠ b := by simpa [StartOutcome.distinct] using ho
        exact hfails (.noWriteThread errno hne) h
      | started a b =>
        obtain ⟨rfl, rfl⟩ : _ = s' ∧ _ = evs := Prod.ext_iff.mp (Option.some.inj h)
        exact .started (by simpa [StartOutcome.distinct] using ho)
  · cases h

/-! ### The reader thread -/

/-- What a call of `recv` can do. -/
inductive RecvStep (s : Sys) : IoResult (List UInt8) → Sys → List SysEvent → Prop
  | header {socket : ℤ} {buf bs : List UInt8} (hpc : s.reader = .recvHeader socket buf)
      (hpos : 0 < bs.length) (hlen : bs.length ≤ headerSize - buf.length) :
      RecvStep s (.some bs)
        { s with
          reader := Sys.readerNext headerSize (buf ++ bs) (.recvHeader socket)
            (Sys.readerHeaderDone socket) }
        [.received bs]
  | payload {socket : ℤ} {h : Header} {len : ℕ} {buf bs : List UInt8}
      (hpc : s.reader = .recvPayload socket h len buf) (hpos : 0 < bs.length)
      (hlen : bs.length ≤ len - buf.length) :
      RecvStep s (.some bs)
        { s with
          reader := Sys.readerNext len (buf ++ bs) (.recvPayload socket h len)
            fun data => .push socket { header := h, payload := data } }
        [.received bs]
  | again {fd : ℤ} (hpc : s.reader.receiving = some fd) : RecvStep s (.failed eintr) s []
  | fails {r : IoResult (List UInt8)} {fd : ℤ} (hpc : s.reader.receiving = some fd) (e : Err)
      (hr : r = .zero ∨ ∃ errno, errno ≠ eintr ∧ r = .failed errno) :
      RecvStep s r { s with reader := .caught e } []

/-- What the other steps of the reader thread can do. -/
inductive ReaderStep (s : Sys) : Sys → List SysEvent → Prop
  | copies (hpc : s.reader = .launched) :
      ReaderStep s { s with reader := .recvHeader s.socket [] } []
  | pushes {socket : ℤ} {cmd : Cmd} (hpc : s.reader = .push socket cmd) :
      ReaderStep s
        ({ s with
            dev := { s.dev with cmds := s.dev.cmds ++ [cmd] }
            reader := .recvHeader socket [] } : Sys).notifyAll
        [.dev (.arrived cmd)]
  | fails {e : Err} {finished : Bool} {s₁ : Sys} {evs₁ : List SysEvent}
      (hpc : s.reader = .caught e) (hr : Resets s .reader e finished s₁ evs₁) :
      ReaderStep s { s₁ with reader := if finished then .exiting else .resetWait } evs₁
  | loops {finished : Bool} {s₁ : Sys} (hpc : s.reader = .resetWait)
      (hl : Loops s .reader finished s₁) :
      ReaderStep s { s₁ with reader := if finished then .exiting else .resetWait } []
  | exits (hpc : s.reader = .exiting) :
      ReaderStep s
        ({ s with flags := { s.flags with readThreadRunning := false }, reader := .exited } : Sys
          ).notifyAll []

/-- A turn of the loop of `_Read`. -/
theorem readTurn_cases {len : ℕ} {buf : List UInt8} {again done : List UInt8 → ReaderPc}
    {r : IoResult (List UInt8)} (h : s.readTurn len buf again done r = some (s', evs)) :
    (∃ bs, r = .some bs ∧ 0 < bs.length ∧ bs.length ≤ len - buf.length ∧
        s' = { s with reader := Sys.readerNext len (buf ++ bs) again done } ∧
        evs = [.received bs]) ∨
      r = .failed eintr ∧ s' = s ∧ evs = [] ∨
      (r = .zero ∨ ∃ errno, errno ≠ eintr ∧ r = .failed errno) ∧
        ∃ e, s' = { s with reader := .caught e } ∧ evs = [] := by
  cases r with
  | some bs =>
    rw [Sys.readTurn] at h
    split at h
    · rename_i hbs
      obtain ⟨rfl, rfl⟩ := by simpa using h
      exact .inl ⟨bs, rfl, hbs.1, hbs.2, rfl, rfl⟩
    · cases h
  | zero =>
    obtain ⟨rfl, rfl⟩ := by simpa [Sys.readTurn] using h
    exact .inr (.inr ⟨.inl rfl, _, rfl, rfl⟩)
  | failed errno =>
    rw [Sys.readTurn] at h
    split at h
    · rename_i herrno
      obtain ⟨rfl, rfl⟩ := by simpa using h
      exact .inr (.inl ⟨by rw [herrno], rfl, rfl⟩)
    · rename_i herrno
      obtain ⟨rfl, rfl⟩ := by simpa using h
      exact .inr (.inr ⟨.inr ⟨errno, herrno, rfl⟩, _, rfl, rfl⟩)

/-- **What `recv` does.** -/
theorem stepRecv_spec {r : IoResult (List UInt8)} (h : s.stepRecv r = some (s', evs)) :
    RecvStep s r s' evs := by
  unfold Sys.stepRecv at h
  split at h
  · rename_i socket buf hpc
    have hrecv : s.reader.receiving = some socket := by rw [hpc]; rfl
    rcases readTurn_cases h with
      ⟨bs, rfl, hpos, hlen, rfl, rfl⟩ | ⟨rfl, rfl, rfl⟩ | ⟨hr, e, rfl, rfl⟩
    · exact .header hpc hpos hlen
    · exact .again hrecv
    · exact .fails hrecv e hr
  · rename_i socket h' len buf hpc
    have hrecv : s.reader.receiving = some socket := by rw [hpc]; rfl
    rcases readTurn_cases h with
      ⟨bs, rfl, hpos, hlen, rfl, rfl⟩ | ⟨rfl, rfl, rfl⟩ | ⟨hr, e, rfl, rfl⟩
    · exact .payload hpc hpos hlen
    · exact .again hrecv
    · exact .fails hrecv e hr
  · cases h

/-- **What the reader thread does between its calls of `recv`.** -/
theorem stepReader_spec (h : s.stepReader = some (s', evs)) : ReaderStep s s' evs := by
  unfold Sys.stepReader at h
  split at h
  · rename_i hpc
    obtain ⟨rfl, rfl⟩ := by simpa using h
    exact .copies hpc
  · rename_i socket cmd hpc
    obtain ⟨rfl, rfl⟩ := by simpa using h
    exact .pushes hpc
  · rename_i e hpc
    obtain ⟨rfl, rfl⟩ : _ = s' ∧ _ = evs := Prod.ext_iff.mp (Option.some.inj h)
    exact .fails hpc (resetEnter_spec s .reader e)
  · rename_i hpc
    obtain ⟨rfl, rfl⟩ : _ = s' ∧ _ = evs := Prod.ext_iff.mp (Option.some.inj h)
    exact .loops hpc (resetLoop_spec s .reader)
  · rename_i hpc
    obtain ⟨rfl, rfl⟩ := by simpa using h
    exact .exits hpc
  · cases h

/-! ### The writer thread -/

/-- What a call of `send` can do. -/
inductive SendStep (s : Sys) : IoResult ℕ → Sys → List SysEvent → Prop
  | header {socket : ℤ} {rest payload : List UInt8} {n : ℕ}
      (hpc : s.writer = .sendHeader socket rest payload) (hpos : 0 < n) (hlen : n ≤ rest.length) :
      SendStep s (.some n)
        { s with writer :=
            if rest.drop n = [] then Sys.writerPayload socket payload
            else .sendHeader socket (rest.drop n) payload }
        [.sent (rest.take n)]
  | payload {socket : ℤ} {rest : List UInt8} {n : ℕ} (hpc : s.writer = .sendPayload socket rest)
      (hpos : 0 < n) (hlen : n ≤ rest.length) :
      SendStep s (.some n)
        { s with writer :=
            if rest.drop n = [] then .loop socket else .sendPayload socket (rest.drop n) }
        [.sent (rest.take n)]
  | again {fd : ℤ} (hpc : s.writer.sending = some fd) : SendStep s (.failed eintr) s []
  | fails {r : IoResult ℕ} {fd : ℤ} (hpc : s.writer.sending = some fd) (e : Err) :
      SendStep s r { s with writer := .caught e } []

/-- What the other steps of the writer thread can do. -/
inductive WriterStep (s : Sys) : Sys → List SysEvent → Prop
  | copies (hpc : s.writer = .launched) : WriterStep s { s with writer := .loop s.socket } []
  | raises {socket : ℤ} {e : Err} (hpc : s.writer = .loop socket) (herr : s.dev.err = some e) :
      WriterStep s { s with writer := .caught e } []
  | sleeps {socket : ℤ} (hpc : s.writer = .loop socket) (herr : s.dev.err = none)
      (hreps : s.dev.reps = []) : WriterStep s (s.wait .writer) []
  | takes {socket : ℤ} {rep : Rep} {reps : List Rep} (hpc : s.writer = .loop socket)
      (herr : s.dev.err = none) (hreps : s.dev.reps = rep :: reps) :
      WriterStep s
        { s with
          dev := { s.dev with reps := reps }
          writer := .sendHeader socket rep.header.bytes rep.payload }
        [.dev (.dequeued rep)]
  | fails {e : Err} {finished : Bool} {s₁ : Sys} {evs₁ : List SysEvent}
      (hpc : s.writer = .caught e) (hr : Resets s .writer e finished s₁ evs₁) :
      WriterStep s { s₁ with writer := if finished then .exiting else .resetWait } evs₁
  | loops {finished : Bool} {s₁ : Sys} (hpc : s.writer = .resetWait)
      (hl : Loops s .writer finished s₁) :
      WriterStep s { s₁ with writer := if finished then .exiting else .resetWait } []
  | exits (hpc : s.writer = .exiting) :
      WriterStep s
        ({ s with flags := { s.flags with writeThreadRunning := false }, writer := .exited } : Sys
          ).notifyAll []

/-- A turn of the loop of `_Write`. -/
theorem writeTurn_cases {rest : List UInt8} {again : List UInt8 → WriterPc} {done : WriterPc}
    {r : IoResult ℕ} (h : s.writeTurn rest again done r = some (s', evs)) :
    (∃ n, r = .some n ∧ 0 < n ∧ n ≤ rest.length ∧
        s' = { s with writer := if rest.drop n = [] then done else again (rest.drop n) } ∧
        evs = [.sent (rest.take n)]) ∨
      r = .failed eintr ∧ s' = s ∧ evs = [] ∨
      ∃ e, s' = { s with writer := .caught e } ∧ evs = [] := by
  cases r with
  | some n =>
    rw [Sys.writeTurn] at h
    split at h
    · rename_i hn
      obtain ⟨rfl, rfl⟩ := Prod.ext_iff.mp (Option.some.inj h)
      exact .inl ⟨n, rfl, hn.1, hn.2, rfl, rfl⟩
    · cases h
  | zero =>
    obtain ⟨rfl, rfl⟩ := by simpa [Sys.writeTurn] using h
    exact .inr (.inr ⟨_, rfl, rfl⟩)
  | failed errno =>
    rw [Sys.writeTurn] at h
    split at h
    · rename_i herrno
      obtain ⟨rfl, rfl⟩ := by simpa using h
      exact .inr (.inl ⟨by rw [herrno], rfl, rfl⟩)
    · obtain ⟨rfl, rfl⟩ := by simpa using h
      exact .inr (.inr ⟨_, rfl, rfl⟩)

/-- **What `send` does.** -/
theorem stepSend_spec {r : IoResult ℕ} (h : s.stepSend r = some (s', evs)) :
    SendStep s r s' evs := by
  unfold Sys.stepSend at h
  split at h
  · rename_i socket rest payload hpc
    have hsend : s.writer.sending = some socket := by rw [hpc]; rfl
    rcases writeTurn_cases h with ⟨n, rfl, hpos, hlen, rfl, rfl⟩ | ⟨rfl, rfl, rfl⟩ | ⟨e, rfl, rfl⟩
    · exact .header hpc hpos hlen
    · exact .again hsend
    · exact .fails hsend e
  · rename_i socket rest hpc
    have hsend : s.writer.sending = some socket := by rw [hpc]; rfl
    rcases writeTurn_cases h with ⟨n, rfl, hpos, hlen, rfl, rfl⟩ | ⟨rfl, rfl, rfl⟩ | ⟨e, rfl, rfl⟩
    · exact .payload hpc hpos hlen
    · exact .again hsend
    · exact .fails hsend e
  · cases h

/-- **What the writer thread does between its calls of `send`.** -/
theorem stepWriter_spec (h : s.stepWriter = some (s', evs)) : WriterStep s s' evs := by
  unfold Sys.stepWriter at h
  split at h
  · rename_i hpc
    obtain ⟨rfl, rfl⟩ := by simpa using h
    exact .copies hpc
  · rename_i socket hpc
    split at h
    · rename_i e _ herr
      obtain ⟨rfl, rfl⟩ := by simpa using h
      exact .raises hpc herr
    · rename_i herr hreps
      obtain ⟨rfl, rfl⟩ := by simpa using h
      exact .sleeps hpc herr hreps
    · rename_i rep reps herr hreps
      obtain ⟨rfl, rfl⟩ := by simpa using h
      exact .takes hpc herr hreps
  · rename_i e hpc
    obtain ⟨rfl, rfl⟩ : _ = s' ∧ _ = evs := Prod.ext_iff.mp (Option.some.inj h)
    exact .fails hpc (resetEnter_spec s .writer e)
  · rename_i hpc
    obtain ⟨rfl, rfl⟩ : _ = s' ∧ _ = evs := Prod.ext_iff.mp (Option.some.inj h)
    exact .loops hpc (resetLoop_spec s .writer)
  · rename_i hpc
    obtain ⟨rfl, rfl⟩ := by simpa using h
    exact .exits hpc
  · cases h

/-! ### All steps -/

/-- What a step of the program can do. -/
inductive SysStep (info : Info) (s : Sys) : Action → Sys → List SysEvent → Prop
  | call {t : ℕ} (call : Call) (hpc : s.clients t = .idle) :
      SysStep info s (.call t call) (s.setClient t (.entering call)) []
  | client {t : ℕ} {s' : Sys} {evs : List SysEvent} (hawake : s.asleep (.client t) = false)
      (h : ClientStep info s t s' evs) : SysStep info s (.client t) s' evs
  | start {t : ℕ} {o : StartOutcome} {s' : Sys} {evs : List SysEvent}
      (hpc : s.clients t = .entering .start) (hidle : s.flags = {})
      (h : StartStep info s t o s' evs) : SysStep info s (.start t o) s' evs
  | timeout {t : ℕ} (hpc : s.clients t = .reading .finite) :
      SysStep info s (.timeout t) ((s.wake (.client t)).setClient t .idle)
        [.returned t (.read .finite) .nullopt]
  | wake {th : Thread} (hasleep : s.asleep th = true) : SysStep info s (.wake th) (s.wake th) []
  | reader {s' : Sys} {evs : List SysEvent} (hawake : s.asleep .reader = false)
      (h : ReaderStep s s' evs) : SysStep info s .reader s' evs
  | recv {r : IoResult (List UInt8)} {s' : Sys} {evs : List SysEvent} (h : RecvStep s r s' evs) :
      SysStep info s (.recv r) s' evs
  | writer {s' : Sys} {evs : List SysEvent} (hawake : s.asleep .writer = false)
      (h : WriterStep s s' evs) : SysStep info s .writer s' evs
  | send {r : IoResult ℕ} {s' : Sys} {evs : List SysEvent} (h : SendStep s r s' evs) :
      SysStep info s (.send r) s' evs

/-- **What a step of the program does.** -/
theorem sysStep_spec (hwf : s.dev.Wf) {a : Action} (h : s.step info a = some (s', evs)) :
    SysStep info s a s' evs := by
  cases a with
  | call t call =>
    rw [Sys.step] at h
    split at h
    · rename_i hpc
      obtain ⟨rfl, rfl⟩ := by simpa using h
      exact .call call hpc
    · cases h
  | client t =>
    rw [Sys.step] at h
    split at h
    · cases h
    · rename_i hawake
      exact .client (by simpa using hawake) (stepClient_spec hwf h)
  | start t o =>
    rw [Sys.step] at h
    split at h
    · rename_i hcond
      obtain ⟨hidle, hs⟩ := startCall_spec hcond.2 h
      exact .start hcond.1 hidle hs
    · cases h
  | timeout t =>
    rw [Sys.step] at h
    split at h
    · rename_i hpc
      obtain ⟨rfl, rfl⟩ : _ = s' ∧ _ = evs := Prod.ext_iff.mp (Option.some.inj h)
      exact .timeout hpc
    · cases h
  | wake th =>
    rw [Sys.step] at h
    split at h
    · rename_i hasleep
      obtain ⟨rfl, rfl⟩ := by simpa using h
      exact .wake hasleep
    · cases h
  | reader =>
    rw [Sys.step] at h
    split at h
    · cases h
    · rename_i hawake
      exact .reader (by simpa using hawake) (stepReader_spec h)
  | recv r => exact .recv (stepRecv_spec h)
  | writer =>
    rw [Sys.step] at h
    split at h
    · cases h
    · rename_i hawake
      exact .writer (by simpa using hawake) (stepWriter_spec h)
  | send r => exact .send (stepSend_spec h)

/-! ### What happens at the two ends of the socket -/

/-- `_reset` moves no bytes and neither end of the queues. -/
theorem Resets.io {th : Thread} {e : Err} {finished : Bool} (h : Resets s th e finished s' evs) :
    receivedBytes evs = [] ∧ sentBytes evs = [] ∧ arrivals (devEvents evs) = [] ∧
      dequeues (devEvents evs) = [] := by
  cases h <;> exact ⟨rfl, rfl, rfl, rfl⟩

@[simp] theorem receivedBytes_map_dev (evs : List Event) : receivedBytes (evs.map .dev) = [] := by
  simp [receivedBytes]

@[simp] theorem sentBytes_map_dev (evs : List Event) : sentBytes (evs.map .dev) = [] := by
  simp [sentBytes]

theorem Sys.afterReset_io (s : Sys) (t : ℕ) (call : Call) (finished : Bool) :
    receivedBytes (s.afterReset info t call finished).2 = [] ∧
      sentBytes (s.afterReset info t call finished).2 = [] := by
  cases finished <;> exact ⟨rfl, rfl⟩

/-- A client thread moves neither of the two threads, no bytes, and neither end of the queues. -/
theorem ClientStep.io {t : ℕ} (h : ClientStep info s t s' evs) :
    (s'.reader = s.reader ∧ receivedBytes evs = [] ∧ arrivals (devEvents evs) = []) ∧
      s'.writer = s.writer ∧ sentBytes evs = [] ∧ dequeues (devEvents evs) = [] := by
  cases h with
  | returns hpc hd =>
    refine ⟨⟨Sys.setDev_reader _, ?_, ?_⟩, Sys.setDev_writer _, ?_, ?_⟩
    · rw [receivedBytes_append, receivedBytes_map_dev]; rfl
    · rw [devEvents_append, devEvents_map_dev, arrivals_append, hd.arrivals]; rfl
    · rw [sentBytes_append, sentBytes_map_dev]; rfl
    · rw [devEvents_append, devEvents_map_dev, dequeues_append, hd.dequeues]; rfl
  | sleeps hpc ht hd =>
    refine ⟨⟨Sys.setDev_reader _, receivedBytes_map_dev _, ?_⟩, Sys.setDev_writer _,
      sentBytes_map_dev _, ?_⟩
    · rw [devEvents_map_dev, hd.arrivals]
    · rw [devEvents_map_dev, hd.dequeues]
  | fails hpc hd hnone herr hr =>
    obtain ⟨hreceived, hsent, harr, hdeq⟩ := hr.io
    obtain ⟨hrd, hwr, -⟩ := hr.threads
    rw [Sys.setDev_reader] at hrd
    rw [Sys.setDev_writer] at hwr
    rw [Sys.afterReset_fst]
    refine ⟨⟨hrd, ?_, ?_⟩, hwr, ?_, ?_⟩
    · rw [receivedBytes_append, receivedBytes_map_dev, receivedBytes_append, hreceived,
        (Sys.afterReset_io ..).1]
      rfl
    · rw [devEvents_append, devEvents_map_dev, devEvents_append, devEvents_afterReset,
        arrivals_append, hd.arrivals, List.append_nil, harr]
      rfl
    · rw [sentBytes_append, sentBytes_map_dev, sentBytes_append, hsent, (Sys.afterReset_io ..).2]
      rfl
    · rw [devEvents_append, devEvents_map_dev, devEvents_append, devEvents_afterReset,
        dequeues_append, hd.dequeues, List.append_nil, hdeq]
      rfl
  | loops hpc hl =>
    obtain ⟨hrd, hwr, -⟩ := hl.threads
    rw [devEvents_afterReset, Sys.afterReset_fst]
    exact ⟨⟨hrd, (Sys.afterReset_io ..).1, rfl⟩, hwr, (Sys.afterReset_io ..).2, rfl⟩

/-- `start()` creates the two threads or does not, and moves nothing else. -/
theorem StartStep.io {t : ℕ} {o : StartOutcome} (h : StartStep info s t o s' evs) :
    ((s'.reader = s.reader ∨ s'.reader = .launched) ∧ receivedBytes evs = [] ∧
        arrivals (devEvents evs) = []) ∧
      (s'.writer = s.writer ∨ s'.writer = .launched) ∧ sentBytes evs = [] ∧
        dequeues (devEvents evs) = [] := by
  cases h with
  | @fails o e s₁ s₂ finished evs₁ hf hr =>
    obtain ⟨hreceived, hsent, harr, hdeq⟩ := hr.io
    obtain ⟨hrd, hwr, -⟩ := hr.threads
    have hpcs : (s₁.reader = s.reader ∨ s₁.reader = .launched) ∧ s₁.writer = s.writer := by
      cases hf with
      | noWriteThread => exact ⟨.inr rfl, rfl⟩
      | _ => exact ⟨.inl rfl, rfl⟩
    rw [Sys.afterReset_fst]
    refine ⟨⟨?_, ?_, ?_⟩, ?_, ?_, ?_⟩
    · exact hpcs.1.imp hrd.trans hrd.trans
    · rw [receivedBytes_append, hreceived, (Sys.afterReset_io ..).1]; rfl
    · rw [devEvents_append, devEvents_afterReset, List.append_nil, harr]
    · exact .inl (hwr.trans hpcs.2)
    · rw [sentBytes_append, hsent, (Sys.afterReset_io ..).2]; rfl
    · rw [devEvents_append, devEvents_afterReset, List.append_nil, hdeq]
  | started => exact ⟨⟨.inr rfl, rfl, rfl⟩, .inr rfl, rfl, rfl⟩

/-- The steps of the reader thread move nothing at the other end. -/
theorem ReaderStep.io (h : ReaderStep s s' evs) :
    s'.writer = s.writer ∧ receivedBytes evs = [] ∧ sentBytes evs = [] ∧
      dequeues (devEvents evs) = [] := by
  cases h with
  | fails hpc hr =>
    obtain ⟨hreceived, hsent, -, hdeq⟩ := hr.io
    exact ⟨hr.threads.2.1, hreceived, hsent, hdeq⟩
  | loops hpc hl => exact ⟨hl.threads.2.1, rfl, rfl, rfl⟩
  | _ => exact ⟨rfl, rfl, rfl, rfl⟩

/-- The steps of the writer thread move nothing at the other end. -/
theorem WriterStep.io (h : WriterStep s s' evs) :
    s'.reader = s.reader ∧ receivedBytes evs = [] ∧ sentBytes evs = [] ∧
      arrivals (devEvents evs) = [] := by
  cases h with
  | fails hpc hr =>
    obtain ⟨hreceived, hsent, harr, -⟩ := hr.io
    exact ⟨hr.threads.1, hreceived, hsent, harr⟩
  | loops hpc hl => exact ⟨hl.threads.1, rfl, rfl, rfl⟩
  | _ => exact ⟨rfl, rfl, rfl, rfl⟩

/-- **The reading end**: only the reader thread moves it. -/
theorem SysStep.reader_cases {a : Action} (h : SysStep info s a s' evs) :
    ((s'.reader = s.reader ∨ s.flags = {} ∧ s'.reader = .launched) ∧ receivedBytes evs = [] ∧
        arrivals (devEvents evs) = []) ∨
      a = .reader ∧ ReaderStep s s' evs ∨ ∃ r, a = .recv r ∧ RecvStep s r s' evs := by
  cases h with
  | client hawake h =>
    obtain ⟨⟨hpc, hio⟩, -⟩ := h.io
    exact .inl ⟨.inl hpc, hio⟩
  | start hpc hidle h =>
    obtain ⟨⟨hpc, hio⟩, -⟩ := h.io
    exact .inl ⟨hpc.imp_right fun hpc => ⟨hidle, hpc⟩, hio⟩
  | reader hawake h => exact .inr (.inl ⟨rfl, h⟩)
  | recv h => exact .inr (.inr ⟨_, rfl, h⟩)
  | writer hawake h =>
    obtain ⟨hpc, hreceived, -, harr⟩ := h.io
    exact .inl ⟨.inl hpc, hreceived, harr⟩
  | send h => cases h <;> exact .inl ⟨.inl rfl, rfl, rfl⟩
  | _ => exact .inl ⟨.inl rfl, rfl, rfl⟩

/-- **The writing end**: only the writer thread moves it. -/
theorem SysStep.writer_cases {a : Action} (h : SysStep info s a s' evs) :
    ((s'.writer = s.writer ∨ s.flags = {} ∧ s'.writer = .launched) ∧ sentBytes evs = [] ∧
        dequeues (devEvents evs) = []) ∨
      a = .writer ∧ WriterStep s s' evs ∨ ∃ r, a = .send r ∧ SendStep s r s' evs := by
  cases h with
  | client hawake h =>
    obtain ⟨-, hpc, hio⟩ := h.io
    exact .inl ⟨.inl hpc, hio⟩
  | start hpc hidle h =>
    obtain ⟨-, hpc, hio⟩ := h.io
    exact .inl ⟨hpc.imp_right fun hpc => ⟨hidle, hpc⟩, hio⟩
  | writer hawake h => exact .inr (.inl ⟨rfl, h⟩)
  | send h => exact .inr (.inr ⟨_, rfl, h⟩)
  | reader hawake h =>
    obtain ⟨hpc, -, hsent, hdeq⟩ := h.io
    exact .inl ⟨.inl hpc, hsent, hdeq⟩
  | recv h => cases h <;> exact .inl ⟨.inl rfl, rfl, rfl⟩
  | _ => exact .inl ⟨.inl rfl, rfl, rfl⟩

/-! ### The device under the program -/

/-- `_reset` sets the error of the device and does nothing else to it. -/
theorem Resets.device (info : Info) {th : Thread} {e : Err} {finished : Bool}
    (h : Resets s th e finished s' evs) :
    ∃ is, (device info).RunFrom s.dev is s'.dev (devEvents evs) := by
  cases h with
  | again => exact ⟨[], .nil⟩
  | waits => exact ⟨[.fail e], .single trivial rfl⟩
  | closes => exact ⟨[.fail e], .single trivial rfl⟩

theorem StartFails.dev {o : StartOutcome} (h : StartFails s o s') : s'.dev = s.dev := by
  cases h <;> rfl

/-- A step of the program does to the device what some critical sections do. -/
theorem SysStep.device {a : Action} (h : SysStep info s a s' evs) :
    ∃ is, (device info).RunFrom s.dev is s'.dev (devEvents evs) := by
  cases h with
  | client hawake h =>
    cases h with
    | returns hpc hd =>
      rw [devEvents_append, devEvents_map_dev]
      simpa [Sys.setClient, devEvents] using hd.run
    | sleeps hpc ht hd => simpa [Sys.setClient, Sys.wait] using hd.run
    | fails hpc hd hnone herr hr =>
      obtain ⟨is, his⟩ := hd.run
      obtain ⟨is', his'⟩ := hr.device info
      rw [Sys.setDev_dev] at his'
      rw [Sys.afterReset_fst]
      simpa using ⟨_, his.trans his'⟩
    | loops hpc hl =>
      rw [Sys.afterReset_fst, devEvents_afterReset]
      cases hl <;> exact ⟨[], .nil⟩
  | start hpc hidle h =>
    cases h with
    | fails hf hr =>
      rw [Sys.afterReset_fst, devEvents_append, devEvents_afterReset, List.append_nil, ← hf.dev]
      exact hr.device info
    | started => exact ⟨[], .nil⟩
  | reader hawake h =>
    cases h with
    | pushes => exact ⟨[.arrive _], .single trivial rfl⟩
    | fails hpc hr => exact hr.device info
    | loops hpc hl => cases hl <;> exact ⟨[], .nil⟩
    | _ => exact ⟨[], .nil⟩
  | recv h => cases h <;> exact ⟨[], .nil⟩
  | writer hawake h =>
    cases h with
    | takes hpc herr hreps =>
      have hstep : Dev.step info s.dev .dequeue = some _ := Dev.step_dequeue herr hreps
      exact ⟨[.dequeue], .single trivial hstep⟩
    | fails hpc hr => exact hr.device info
    | loops hpc hl => cases hl <;> exact ⟨[], .nil⟩
    | _ => exact ⟨[], .nil⟩
  | send h => cases h <;> exact ⟨[], .nil⟩
  | _ => exact ⟨[], .nil⟩

/-- A step of the program keeps the device well-formed. -/
theorem SysStep.wf {a : Action} (h : SysStep info s a s' evs) (hwf : s.dev.Wf) : s'.dev.Wf := by
  obtain ⟨is, his⟩ := h.device
  exact wf_of_run hwf his

/-- **The program simulates the device**: what happens to the device in a step of the program is a
run of the device. -/
def devSimulation (info : Info) : Simulation (threads info) (device info) where
  Rel s d := s.dev = d ∧ d.Wf
  erase
    | .dev ev => some ev
    | _ => none
  init := ⟨rfl, .init⟩
  step := by
    rintro s _ a s' evs ⟨rfl, hwf⟩ hs
    have hspec := sysStep_spec hwf hs
    obtain ⟨is, his⟩ := hspec.device
    exact ⟨is, s'.dev, his, rfl, hspec.wf hwf⟩

/-- The device in a run of the program is a run of the device. -/
theorem device_run {is : List Action} (h : (threads info).Run is s evs) :
    (∃ js, (device info).Run js s.dev (devEvents evs)) ∧ s.dev.Wf := by
  obtain ⟨js, d, hrun, rfl, hwf⟩ := (devSimulation info).run h
  exact ⟨⟨js, hrun⟩, hwf⟩

/-- **Induction over the runs of the program**: a property of the state and the events holds in
every run if it holds at the start and every step preserves it. -/
theorem threads_induction {ok : Sys → Action → Prop} {P : Sys → List SysEvent → Prop}
    (hinit : P {} [])
    (hstep : ∀ s evs a s' evs', s.dev.Wf → P s evs → ok s a → SysStep info s a s' evs' →
      P s' (evs ++ evs'))
    {is : List Action} (h : (threads info).RunWhere ok {} is s evs) : P s evs := by
  have hinv : s.dev.Wf ∧ P s evs := by
    refine h.invariant (P := fun s evs => s.dev.Wf ∧ P s evs) ⟨.init, hinit⟩ ?_
    rintro s evs a s' evs' ⟨hwf, hP⟩ hok hs
    have hspec := sysStep_spec hwf hs
    exact ⟨hspec.wf hwf, hstep s evs a s' evs' hwf hP hok hspec⟩
  exact hinv.2

end VirtualUSB
