import VirtualUSB.Threads.Equiv.Failure
import VirtualUSB.Threads.Instances

/-!
# Do objects interfere?

They do: every operation of one object that changes `_s` is visible to the other.

* `Sys.without`: the program without some of its client threads.  A step of another thread does not
  notice that they are missing (`Sys.step_without`).
* `Instances.Harmless`: the steps of the object `a` that leave `_s` as it is.
* `unaffected_of_harmless`: if all steps of `a` are of this kind, leaving them out changes nothing
  for `b`; what is left is a run of the program (`threads_run_of_alone`).
-/

namespace VirtualUSB

open LabelledSystem

variable {info : Info} {s s' : Sys} {th : Thread} {t : ℕ} {hid : ℕ → Bool} {evs : List SysEvent}

/-! ### Leaving out client threads -/

/-- The thread is a client thread that is left out. -/
def Thread.hidden (hid : ℕ → Bool) : Thread → Bool
  | .client t => hid t
  | _ => false

/-- The same state, as if some client threads had never called anything. -/
def Sys.without (hid : ℕ → Bool) (s : Sys) : Sys :=
  { s with
    clients := fun t => if hid t then .idle else s.clients t
    asleep := fun th => if th.hidden hid then false else s.asleep th }

section Update

variable {α β : Type*} [DecidableEq α] {p : α → Bool} {a : α}

/-- What is written to a place that is seen is seen. -/
theorem seen_update (ha : p a = false) (d : β) (f : α → β) (v : β) :
    (fun x => if p x then d else Function.update f a v x)
      = Function.update (fun x => if p x then d else f x) a v := by
  funext x
  rw [Function.apply_update (fun x y => if p x then d else y) f a v x, ha]
  rfl

/-- What is written to a place that is not seen is not seen. -/
theorem unseen_update (ha : p a = true) (d : β) (f : α → β) (v : β) :
    (fun x => if p x then d else Function.update f a v x) = fun x => if p x then d else f x := by
  funext x
  rw [Function.apply_update (fun x y => if p x then d else y) f a v x]
  exact congrFun (Function.update_eq_self_iff.mpr (by simp [ha])) x

end Update

namespace Sys

@[simp] theorem without_clients (ht : hid t = false) :
    (s.without hid).clients t = s.clients t := by
  simp [without, ht]

@[simp] theorem without_asleep (hth : th.hidden hid = false) :
    (s.without hid).asleep th = s.asleep th := by
  simp [without, hth]

theorem without_notifyAll (s : Sys) : s.notifyAll.without hid = (s.without hid).notifyAll := by
  simp [without, notifyAll]

theorem without_wait (hth : th.hidden hid = false) :
    (s.wait th).without hid = (s.without hid).wait th := by
  unfold without wait
  congr 1
  exact seen_update hth ..

theorem without_wake (hth : th.hidden hid = false) :
    (s.wake th).without hid = (s.without hid).wake th := by
  unfold without wake
  congr 1
  exact seen_update hth ..

theorem without_setClient (ht : hid t = false) (pc : ClientPc) :
    (s.setClient t pc).without hid = (s.without hid).setClient t pc := by
  unfold without setClient
  congr 1
  exact seen_update ht ..

/-- What a client thread that is left out does is not seen. -/
theorem without_wait_hidden (ht : hid t = true) :
    (s.wait (.client t)).without hid = s.without hid := by
  have hth : (Thread.client t).hidden hid = true := ht
  unfold without wait
  congr 1
  exact unseen_update hth ..

theorem without_wake_hidden (ht : hid t = true) :
    (s.wake (.client t)).without hid = s.without hid := by
  have hth : (Thread.client t).hidden hid = true := ht
  unfold without wake
  congr 1
  exact unseen_update hth ..

theorem without_setClient_hidden (ht : hid t = true) (pc : ClientPc) :
    (s.setClient t pc).without hid = s.without hid := by
  unfold without setClient
  congr 1
  exact unseen_update ht ..

theorem without_setDev (d : Dev) : (s.setDev d).without hid = (s.without hid).setDev d := by
  have hreps : (s.without hid).dev.reps = s.dev.reps := rfl
  unfold setDev
  rw [hreps]
  split_ifs
  · exact without_notifyAll _
  · rfl

/-! ### `_reset` -/

theorem resetLoop_without (hth : th.hidden hid = false) :
    (s.without hid).resetLoop th = ((s.resetLoop th).1, (s.resetLoop th).2.without hid) := by
  have hrun : (s.without hid).running = s.running := rfl
  unfold resetLoop
  rw [hrun]
  split_ifs
  · rw [without_wait hth]
  · rfl

theorem failed_without (s : Sys) (e : Err) :
    (s.without hid).failed e = (s.failed e).without hid := by
  simp [failed, without, notifyAll, shutdownSockets, openSockets]

theorem resetEnter_without (hth : th.hidden hid = false) (e : Err) :
    (s.without hid).resetEnter th e
      = ((s.resetEnter th e).1, (s.resetEnter th e).2.1.without hid, (s.resetEnter th e).2.2) := by
  cases hreset : s.flags.reset with
  | true =>
    have hreset' : (s.without hid).flags.reset = true := hreset
    rw [resetEnter, if_pos hreset', resetEnter, if_pos hreset]
  | false =>
    have hreset' : (s.without hid).flags.reset = false := hreset
    rw [resetEnter_of_not_reset hreset', resetEnter_of_not_reset hreset, failed_without,
      resetLoop_without hth]

theorem afterReset_without (ht : hid t = false) (call : Call) (finished : Bool) :
    (s.without hid).afterReset info t call finished
      = ((s.afterReset info t call finished).1.without hid,
        (s.afterReset info t call finished).2) := by
  cases finished with
  | false =>
    show ((s.without hid).setClient t (.resetting call), _) = _
    rw [← without_setClient ht]
    rfl
  | true =>
    show ((s.without hid).setClient t .idle, _) = _
    rw [← without_setClient ht]
    cases call <;> rfl

/-! ### Calls -/

theorem return_without (ht : hid t = false) (call : Call) (result : CallResult) :
    (s.without hid).return_ t call result
      = ((s.return_ t call result).1.without hid, (s.return_ t call result).2) := by
  rw [return_, return_, without_setClient ht]

theorem callReset_without (ht : hid t = false) (call : Call) (e : Err) :
    (s.without hid).callReset info t call e
      = ((s.callReset info t call e).1.without hid, (s.callReset info t call e).2) := by
  have hth : (Thread.client t).hidden hid = false := ht
  simp only [callReset, resetEnter_without hth, afterReset_without ht]

/-- A step of the program without some client threads, and the one with all of them. -/
def mapWithout (hid : ℕ → Bool) (r : Option (Sys × List SysEvent)) :
    Option (Sys × List SysEvent) :=
  r.map fun p => (p.1.without hid, p.2)

theorem startCall_without (ht : hid t = false) (o : StartOutcome) :
    (s.without hid).startCall info t o = mapWithout hid (s.startCall info t o) := by
  -- every way to fail ends in `_reset`, from a state that was built up so far
  have hcall : ∀ (s₁ : Sys) (e : Err), some ((s₁.without hid).callReset info t .start e)
      = mapWithout hid (some (s₁.callReset info t .start e)) := by
    intro s₁ e
    rw [callReset_without ht]
    rfl
  unfold startCall
  by_cases hidle : s.flags = {}
  · have hidle' : (s.without hid).flags = {} := hidle
    rw [if_pos hidle, if_pos hidle']
    dsimp only
    split
    · exact hcall s.begun _
    · cases o with
      | noSockets errno => exact hcall s.begun _
      | noVhci call errno a b => exact hcall { s.begun with socket := a, usbipSocket := b } _
      | noReadThread errno a b => exact hcall (s.begun.attached a b) _
      | noWriteThread errno a b => exact hcall { s.begun.attached a b with reader := .launched } _
      | started a b =>
        exact congrArg some (return_without ht .start .done
          (s := { s.begun.attached a b with reader := .launched, writer := .launched }))
  · have hidle' : ¬ (s.without hid).flags = {} := hidle
    rw [if_neg hidle, if_neg hidle']
    rfl

theorem readCall_without (ht : hid t = false) (timeout : Timeout) :
    (s.without hid).readCall info t timeout = mapWithout hid (s.readCall info t timeout) := by
  have hth : (Thread.client t).hidden hid = false := ht
  have hdev : (s.without hid).dev = s.dev := rfl
  unfold readCall
  rw [hdev]
  rcases readSection info s.dev with ⟨out, d, devEvs⟩
  cases out with
  | xfer x => simp [mapWithout, ← without_setDev, return_without ht]
  | empty =>
    by_cases hzero : timeout = .zero
    · simp [mapWithout, hzero, ← without_setDev, return_without ht]
    · simp [mapWithout, hzero, ← without_setDev, ← without_wait hth, ← without_setClient ht]
  | threw e => simp [mapWithout, ← without_setDev, callReset_without ht]
  | aborted => rfl

theorem writeCall_without (ht : hid t = false) (ep : UInt8) (data : List UInt8) :
    (s.without hid).writeCall info t ep data = mapWithout hid (s.writeCall info t ep data) := by
  have hdev : (s.without hid).dev = s.dev := rfl
  unfold writeCall
  rw [hdev]
  rcases s.dev.step info (.write ep data) with _ | ⟨d, devEvs⟩
  · rfl
  · cases herr : d.err with
    | none => simp [mapWithout, herr, ← without_setDev, return_without ht]
    | some e => simp [mapWithout, herr, ← without_setDev, callReset_without ht]

theorem stepClient_without (ht : hid t = false) :
    (s.without hid).stepClient info t = mapWithout hid (s.stepClient info t) := by
  have hth : (Thread.client t).hidden hid = false := ht
  unfold stepClient
  rw [without_clients ht]
  cases hpc : s.clients t with
  | idle => rfl
  | entering call =>
    cases call with
    | start => rfl
    | stop => exact congrArg some (callReset_without ht .stop .stopped)
    | destroy => exact congrArg some (callReset_without ht .destroy .stopped)
    | read timeout => exact readCall_without ht timeout
    | write ep data => exact writeCall_without ht ep data
    | err => exact congrArg some (return_without ht .err (.error s.dev.err))
  | reading timeout => exact readCall_without ht timeout
  | resetting call =>
    simp only [resetLoop_without hth, afterReset_without ht]
    rfl

/-! ### The reader thread and the writer thread -/

theorem readTurn_without (len : ℕ) (buf : List UInt8) (again done : List UInt8 → ReaderPc)
    (r : IoResult (List UInt8)) :
    (s.without hid).readTurn len buf again done r
      = mapWithout hid (s.readTurn len buf again done r) := by
  cases r with
  | some bs => unfold readTurn; dsimp only; split_ifs <;> rfl
  | zero => rfl
  | failed errno => unfold readTurn; dsimp only; split_ifs <;> rfl

theorem writeTurn_without (rest : List UInt8) (again : List UInt8 → WriterPc) (done : WriterPc)
    (r : IoResult ℕ) :
    (s.without hid).writeTurn rest again done r
      = mapWithout hid (s.writeTurn rest again done r) := by
  cases r with
  | some n => unfold writeTurn; dsimp only; split_ifs <;> rfl
  | zero => rfl
  | failed errno => unfold writeTurn; dsimp only; split_ifs <;> rfl

theorem stepRecv_without (r : IoResult (List UInt8)) :
    (s.without hid).stepRecv r = mapWithout hid (s.stepRecv r) := by
  have hpc : (s.without hid).reader = s.reader := rfl
  unfold stepRecv
  rw [hpc]
  cases s.reader with
  | recvHeader socket buf => exact readTurn_without ..
  | recvPayload socket h len buf => exact readTurn_without ..
  | _ => rfl

theorem stepSend_without (r : IoResult ℕ) :
    (s.without hid).stepSend r = mapWithout hid (s.stepSend r) := by
  have hpc : (s.without hid).writer = s.writer := rfl
  unfold stepSend
  rw [hpc]
  cases s.writer with
  | sendHeader socket rest payload => exact writeTurn_without ..
  | sendPayload socket rest => exact writeTurn_without ..
  | _ => rfl

theorem stepReader_without : (s.without hid).stepReader = mapWithout hid s.stepReader := by
  have hth : Thread.reader.hidden hid = false := rfl
  have hpc : (s.without hid).reader = s.reader := rfl
  unfold stepReader
  rw [hpc]
  cases s.reader with
  | push socket cmd => simp [mapWithout, without_notifyAll]; rfl
  | caught e => simp only [resetEnter_without hth]; rfl
  | resetWait => simp only [resetLoop_without hth]; rfl
  | exiting => simp [mapWithout, without_notifyAll]; rfl
  | _ => rfl

theorem stepWriter_without : (s.without hid).stepWriter = mapWithout hid s.stepWriter := by
  have hth : Thread.writer.hidden hid = false := rfl
  have hpc : (s.without hid).writer = s.writer := rfl
  have hdev : (s.without hid).dev = s.dev := rfl
  unfold stepWriter
  rw [hpc]
  cases s.writer with
  | loop socket =>
    rw [hdev]
    cases s.dev.err with
    | some e => rfl
    | none =>
      cases s.dev.reps with
      | nil => simp [mapWithout, without_wait hth]
      | cons rep reps => rfl
  | caught e => simp only [resetEnter_without hth]; rfl
  | resetWait => simp only [resetLoop_without hth]; rfl
  | exiting => simp [mapWithout, without_notifyAll]; rfl
  | _ => rfl

end Sys

/-- The client thread of a step. -/
def Action.hidden (hid : ℕ → Bool) : Action → Bool
  | .call t _ | .client t | .start t _ | .timeout t => hid t
  | .wake th => th.hidden hid
  | .reader | .recv _ | .writer | .send _ => false

/-- **A step of one thread does not notice that other client threads are missing.** -/
theorem Sys.step_without {a : Action} (ha : a.hidden hid = false) :
    (s.without hid).step info a = mapWithout hid (s.step info a) := by
  cases a with
  | call t call =>
    have ht : hid t = false := ha
    rw [Sys.step, Sys.step, without_clients ht]
    split_ifs
    · rw [← without_setClient ht]
      rfl
    · rfl
  | client t =>
    have ht : hid t = false := ha
    have hth : (Thread.client t).hidden hid = false := ha
    rw [Sys.step, Sys.step, without_asleep hth]
    split_ifs
    · rfl
    · exact stepClient_without ht
  | start t o =>
    have ht : hid t = false := ha
    rw [Sys.step, Sys.step, without_clients ht]
    split_ifs
    · exact startCall_without ht o
    · rfl
  | timeout t =>
    have ht : hid t = false := ha
    have hth : (Thread.client t).hidden hid = false := ha
    rw [Sys.step, Sys.step, without_clients ht]
    split_ifs
    · rw [← without_wake hth, return_without ht]
      rfl
    · rfl
  | wake th =>
    rw [Sys.step, Sys.step, without_asleep ha]
    split_ifs
    · rw [← without_wake ha]
      rfl
    · rfl
  | reader =>
    rw [Sys.step, Sys.step, without_asleep rfl]
    split_ifs
    · rfl
    · exact stepReader_without
  | recv r => exact stepRecv_without r
  | writer =>
    rw [Sys.step, Sys.step, without_asleep rfl]
    split_ifs
    · rfl
    · exact stepWriter_without
  | send r => exact stepSend_without r

/-! ### The invariants of the program -/

/-- What holds in every reachable state, whichever object a step belongs to. -/
structure Sys.Sound (s : Sys) : Prop where
  wf : s.dev.Wf
  life : s.Life
  err : s.dev.err.isSome = s.flags.reset
  blocked : ∀ th, s.asleep th = true → s.Blocked th

theorem Sys.Sound.init : ({} : Sys).Sound where
  wf := .init
  life := .init
  err := rfl
  blocked th hth := by cases hth

theorem SysStep.sound {a : Action} (h : SysStep info s a s' evs) (hs : s.Sound) : s'.Sound where
  wf := h.wf hs.wf
  life := h.life hs.life
  err := h.err_isSome hs.err
  blocked := h.blocked hs.life hs.err hs.blocked

/-- Between two calls a client thread is awake. -/
theorem Sys.Sound.awake (hs : s.Sound) (hidle : s.clients t = .idle) :
    s.asleep (.client t) = false := by
  by_contra hasleep
  rcases hs.blocked (.client t) (by simpa using hasleep) with
    ⟨⟨call, hcall⟩, -⟩ | ⟨⟨timeout, hpc⟩, -⟩
  · exact absurd (hidle.symm.trans hcall) (by simp)
  · exact absurd (hidle.symm.trans hpc) (by simp)

/-! ### Harmless steps -/

/-- The steps that do not change `_s` if they belong to the object `a`: `err()`, `stop()` and the
destructor on a device that was reset, `read()` with nothing to take, `write()` on a device that
has an error.  There is no harmless `start()`. -/
def Instances.Harmless (m : Instances) : Obj × Action → Prop
  | (.a, .start _ _) => False
  | (.a, .client t) =>
    match m.sys.clients t with
    | .entering .err => True
    | .entering .stop | .entering .destroy => m.sys.flags.reset = true
    | .entering (.read _) | .reading _ => m.sys.dev.err.isSome = true ∨ m.sys.dev.cmds = []
    | .entering (.write _ _) => m.sys.dev.err.isSome = true
    | _ => False
  | _ => True

/-- `read()` of a client thread that is left out, with nothing to take. -/
theorem Sys.readCall_hidden (hs : s.Sound) (ht : hid t = true) {timeout : Timeout}
    (hnone : s.dev.err.isSome = true ∨ s.dev.cmds = [])
    (h : s.readCall info t timeout = some (s', evs)) : s'.without hid = s.without hid := by
  unfold readCall at h
  cases herr : s.dev.err with
  | some e =>
    -- the error was set by `_reset`, which does nothing the second time
    have hread : readSection info s.dev = (.threw e, s.dev, []) := by rw [readSection, herr]
    have hreset : s.flags.reset = true := by rw [← hs.err, herr]; rfl
    rw [hread] at h
    simp only [setDev_self, callReset_of_reset hreset, Option.some.injEq, Prod.mk.injEq] at h
    rw [← h.1, without_setClient_hidden ht]
  | none =>
    have hcmds : s.dev.cmds = [] := hnone.resolve_left (by simp [herr])
    have hread : readSection info s.dev = (.empty, s.dev, []) := by
      rw [readSection, herr, hcmds]
      rfl
    rw [hread] at h
    by_cases hzero : timeout = .zero
    · simp only [hzero, if_true, setDev_self, return_, Option.some.injEq, Prod.mk.injEq] at h
      rw [← h.1, without_setClient_hidden ht]
    · simp only [if_neg hzero, setDev_self, Option.some.injEq, Prod.mk.injEq] at h
      rw [← h.1, without_setClient_hidden ht, without_wait_hidden ht]

/-- `write()` of a client thread that is left out, on a device that has an error. -/
theorem Sys.writeCall_hidden (hs : s.Sound) (ht : hid t = true) {ep : UInt8} {data : List UInt8}
    (hsome : s.dev.err.isSome = true) (h : s.writeCall info t ep data = some (s', evs)) :
    s'.without hid = s.without hid := by
  have hreset : s.flags.reset = true := hs.err.symm.trans hsome
  unfold writeCall at h
  split at h
  · cases h
  · rename_i d devEvs hstep
    obtain ⟨ev, rfl, hdev⟩ := step_spec hs.wf hstep
    cases hdev with
    | write herr =>
      rw [herr] at hsome
      cases hsome
    | refuse =>
      split at h
      · rename_i herr
        rw [herr] at hsome
        cases hsome
      · simp only [setDev_self, callReset_of_reset hreset, Option.some.injEq, Prod.mk.injEq] at h
        rw [← h.1, without_setClient_hidden ht]

/-- A harmless step of a client thread is not seen. -/
theorem Sys.stepClient_hidden {m : Instances} (hs : m.sys.Sound) (ht : hid t = true)
    (hharm : m.Harmless (.a, .client t)) (h : m.sys.stepClient info t = some (s', evs)) :
    s'.without hid = m.sys.without hid := by
  unfold stepClient at h
  unfold Instances.Harmless at hharm
  dsimp only at hharm
  -- `stop()` and the destructor only call `_reset`
  have hstop : ∀ call, m.sys.flags.reset = true →
      some (m.sys.callReset info t call .stopped) = some (s', evs) →
      s'.without hid = m.sys.without hid := by
    intro call hreset hc
    rw [callReset_of_reset hreset] at hc
    obtain ⟨rfl, -⟩ : _ = s' ∧ _ = evs := Prod.ext_iff.mp (Option.some.inj hc)
    exact without_setClient_hidden ht _
  cases hpc : m.sys.clients t with
  | idle => simp [hpc] at h
  | entering call =>
    rw [hpc] at h hharm
    cases call with
    | start => cases h
    | stop => exact hstop .stop hharm h
    | destroy => exact hstop .destroy hharm h
    | read timeout => exact readCall_hidden hs ht hharm h
    | write ep data => exact writeCall_hidden hs ht hharm h
    | err =>
      obtain ⟨rfl, -⟩ : _ = s' ∧ _ = evs := Prod.ext_iff.mp (Option.some.inj h)
      exact without_setClient_hidden ht _
  | reading timeout =>
    rw [hpc] at h hharm
    exact readCall_hidden hs ht hharm h
  | resetting call =>
    rw [hpc] at hharm
    exact hharm.elim

/-! ### Leaving out the object `a` -/

/-- The client threads that called a method of `a` last. -/
def Instances.ofA (m : Instances) : ℕ → Bool := fun t => m.object t == .a

theorem Instances.ofA_call (m : Instances) (o : Obj) (s : Sys) (t : ℕ) (call : Call) :
    (m.after o s (.call t call)).ofA = Function.update m.ofA t (o == .a) := by
  funext t'
  by_cases heq : t' = t
  · subst heq
    simp [ofA, after]
  · simp [ofA, after, Function.update_of_ne heq]

/-- Whether a thread that is awake is seen makes no difference to who sleeps. -/
theorem Sys.asleep_begin (hawake : s.asleep (.client t) = false) (b : Bool) :
    (fun th => if th.hidden (Function.update hid t b) then false else s.asleep th)
      = fun th => if th.hidden hid then false else s.asleep th := by
  funext th
  cases th with
  | client t' =>
    show (if Function.update hid t b t' then false else _) = (if hid t' then false else _)
    by_cases heq : t' = t
    · subst heq
      simp [hawake]
    · rw [Function.update_of_ne heq]
  | _ => rfl

/-- A client thread that begins a call of `b` is seen from then on. -/
theorem Sys.without_begin (hawake : s.asleep (.client t) = false) (pc : ClientPc) :
    (s.setClient t pc).without (Function.update hid t false) = (s.without hid).setClient t pc := by
  unfold without setClient
  congr 1
  · funext t'
    by_cases heq : t' = t
    · subst heq
      simp
    · simp [Function.update_of_ne heq]
  · exact asleep_begin hawake _

/-- A client thread that begins a call of `a` is left out from then on. -/
theorem Sys.without_begin_hidden (hidle : s.clients t = .idle)
    (hawake : s.asleep (.client t) = false) (pc : ClientPc) :
    (s.setClient t pc).without (Function.update hid t true) = s.without hid := by
  unfold without setClient
  congr 1
  · funext t'
    by_cases heq : t' = t
    · subst heq
      simp [hidle]
    · simp [Function.update_of_ne heq]
  · exact asleep_begin hawake _

namespace Instances

variable {infos : Obj → Info} {m m' n : Instances} {o : Obj} {act : Action}
  {os : List (Obj × SysEvent)}

@[simp] theorem after_sys (m : Instances) (o : Obj) (s : Sys) (act : Action) :
    (m.after o s act).sys = s := by
  cases act <;> rfl

/-- A step of an object is a step of the program with its `Info`. -/
theorem step_inv (h : (instances infos).step m (o, act) = some (m', os)) :
    m.belongs o act = true ∧ ∃ s' evs, m.sys.step (infos o) act = some (s', evs) ∧
      m' = m.after o s' act ∧ os = evs.map fun ev => (o, ev) := by
  change Instances.step infos m (o, act) = some (m', os) at h
  unfold Instances.step at h
  split_ifs at h with hb
  rcases hs : m.sys.step (infos o) act with _ | ⟨s', evs⟩
  · simp [hs] at h
  · obtain ⟨rfl, rfl⟩ : _ = m' ∧ _ = os := by simpa [hs] using h
    exact ⟨hb, s', evs, rfl, rfl, rfl⟩

theorem step_of (hb : n.belongs o act = true) (hs : n.sys.step (infos o) act = some (s', evs)) :
    (instances infos).step n (o, act)
      = some (n.after o s' act, evs.map fun ev => (o, ev)) := by
  show Instances.step infos n (o, act) = _
  rw [Instances.step, if_pos hb, hs]

/-- `n` is `m` without the client threads that are busy with the object `a`, and `a` was not
started. -/
structure Alike (m n : Instances) : Prop where
  sound : m.sys.Sound
  sys : n.sys = m.sys.without m.ofA
  starter : n.starter = m.starter
  notStarted : m.starter ≠ some .a
  object : ∀ t, m.object t = .b → n.object t = .b

theorem Alike.init : Alike {} {} where
  sound := .init
  sys := by simp [Sys.without]
  starter := rfl
  notStarted := by simp
  object t h := by cases h

/-- A step of `b` that is not the beginning of a call is not a step of a thread that is left out. -/
theorem hidden_of_belongs (hb : m.belongs .b act = true) (hcall : ∀ t call, act ≠ .call t call) :
    act.hidden m.ofA = false := by
  have hclient : ∀ t, (m.object t == .b) = true → m.ofA t = false := by
    intro t ht
    rw [ofA, beq_iff_eq.mp ht]
    rfl
  cases act with
  | call t call => exact (hcall t call rfl).elim
  | client t => exact hclient t hb
  | start t o => exact hclient t hb
  | timeout t => exact hclient t hb
  | wake th =>
    cases th with
    | client t => exact hclient t hb
    | _ => rfl
  | _ => rfl

/-- A step of `b` that belongs to it is also one without the threads of `a`. -/
theorem Alike.belongs (h : Alike m n) (hb : m.belongs .b act = true) :
    n.belongs .b act = true := by
  have hclient : ∀ t, (m.object t == .b) = true → (n.object t == .b) = true := by
    intro t ht
    rw [h.object t (beq_iff_eq.mp ht)]
    rfl
  have hstarter : (m.starter == some .b) = true → (n.starter == some .b) = true := by
    rw [h.starter]
    exact id
  cases act with
  | call t call => rfl
  | client t => exact hclient t hb
  | start t o => exact hclient t hb
  | timeout t => exact hclient t hb
  | wake th =>
    cases th with
    | client t => exact hclient t hb
    | _ => exact hstarter hb
  | _ => exact hstarter hb

/-- A harmless step of `a` is left out. -/
theorem Alike.leaves (h : Alike m n) (hharm : m.Harmless (.a, act))
    (hs : (instances infos).step m (.a, act) = some (m', os)) : Alike m' n := by
  obtain ⟨hb, s', evs, hstep, rfl, rfl⟩ := step_inv hs
  have hsound : s'.Sound := (sysStep_spec h.sound.wf hstep).sound h.sound
  have hthread : ∀ {p : Prop}, (m.starter == some .a) = true → p := fun hst =>
    (h.notStarted (beq_iff_eq.mp hst)).elim
  have hclient : ∀ t, (m.object t == .a) = true → m.ofA t = true := fun t ht => ht
  -- nothing but the beginning of a call changes who works for which object
  have hrest : m.after .a s' act = { m with sys := s' } →
      s'.without m.ofA = m.sys.without m.ofA → Alike (m.after .a s' act) n := by
    intro hafter hsame
    rw [hafter]
    exact ⟨hsound, h.sys.trans hsame.symm, h.starter, h.notStarted, h.object⟩
  cases act with
  | call t call =>
    rw [Sys.step] at hstep
    split_ifs at hstep with hidle
    obtain ⟨rfl, rfl⟩ : _ = s' ∧ _ = evs := Prod.ext_iff.mp (Option.some.inj hstep)
    refine ⟨hsound, ?_, h.starter, h.notStarted, fun t' ht' => ?_⟩
    · rw [after_sys, ofA_call, h.sys]
      exact (Sys.without_begin_hidden hidle (h.sound.awake hidle) _).symm
    · by_cases heq : t' = t
      · subst heq
        simp [after] at ht'
      · exact h.object t' (by simpa [after, Function.update_of_ne heq] using ht')
  | client t =>
    refine hrest rfl ?_
    rw [Sys.step] at hstep
    split_ifs at hstep
    exact Sys.stepClient_hidden h.sound (hclient t hb) hharm hstep
  | start t o => exact hharm.elim
  | timeout t =>
    refine hrest rfl ?_
    rw [Sys.step] at hstep
    split_ifs at hstep
    obtain ⟨rfl, rfl⟩ : _ = s' ∧ _ = evs := Prod.ext_iff.mp (Option.some.inj hstep)
    exact (Sys.without_setClient_hidden (hclient t hb) _).trans
      (Sys.without_wake_hidden (hclient t hb))
  | wake th =>
    cases th with
    | client t =>
      refine hrest rfl ?_
      rw [Sys.step] at hstep
      split_ifs at hstep
      obtain ⟨rfl, rfl⟩ : _ = s' ∧ _ = evs := Prod.ext_iff.mp (Option.some.inj hstep)
      exact Sys.without_wake_hidden (hclient t hb)
    | _ => exact hthread hb
  | _ => exact hthread hb

/-- A step of `b` is the same without the threads of `a`. -/
theorem Alike.keeps (h : Alike m n) (hs : (instances infos).step m (.b, act) = some (m', os)) :
    ∃ n', (instances infos).step n (.b, act) = some (n', os) ∧ Alike m' n' := by
  obtain ⟨hb, s', evs, hstep, rfl, rfl⟩ := step_inv hs
  have hsound : s'.Sound := (sysStep_spec h.sound.wf hstep).sound h.sound
  -- the beginning of a call of `b` may take over a thread that was left out until now; any other
  -- step is one of a thread that is seen
  by_cases hcall : ∃ t call, act = .call t call
  · obtain ⟨t, call, rfl⟩ := hcall
    rw [Sys.step] at hstep
    split_ifs at hstep with hidle
    obtain ⟨rfl, rfl⟩ : _ = s' ∧ _ = evs := Prod.ext_iff.mp (Option.some.inj hstep)
    have hidle' : n.sys.clients t = .idle := by
      rw [h.sys]
      show (if m.ofA t then ClientPc.idle else m.sys.clients t) = .idle
      rw [hidle, ite_self]
    have hstep' : n.sys.step (infos .b) (.call t call)
        = some (n.sys.setClient t (.entering call), []) := by
      rw [Sys.step, if_pos hidle']
    refine ⟨_, step_of rfl hstep', hsound, ?_, h.starter, h.notStarted, fun t' ht' => ?_⟩
    · rw [after_sys, after_sys, ofA_call, h.sys]
      exact (Sys.without_begin (h.sound.awake hidle) _).symm
    · by_cases heq : t' = t
      · subst heq
        simp [after]
      · have hold : m.object t' = .b := by
          simpa [after, Function.update_of_ne heq] using ht'
        simpa [after, Function.update_of_ne heq] using h.object t' hold
  · have hhid := hidden_of_belongs hb fun t call heq => hcall ⟨t, call, heq⟩
    have hstep' : n.sys.step (infos .b) act = some (s'.without m.ofA, evs) := by
      rw [h.sys, Sys.step_without hhid, hstep]
      rfl
    refine ⟨_, step_of (h.belongs hb) hstep', ?_⟩
    cases act with
    | call t call => exact (hcall ⟨t, call, rfl⟩).elim
    | start t o => exact ⟨hsound, rfl, rfl, by simp [after], h.object⟩
    | _ => exact ⟨hsound, rfl, h.starter, h.notStarted, h.object⟩

end Instances

/-- A run in which one object is alone is a run of the program with its descriptors. -/
theorem threads_run_of_alone {infos : Obj → Info} {o : Obj} {is : List (Obj × Action)}
    {m : Instances} {os : List (Obj × SysEvent)} (h : (instances infos).Run is m os)
    (halone : ∀ i ∈ is, i.1 = o) :
    (threads (infos o)).Run (is.map Prod.snd) m.sys (os.map Prod.snd) := by
  induction h with
  | nil => exact .nil
  | @snoc is m os i m' os' _ _ hs ih =>
    rw [List.forall_mem_append] at halone
    -- the last step is one of the object, so its events are all marked with it
    obtain ⟨o', act⟩ := i
    obtain rfl : o' = o := halone.2 _ (List.mem_singleton_self _)
    obtain ⟨-, s', evs, hstep, rfl, rfl⟩ := Instances.step_inv hs
    rw [List.map_append, List.map_append, Instances.after_sys, List.map_map]
    apply (ih halone.1).snoc trivial
    rw [show Prod.snd ∘ (fun ev => (o', ev)) = id from rfl, List.map_id]
    exact hstep

/-- **Objects do not interfere while `a` changes nothing.**  In a run in which all steps of the
object `a` are harmless, leaving them out leaves everything that happens to `b` as it is: what its
calls return, what its threads receive and send. -/
theorem unaffected_of_harmless {infos : Obj → Info} {is : List (Obj × Action)} {m : Instances}
    {os : List (Obj × SysEvent)}
    (h : (instances infos).RunWhere Instances.Harmless {} is m os) : Unaffected infos is os := by
  -- a step of `a` has no event of `b` and needs no step of the other run
  have hout : ∀ m n (i : Obj × Action) m' os, Instances.Alike m n → m.Harmless i →
      (i.1 == Obj.b) = false → (instances infos).step m i = some (m', os) →
      Instances.Alike m' n ∧ os.filter (fun ev => ev.1 == Obj.b) = [] := by
    rintro m n ⟨o, act⟩ m' os hR hharm ho hs
    cases o with
    | a =>
      obtain ⟨-, s', evs, -, -, rfl⟩ := Instances.step_inv hs
      exact ⟨hR.leaves hharm hs, by simp⟩
    | b => cases ho
  -- a step of `b` is made by both runs, with the same events
  have hkeep : ∀ m n (i : Obj × Action) m' os, Instances.Alike m n → m.Harmless i →
      (i.1 == Obj.b) = true → (instances infos).step m i = some (m', os) →
      ∃ n', (instances infos).step n i = some (n', os.filter fun ev => ev.1 == Obj.b) ∧
        Instances.Alike m' n' := by
    rintro m n ⟨o, act⟩ m' os hR - ho hs
    cases o with
    | a => cases ho
    | b =>
      obtain ⟨n', hs', hR'⟩ := hR.keeps hs
      obtain ⟨-, s', evs, -, -, rfl⟩ := Instances.step_inv hs
      have hall : (evs.map fun ev => (Obj.b, ev)).filter (fun ev => ev.1 == Obj.b)
          = evs.map fun ev => (Obj.b, ev) := List.filter_eq_self.mpr (by simp)
      exact ⟨n', by rw [hs', hall], hR'⟩
  obtain ⟨n, hrun, -⟩ := h.unwind _ _ .init hout hkeep
  exact ⟨n, hrun⟩

/-- The object `b` is started; `a` looks for a command that is not there. -/
theorem unaffected_of_harmless_emptyRead :
    ∃ is m os, (instances fun _ => Info.minimal).RunWhere Instances.Harmless {} is m os ∧
      (.a, .returned 1 (.read .zero) .nullopt) ∈ os ∧
      Unaffected (fun _ => Info.minimal) is os := by
  have h₀ := @RunWhere.nil _ _ _ (instances fun _ => Info.minimal) Instances.Harmless {}
  have h₁ := h₀.snoc (i := (Obj.b, Action.call 0 .start)) trivial rfl
  have h₂ := h₁.snoc (i := (Obj.b, Action.start 0 (.started 3 4))) trivial rfl
  have h₃ := h₂.snoc (i := (Obj.a, Action.call 1 (.read .zero))) trivial rfl
  have h₄ := h₃.snoc (i := (Obj.a, Action.client 1)) (Or.inr rfl) rfl
  exact ⟨_, _, _, h₄, by decide, unaffected_of_harmless h₄⟩

/-- The object `a` is destroyed without ever having been started; then `b` is asked for its
error. -/
def strayDestroyRun : List (Obj × Action) :=
  [(.a, .call 0 .destroy), (.a, .client 0), (.b, .call 1 .err), (.b, .client 1)]

/-- The destructor of `a` stops `b`, which without it has no error. -/
theorem not_unaffected :
    ∃ m os, (instances fun _ => Info.minimal).Run strayDestroyRun m os ∧
      (.b, .returned 1 .err (.error (some .stopped))) ∈ os ∧
      ¬ Unaffected (fun _ => Info.minimal) strayDestroyRun os := by
  have hrun : (instances fun _ => Info.minimal).Run strayDestroyRun _ _ := run_exec_get (by decide)
  have halone : (instances fun _ => Info.minimal).Run (stepsOf .b strayDestroyRun) _ _ :=
    run_exec_get (by decide)
  refine ⟨_, _, hrun, by decide, ?_⟩
  rintro ⟨n, hother⟩
  -- the steps determine the events, and without `a` the result is no error
  exact absurd (hother.deterministic halone).2 (by decide)

end VirtualUSB
