import VirtualUSB.Threads.Equiv.Lifecycle
import VirtualUSB.Vhci.Equiv.Attach
import VirtualUSB.Vhci.Equiv.Driver

/-!
# The exits of `start()`

* `StartTries` lists the ways in which the `try` block of `start()` goes; `startTry_spec` says that
  there are no others.
* `processSimulation`: a run of the program with the driver is a run of the program.
* `lib_of_run`: as long as the device was not started, nothing of the driver is in use.
-/

namespace VirtualUSB

open LabelledSystem

variable {info : Info} {w : StartEnv} {turns t : ℕ} {s : Sys} {lib : Lib} {r : StartTry}
  {p p' : Process} {evs : List SysEvent}

/-! ### The `try` block -/

/-- `start()` gets to its loop, with this speed, these descriptors and this driver. -/
structure ReachesLoop (info : Info) (w : StartEnv) (lib : Lib) (speed : UInt32) (a b : ℕ)
    (d : Driver) (lib' : Lib) : Prop where
  speed : speedFromBCDUSB (bcdDevice info.deviceDesc) = .ok speed
  sockets : w.sockets = .ok (a, b)
  opens : usbipVhciDriverOpen w.udev lib = some (true, lib')
  driver : lib'.vhciDriver = some d

/-- The ways in which the `try` block of `start()` goes. -/
inductive StartTries (info : Info) (w : StartEnv) (turns : ℕ) (s : Sys) (lib : Lib) :
    StartTry → Prop
  | rejected {e : Err} (hspeed : speedFromBCDUSB (bcdDevice info.deviceDesc) = .error e) :
      StartTries info w turns s lib { stop := .threw e, sys := s, lib }
  | noSockets {speed : UInt32} {errno : ℕ}
      (hspeed : speedFromBCDUSB (bcdDevice info.deviceDesc) = .ok speed)
      (hsockets : w.sockets = .error errno) :
      StartTries info w turns s lib
        { stop := .threw (.os "socketpair failed" errno), sys := s, lib }
  | aborted {a b : ℕ} (hopen : usbipVhciDriverOpen w.udev lib = none) :
      StartTries info w turns s lib
        { stop := .aborted, sys := { s with socket := a, usbipSocket := b }, lib }
  | noDriver {speed : UInt32} {a b : ℕ} {lib' : Lib}
      (hspeed : speedFromBCDUSB (bcdDevice info.deviceDesc) = .ok speed)
      (hsockets : w.sockets = .ok (a, b))
      (hopen : usbipVhciDriverOpen w.udev lib = some (false, lib')) :
      StartTries info w turns s lib
        { stop := .threw (.os VhciCall.driverOpen.message w.errno)
          sys := { s with socket := a, usbipSocket := b }
          lib := lib' }
  | running {speed : UInt32} {a b : ℕ} {d : Driver} {lib' : Lib} {log : List StartEvent}
      (hr : ReachesLoop info w lib speed a b d lib')
      (hloop : attachLoop d b speed w.kernel turns 0 = (.running, log)) :
      StartTries info w turns s lib
        { stop := .running
          sys := { s with socket := a, usbipSocket := b }
          lib := lib', log := .listed d :: log }
  | noPort {speed : UInt32} {a b : ℕ} {d : Driver} {lib' : Lib} {log : List StartEvent}
      (hr : ReachesLoop info w lib speed a b d lib')
      (hloop : attachLoop d b speed w.kernel turns 0 = (.noPort, log)) :
      StartTries info w turns s lib
        { stop := .threw (.os VhciCall.getFreePort.message w.errno)
          sys := { s with socket := a, usbipSocket := b }
          lib := lib', log := .listed d :: log }
  | refused {speed : UInt32} {a b errno : ℕ} {d : Driver} {lib' : Lib} {log : List StartEvent}
      (hr : ReachesLoop info w lib speed a b d lib')
      (hloop : attachLoop d b speed w.kernel turns 0 = (.failed errno, log)) :
      StartTries info w turns s lib
        { stop := .threw (.os VhciCall.attachDevice2.message errno)
          sys := { s with socket := a, usbipSocket := b }
          lib := lib', log := .listed d :: log }
  | noReadThread {speed : UInt32} {a b errno : ℕ} {d : Driver} {lib' : Lib}
      {log : List StartEvent} (hr : ReachesLoop info w lib speed a b d lib')
      (hloop : attachLoop d b speed w.kernel turns 0 = (.attached, log))
      (hread : w.readThread = some errno) :
      StartTries info w turns s lib
        { stop := .threw (.os "std::thread" errno)
          sys := s.attached a b
          lib := usbipVhciDriverClose lib', log := .listed d :: log }
  | noWriteThread {speed : UInt32} {a b errno : ℕ} {d : Driver} {lib' : Lib}
      {log : List StartEvent} (hr : ReachesLoop info w lib speed a b d lib')
      (hloop : attachLoop d b speed w.kernel turns 0 = (.attached, log))
      (hread : w.readThread = none) (hwrite : w.writeThread = some errno) :
      StartTries info w turns s lib
        { stop := .threw (.os "std::thread" errno)
          sys := { s.attached a b with reader := .launched }
          lib := usbipVhciDriverClose lib', log := .listed d :: log }
  | done {speed : UInt32} {a b : ℕ} {d : Driver} {lib' : Lib} {log : List StartEvent}
      (hr : ReachesLoop info w lib speed a b d lib')
      (hloop : attachLoop d b speed w.kernel turns 0 = (.attached, log))
      (hread : w.readThread = none) (hwrite : w.writeThread = none) :
      StartTries info w turns s lib
        { stop := .done
          sys := { s.attached a b with reader := .launched, writer := .launched }
          lib := usbipVhciDriverClose lib', log := .listed d :: log }

/-- A driver that was opened is there. -/
theorem driver_of_opened {u : Udev} {lib' : Lib}
    (h : usbipVhciDriverOpen u lib = some (true, lib')) : ∃ d, lib'.vhciDriver = some d := by
  cases usbipVhciDriverOpen_spec h with
  | opened => exact ⟨_, rfl⟩

/-- **What the `try` block of `start()` does.** -/
theorem startTry_spec (info : Info) (w : StartEnv) (turns : ℕ) (s : Sys) (lib : Lib) :
    StartTries info w turns s lib (startTry info w turns s lib) := by
  unfold startTry
  split
  · rename_i e hspeed
    exact .rejected hspeed
  · rename_i speed hspeed
    split
    · rename_i errno hsockets
      exact .noSockets hspeed hsockets
    · rename_i a b hsockets
      dsimp only
      split
      · rename_i hopen
        exact .aborted hopen
      · rename_i opened lib' hopen
        cases opened with
        | false => exact .noDriver hspeed hsockets hopen
        | true =>
          obtain ⟨d, hd⟩ := driver_of_opened hopen
          have hr : ReachesLoop info w lib speed a b d lib' := ⟨hspeed, hsockets, hopen, hd⟩
          rw [hd]
          dsimp only
          split
          · rename_i log hloop
            exact .running hr hloop
          · rename_i log hloop
            exact .noPort hr hloop
          · rename_i errno log hloop
            exact .refused hr hloop
          · rename_i log hloop
            split
            · rename_i errno hread
              exact .noReadThread hr hloop hread
            · rename_i hread
              split
              · rename_i errno hwrite
                exact .noWriteThread hr hloop hread hwrite
              · rename_i hwrite
                exact .done hr hloop hread hwrite

/-- What is in the log is there because `start()` got to its loop. -/
theorem StartTries.reaches (h : StartTries info w turns s lib r) {ev : StartEvent}
    (hev : ev ∈ r.log) : ∃ speed a b d lib', ReachesLoop info w lib speed a b d lib' := by
  cases h with
  | running hr => exact ⟨_, _, _, _, _, hr⟩
  | noPort hr => exact ⟨_, _, _, _, _, hr⟩
  | refused hr => exact ⟨_, _, _, _, _, hr⟩
  | noReadThread hr => exact ⟨_, _, _, _, _, hr⟩
  | noWriteThread hr => exact ⟨_, _, _, _, _, hr⟩
  | done hr => exact ⟨_, _, _, _, _, hr⟩
  | _ => exact (List.not_mem_nil hev).elim

/-- The log is that of the loop, behind the list. -/
theorem ReachesLoop.log {speed : UInt32} {a b : ℕ} {d : Driver} {lib' : Lib}
    (hr : ReachesLoop info w lib speed a b d lib') (turns : ℕ) (s : Sys) :
    (startTry info w turns s lib).log
      = .listed d :: (attachLoop d b speed w.kernel turns 0).2 := by
  simp only [startTry, hr.speed, hr.sockets, hr.opens, hr.driver]
  rcases attachLoop d b speed w.kernel turns 0 with ⟨stop, log⟩
  cases stop with
  | attached => cases w.readThread <;> cases w.writeThread <;> rfl
  | _ => rfl

/-- If there is a free port, the first turn makes an attempt. -/
theorem ReachesLoop.exists_attempt {speed : UInt32} {a b : ℕ} {d : Driver} {lib' : Lib}
    (hr : ReachesLoop info w lib speed a b d lib') {idev : ImportedDevice}
    (hfree : d.freeEntry speed = some idev) (s : Sys) :
    ∃ answer, .attempt (attempt d b speed) answer ∈ (startTry info w 1 s lib).log := by
  obtain ⟨answer, hmem⟩ := VirtualUSB.exists_attempt hfree b w.kernel
  refine ⟨answer, ?_⟩
  rw [hr.log 1 s]
  exact List.mem_cons_of_mem _ hmem

/-- The list is read once. -/
theorem ReachesLoop.listed_eq {speed : UInt32} {a b : ℕ} {d d' : Driver} {lib' : Lib}
    (hr : ReachesLoop info w lib speed a b d lib')
    (hmem : .listed d' ∈ (startTry info w turns s lib).log) : d' = d := by
  rw [hr.log turns s] at hmem
  rcases List.mem_cons.mp hmem with heq | hmem
  · exact StartEvent.listed.inj heq
  · obtain ⟨⟨_, heq⟩, -⟩ := mem_attachLoop hmem
    cases heq

/-- An attempt is one on a port that was found for the speed of `bcdDevice`. -/
theorem attempt_of_mem_log {a : Attach} {answer : AttachAnswer}
    (hmem : .attempt a answer ∈ (startTry info w turns s lib).log) :
    ∃ speed x b d lib', ReachesLoop info w lib speed x b d lib' ∧ a = attempt d b speed ∧
      .listed d ∈ (startTry info w turns s lib).log ∧
      ∃ idev, d.freeEntry speed = some idev := by
  obtain ⟨speed, x, b, d, lib', hr⟩ := (startTry_spec info w turns s lib).reaches hmem
  rw [hr.log turns s] at hmem ⊢
  rcases List.mem_cons.mp hmem with heq | hmem
  · cases heq
  · obtain ⟨⟨answer', heq⟩, hfree⟩ := mem_attachLoop hmem
    exact ⟨speed, x, b, d, lib', hr, (StartEvent.attempt.inj heq).1, List.mem_cons_self, hfree⟩

/-! ### The program with the driver does what the program does -/

/-- The step of `start()`: the `try` block ends, or throws and `_reset` is called. -/
inductive StartLeaves (info : Info) (t : ℕ) (r : StartTry) : Process → List SysEvent → Prop
  | done (hstop : r.stop = .done) :
      StartLeaves info t r { sys := r.sys.setClient t .idle, lib := r.lib }
        [.returned t .start .done]
  | threw {e : Err} (hstop : r.stop = .threw e) :
      StartLeaves info t r { sys := (r.sys.callReset info t .start e).1, lib := r.lib }
        (r.sys.callReset info t .start e).2

/-- **What the step of `start()` does.** -/
theorem process_start_spec (h : p.step info (.start t w turns) = some (p', evs)) :
    p.sys.clients t = .entering .start ∧ w.distinct = true ∧ p.sys.flags = {} ∧
      StartLeaves info t (startTry info w turns p.sys.begun p.lib) p' evs := by
  rw [Process.step] at h
  split_ifs at h with hcond
  rw [Process.start] at h
  split_ifs at h with hidle
  refine ⟨hcond.1, hcond.2, hidle, ?_⟩
  dsimp only at h
  split at h
  · rename_i hstop
    obtain ⟨rfl, rfl⟩ := Prod.ext_iff.mp (Option.some.inj h)
    exact .done hstop
  · rename_i e hstop
    obtain ⟨rfl, rfl⟩ := Prod.ext_iff.mp (Option.some.inj h)
    exact .threw hstop
  · cases h
  · cases h

theorem StartLeaves.done_eq (h : StartLeaves info t r p' evs) (hstop : r.stop = .done) :
    (p'.sys, evs) = r.sys.return_ t .start .done := by
  cases h with
  | done => rfl
  | threw hstop' => cases hstop.symm.trans hstop'

theorem StartLeaves.threw_eq (h : StartLeaves info t r p' evs) {e : Err}
    (hstop : r.stop = .threw e) : (p'.sys, evs) = r.sys.callReset info t .start e := by
  cases h with
  | done hstop' => cases hstop.symm.trans hstop'
  | threw hstop' =>
    obtain rfl := TryEnd.threw.inj (hstop.symm.trans hstop')
    rfl

/-- An exit of `start()` is an outcome of the calls it makes. -/
theorem StartTries.startCall (h : StartTries info w turns s.begun lib r) (hidle : s.flags = {})
    (hw : w.distinct = true) (hleaves : StartLeaves info t r p' evs) :
    ∃ o : StartOutcome, o.distinct = true ∧ s.startCall info t o = some (p'.sys, evs) := by
  have hne : ∀ {a b : ℕ}, w.sockets = .ok (a, b) → (a != b) = true := by
    intro a b hsockets
    simpa [StartEnv.distinct, hsockets] using hw
  simp only [Sys.startCall, if_pos hidle]
  cases h with
  | rejected hspeed =>
    rw [hspeed]
    exact ⟨.noSockets 0, rfl, congrArg some (hleaves.threw_eq rfl).symm⟩
  | @noSockets speed errno hspeed hsockets =>
    rw [hspeed]
    exact ⟨.noSockets errno, rfl, congrArg some (hleaves.threw_eq rfl).symm⟩
  | @noDriver speed a b lib' hspeed hsockets =>
    rw [hspeed]
    exact ⟨.noVhci .driverOpen w.errno a b, hne hsockets, congrArg some (hleaves.threw_eq rfl).symm⟩
  | @noPort speed a b d lib' log hr =>
    rw [hr.speed]
    exact ⟨.noVhci .getFreePort w.errno a b, hne hr.sockets,
      congrArg some (hleaves.threw_eq rfl).symm⟩
  | @refused speed a b errno d lib' log hr =>
    rw [hr.speed]
    exact ⟨.noVhci .attachDevice2 errno a b, hne hr.sockets,
      congrArg some (hleaves.threw_eq rfl).symm⟩
  | @noReadThread speed a b errno d lib' log hr =>
    rw [hr.speed]
    exact ⟨.noReadThread errno a b, hne hr.sockets, congrArg some (hleaves.threw_eq rfl).symm⟩
  | @noWriteThread speed a b errno d lib' log hr =>
    rw [hr.speed]
    exact ⟨.noWriteThread errno a b, hne hr.sockets, congrArg some (hleaves.threw_eq rfl).symm⟩
  | @done speed a b d lib' log hr =>
    rw [hr.speed]
    exact ⟨.started a b, hne hr.sockets, congrArg some (hleaves.done_eq rfl).symm⟩
  | _ =>
    cases hleaves with
    | done hstop => cases hstop
    | threw hstop => cases hstop

/-- The step of `start()` is one of the program. -/
theorem process_start_startCall (h : p.step info (.start t w turns) = some (p', evs)) :
    p.sys.clients t = .entering .start ∧
      ∃ o : StartOutcome, o.distinct = true ∧ p.sys.startCall info t o = some (p'.sys, evs) := by
  obtain ⟨hpc, hw, hidle, hleaves⟩ := process_start_spec h
  exact ⟨hpc, (startTry_spec info w turns p.sys.begun p.lib).startCall hidle hw hleaves⟩

/-- The step is possible as soon as the `try` block is left. -/
theorem exists_process_start (hpc : p.sys.clients t = .entering .start) (hw : w.distinct = true)
    (hidle : p.sys.flags = {})
    (hrunning : (startTry info w turns p.sys.begun p.lib).stop ≠ .running)
    (haborted : (startTry info w turns p.sys.begun p.lib).stop ≠ .aborted) :
    ∃ p' evs, p.step info (.start t w turns) = some (p', evs) := by
  rw [Process.step, if_pos ⟨hpc, hw⟩, Process.start, if_pos hidle]
  dsimp only
  split
  · exact ⟨_, _, rfl⟩
  · exact ⟨_, _, rfl⟩
  · rename_i hstop
    exact (hrunning hstop).elim
  · rename_i hstop
    exact (haborted hstop).elim

/-- The other steps leave the driver alone. -/
theorem process_thread_spec {a : Action} (h : p.step info (.thread a) = some (p', evs)) :
    p.sys.step info a = some (p'.sys, evs) ∧ p'.lib = p.lib ∧ ∀ t o, a ≠ .start t o := by
  unfold Process.step at h
  split at h
  · cases h
  · rename_i a' hnot heq
    obtain rfl := ProcessAction.thread.inj heq
    split at h
    · rename_i s evs' hs
      obtain ⟨rfl, rfl⟩ := Prod.ext_iff.mp (Option.some.inj h)
      exact ⟨hs, rfl, fun t o heq => hnot t o (by rw [heq])⟩
    · cases h
  · rename_i heq
    cases heq

/-- **A step of the program with the driver is a step of the program.** -/
theorem process_step_sys {a : ProcessAction} (h : p.step info a = some (p', evs)) :
    ∃ act, p.sys.step info act = some (p'.sys, evs) := by
  cases a with
  | thread a => exact ⟨a, (process_thread_spec h).1⟩
  | start t w turns =>
    obtain ⟨hpc, o, ho, hs⟩ := process_start_startCall h
    exact ⟨.start t o, by rw [Sys.step, if_pos ⟨hpc, ho⟩, hs]⟩

/-- The program with the driver simulates the program. -/
def processSimulation (info : Info) : Simulation (process info) (threads info) where
  Rel p s := p.sys = s
  erase := some
  init := rfl
  step := by
    rintro p _ a p' evs rfl hs
    obtain ⟨act, hact⟩ := process_step_sys hs
    rw [List.filterMap_some]
    exact ⟨[act], p'.sys, .single trivial hact, rfl⟩

/-- A run of the program with the driver is a run of the program. -/
theorem threads_run_of_process {is : List ProcessAction} (h : (process info).Run is p evs) :
    ∃ js, (threads info).Run js p.sys evs := by
  obtain ⟨js, _, hrun, rfl⟩ := (processSimulation info).run h
  exact ⟨js, by rwa [show (processSimulation info).erase = some from rfl,
    List.filterMap_some] at hrun⟩

/-! ### Before the device is started -/

/-- `start()` sets its bit. -/
theorem StartStep.sets_started {o : StartOutcome} {s' : Sys} (h : StartStep info s t o s' evs) :
    s'.flags.started = true := by
  cases h with
  | @fails _ e s₁ s₂ finished evs₁ hf hr =>
    rw [Sys.afterReset_fst]
    show s₂.flags.started = true
    rw [hr.flags]
    cases hf <;> rfl
  | started => rfl

/-- **Before the device is started** nothing of the driver is in use. -/
theorem lib_of_run {is : List ProcessAction} (h : (process info).Run is p evs)
    (hnot : p.sys.flags.started = false) : p.lib = {} := by
  have hinv := h.state_invariant
    (P := fun p => p.sys.dev.Wf ∧ (p.sys.flags.started = false → p.lib = {}))
    ⟨.init, fun _ => rfl⟩ ?_
  · exact hinv.2 hnot
  · rintro p a p' evs' ⟨hwf, hlib⟩ - hs
    obtain ⟨act, hact⟩ := process_step_sys hs
    have hspec := sysStep_spec hwf hact
    refine ⟨hspec.wf hwf, fun hnot' => ?_⟩
    have hnot₀ : p.sys.flags.started = false := by
      by_contra hstarted
      exact absurd ((hspec.started (by simpa using hstarted)).symm.trans hnot') (by simp)
    cases a with
    | thread a =>
      rw [(process_thread_spec hs).2.1]
      exact hlib hnot₀
    | start t w turns =>
      -- the driver is in use only after `start()` has set its bit
      obtain ⟨-, o, ho, hcall⟩ := process_start_startCall hs
      have hset := (startCall_spec ho hcall).2.sets_started
      exact absurd (hset.symm.trans hnot') (by simp)

end VirtualUSB
