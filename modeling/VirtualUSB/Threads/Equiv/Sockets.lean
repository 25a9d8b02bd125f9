import VirtualUSB.Threads.Equiv.Lifecycle

/-!
# The socket outlives the threads that use it

The reader thread and the writer thread copy `_s.socket` once and use the copy without the lock.

* `SysStep.continues`: after `start()` no step sets a thread bit, and while one is set the socket
  stays the same.
* `socket_open_of_active`: no thread ever receives or sends on a closed descriptor.
-/

namespace VirtualUSB

open LabelledSystem

variable {info : Info} {s s₁ s' : Sys} {th : Thread} {e : Err} {finished : Bool}
  {evs : List SysEvent}

/-! ### The socket while a thread bit is set -/

/-- No thread bit was set, and while one is set the socket is the same as before. -/
structure Sys.Continues (s s' : Sys) : Prop where
  started : s'.flags.started = s.flags.started
  running : s'.running = true → s.running = true
  socket : s'.running = true → s'.socket = s.socket

namespace Sys.Continues

theorem refl (s : Sys) : s.Continues s :=
  ⟨rfl, id, fun _ => rfl⟩

theorem trans {s₂ : Sys} (h : s.Continues s₁) (h' : s₁.Continues s₂) : s.Continues s₂ where
  started := h'.started.trans h.started
  running hrun := h.running (h'.running hrun)
  socket hrun := (h'.socket hrun).trans (h.socket (h'.running hrun))

/-- Only the bits and the socket matter. -/
theorem congr {s₂ : Sys} (h : s.Continues s₁) (hflags : s₂.flags = s₁.flags)
    (hsocket : s₂.socket = s₁.socket) : s.Continues s₂ where
  started := by rw [hflags]; exact h.started
  running := by rw [Sys.running, hflags]; exact h.running
  socket := by rw [Sys.running, hflags, hsocket]; exact h.socket

theorem setDev (s : Sys) (d : Dev) : s.Continues (s.setDev d) where
  started := by rw [Sys.setDev_flags]
  running hrun := by rwa [Sys.setDev_running] at hrun
  socket _ := Sys.setDev_socket d

/-- Closing the sockets is allowed when both bits are clear. -/
theorem closeSockets (hrun : s.running = false) : s.Continues s.closeSockets where
  started := rfl
  running := id
  socket hrun' := by
    have hrun'' : s.running = true := hrun'
    rw [hrun] at hrun''
    cases hrun''

end Sys.Continues

theorem Resets.continues (h : Resets s th e finished s₁ evs) : s.Continues s₁ := by
  cases h with
  | again => exact .refl s
  | waits => exact ⟨rfl, id, fun _ => rfl⟩
  | closes hreset hrun =>
    have hfailed : s.Continues (s.failed e) := ⟨rfl, id, fun _ => rfl⟩
    exact hfailed.trans (.closeSockets hrun)

theorem Loops.continues (h : Loops s th finished s₁) : s.Continues s₁ := by
  cases h with
  | waits => exact ⟨rfl, id, fun _ => rfl⟩
  | closes hrun => exact .closeSockets hrun

theorem ClientStep.continues {t : ℕ} (h : ClientStep info s t s' evs) : s.Continues s' := by
  cases h with
  | returns => exact (Sys.Continues.setDev s _).congr rfl rfl
  | sleeps => exact (Sys.Continues.setDev s _).congr rfl rfl
  | fails hpc hd hnone herr hr =>
    rw [Sys.afterReset_fst]
    exact ((Sys.Continues.setDev s _).trans hr.continues).congr rfl rfl
  | loops hpc hl =>
    rw [Sys.afterReset_fst]
    exact hl.continues.congr rfl rfl

theorem ReaderStep.continues (h : ReaderStep s s' evs) : s.Continues s' := by
  cases h with
  | fails hpc hr => exact hr.continues.congr rfl rfl
  | loops hpc hl => exact hl.continues.congr rfl rfl
  -- the thread clears its own bit only
  | exits =>
    refine ⟨rfl, fun hrun => ?_, fun _ => rfl⟩
    have hwriter : s.flags.writeThreadRunning = true := hrun
    rw [Sys.running, hwriter, Bool.or_true]
  | _ => exact ⟨rfl, id, fun _ => rfl⟩

theorem WriterStep.continues (h : WriterStep s s' evs) : s.Continues s' := by
  cases h with
  | fails hpc hr => exact hr.continues.congr rfl rfl
  | loops hpc hl => exact hl.continues.congr rfl rfl
  | exits =>
    refine ⟨rfl, fun hrun => ?_, fun _ => rfl⟩
    have hreader : s.flags.readThreadRunning = true := (Bool.or_false _).symm.trans hrun
    rw [Sys.running, hreader, Bool.true_or]
  | _ => exact (Sys.Continues.refl s).congr rfl rfl

/-- **The socket is the same while a thread bit is set**, in every step but that of `start()`. -/
theorem SysStep.continues {a : Action} (h : SysStep info s a s' evs)
    (hstarted : s.flags.started = true) : s.Continues s' := by
  cases h with
  | client hawake h => exact h.continues
  -- `start()` asserts that the device was never started
  | start hpc hidle h =>
    rw [hidle] at hstarted
    cases hstarted
  | reader hawake h => exact h.continues
  | recv h =>
    obtain ⟨fd, pc, -, -, rfl⟩ := h.works
    exact ⟨rfl, id, fun _ => rfl⟩
  | writer hawake h => exact h.continues
  | send h =>
    obtain ⟨fd, pc, -, -, rfl⟩ := h.works
    exact ⟨rfl, id, fun _ => rfl⟩
  | _ => exact ⟨rfl, id, fun _ => rfl⟩

/-! ### The descriptors of the threads -/

/-- A thread that was created and has not cleared its bit runs on a device that was started. -/
theorem Sys.Life.running_of_active (h : s.Life)
    (hactive : s.reader.stage.active = true ∨ s.writer.stage.active = true) :
    s.running = true := by
  rcases hactive with hr | hw
  · rw [Sys.running, h.reader hr, Bool.true_or]
  · rw [Sys.running, h.writer hw, Bool.or_true]

theorem Sys.Life.started_of_running (h : s.Life) (hrun : s.running = true) :
    s.flags.started = true := by
  by_contra hnot
  rw [(h.fresh (by simpa using hnot)).2.2.1] at hrun
  cases hrun

/-- In a run that begins in a reachable state with a started device the socket is the same while a
thread bit is set. -/
theorem continues_of_run (hwf : s.dev.Wf) (hstarted : s.flags.started = true) {is : List Action}
    (h : (threads info).RunFrom s is s' evs) : s.Continues s' := by
  have hinv : s'.dev.Wf ∧ s.Continues s' := by
    refine h.state_invariant (P := fun s' => s'.dev.Wf ∧ s.Continues s') ⟨hwf, .refl s⟩ ?_
    rintro s₁ a s₂ evs ⟨hwf₁, hcont⟩ - hs
    have hspec := sysStep_spec hwf₁ hs
    exact ⟨hspec.wf hwf₁, hcont.trans (hspec.continues (hcont.started.trans hstarted))⟩
  exact hinv.2

/-- A thread that works with a socket has not cleared its bit. -/
theorem Sys.active_of_fd {fd : ℤ} (h : s.reader.fd = some fd ∨ s.writer.fd = some fd) :
    s.reader.stage.active = true ∨ s.writer.stage.active = true := by
  rcases h with hr | hw
  · exact .inl (by rw [ReaderPc.stage_of_fd hr]; rfl)
  · exact .inr (by rw [WriterPc.stage_of_fd hw]; rfl)

/-- **The socket is never closed under a running thread.**  While the reader thread or the writer
thread was created and has not cleared its bit, `_s.socket` is open.  The descriptor on which a
thread receives or sends is open, and it is the one that was in `_s.socket` at any moment since the
thread was created, so also when the thread copied it. -/
theorem socket_open_of_active {is₀ is : List Action} {s₀ : Sys} {evs₀ : List SysEvent}
    (h₀ : (threads info).Run is₀ s₀ evs₀) (h : (threads info).RunFrom s₀ is s evs) :
    (s.reader.stage.active = true ∨ s.writer.stage.active = true →
        0 ≤ s.socket ∧ s.socket ∉ s.closed) ∧
      ∀ fd, s.reader.receiving = some fd ∨ s.writer.sending = some fd →
        0 ≤ fd ∧ fd ∉ s.closed ∧ fd = s.socket ∧
          (s₀.reader.stage.active = true ∨ s₀.writer.stage.active = true → fd = s₀.socket) := by
  have hlife := life_of_run (h₀.trans h)
  have hopen : s.reader.stage.active = true ∨ s.writer.stage.active = true →
      0 ≤ s.socket ∧ s.socket ∉ s.closed := by
    intro hactive
    have hpos := (hlife.running (hlife.running_of_active hactive)).1
    exact ⟨hpos, hlife.closed hpos⟩
  refine ⟨hopen, fun fd hio => ?_⟩
  have hfd : s.reader.fd = some fd ∨ s.writer.fd = some fd :=
    hio.imp ReaderPc.fd_of_receiving WriterPc.fd_of_sending
  have hactive := Sys.active_of_fd hfd
  obtain rfl : fd = s.socket := hfd.elim (hlife.readerFd fd) (hlife.writerFd fd)
  refine ⟨(hopen hactive).1, (hopen hactive).2, rfl, fun hactive₀ => ?_⟩
  have hlife₀ := life_of_run h₀
  have hstarted := hlife₀.started_of_running (hlife₀.running_of_active hactive₀)
  have hcont := continues_of_run (device_run h₀).2 hstarted h
  exact hcont.socket (hlife.running_of_active hactive)

/-- `start()` succeeds with the sockets 3 and 4, and `stop()` enters `_reset` before the first
instruction of the two threads. -/
def earlyStopRun : List Action :=
  [.call 0 .start, .start 0 (.started 3 4), .call 1 .stop, .client 1]

/-- The reader thread copies the socket and receives on it while `_reset` is already waiting. -/
theorem socket_open_of_active_earlyStop :
    ∃ s₀ evs₀ s evs, (threads Info.minimal).Run earlyStopRun s₀ evs₀ ∧
      (threads Info.minimal).RunFrom s₀ [.reader] s evs ∧ s₀.flags.reset = true ∧
      s₀.reader = .launched ∧ s.reader.receiving = some 3 ∧ 3 ∉ s.closed ∧ s₀.socket = 3 := by
  have hrun : (threads Info.minimal).Run earlyStopRun _ _ := run_exec_get (by decide)
  have hopen := (socket_open_of_active hrun (.single (i := .reader) trivial rfl)).2 3 (.inl rfl)
  exact ⟨_, _, _, _, hrun, .single trivial rfl, rfl, rfl, rfl, hopen.2.1,
    (hopen.2.2.2 (.inl rfl)).symm⟩

end VirtualUSB
