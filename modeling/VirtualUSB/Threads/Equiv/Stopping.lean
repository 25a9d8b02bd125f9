import VirtualUSB.Threads.Equiv.Progress
import VirtualUSB.Threads.Equiv.Shutdown

/-!
# A device that was reset stops

`shutdown_no_deadlock` says what holds when no thread can go on.  Together with the rank of
`Progress` it follows that this moment comes.

* `Sys.Stoppable`: neither of the two threads waits for itself, and no bit is set for a thread that
  was never created.  `stoppable_iff_of_run` says which runs lead to such states.
* `stops_iff`: whatever the threads do after the reset, and in whatever order, the device stops and
  all calls return, exactly if it was stoppable then.
-/

namespace VirtualUSB

open LabelledSystem

variable {info : Info} {s s' : Sys} {t : ℕ} {e : Err} {evs : List SysEvent} {is : List Action}

/-! ### What decides whether a device can stop -/

/-- Each bit that is set will be cleared by a thread that can do so. -/
def Sys.Stoppable (s : Sys) : Prop :=
  ¬ s.WaitsForItself ∧ s.BitsActive

/-- When the device has stopped there are no bits left to clear. -/
theorem Sys.Stopped.stoppable (h : s.Stopped) : s.Stoppable := by
  have hreader : ∀ {p : Prop}, s.flags.readThreadRunning = true → p := fun hbit =>
    absurd (hbit.symm.trans h.1) (by simp)
  have hwriter : ∀ {p : Prop}, s.flags.writeThreadRunning = true → p := fun hbit =>
    absurd (hbit.symm.trans h.2.1) (by simp)
  refine ⟨?_, fun hbit => hreader hbit, fun hbit => hwriter hbit⟩
  rintro (⟨-, hbit⟩ | ⟨-, hbit⟩)
  · exact hreader hbit
  · exact hwriter hbit

/-- A bit that no thread is there to clear stays set. -/
theorem SysStep.bitsActive_of {a : Action} (h : SysStep info s a s' evs) (hbits : s'.BitsActive) :
    s.BitsActive where
  reader hbit := by
    by_contra hgone
    have hidle : s.flags ≠ {} := fun hidle => by
      rw [hidle] at hbit
      cases hbit
    have hexit : s.reader ≠ .exiting := fun hpc => hgone (by rw [hpc]; rfl)
    have hbit' : s'.flags.readThreadRunning = true :=
      h.bits (P := fun fl => fl.readThreadRunning = true) (by simp) (fun _ h => h)
        (fun hpc => (hexit hpc).elim) (fun _ _ h => h) hbit
    have hgone' := h.reader_inactive hidle (by simpa using hgone)
    exact absurd ((hbits.reader hbit').symm.trans hgone') (by simp)
  writer hbit := by
    by_contra hgone
    have hidle : s.flags ≠ {} := fun hidle => by
      rw [hidle] at hbit
      cases hbit
    have hexit : s.writer ≠ .exiting := fun hpc => hgone (by rw [hpc]; rfl)
    have hbit' : s'.flags.writeThreadRunning = true :=
      h.bits (P := fun fl => fl.writeThreadRunning = true) (by simp) (fun _ h => h)
        (fun _ _ h => h) (fun hpc => (hexit hpc).elim) hbit
    have hgone' := h.writer_inactive hidle (by simpa using hgone)
    exact absurd ((hbits.writer hbit').symm.trans hgone') (by simp)

/-- **A step keeps the device stoppable** exactly if it does not let a thread wait for itself and
does not leave a bit without its thread. -/
theorem Sys.step_stoppable_iff {a : Action} (hs : s.Sound)
    (h : s.step info a = some (s', evs)) :
    s'.Stoppable ↔ s.Stoppable ∧ ResetsSecond s a ∧ StartsBoth info a := by
  have hspec := sysStep_spec hs.wf h
  have hwaits : s'.WaitsForItself ↔ s.WaitsForItself ∨ ¬ ResetsSecond s a := by
    rw [(hspec.life hs.life).waitsForItself_iff, hs.life.waitsForItself_iff,
      hspec.waits_iff hs.life]
  have hbits : s'.BitsActive ↔ s.BitsActive ∧ StartsBoth info a := by
    cases a with
    | start t o =>
      rw [Sys.step] at h
      split_ifs at h
      rw [Sys.startCall_bitsActive hs.life h]
      refine (and_iff_right ?_).symm
      cases hspec with
      | start hpc hidle hstep =>
        exact ⟨fun hbit => (by rw [hidle] at hbit; cases hbit),
          fun hbit => (by rw [hidle] at hbit; cases hbit)⟩
    | _ =>
      rw [and_iff_left (.inl trivial)]
      exact ⟨hspec.bitsActive_of, hspec.bitsActive (by simp)⟩
  unfold Sys.Stoppable
  rw [hwaits, hbits]
  tauto

/-- After the reset no step decides any more whether the device can stop. -/
theorem Sys.step_stoppable_iff_of_reset {a : Action} (hs : s.Sound)
    (hreset : s.flags.reset = true) (h : s.step info a = some (s', evs)) :
    s'.Stoppable ↔ s.Stoppable := by
  rw [Sys.step_stoppable_iff hs h]
  refine and_iff_left ⟨?_, ?_⟩
  · -- both threads are too late to be the first to call `_reset`
    cases a with
    | reader => exact fun _ _ => hreset
    | writer => exact fun _ _ => hreset
    | _ => trivial
  · -- the assertion of `start()` fails
    cases sysStep_spec hs.wf h with
    | start hpc hidle h =>
      rw [hidle] at hreset
      cases hreset
    | _ => exact .inl trivial

/-- A device that is reached can stop exactly if neither the reader thread nor the writer thread was
the first to call `_reset`, and `start()` did not fail to create a thread. -/
theorem stoppable_iff_of_run (h : (threads info).Run is s evs) :
    s.Stoppable ↔
      (threads info).RunWhere (fun s a => ResetsSecond s a ∧ StartsBoth info a) {} is s evs :=
  RunWhere.iff_of_step (I := Sys.Sound) .init
    (Sys.Stopped.stoppable ⟨rfl, rfl, rfl, rfl⟩)
    (fun _ _ _ _ hs hstep => (sysStep_spec hs.wf hstep).sound hs)
    (fun _ _ _ _ hs hstep => Sys.step_stoppable_iff hs hstep) h

/-- Without an error nobody has called `_reset` yet, so every bit belongs to a thread. -/
theorem stoppable_of_err_none (h : (threads info).Run is s evs) (herr : s.dev.err = none) :
    s.Stoppable := by
  have hinv := h.state_invariant
    (P := fun s => s.Sound ∧ (s.flags.reset = false → s.BitsActive))
    ⟨.init, fun _ =>
      { reader := fun hbit => (by cases hbit), writer := fun hbit => (by cases hbit) }⟩ ?_
  · obtain ⟨hs, hbits⟩ := hinv
    have hreset : s.flags.reset = false := by rw [← hs.err, herr]; rfl
    refine ⟨fun hwaits => ?_, hbits hreset⟩
    rw [hs.life.waitsForItself_iff] at hwaits
    have hset : s.flags.reset = true := by
      rcases hwaits with hwait | hwait
      · exact (hs.life.inReset .reader hwait).1
      · exact (hs.life.inReset .writer hwait).1
    cases hreset.symm.trans hset
  · rintro s a s' evs ⟨hs, hbits⟩ - hstep
    have hspec := sysStep_spec hs.wf hstep
    refine ⟨hspec.sound hs, fun hreset => ?_⟩
    have hbits' : s.BitsActive := hbits <| Bool.eq_false_iff.mpr fun hset => by
      cases hreset.symm.trans (hspec.reset hset)
    cases a with
    | start t o =>
      cases hspec with
      | start hpc hidle h =>
        cases h with
        | fails hf hr =>
          -- the call has reset the device
          rw [Sys.afterReset_fst] at hreset
          cases hreset.symm.trans (congrArg Flags.reset hr.flags)
        | started => exact ⟨fun _ => rfl, fun _ => rfl⟩
    | _ => exact hspec.bitsActive (by simp) hbits'

/-! ### Where the steps end -/

/-- An assertion at the beginning of the call fails on a device that was started: it is a second
`start()`, or a `write()` to an OUT endpoint. -/
def Call.Asserts : Call → Prop
  | .start => True
  | .write ep _ => ep &&& Endpoint.directionMask ≠ Endpoint.directionIn
  | _ => False

/-- The device has stopped and every call has returned, if no assertion failed in it. -/
def Sys.Over (s : Sys) : Prop :=
  s.Stopped ∧ ∀ t, s.clients t = .idle ∨ ∃ call, s.clients t = .entering call ∧ call.Asserts

/-- Where the program has no step left, no thread can go on. -/
theorem Sys.quiescent_of_last (hlast : ∀ a : Action, a.Own → s.step info a = none) :
    s.Quiescent info where
  client t := hlast (.client t) trivial
  start t o := hlast (.start t o) trivial
  reader := hlast .reader trivial
  writer := hlast .writer trivial
  recv fd hfd := by
    have hstep : s.stepRecv .zero = none := hlast (.recv .zero) trivial
    cases hpc : s.reader <;> simp_all [ReaderPc.receiving, Sys.stepRecv, Sys.readTurn]
  send fd hfd := by
    have hstep : s.stepSend .zero = none := hlast (.send .zero) trivial
    cases hpc : s.writer <;> simp_all [WriterPc.sending, Sys.stepSend, Sys.writeTurn]

/-- A client thread of a failed device that cannot go on is in no call, or an assertion fails. -/
theorem Sys.Failed.client_over (h : s.Failed e) (hwf : s.dev.Wf)
    (hawake : s.asleep (.client t) = false) (hlast : s.step info (.client t) = none) :
    s.clients t = .idle ∨ ∃ call, s.clients t = .entering call ∧ call.Asserts := by
  have hstep : s.stepClient info t = none := by
    rwa [Sys.step, if_neg (by simp [hawake])] at hlast
  cases hpc : s.clients t with
  | idle => exact .inl rfl
  | entering call =>
    refine .inr ⟨call, rfl, ?_⟩
    cases call with
    | start => trivial
    | write ep data =>
      intro hep
      rw [h.write_step hep hpc hawake] at hlast
      cases hlast
    | read timeout =>
      rw [h.read_step hpc hawake] at hlast
      cases hlast
    | _ =>
      rw [Sys.stepClient, hpc] at hstep
      cases hstep
  | reading timeout =>
    rw [Sys.stepClient, hpc] at hstep
    exact (Sys.readCall_ne_none hwf timeout hstep).elim
  | resetting call =>
    rw [Sys.stepClient, hpc] at hstep
    cases hstep

/-- **A stoppable device that was reset is over** when the program has no step left. -/
theorem Sys.Sound.over (hs : s.Sound) (hreset : s.flags.reset = true) (hstop : s.Stoppable)
    (hlast : ∀ a : Action, a.Own → s.step info a = none) : s.Over := by
  have hstopped : s.Stopped :=
    (Sys.quiescent_of_last hlast).stopped hs.life hstop.2 hs.err hs.blocked hstop.1 hreset
  have hrun : s.running = false := by
    rw [Sys.running, hstopped.1, hstopped.2.1]
    rfl
  obtain ⟨e, he⟩ : ∃ e, s.dev.err = some e := Option.isSome_iff_exists.mp (hs.err.trans hreset)
  have hfailed : s.Failed e := ⟨he, hreset⟩
  refine ⟨hstopped, fun t => hfailed.client_over hs.wf ?_ (hlast (.client t) trivial)⟩
  -- nobody sleeps: both threads are gone, and there is an error
  by_contra hasleep
  rcases hs.blocked (.client t) (by simpa using hasleep) with ⟨-, hrun'⟩ | ⟨-, hnone, -⟩
  · exact absurd (hrun'.symm.trans hrun) (by simp)
  · rw [he] at hnone
    cases hnone

/-- A device that was reset and is stoppable stops, whatever the program does by itself. -/
theorem inevitable_over (h : (threads info).Run is s evs) (hreset : s.flags.reset = true)
    (hstop : s.Stoppable) : (threads info).Inevitable (fun _ a => a.Own) Sys.Over s := by
  obtain ⟨hs, T, hT⟩ := exists_ownRanking h
  let R := (ownRanking info T).restrict (fun _ _ hown => hown)
    (fun s => s.flags.reset = true ∧ s.Stoppable) ?_
  · refine R.inevitable ?_ ⟨⟨hs, hT⟩, hreset, hstop⟩
    rintro s₁ ⟨⟨hs₁, -⟩, hreset₁, hstop₁⟩ hlast
    exact hs₁.over hreset₁ hstop₁ hlast
  · rintro s₁ a s₂ os ⟨hs₁, -⟩ ⟨hreset₁, hstop₁⟩ - hstep
    exact ⟨(sysStep_spec hs₁.wf hstep).reset hreset₁,
      (Sys.step_stoppable_iff_of_reset hs₁ hreset₁ hstep).mpr hstop₁⟩

/-- A call that is past its beginning returns then. -/
theorem inevitable_idle (h : (threads info).Run is s evs) (hreset : s.flags.reset = true)
    (hstop : s.Stoppable) (hbegun : ∀ call, s.clients t ≠ .entering call) :
    (threads info).Inevitable (fun _ a => a.Own) (fun s' => s'.clients t = .idle) s := by
  refine (inevitable_over h hreset hstop).imp_of_invariant
    (P := fun s' => s'.Sound ∧ ∀ call, s'.clients t ≠ .entering call) ?_ ?_
    ⟨(exists_ownRanking h).1, hbegun⟩
  · rintro s₁ a s₂ os ⟨hs₁, hbegun₁⟩ hown hstep
    have hspec := sysStep_spec hs₁.wf hstep
    refine ⟨hspec.sound hs₁, fun call hcall => ?_⟩
    rcases hspec.entering hcall with hcall | rfl
    · exact hbegun₁ call hcall
    · exact hown
  · rintro s₁ ⟨-, hbegun₁⟩ ⟨-, hover⟩
    exact (hover t).resolve_right fun ⟨call, hcall, _⟩ => hbegun₁ call hcall

/-- **A device that was reset stops.**  Whatever steps the program takes by itself after the reset,
and in whatever order, they end, and then the device has stopped and every call has returned;
exactly if neither the reader thread nor the writer thread was the first to call `_reset`, and
`start()` did not fail to create a thread. -/
theorem stops_iff (h : (threads info).Run is s evs) (hreset : s.flags.reset = true) :
    (threads info).Inevitable (fun _ a => a.Own) Sys.Over s ↔
      (threads info).RunWhere (fun s a => ResetsSecond s a ∧ StartsBoth info a) {} is s evs := by
  rw [← stoppable_iff_of_run h]
  constructor
  · intro hover
    obtain ⟨is', s', os, hrun, hstopped, -⟩ := hover.exists_last
    have hinv := hrun.state_invariant
      (P := fun s' => s'.Sound ∧ s'.flags.reset = true ∧ (s'.Stoppable → s.Stoppable))
      ⟨(exists_ownRanking h).1, hreset, id⟩ ?_
    · exact hinv.2.2 hstopped.stoppable
    · rintro s₁ a s₂ os ⟨hs₁, hreset₁, hback⟩ - hstep
      have hspec := sysStep_spec hs₁.wf hstep
      exact ⟨hspec.sound hs₁, hspec.reset hreset₁, fun hstop =>
        hback ((Sys.step_stoppable_iff_of_reset hs₁ hreset₁ hstep).mp hstop)⟩
  · exact inevitable_over h hreset

/-- `stop()` waits for both threads, and they exit.  If the reader thread sees the end of the stream
before anybody calls `stop()`, the device never stops. -/
theorem stops_iff_twoRuns :
    (∃ s evs, (threads Info.minimal).Run (stopRun.take 8) s evs ∧ ¬ s.Stopped ∧
        (threads Info.minimal).Inevitable (fun _ a => a.Own) Sys.Over s) ∧
      ∃ s evs, (threads Info.minimal).Run endOfStreamRun s evs ∧
        ¬ (threads Info.minimal).Inevitable (fun _ a => a.Own) Sys.Over s := by
  constructor
  · have hrun : (threads Info.minimal).Run (stopRun.take 8) _ _ := run_exec_get (by decide)
    refine ⟨_, _, hrun, ?_, (stops_iff hrun (by decide)).mpr ?_⟩
    · unfold Sys.Stopped
      decide
    · rw [← stoppable_iff_of_run hrun]
      refine ⟨?_, fun _ => rfl, fun _ => rfl⟩
      unfold Sys.WaitsForItself
      decide
  · have hrun : (threads Info.minimal).Run endOfStreamRun _ _ := run_exec_get (by decide)
    refine ⟨_, _, hrun, fun hover => ?_⟩
    have hstop := (stoppable_iff_of_run hrun).mpr ((stops_iff hrun (by decide)).mp hover)
    exact hstop.1 (.inl (by decide))

end VirtualUSB
