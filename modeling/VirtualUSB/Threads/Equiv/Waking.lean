import VirtualUSB.Threads.Equiv.Lifecycle

/-!
# Who sleeps and why

All threads sleep on one condition variable, each until its own condition holds.  `Sys.Blocked`
says that a thread is in a wait and its condition does not hold yet.

* `err_isSome_of_run`: the device has an error exactly when it was reset.
* `blocked_of_run`: whoever is asleep is blocked.
* `no_lost_wakeup`: nobody sleeps while what he waits for is there.
-/

namespace VirtualUSB

open LabelledSystem

variable {info : Info} {s s₁ s' : Sys} {th th' : Thread} {e : Err} {finished : Bool}
  {evs : List SysEvent}

/-! ### The error and the reset -/

@[simp] theorem Dev.isSome_fail_err (d : Dev) (e : Err) : (d.fail e).err.isSome = true := by
  unfold Dev.fail
  split_ifs with h
  · exact h
  · rfl

/-- After a call of `_reset` the device has an error and was reset. -/
theorem Resets.err_isSome (herr : s.dev.err.isSome = s.flags.reset)
    (h : Resets s th e finished s₁ evs) : s₁.dev.err.isSome = s₁.flags.reset := by
  cases h with
  | again => exact herr
  | waits => exact Dev.isSome_fail_err _ e
  | closes => exact Dev.isSome_fail_err _ e

/-- There was no error before a call that ends without one. -/
theorem Inner.err_eq {d d' : Dev} {devEvs : List Event} (hd : Inner info d d' devEvs)
    (herr : d'.err = none) : d.err = none := by
  cases hsome : d.err with
  | none => rfl
  | some e' =>
    rw [hd.err (by rw [hsome]; rfl), hsome] at herr
    cases herr

/-- A call that returns leaves the error as it is. -/
theorem Answers.err_eq {d d' : Dev} {devEvs : List Event} {call : Call} {result : CallResult}
    (hd : Inner info d d' devEvs) (h : Answers d d' devEvs call result) : d'.err = d.err := by
  cases h with
  | err hd' => rw [hd']
  | xfer herr => rw [herr, hd.err_eq herr]
  | nullopt herr => rw [herr, hd.err_eq herr]
  | wrote herr => rw [herr, hd.err_eq herr]

/-- On a device that has an error a call does nothing before it fails. -/
theorem Inner.err_isSome (herr : s.dev.err.isSome = s.flags.reset) {d : Dev}
    {devEvs : List Event} (hd : Inner info s.dev d devEvs) (hreset : s.flags.reset = true) :
    d = s.dev :=
  hd.err (herr.trans hreset)

/-- Every step keeps the error and the reset together. -/
theorem SysStep.err_isSome {a : Action} (h : SysStep info s a s' evs)
    (herr : s.dev.err.isSome = s.flags.reset) : s'.dev.err.isSome = s'.flags.reset := by
  cases h with
  | client hawake h =>
    cases h with
    | returns hpc hd hans =>
      show (s.setDev _).dev.err.isSome = (s.setDev _).flags.reset
      rw [Sys.setDev_dev, Sys.setDev_flags, hans.err_eq hd]
      exact herr
    | sleeps hpc ht hd hnone =>
      show (s.setDev _).dev.err.isSome = (s.setDev _).flags.reset
      rw [Sys.setDev_dev, Sys.setDev_flags, ← herr, hnone, hd.err_eq hnone]
    | @fails call e d devEvs finished s₁ evs₁ hpc hd hnone _ hr =>
      rw [Sys.afterReset_fst]
      show s₁.dev.err.isSome = s₁.flags.reset
      cases hr with
      | again hreset =>
        rw [Sys.setDev_flags] at hreset
        rw [Sys.setDev_dev, Sys.setDev_flags, hd.err_isSome herr hreset]
        exact herr
      | waits => exact Dev.isSome_fail_err _ _
      | closes => exact Dev.isSome_fail_err _ _
    | loops hpc hl =>
      rw [Sys.afterReset_fst]
      cases hl <;> exact herr
  | start hpc hidle h =>
    cases h with
    | fails hf hr =>
      rw [Sys.afterReset_fst]
      refine hr.err_isSome ?_
      cases hf <;> exact herr
    | started => exact herr
  | reader hawake h =>
    cases h with
    | fails hpc hr =>
      have h₁ := hr.err_isSome herr
      exact h₁
    | loops hpc hl => cases hl <;> exact herr
    | _ => exact herr
  | recv h => cases h <;> exact herr
  | writer hawake h =>
    cases h with
    | fails hpc hr =>
      have h₁ := hr.err_isSome herr
      exact h₁
    | loops hpc hl => cases hl <;> exact herr
    | _ => exact herr
  | send h => cases h <;> exact herr
  | _ => exact herr

/-- **The device has an error exactly when it was reset**, in every run. -/
theorem err_isSome_of_run {ok : Sys → Action → Prop} {is : List Action}
    (h : (threads info).RunWhere ok {} is s evs) : s.dev.err.isSome = s.flags.reset :=
  threads_induction (P := fun s _ => s.dev.err.isSome = s.flags.reset) rfl
    (fun _ _ _ _ _ _ herr _ hs => hs.err_isSome herr) h

/-! ### Sleeping threads -/

/-- The thread is in a wait whose condition does not hold yet. -/
def Sys.Blocked (s : Sys) : Thread → Prop
  | .reader => s.reader.stage = .waiting ∧ s.running = true
  | .writer => s.writer.stage = .waiting ∧ s.running = true ∨
    (∃ fd, s.writer = .loop fd) ∧ s.dev.err = none ∧ s.dev.reps = []
  | .client t => (∃ call, s.clients t = .resetting call) ∧ s.running = true ∨
    (∃ timeout, s.clients t = .reading timeout) ∧ s.dev.err = none ∧ s.dev.cmds = []

/-- The thread has not moved. -/
def Sys.Stays (s s' : Sys) : Thread → Prop
  | .reader => s'.reader = s.reader
  | .writer => s'.writer = s.writer
  | .client t => s'.clients t = s.clients t

/-- A blocked thread stays blocked while nothing it waits for happens. -/
theorem Sys.Blocked.stays (h : s.Blocked th) (hstays : s.Stays s' th)
    (hrun : s.running = true → s'.running = true) (herr : s.dev.err = none → s'.dev.err = none)
    (hreps : s.dev.reps = [] → s'.dev.reps = []) (hcmds : s.dev.cmds = [] → s'.dev.cmds = []) :
    s'.Blocked th := by
  cases th with
  | reader =>
    have hpc : s'.reader = s.reader := hstays
    refine ⟨?_, hrun h.2⟩
    rw [hpc]
    exact h.1
  | writer =>
    have hpc : s'.writer = s.writer := hstays
    unfold Sys.Blocked
    rw [hpc]
    exact h.imp (fun h => ⟨h.1, hrun h.2⟩) fun h => ⟨h.1, herr h.2.1, hreps h.2.2⟩
  | client t =>
    have hpc : s'.clients t = s.clients t := hstays
    rcases h with ⟨⟨call, hcall⟩, h⟩ | ⟨⟨timeout, htimeout⟩, h⟩
    · exact .inl ⟨⟨call, hpc.trans hcall⟩, hrun h⟩
    · exact .inr ⟨⟨timeout, hpc.trans htimeout⟩, herr h.1, hcmds h.2⟩

/-- A thread in the wait loop of `_reset` is blocked while a thread bit is set. -/
theorem Sys.Blocked.of_inReset (h : s.InReset th) (hrun : s.running = true) : s.Blocked th := by
  cases th with
  | reader => exact ⟨h, hrun⟩
  | writer => exact .inl ⟨h, hrun⟩
  | client t => exact .inl ⟨h, hrun⟩

theorem Sys.asleep_wait_of_ne (h : th' ≠ th) : (s.wait th).asleep th' = s.asleep th' :=
  Function.update_of_ne h ..

theorem Sys.asleep_wake_of_ne (h : th' ≠ th) : (s.wake th).asleep th' = s.asleep th' :=
  Function.update_of_ne h ..

@[simp] theorem Sys.asleep_wake_self : (s.wake th).asleep th = false :=
  Function.update_self ..

/-- Who is asleep after handlers ran was asleep before, and no reply was enqueued. -/
theorem Sys.asleep_setDev {d : Dev} (hreps : s.dev.reps <+: d.reps)
    (h : (s.setDev d).asleep th = true) : s.asleep th = true ∧ d.reps = s.dev.reps := by
  unfold Sys.setDev at h
  split_ifs at h with hlen
  · cases h
  · exact ⟨h, (hreps.eq_of_length (le_antisymm hreps.length_le (Nat.not_lt.mp hlen))).symm⟩

/-- Who is asleep after a call of `_reset`: nobody but the caller, unless nothing happened. -/
theorem Resets.asleep (h : Resets s th e finished s₁ evs) (hth' : s₁.asleep th' = true) :
    finished = true ∧ s₁ = s ∧ s.flags.reset = true ∨
      th' = th ∧ finished = false ∧ s₁.running = true := by
  cases h with
  | again hreset => exact .inl ⟨rfl, rfl, hreset⟩
  | waits hreset hrun =>
    by_cases heq : th' = th
    · exact .inr ⟨heq, rfl, hrun⟩
    · have hold : (s.failed e).asleep th' = true := by
        rwa [Sys.asleep_wait_of_ne heq] at hth'
      cases hold
  | closes => cases hth'

/-- Who is asleep after a turn of the wait loop of `_reset` was asleep before, or it is the thread
in the loop. -/
theorem Loops.asleep (h : Loops s th finished s₁) (hth' : s₁.asleep th' = true) :
    th' ≠ th ∧ s.asleep th' = true ∨ th' = th ∧ (finished = false ∧ s₁.running = true ∨
      finished = true ∧ s.asleep th = true) := by
  by_cases heq : th' = th
  · subst heq
    refine .inr ⟨rfl, ?_⟩
    cases h with
    | waits hrun => exact .inl ⟨rfl, hrun⟩
    | closes => exact .inr ⟨rfl, hth'⟩
  · refine .inl ⟨heq, ?_⟩
    cases h with
    | waits hrun => rwa [Sys.asleep_wait_of_ne heq] at hth'
    | closes => exact hth'

/-- Being blocked does not depend on who is asleep. -/
theorem Sys.blocked_wait : (s.wait th').Blocked th ↔ s.Blocked th := by
  cases th <;> exact Iff.rfl

theorem Sys.blocked_wake : (s.wake th').Blocked th ↔ s.Blocked th := by
  cases th <;> exact Iff.rfl

/-- Closing the sockets and going to sleep change nothing that others wait for. -/
theorem Sys.Blocked.loops (h : s.Blocked th') (hl : Loops s th finished s₁) : s₁.Blocked th' := by
  cases hl with
  | waits => exact Sys.blocked_wait.mpr h
  | closes =>
    refine h.stays ?_ id id id id
    cases th' <;> rfl

/-- The other threads stay blocked when a client thread moves. -/
theorem Sys.Blocked.setClient {t : ℕ} (h : s.Blocked th) (pc : ClientPc) (hne : th ≠ .client t) :
    (s.setClient t pc).Blocked th := by
  refine h.stays ?_ id id id id
  cases th with
  | client t' => exact Sys.setClient_of_ne (fun heq => hne (by rw [heq])) pc
  | _ => rfl

/-- A thread stays blocked when a call enqueues no reply and sets no error. -/
theorem Sys.Blocked.setDev {d : Dev} {devEvs : List Event} (h : s.Blocked th)
    (hd : Inner info s.dev d devEvs) (herr : d.err = s.dev.err) (hreps : d.reps = s.dev.reps) :
    (s.setDev d).Blocked th := by
  refine h.stays ?_ ?_ ?_ ?_ ?_
  · cases th with
    | reader => exact Sys.setDev_reader d
    | writer => exact Sys.setDev_writer d
    | client t => exact congrFun (Sys.setDev_clients d) t
  · rw [Sys.setDev_running]
    exact id
  · rw [Sys.setDev_dev, herr]
    exact id
  · rw [Sys.setDev_dev, hreps]
    exact id
  · rw [Sys.setDev_dev]
    exact fun hnil => (hd.idle hnil).1

/-! ### No lost wake-up -/

theorem ne_of_asleep (hth : s.asleep th = true) (hth' : s.asleep th' = false) : th ≠ th' := by
  rintro rfl
  exact absurd (hth.symm.trans hth') (by simp)

/-- A step of a client thread lets only blocked threads sleep. -/
theorem ClientStep.blocked {t : ℕ} (h : ClientStep info s t s' evs)
    (hawake : s.asleep (.client t) = false) (herr : s.dev.err.isSome = s.flags.reset)
    (hsleep : ∀ th, s.asleep th = true → s.Blocked th) (th : Thread)
    (hth : s'.asleep th = true) : s'.Blocked th := by
  cases h with
  | returns hpc hd hans =>
    obtain ⟨hold, hreps⟩ := Sys.asleep_setDev hd.reps hth
    exact ((hsleep th hold).setDev hd (hans.err_eq hd) hreps).setClient _ (ne_of_asleep hold hawake)
  | @sleeps timeout d devEvs hpc ht hd hnone hcmds =>
    by_cases heq : th = .client t
    · subst heq
      refine .inr ⟨⟨timeout, Sys.setClient_self _ _⟩, ?_, ?_⟩
      · show (s.setDev d).dev.err = none
        rw [Sys.setDev_dev, hnone]
      · show (s.setDev d).dev.cmds = []
        rw [Sys.setDev_dev, hcmds]
    · have hth' : (s.setDev d).asleep th = true := by
        rw [← Sys.asleep_wait_of_ne heq]
        exact hth
      obtain ⟨hold, hreps⟩ := Sys.asleep_setDev hd.reps hth'
      have hblocked := (hsleep th hold).setDev hd (hnone.trans (hd.err_eq hnone).symm) hreps
      exact (Sys.blocked_wait.mpr hblocked).setClient _ heq
  | @fails call e d devEvs finished s₁ evs₁ hpc hd hnone _ hr =>
    rw [Sys.afterReset_fst] at hth ⊢
    rcases hr.asleep hth with ⟨rfl, rfl, hreset⟩ | ⟨rfl, rfl, hrun⟩
    · -- the device was reset before, so the call did nothing
      rw [Sys.setDev_flags] at hreset
      rw [hd.err_isSome herr hreset, Sys.setDev_self] at hth ⊢
      exact (hsleep th hth).setClient _ (ne_of_asleep hth hawake)
    · refine .of_inReset ?_ hrun
      exact ⟨call, Sys.setClient_self _ _⟩
  | @loops call finished s₁ hpc hl =>
    rw [Sys.afterReset_fst] at hth ⊢
    rcases hl.asleep hth with ⟨hne, hold⟩ | ⟨rfl, ⟨rfl, hrun⟩ | ⟨-, hold⟩⟩
    · exact ((hsleep th hold).loops hl).setClient _ hne
    · refine .of_inReset ?_ hrun
      exact ⟨call, Sys.setClient_self _ _⟩
    · exact absurd (hold.symm.trans hawake) (by simp)

/-- `start()` lets only blocked threads sleep. -/
theorem StartStep.blocked {t : ℕ} {o : StartOutcome} (h : StartStep info s t o s' evs)
    (hlife : s.Life) (hpc : s.clients t = .entering .start) (hidle : s.flags = {})
    (hsleep : ∀ th, s.asleep th = true → s.Blocked th) (th : Thread)
    (hth : s'.asleep th = true) : s'.Blocked th := by
  cases h with
  | @fails o e s₁ s₂ finished evs₁ hf hr =>
    rw [Sys.afterReset_fst] at hth ⊢
    rcases hr.asleep hth with ⟨-, -, hreset⟩ | ⟨rfl, rfl, hrun⟩
    · exact absurd (hreset.symm.trans (hlife.startFails hidle hf).2) (by simp)
    · refine .of_inReset ?_ hrun
      exact ⟨.start, Sys.setClient_self _ _⟩
  | started =>
    -- only client threads can be asleep before the two threads exist
    obtain ⟨hr, hw, -⟩ := hlife.fresh (by rw [hidle])
    have hblocked := hsleep th hth
    cases th with
    | reader => exact absurd (hr.symm.trans hblocked.1) (by simp)
    | writer =>
      rcases hblocked with ⟨hwait, -⟩ | ⟨⟨fd, hloop⟩, -⟩
      · exact absurd (hw.symm.trans hwait) (by simp)
      · rw [hloop] at hw
        cases hw
    | client t' =>
      have hne : t' ≠ t := by
        rintro rfl
        rcases hblocked with ⟨⟨call, hcall⟩, -⟩ | ⟨⟨timeout, htimeout⟩, -⟩
        · exact absurd (hpc.symm.trans hcall) (by simp)
        · exact absurd (hpc.symm.trans htimeout) (by simp)
      exact hblocked.stays (Sys.setClient_of_ne hne _) (fun _ => rfl) id id id

/-- A step of the reader thread between its calls of `recv` lets only blocked threads sleep. -/
theorem ReaderStep.blocked (h : ReaderStep s s' evs) (hawake : s.asleep .reader = false)
    (hsleep : ∀ th, s.asleep th = true → s.Blocked th) (th : Thread)
    (hth : s'.asleep th = true) : s'.Blocked th := by
  have hstays : ∀ {s₁ : Sys} (pc : ReaderPc), s₁.Blocked th → th ≠ .reader →
      ({ s₁ with reader := pc } : Sys).Blocked th := by
    intro s₁ pc hblocked hne
    refine hblocked.stays ?_ id id id id
    cases th with
    | reader => exact absurd rfl hne
    | _ => rfl
  cases h with
  | copies => exact hstays _ (hsleep th hth) (ne_of_asleep hth hawake)
  | pushes => cases hth
  | @fails e finished s₁ _ hpc hr =>
    rcases hr.asleep hth with ⟨rfl, rfl, -⟩ | ⟨rfl, rfl, hrun⟩
    · exact hstays _ (hsleep th hth) (ne_of_asleep hth hawake)
    · exact .of_inReset rfl hrun
  | @loops finished s₁ hpc hl =>
    rcases hl.asleep hth with ⟨hne, hold⟩ | ⟨rfl, ⟨rfl, hrun⟩ | ⟨-, hold⟩⟩
    · exact hstays _ ((hsleep th hold).loops hl) hne
    · exact .of_inReset rfl hrun
    · exact absurd (hold.symm.trans hawake) (by simp)
  | exits => cases hth

/-- A step of the writer thread between its calls of `send` lets only blocked threads sleep. -/
theorem WriterStep.blocked (h : WriterStep s s' evs) (hawake : s.asleep .writer = false)
    (hsleep : ∀ th, s.asleep th = true → s.Blocked th) (th : Thread)
    (hth : s'.asleep th = true) : s'.Blocked th := by
  have hstays : ∀ {s₁ : Sys} (pc : WriterPc), s₁.Blocked th → th ≠ .writer →
      ({ s₁ with writer := pc } : Sys).Blocked th := by
    intro s₁ pc hblocked hne
    refine hblocked.stays ?_ id id id id
    cases th with
    | writer => exact absurd rfl hne
    | _ => rfl
  cases h with
  | copies => exact hstays _ (hsleep th hth) (ne_of_asleep hth hawake)
  | raises => exact hstays _ (hsleep th hth) (ne_of_asleep hth hawake)
  | @sleeps socket hpc herr hreps =>
    by_cases heq : th = .writer
    · subst heq
      exact .inr ⟨⟨socket, hpc⟩, herr, hreps⟩
    · rw [Sys.asleep_wait_of_ne heq] at hth
      exact Sys.blocked_wait.mpr (hsleep th hth)
  | @takes socket rep reps hpc herr hreps =>
    have hne := ne_of_asleep hth hawake
    refine (hsleep th hth).stays ?_ id id ?_ id
    · cases th with
      | writer => exact absurd rfl hne
      | _ => rfl
    · intro hnil
      exact absurd (hnil.symm.trans hreps) (by simp)
  | @fails e finished s₁ _ hpc hr =>
    rcases hr.asleep hth with ⟨rfl, rfl, -⟩ | ⟨rfl, rfl, hrun⟩
    · exact hstays _ (hsleep th hth) (ne_of_asleep hth hawake)
    · exact .of_inReset rfl hrun
  | @loops finished s₁ hpc hl =>
    rcases hl.asleep hth with ⟨hne, hold⟩ | ⟨rfl, ⟨rfl, hrun⟩ | ⟨-, hold⟩⟩
    · exact hstays _ ((hsleep th hold).loops hl) hne
    · exact .of_inReset rfl hrun
    · exact absurd (hold.symm.trans hawake) (by simp)
  | exits => cases hth

/-- A thread in `recv` is not asleep. -/
theorem RecvStep.blocked {r : IoResult (List UInt8)} (h : RecvStep s r s' evs)
    (hsleep : ∀ th, s.asleep th = true → s.Blocked th) (th : Thread)
    (hth : s'.asleep th = true) : s'.Blocked th := by
  obtain ⟨fd, pc, hrecv, -, rfl⟩ := h.works
  refine (hsleep th hth).stays ?_ id id id id
  cases th with
  | reader =>
    have hon := ReaderPc.stage_of_fd (ReaderPc.fd_of_receiving hrecv)
    exact absurd (hon.symm.trans (hsleep .reader hth).1) (by simp)
  | _ => rfl

/-- A thread in `send` is not asleep. -/
theorem SendStep.blocked {r : IoResult ℕ} (h : SendStep s r s' evs)
    (hsleep : ∀ th, s.asleep th = true → s.Blocked th) (th : Thread)
    (hth : s'.asleep th = true) : s'.Blocked th := by
  obtain ⟨fd, pc, hsend, -, rfl⟩ := h.works
  refine (hsleep th hth).stays ?_ id id id id
  cases th with
  | writer =>
    rcases hsleep .writer hth with ⟨hwait, -⟩ | ⟨⟨fd, hloop⟩, -⟩
    · have hon := WriterPc.stage_of_fd (WriterPc.fd_of_sending hsend)
      exact absurd (hon.symm.trans hwait) (by simp)
    · rw [hloop] at hsend
      cases hsend
  | _ => rfl

/-- **Every step lets only blocked threads sleep.** -/
theorem SysStep.blocked {a : Action} (h : SysStep info s a s' evs) (hlife : s.Life)
    (herr : s.dev.err.isSome = s.flags.reset) (hsleep : ∀ th, s.asleep th = true → s.Blocked th) :
    ∀ th, s'.asleep th = true → s'.Blocked th := by
  cases h with
  | @call t call hpc =>
    intro th hth
    refine (hsleep th hth).setClient _ ?_
    rintro rfl
    rcases hsleep _ hth with ⟨⟨call, hcall⟩, -⟩ | ⟨⟨timeout, htimeout⟩, -⟩
    · exact absurd (hpc.symm.trans hcall) (by simp)
    · exact absurd (hpc.symm.trans htimeout) (by simp)
  | client hawake h => exact h.blocked hawake herr hsleep
  | start hpc hidle h => exact h.blocked hlife hpc hidle hsleep
  | @timeout t hpc =>
    intro th hth
    have hne : th ≠ .client t := ne_of_asleep hth Sys.asleep_wake_self
    have hold : s.asleep th = true := by
      rw [← Sys.asleep_wake_of_ne hne]
      exact hth
    exact (Sys.blocked_wake.mpr (hsleep th hold)).setClient _ hne
  | @wake th' hasleep =>
    intro th hth
    have hne : th ≠ th' := ne_of_asleep hth Sys.asleep_wake_self
    rw [Sys.asleep_wake_of_ne hne] at hth
    exact Sys.blocked_wake.mpr (hsleep th hth)
  | reader hawake h => exact h.blocked hawake hsleep
  | recv h => exact h.blocked hsleep
  | writer hawake h => exact h.blocked hawake hsleep
  | send h => exact h.blocked hsleep

/-- **Whoever is asleep is blocked**, in every run: no wake-up is lost. -/
theorem blocked_of_run {ok : Sys → Action → Prop} {is : List Action}
    (h : (threads info).RunWhere ok {} is s evs) :
    ∀ th, s.asleep th = true → s.Blocked th := by
  refine (threads_induction
    (P := fun s _ => s.Life ∧ s.dev.err.isSome = s.flags.reset ∧
      ∀ th, s.asleep th = true → s.Blocked th) ?_ ?_ h).2.2
  · exact ⟨.init, rfl, fun th hth => by cases hth⟩
  · rintro s evs a s' evs' - ⟨hlife, herr, hsleep⟩ - hs
    exact ⟨hs.life hlife, hs.err_isSome herr, hs.blocked hlife herr hsleep⟩

/-- **No lost wake-up.**  A client thread asleep in `read()` has neither an error nor a command to
wake up for, the writer thread asleep in its loop neither an error nor a reply, and a thread asleep
in the wait loop of `_reset` waits for a thread whose bit is set. -/
theorem no_lost_wakeup {is : List Action} (h : (threads info).Run is s evs) :
    (∀ t timeout, s.clients t = .reading timeout → s.asleep (.client t) = true →
        s.dev.err = none ∧ s.dev.cmds = []) ∧
      (∀ fd, s.writer = .loop fd → s.asleep .writer = true →
        s.dev.err = none ∧ s.dev.reps = []) ∧
      ∀ th, s.InReset th → s.asleep th = true →
        s.flags.readThreadRunning = true ∨ s.flags.writeThreadRunning = true := by
  have hblocked := blocked_of_run h
  refine ⟨fun t timeout hpc hasleep => ?_, fun fd hpc hasleep => ?_, fun th hin hasleep => ?_⟩
  · rcases hblocked _ hasleep with ⟨⟨call, hcall⟩, -⟩ | ⟨-, hwait⟩
    · exact absurd (hpc.symm.trans hcall) (by simp)
    · exact hwait
  · rcases hblocked _ hasleep with ⟨hwaiting, -⟩ | ⟨-, hwait⟩
    · rw [hpc] at hwaiting
      cases hwaiting
    · exact hwait
  · have hrun : s.running = true := by
      cases th with
      | reader => exact (hblocked _ hasleep).2
      | writer =>
        rcases hblocked _ hasleep with ⟨-, hrun⟩ | ⟨⟨fd, hpc⟩, -⟩
        · exact hrun
        · -- in its loop the writer thread is not in `_reset`
          have hwaiting : s.writer.stage = .waiting := hin
          rw [hpc] at hwaiting
          cases hwaiting
      | client t =>
        rcases hblocked _ hasleep with ⟨-, hrun⟩ | ⟨⟨timeout, hpc⟩, -⟩
        · exact hrun
        · obtain ⟨call, hcall⟩ := hin
          exact absurd (hpc.symm.trans hcall) (by simp)
    rwa [Sys.running, Bool.or_eq_true] at hrun

/-- A client thread falls asleep in `read()` on a device that was not started. -/
theorem no_lost_wakeup_idleRead :
    ∃ s evs, (threads Info.minimal).Run [.call 0 (.read .max), .client 0] s evs ∧
      s.asleep (.client 0) = true ∧ s.dev.err = none ∧ s.dev.cmds = [] := by
  have hrun : (threads Info.minimal).Run [.call 0 (.read .max), .client 0] _ _ :=
    run_exec_get (by decide)
  exact ⟨_, _, hrun, rfl, (no_lost_wakeup hrun).1 0 .max rfl rfl⟩

/-- A client thread at the beginning of a call is awake. -/
theorem client_awake_of_run {ok : Sys → Action → Prop} {is : List Action}
    (h : (threads info).RunWhere ok {} is s evs) {t : ℕ} {call : Call}
    (hpc : s.clients t = .entering call) : s.asleep (.client t) = false := by
  by_contra hasleep
  rcases blocked_of_run h (.client t) (by simpa using hasleep) with
    ⟨⟨call', hcall⟩, -⟩ | ⟨⟨timeout, htimeout⟩, -⟩
  · rw [hpc] at hcall
    cases hcall
  · rw [hpc] at htimeout
    cases htimeout

end VirtualUSB
