import VirtualUSB.Host.Equiv.Wire
import VirtualUSB.Threads.Equiv.Stopping

/-!
# Everything that was received is served

`at_rest_settled` says that nothing is left over when the program is at rest.  Here it is shown that
it comes to rest, if only one client thread calls `read()` again and again.

* `Sys.callsLeft`: how many more calls of `read()` can come to that.  A call that returns has taken
  a command.
* `comes_to_rest`: in whatever order the threads take their steps, they end, and then the program is
  at rest or the device has an error.
-/

namespace VirtualUSB

open LabelledSystem

variable {info : Info} {s s' : Sys} {t : ℕ} {evs : List SysEvent} {is : List Action} {a : Action}

/-- Steps that the program takes by itself while `recv()` does not return, and the calls of `read()`
that the client thread `t` makes until there is an error. -/
def Sys.Serves (t : ℕ) (s : Sys) : Action → Prop
  | .call t' call => t' = t ∧ call = .read .max ∧ s.flags.reset = false
  | .recv _ => False
  | a => a.Own

/-- The client thread is in `read()`, or between two calls of it. -/
def Sys.Reads (t : ℕ) (s : Sys) : Prop :=
  s.clients t = .idle ∨ s.clients t = .entering (.read .max) ∨ s.clients t = .reading .max

/-- How often the client thread can still call `read()`. -/
def Sys.callsLeft (t : ℕ) (s : Sys) : ℕ :=
  if s.flags.reset then 0
  else s.dev.cmds.length + s.reader.inHand.length + if s.clients t = .idle then 1 else 0

theorem Sys.callsLeft_of_not_reset (hreset : s.flags.reset = false) :
    s.callsLeft t = s.dev.cmds.length + s.reader.inHand.length
      + if s.clients t = .idle then 1 else 0 := by
  rw [Sys.callsLeft, hreset]
  rfl

theorem Sys.callsLeft_of_reset (hreset : s.flags.reset = true) : s.callsLeft t = 0 := by
  rw [Sys.callsLeft, if_pos hreset]

/-- Without a reset there is no error. -/
theorem Sys.Sound.err_eq_none (hs : s.Sound) (hreset : s.flags.reset = false) :
    s.dev.err = none := by
  rw [← Option.not_isSome_iff_eq_none, hs.err, hreset]
  exact Bool.false_ne_true

/-- A reset is not taken back. -/
theorem SysStep.reset_eq_false (h : SysStep info s a s' evs) (hreset : s'.flags.reset = false) :
    s.flags.reset = false := by
  by_contra hset
  exact absurd ((h.reset (by simpa using hset)).symm.trans hreset) (by simp)

/-- A call of `read()` that returns has taken a command. -/
theorem Sys.readCall_calls (hs : s.Sound) (hreset : s.flags.reset = false)
    (h : s.readCall info t .max = some (s', evs)) (hreset' : s'.flags.reset = false) :
    s'.Reads t ∧
      s'.dev.cmds.length + (if s'.clients t = .idle then 1 else 0) ≤ s.dev.cmds.length := by
  have hcmds := Sys.readCall_cmds h
  have herr := hs.err_eq_none hreset
  have hread' : readSection info s.dev = readCmds info s.dev.cmds s.dev := by rw [readSection, herr]
  unfold Sys.readCall at h
  rcases hread : readSection info s.dev with ⟨out, d, devEvs⟩
  rw [hread] at h hcmds
  cases out with
  | xfer x =>
    obtain ⟨rfl, -⟩ : _ = s' ∧ _ = evs := Prod.ext_iff.mp (Option.some.inj h)
    refine ⟨.inl (Sys.setClient_self ..), ?_⟩
    have hne : s.dev.cmds ≠ [] := fun hnil => by
      rw [hnil, readCmds, hread] at hread'
      cases hread'
    have hlt : (readCmds info s.dev.cmds s.dev).2.1.cmds.length < _ := readCmds_cmds_lt hs.wf hne
    rw [← hread', hread] at hlt
    rw [hcmds]
    split_ifs <;> omega
  | empty =>
    obtain ⟨rfl, -⟩ : _ = s' ∧ _ = evs := Prod.ext_iff.mp (Option.some.inj h)
    have hself : (((s.setDev d).wait (.client t)).setClient t (.reading .max)).clients t
        = .reading .max := Sys.setClient_self ..
    refine ⟨.inr (.inr hself), ?_⟩
    rw [if_neg (by rw [hself]; simp), hcmds]
    have hdone := (readSection_run hs.wf hread).2
    rw [hdone.2.1]
    exact Nat.zero_le _
  | threw e =>
    obtain ⟨rfl, -⟩ : _ = s' ∧ _ = evs := Prod.ext_iff.mp (Option.some.inj h)
    have hflags := (Sys.callReset_threads info (s.setDev d) t (.read .max) e).1
    have hset : (s.setDev d |>.callReset info t (.read .max) e).1.flags.reset = true := by
      rw [hflags]
    exact absurd (hset.symm.trans hreset') (by simp)
  | aborted => cases h

/-- While no bytes arrive, commands only go from the hands of the reader thread to the queue, and
from there to the clients. -/
theorem SysStep.commands_le (h : SysStep info s a s' evs) (hwf : s.dev.Wf)
    (hrecv : ∀ r, a ≠ .recv r) :
    s'.dev.cmds.length + s'.reader.inHand.length
      ≤ s.dev.cmds.length + s.reader.inHand.length := by
  cases h with
  | client hawake h =>
    rw [h.io.1.1]
    exact Nat.add_le_add_right (h.cmds_le hwf) _
  | start hpc hidle h =>
    cases h with
    | @fails o e s₁ s₂ finished evs₁ hf hr =>
      rw [Sys.afterReset_fst]
      show s₂.dev.cmds.length + s₂.reader.inHand.length ≤ _
      rw [hr.cmds_eq, hr.threads.1]
      cases hf with
      | noWriteThread => exact Nat.add_le_add_left (Nat.zero_le _) _
      | _ => exact le_rfl
    | started => exact Nat.add_le_add_left (Nat.zero_le _) _
  | reader hawake h =>
    cases h with
    | pushes hpc => simp [hpc, ReaderPc.inHand, Sys.notifyAll]
    | @fails e finished s₁ _ hpc hr =>
      show s₁.dev.cmds.length + _ ≤ _
      rw [hr.cmds_eq]
      cases finished <;> exact Nat.add_le_add_left (Nat.zero_le _) _
    | loops hpc hl => cases hl <;> exact Nat.add_le_add_left (Nat.zero_le _) _
    | _ => exact Nat.add_le_add_left (Nat.zero_le _) _
  | recv => exact (hrecv _ rfl).elim
  | writer hawake h =>
    rw [h.io.1]
    refine Nat.add_le_add_right ?_ _
    cases h with
    | fails hpc hr => exact (congrArg List.length hr.cmds_eq).le
    | loops hpc hl => cases hl <;> exact le_rfl
    | _ => exact le_rfl
  | send h =>
    obtain ⟨fd, pc, -, -, rfl⟩ := h.works
    exact le_rfl
  | _ => exact le_rfl

/-- A thread that is in `read()` is moved by its own steps only. -/
theorem SysStep.clients_stays (h : SysStep info s a s' evs) (hreads : s.Reads t)
    (hself : a ≠ .client t) (hcall : ∀ t' call, a ≠ .call t' call) :
    s'.clients t = s.clients t := by
  cases h with
  | call call hpc => exact (hcall _ _ rfl).elim
  | @client t' _ _ _ h => exact h.clients_of_ne fun heq => hself (by rw [heq])
  | @start t' o _ _ hpc hidle h =>
    have hne : t ≠ t' := by
      rintro rfl
      rw [Sys.Reads, hpc] at hreads
      simp at hreads
    cases h with
    | @fails _ _ s₁ s₂ _ _ hf hr =>
      rw [Sys.afterReset_fst, Sys.setClient_of_ne hne, hr.threads.2.2]
      cases hf <;> rfl
    | started => exact Sys.setClient_of_ne hne _
  | @timeout t' hpc =>
    have hne : t ≠ t' := by
      rintro rfl
      rw [Sys.Reads, hpc] at hreads
      simp at hreads
    exact Sys.setClient_of_ne (s := s.wake (.client t')) hne .idle
  | wake => rfl
  | reader hawake h => exact congrFun h.clients_eq t
  | writer hawake h => exact congrFun h.clients_eq t
  | recv h =>
    obtain ⟨fd, pc, -, -, rfl⟩ := h.works
    rfl
  | send h =>
    obtain ⟨fd, pc, -, -, rfl⟩ := h.works
    rfl

/-- A step that is not the call of `read()` is one of the program itself. -/
theorem Sys.Serves.own (h : s.Serves t a) (hcall : ∀ t' call, a ≠ .call t' call) : a.Own := by
  cases a with
  | call t' call => exact (hcall t' call rfl).elim
  | recv r => exact h.elim
  | _ => exact h

/-- **A call of `read()` uses up one of those that are left**, and no other step adds any. -/
theorem Sys.step_serves (hs : s.Sound) (hreads : s.flags.reset = false → s.Reads t)
    (hserves : s.Serves t a) (h : s.step info a = some (s', evs)) :
    (s'.flags.reset = false → s'.Reads t) ∧
      (s'.callsLeft t < s.callsLeft t ∨ a.Own ∧ s'.callsLeft t ≤ s.callsLeft t) := by
  have hspec := sysStep_spec hs.wf h
  by_cases hcall : ∃ t' call, a = .call t' call
  · obtain ⟨t', call, rfl⟩ := hcall
    obtain ⟨rfl, rfl, hreset⟩ := hserves
    rw [Sys.step] at h
    split_ifs at h with hidle
    obtain ⟨rfl, -⟩ : _ = s' ∧ _ = evs := Prod.ext_iff.mp (Option.some.inj h)
    have hself : (s.setClient t' (.entering (.read .max))).clients t' = .entering (.read .max) :=
      Sys.setClient_self ..
    have hreset' : (s.setClient t' (.entering (.read .max))).flags.reset = false := hreset
    refine ⟨fun _ => .inr (.inl hself), .inl ?_⟩
    rw [Sys.callsLeft_of_not_reset hreset', Sys.callsLeft_of_not_reset hreset, hself, hidle]
    exact Nat.lt_succ_self _
  · have hown : a.Own := hserves.own fun t' call heq => hcall ⟨t', call, heq⟩
    cases hreset' : s'.flags.reset with
    | true =>
      rw [Sys.callsLeft_of_reset hreset']
      exact ⟨fun hset => (by cases hset), .inr ⟨hown, Nat.zero_le _⟩⟩
    | false =>
      have hreset := hspec.reset_eq_false hreset'
      suffices hle : s'.Reads t ∧ s'.callsLeft t ≤ s.callsLeft t from
        ⟨fun _ => hle.1, .inr ⟨hown, hle.2⟩⟩
      rw [Sys.callsLeft_of_not_reset hreset', Sys.callsLeft_of_not_reset hreset]
      by_cases hself : a = .client t
      · subst hself
        have hread : s.readCall info t .max = some (s', evs) := by
          rw [Sys.step] at h
          split_ifs at h
          rcases hreads hreset with hpc | hpc | hpc <;> rw [Sys.stepClient, hpc] at h
          · cases h
          · exact h
          · exact h
        obtain ⟨hreads', hle⟩ := Sys.readCall_calls hs hreset hread hreset'
        refine ⟨hreads', ?_⟩
        cases hspec with
        | client hawake hstep =>
          rw [hstep.io.1.1]
          omega
      · have hcl := hspec.clients_stays (hreads hreset) hself fun t' call heq =>
          hcall ⟨t', call, heq⟩
        refine ⟨by rw [Sys.Reads, hcl]; exact hreads hreset, ?_⟩
        rw [hcl]
        refine Nat.add_le_add_right (hspec.commands_le hs.wf ?_) _
        rintro r rfl
        exact hserves.elim

/-- The writer thread is created once and for all. -/
theorem SysStep.writer_launched (h : SysStep info s a s' evs) (hne : s.writer ≠ .notLaunched) :
    s'.writer ≠ .notLaunched := by
  rcases h.writer_cases with ⟨hpc | ⟨-, hpc⟩, -⟩ | ⟨-, h⟩ | ⟨r, -, h⟩
  · rwa [hpc]
  · rw [hpc]
    simp
  · cases h with
    | sleeps => exact hne
    | @fails _ finished => cases finished <;> simp
    | @loops finished => cases finished <;> simp
    | exits => simp [Sys.notifyAll]
    | _ => simp
  · obtain ⟨fd, pc, -, hpc, rfl⟩ := h.works
    intro hoff
    rw [show pc = .notLaunched from hoff] at hpc
    cases hpc.1

/-- **Where the steps end** the program is at rest. -/
theorem Sys.Sound.atRest (hs : s.Sound) (hreset : s.flags.reset = false) (hreads : s.Reads t)
    (hwriter : s.writer ≠ .notLaunched) (hlast : ∀ a, s.Serves t a → s.step info a = none) :
    s.AtRest info where
  err := hs.err_eq_none hreset
  launched := hwriter
  reader := hlast .reader trivial
  writer := hlast .writer trivial
  send r := by
    have hzero : s.stepSend .zero = none := hlast (.send .zero) trivial
    show s.stepSend r = none
    cases hpc : s.writer with
    | sendHeader =>
      rw [Sys.stepSend, hpc] at hzero
      cases hzero
    | sendPayload =>
      rw [Sys.stepSend, hpc] at hzero
      cases hzero
    | _ => rw [Sys.stepSend, hpc]
  client := by
    refine ⟨t, .max, ?_, hlast (.client t) trivial⟩
    rcases hreads with hpc | hpc | hpc
    · have hnone := hlast (.call t (.read .max)) ⟨rfl, rfl, hreset⟩
      rw [Sys.step, if_pos hpc] at hnone
      cases hnone
    · exfalso
      have hawake : ¬ s.asleep (.client t) = true := by
        intro hasleep
        rcases hs.blocked _ hasleep with ⟨⟨call, hcall⟩, -⟩ | ⟨⟨timeout, hcall⟩, -⟩ <;>
          rw [hpc] at hcall <;> cases hcall
      have hnone := hlast (.client t) trivial
      rw [Sys.step, if_neg hawake, Sys.stepClient, hpc] at hnone
      exact Sys.readCall_ne_none hs.wf .max hnone
    · exact hpc

/-- **Everything that was received is served.**  The outside does nothing any more, except that a
client thread of a started device calls `read()` again and again.  Then the threads come to an end
of their steps, in whatever order they take them, and there the program is at rest or the device was
reset. -/
theorem comes_to_rest (h : (threads info).Run is s evs) (hwriter : s.writer ≠ .notLaunched)
    (hidle : s.clients t = .idle) :
    (threads info).Inevitable (Sys.Serves t) (fun s => s.flags.reset = true ∨ s.AtRest info) s := by
  obtain ⟨hs, T, hT⟩ := exists_ownRanking h
  let R : Ranking (threads info) (Sys.Serves t) (ℕ ×ₗ ℕ ×ₗ ℕ) :=
    (ownRanking info (insert (.client t) T)).extend
      (fun s => (s.flags.reset = false → s.Reads t) ∧ s.writer ≠ .notLaunched) (Sys.callsLeft t) ?_
  · refine R.inevitable ?_ ⟨⟨hs, fun th hth => Finset.mem_insert_of_mem (hT th hth)⟩,
      fun _ => .inl hidle, hwriter⟩
    rintro s ⟨⟨hs, -⟩, hreads, hwriter⟩ hlast
    cases hreset : s.flags.reset with
    | true => exact .inl rfl
    | false => exact .inr (hs.atRest hreset (hreads hreset) hwriter hlast)
  · rintro s a s' os ⟨hs, hT⟩ ⟨hreads, hwriter⟩ hserves hstep
    have hspec := sysStep_spec hs.wf hstep
    obtain ⟨hreads', hleft⟩ := Sys.step_serves hs hreads hserves hstep
    refine ⟨⟨⟨hspec.sound hs, fun th hth => ?_⟩, hreads', hspec.writer_launched hwriter⟩, hleft⟩
    rcases hspec.atWork hth with hold | ⟨t', call, rfl, rfl⟩
    · exact hT th hold
    · rw [hserves.1]
      exact Finset.mem_insert_self ..

/-- The host has sent a request, and no client has taken it yet. -/
theorem comes_to_rest_replyRun :
    ∃ s evs, (threads Info.minimal).Run (replyRun.take 6) s evs ∧ s.dev.cmds = [inMsg.toCmd] ∧
      (threads Info.minimal).Inevitable (Sys.Serves 0)
        (fun s => s.flags.reset = true ∨ s.AtRest Info.minimal) s := by
  have hrun : (threads Info.minimal).Run (replyRun.take 6) _ _ := run_exec_get (by decide +kernel)
  exact ⟨_, _, hrun, by decide +kernel, comes_to_rest hrun (by decide +kernel) (by decide +kernel)⟩

end VirtualUSB
