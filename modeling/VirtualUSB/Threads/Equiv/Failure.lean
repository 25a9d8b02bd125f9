import VirtualUSB.Threads.Equiv.Calls
import VirtualUSB.Threads.Equiv.Waking

/-!
# Failure is one-way

`Sys.Failed s e` says that the device has the error `e`.  No step leads out of it.

* `SysStep.arrive_of_failed`: all that still happens to a failed device is that the reader thread
  appends commands.
* `failure_one_way`: the first error stays, every later call of `read()` and `write()` fails with
  it, and everything but the arriving commands is left as it is.
-/

namespace VirtualUSB

open LabelledSystem

variable {info : Info} {s s₁ s' : Sys} {th : Thread} {e e' : Err} {finished : Bool}
  {evs : List SysEvent}

/-! ### A failed device -/

/-- The device has failed with the error `e`, and was reset. -/
structure Sys.Failed (s : Sys) (e : Err) : Prop where
  err : s.dev.err = some e
  reset : s.flags.reset = true

/-- What `read()` and `write()` give on a device that has failed with `e`. -/
def Call.refusal (info : Info) (e : Err) : Call → CallResult
  | .read _ => if info.throwOnErr then .threw e else .nullopt
  | _ => if info.throwOnErr then .threw e else .done

/-- The device after some more commands arrived. -/
def Dev.arrive (d : Dev) (cs : List Cmd) : Dev :=
  { d with cmds := d.cmds ++ cs }

@[simp] theorem Dev.arrive_nil (d : Dev) : d.arrive [] = d := by
  simp [arrive]

theorem Dev.arrive_arrive (d : Dev) (cs cs' : List Cmd) :
    (d.arrive cs).arrive cs' = d.arrive (cs ++ cs') := by
  simp [arrive]

namespace Sys.Failed

/-- A failed device stays so as long as its error and its bit stay. -/
theorem congr (h : s.Failed e) (herr : s'.dev.err = s.dev.err)
    (hreset : s'.flags.reset = true) : s'.Failed e :=
  ⟨herr.trans h.err, hreset⟩

theorem isSome (h : s.Failed e) : s.dev.err.isSome = true := by
  rw [h.err]
  rfl

/-- A call that fails gives the error of the device, not its own. -/
theorem failResult (h : s.Failed e) {call : Call} (ht : call.Transfers) :
    s.failResult info call = call.refusal info e := by
  cases call with
  | read timeout => rw [Sys.failResult, h.err]; rfl
  | write ep data => rw [Sys.failResult, h.err]; rfl
  | _ => exact ht.elim

/-- On a failed device `_reset` returns at once. -/
theorem resets (h : s.Failed e) (hr : Resets s th e' finished s₁ evs) :
    finished = true ∧ s₁ = s ∧ evs = [] := by
  cases hr with
  | again => exact ⟨rfl, rfl, rfl⟩
  | waits hreset => exact absurd (h.reset.symm.trans hreset) (by simp)
  | closes hreset => exact absurd (h.reset.symm.trans hreset) (by simp)

theorem callReset (h : s.Failed e) {call : Call} (ht : call.Transfers) (t : ℕ) (e' : Err) :
    s.callReset info t call e'
      = (s.setClient t .idle, [.returned t call (call.refusal info e)]) := by
  rw [Sys.callReset_of_reset h.reset, h.failResult ht]

/-- **A call of `read()` on a failed device** returns at once. -/
theorem read_step (h : s.Failed e) {t : ℕ} {timeout : Timeout}
    (hpc : s.clients t = .entering (.read timeout)) (hawake : s.asleep (.client t) = false) :
    s.step info (.client t) = some (s.setClient t .idle,
      [.returned t (.read timeout) (if info.throwOnErr then .threw e else .nullopt)]) := by
  have hread : readSection info s.dev = (.threw e, s.dev, []) := by
    rw [readSection, h.err]
  have hcall : (Call.read timeout).Transfers := trivial
  rw [Sys.step, if_neg (by simp [hawake]), Sys.stepClient, hpc]
  show s.readCall info t timeout = _
  rw [Sys.readCall, hread]
  show some ((s.setDev s.dev).callReset info t (.read timeout) e) = _
  rw [Sys.setDev_self, h.callReset hcall]
  rfl

/-- **A call of `write()` on a failed device** returns at once and takes no buffer. -/
theorem write_step (h : s.Failed e) {t : ℕ} {ep : UInt8} {data : List UInt8}
    (hep : ep &&& Endpoint.directionMask = Endpoint.directionIn)
    (hpc : s.clients t = .entering (.write ep data)) (hawake : s.asleep (.client t) = false) :
    s.step info (.client t) = some (s.setClient t .idle, [.dev (.refused (writeIdx ep) data),
      .returned t (.write ep data) (if info.throwOnErr then .threw e else .done)]) := by
  have hwrite : s.dev.step info (.write ep data)
      = some (s.dev, [.refused (writeIdx ep) data]) := by
    rw [Dev.step, if_pos hep, writeStep, if_pos h.isSome]
  have hcall : (Call.write ep data).Transfers := trivial
  rw [Sys.step, if_neg (by simp [hawake]), Sys.stepClient, hpc]
  show s.writeCall info t ep data = _
  simp only [Sys.writeCall, hwrite, h.err, Sys.setDev_self, h.callReset hcall]
  rfl

end Sys.Failed

/-! ### Steps of a failed device -/

/-- On a failed device the step of a client thread does nothing to the device. -/
theorem ClientStep.dev_of_failed {t : ℕ} (h : ClientStep info s t s' evs) (hf : s.Failed e) :
    s'.dev = s.dev := by
  cases h with
  | returns hpc hd =>
    show (s.setDev _).dev = s.dev
    rw [Sys.setDev_dev, hd.err hf.isSome]
  | sleeps hpc ht hd =>
    show (s.setDev _).dev = s.dev
    rw [Sys.setDev_dev, hd.err hf.isSome]
  | fails hpc hd hnone herr hr =>
    rw [hd.err hf.isSome, Sys.setDev_self] at hr
    rw [Sys.afterReset_fst, (hf.resets hr).2.1]
    rfl
  | loops hpc hl =>
    rw [Sys.afterReset_fst]
    cases hl <;> rfl

/-- What a client thread returns in its step from a failed device. -/
theorem ClientStep.returned_of_failed {t t' : ℕ} {call : Call} {result : CallResult}
    (h : ClientStep info s t s' evs) (hf : s.Failed e) (hmem : .returned t' call result ∈ evs)
    (ht : call.Transfers) : result = call.refusal info e := by
  obtain ⟨rfl, hreturns⟩ := h.returned hmem
  cases hreturns with
  | answers hd hans =>
    -- only `err()` returns without an error of the device
    have hsome := hf.isSome
    rw [← hans.err_eq hd] at hsome
    cases hans with
    | err => exact ht.elim
    | xfer herr => rw [herr] at hsome; cases hsome
    | nullopt herr => rw [herr] at hsome; cases hsome
    | wrote herr => rw [herr] at hsome; cases hsome
  | fails hpc hd herr hr =>
    rw [hd.err hf.isSome, Sys.setDev_self] at hr
    obtain ⟨-, rfl, -⟩ := hf.resets hr
    exact hf.failResult ht
  | @loops _ s₁ hpc hl =>
    have hf₁ : s₁.Failed e := by cases hl; exact ⟨hf.err, hf.reset⟩
    exact hf₁.failResult ht

/-- The thread is between two calls, or at the beginning of one. -/
def ClientPc.AtStart : ClientPc → Prop
  | .idle | .entering _ => True
  | _ => False

/-- A call that begins on a failed device ends in its first step. -/
theorem ClientStep.idle_of_failed {t : ℕ} (h : ClientStep info s t s' evs) (hf : s.Failed e)
    (hstart : (s.clients t).AtStart) : s'.clients t = .idle := by
  cases h with
  | returns => exact Sys.setClient_self ..
  -- `read()` waits only while there is no error
  | sleeps hpc ht hd herr =>
    have hsome := hf.isSome
    rw [hd.err_eq herr] at hsome
    cases hsome
  | fails hpc hd hnone herr hr =>
    rw [hd.err hf.isSome, Sys.setDev_self] at hr
    rw [Sys.afterReset_fst, (hf.resets hr).1]
    exact Sys.setClient_self ..
  | loops hpc => rw [hpc] at hstart; exact hstart.elim

/-- On a failed device all that happens to the device is that the reader thread appends commands. -/
theorem SysStep.arrive_of_failed {a : Action} (h : SysStep info s a s' evs) (hf : s.Failed e) :
    s'.dev = s.dev.arrive (arrivals (devEvents evs)) ∧
      (a ≠ .reader → arrivals (devEvents evs) = []) := by
  have hquiet : s'.dev = s.dev → arrivals (devEvents evs) = [] →
      s'.dev = s.dev.arrive (arrivals (devEvents evs)) ∧
        (a ≠ .reader → arrivals (devEvents evs) = []) := by
    intro hdev harr
    rw [harr, Dev.arrive_nil]
    exact ⟨hdev, fun _ => rfl⟩
  cases h with
  | client hawake h => exact hquiet (h.dev_of_failed hf) h.io.1.2.2
  | start hpc hidle h =>
    have hreset := hf.reset
    rw [hidle] at hreset
    cases hreset
  | reader hawake h =>
    cases h with
    | pushes => exact ⟨rfl, fun hne => (hne rfl).elim⟩
    | fails hpc hr =>
      obtain ⟨-, rfl, rfl⟩ := hf.resets hr
      exact hquiet rfl rfl
    | loops hpc hl => cases hl <;> exact hquiet rfl rfl
    | _ => exact hquiet rfl rfl
  | recv h => cases h <;> exact hquiet rfl rfl
  | writer hawake h =>
    cases h with
    -- a failed device sends nothing any more
    | takes hpc herr => exact absurd (hf.err.symm.trans herr) (by simp)
    | fails hpc hr =>
      obtain ⟨-, rfl, rfl⟩ := hf.resets hr
      exact hquiet rfl rfl
    | loops hpc hl => cases hl <;> exact hquiet rfl rfl
    | _ => exact hquiet rfl rfl
  | send h => cases h <;> exact hquiet rfl rfl
  | _ => exact hquiet rfl rfl

/-- **A failed device stays failed**, with the same error. -/
theorem SysStep.failed {a : Action} (h : SysStep info s a s' evs) (hf : s.Failed e) :
    s'.Failed e := by
  apply hf.congr ?_ (h.reset hf.reset)
  rw [(h.arrive_of_failed hf).1]
  rfl

/-- A thread that begins its calls on a failed device gets its error from `read()` and `write()`. -/
theorem SysStep.refused_of_failed {a : Action} (h : SysStep info s a s' evs) (hf : s.Failed e)
    {t : ℕ} (hstart : (s.clients t).AtStart) :
    (s'.clients t).AtStart ∧ ∀ call result, .returned t call result ∈ evs → call.Transfers →
      result = call.refusal info e := by
  -- most steps move another thread and return nothing
  have hsilent : s'.clients t = s.clients t → (∀ ev ∈ evs, ∀ call result,
      ev ≠ .returned t call result) → (s'.clients t).AtStart ∧ ∀ call result,
        .returned t call result ∈ evs → call.Transfers → result = call.refusal info e := by
    intro hpc hnone
    rw [hpc]
    exact ⟨hstart, fun call result hmem => (hnone _ hmem call result rfl).elim⟩
  cases h with
  | @call t' call hpc =>
    by_cases ht : t = t'
    · subst ht
      refine ⟨?_, fun _ _ hmem => (List.not_mem_nil hmem).elim⟩
      rw [Sys.setClient_self]
      trivial
    · exact hsilent (Sys.setClient_of_ne ht _) (by simp)
  | @client t' s' evs hawake h =>
    refine ⟨?_, fun call result hmem ht => h.returned_of_failed hf hmem ht⟩
    by_cases ht : t = t'
    · subst ht
      rw [h.idle_of_failed hf hstart]
      trivial
    · rw [h.clients_of_ne ht]
      exact hstart
  | start hpc hidle =>
    have hreset := hf.reset
    rw [hidle] at hreset
    cases hreset
  | @timeout t' hpc =>
    have ht : t ≠ t' := by
      rintro rfl
      rw [hpc] at hstart
      exact hstart
    exact hsilent (Sys.setClient_of_ne ht _) (by simp [ht.symm])
  | wake => exact hsilent rfl (by simp)
  | reader hawake h =>
    refine hsilent (congrFun h.clients_eq t) ?_
    cases h with
    | fails hpc hr => simp [(hf.resets hr).2.2]
    | _ => simp
  | recv h => cases h <;> exact hsilent rfl (by simp)
  | writer hawake h =>
    refine hsilent (congrFun h.clients_eq t) ?_
    cases h with
    | fails hpc hr => simp [(hf.resets hr).2.2]
    | _ => simp
  | send h => cases h <;> exact hsilent rfl (by simp)

/-! ### Runs of a failed device -/

/-- What happens in a run that begins with a failed device. -/
theorem failed_run (hwf : s.dev.Wf) (hf : s.Failed e) {is : List Action}
    (h : (threads info).RunFrom s is s' evs) :
    s'.Failed e ∧ s'.dev = s.dev.arrive (arrivals (devEvents evs)) ∧
      ∀ t, s.clients t = .idle → (s'.clients t).AtStart ∧ ∀ call result,
        .returned t call result ∈ evs → call.Transfers → result = call.refusal info e := by
  have hinv : s'.dev.Wf ∧ s'.Failed e ∧ s'.dev = s.dev.arrive (arrivals (devEvents evs)) ∧
      ∀ t, s.clients t = .idle → (s'.clients t).AtStart ∧ ∀ call result,
        .returned t call result ∈ evs → call.Transfers → result = call.refusal info e := by
    refine h.invariant (P := fun s' evs => s'.dev.Wf ∧ s'.Failed e ∧
      s'.dev = s.dev.arrive (arrivals (devEvents evs)) ∧
      ∀ t, s.clients t = .idle → (s'.clients t).AtStart ∧ ∀ call result,
        .returned t call result ∈ evs → call.Transfers → result = call.refusal info e) ?_ ?_
    · refine ⟨hwf, hf, (Dev.arrive_nil _).symm, fun t hidle => ?_⟩
      rw [hidle]
      exact ⟨trivial, fun _ _ hmem => (List.not_mem_nil hmem).elim⟩
    · rintro s₁ evs₁ a s₂ evs₂ ⟨hwf₁, hf₁, hdev, hcalls⟩ - hs
      have hspec := sysStep_spec hwf₁ hs
      refine ⟨hspec.wf hwf₁, hspec.failed hf₁, ?_, fun t hidle => ?_⟩
      · rw [(hspec.arrive_of_failed hf₁).1, hdev, Dev.arrive_arrive, devEvents_append,
          arrivals_append]
      · obtain ⟨hstart, hold⟩ := hcalls t hidle
        obtain ⟨hstart', hnew⟩ := hspec.refused_of_failed hf₁ hstart
        refine ⟨hstart', fun call result hmem ht => ?_⟩
        exact (List.mem_append.mp hmem).elim (hold call result · ht) (hnew call result · ht)
  exact hinv.2

/-- **Failure is one-way and the first cause wins.**  The device has an error exactly when its
Reset bit is set.  Whatever follows, the device stays as it is, its error included, but for the
commands that the reader thread appends; a call of `read()` or `write()` that takes the lock
returns at once with that error and does nothing; and so does every call that is made from then
on. -/
theorem failure_one_way {is : List Action} (h : (threads info).Run is s evs) :
    (s.dev.err.isSome = true ↔ s.flags.reset = true) ∧
      ∀ e, s.dev.err = some e → ∀ is' s' evs', (threads info).RunFrom s is' s' evs' →
        s'.dev = { s.dev with cmds := s.dev.cmds ++ arrivals (devEvents evs') } ∧
        (∀ a s₂ evs₂, s'.step info a = some (s₂, evs₂) → a ≠ .reader → s₂.dev = s'.dev) ∧
        (∀ t timeout, s'.clients t = .entering (.read timeout) →
          s'.step info (.client t) = some (s'.setClient t .idle,
            [.returned t (.read timeout) (if info.throwOnErr then .threw e else .nullopt)])) ∧
        (∀ t ep data, ep &&& Endpoint.directionMask = Endpoint.directionIn →
          s'.clients t = .entering (.write ep data) →
          s'.step info (.client t) = some (s'.setClient t .idle,
            [.dev (.refused (writeIdx ep) data),
              .returned t (.write ep data) (if info.throwOnErr then .threw e else .done)])) ∧
        ∀ t, s.clients t = .idle → ∀ call result, .returned t call result ∈ evs' →
          call.Transfers → result = call.refusal info e := by
  have hiff := err_isSome_of_run h
  refine ⟨by rw [hiff], fun e herr is' s' evs' h' => ?_⟩
  have hf : s.Failed e := ⟨herr, hiff.symm.trans (by rw [herr]; rfl)⟩
  have hwf := (device_run h).2
  obtain ⟨hf', hdev, hcalls⟩ := failed_run hwf hf h'
  have hrun := h.trans h'
  refine ⟨hdev, ?_, ?_, ?_, fun t hidle => (hcalls t hidle).2⟩
  · intro a s₂ evs₂ hs hne
    obtain ⟨hdev₂, harr⟩ := (sysStep_spec (device_run hrun).2 hs).arrive_of_failed hf'
    rw [hdev₂, harr hne, Dev.arrive_nil]
  · intro t timeout hpc
    exact hf'.read_step hpc (client_awake_of_run hrun hpc)
  · intro t ep data hep hpc
    exact hf'.write_step hep hpc (client_awake_of_run hrun hpc)

/-- `socketpair` fails in `start()`; then one thread calls `stop()` and another one `read()`. -/
theorem failure_one_way_noSockets :
    ∃ s evs s' evs', (threads Info.minimal).Run [.call 0 .start, .start 0 (.noSockets 24)] s evs ∧
      (threads Info.minimal).RunFrom s [.call 0 .stop, .client 0, .call 1 (.read .max)] s' evs' ∧
      s'.dev.err = some (.os "socketpair failed" 24) ∧
      s'.step Info.minimal (.client 1)
        = some (s'.setClient 1 .idle, [.returned 1 (.read .max) .nullopt]) := by
  have hrun : (threads Info.minimal).Run [.call 0 .start, .start 0 (.noSockets 24)] _ _ :=
    run_exec_get (by decide)
  obtain ⟨hdev, -, hread, -, -⟩ := (failure_one_way hrun).2 (.os "socketpair failed" 24) rfl _ _ _
    (@runFrom_of_execFrom _ _ _ _ [.call 0 .stop, .client 0, .call 1 (.read .max)] _ _ _ rfl)
  exact ⟨_, _, _, _, hrun, runFrom_of_execFrom rfl, congrArg Dev.err hdev, hread 1 .max rfl⟩

end VirtualUSB
