import VirtualUSB.Threads.Equiv.Calls
import VirtualUSB.Threads.Equiv.Lifecycle
import VirtualUSB.Threads.Equiv.Waking

/-!
# What calls return

* `CallStep` lists what a step does to the calls that are going on: nothing, or one of them returns.
* `Call.Returns` says what a call can return: the error that it throws is the one that is stored.
* `SysStep.callStep`: a step that begins no call is a `CallStep`.
* `takes_spec`: a step takes no buffer, or the one of the call of `write()` that it begins.
-/

namespace VirtualUSB

variable {info : Info} {s s₁ s' : Sys} {evs : List SysEvent}

/-! ### The calls that are going on -/

/-- The call that a client thread is in. -/
def ClientPc.current : ClientPc → Option Call
  | .idle => none
  | .entering call | .resetting call => some call
  | .reading timeout => some (.read timeout)

theorem ClientPc.InCall.current {pc : ClientPc} {call : Call} (h : pc.InCall call) :
    pc.current = some call := by
  cases pc with
  | entering call' => exact congrArg some h
  | reading timeout => exact congrArg some h
  | _ => exact h.elim

/-- What a call can return when the device is in the given state afterwards. -/
def Call.Returns (info : Info) (d : Dev) (call : Call) : CallResult → Prop
  | .done => ∀ timeout, call ≠ .read timeout
  | .xfer _ => ∃ timeout, call = .read timeout
  | .nullopt => ∃ timeout, call = .read timeout ∧ (timeout ≠ .max ∨ info.throwOnErr = false)
  | .error e => call = .err ∧ e = d.err
  | .threw e => d.err = some e ∧ info.throwOnErr = true

/-- What a step does to the calls that are going on. -/
inductive CallStep (info : Info) (s s' : Sys) : List SysEvent → Prop
  | goes {evs : List SysEvent} (hnone : ∀ t call result, .returned t call result ∉ evs)
      (hsame : ∀ t, (s'.clients t).current = (s.clients t).current) : CallStep info s s' evs
  | returns {evs : List SysEvent} {t : ℕ} {call : Call} {result : CallResult}
      (hnone : ∀ t call result, .returned t call result ∉ evs)
      (hcall : (s.clients t).current = some call)
      (hclients : s'.clients = Function.update s.clients t .idle)
      (hresult : call.Returns info s'.dev result) :
      CallStep info s s' (evs ++ [.returned t call result])

theorem Sys.setClient_clients (s : Sys) (t : ℕ) (pc : ClientPc) :
    (s.setClient t pc).clients = Function.update s.clients t pc := by
  funext t'
  by_cases ht : t' = t
  · subst ht
    rw [Sys.setClient_self, Function.update_self]
  · rw [Sys.setClient_of_ne ht, Function.update_of_ne ht]

theorem not_returned_map_dev {devEvs : List Event} (t : ℕ) (call : Call) (result : CallResult) :
    .returned t call result ∉ devEvs.map SysEvent.dev := by
  simp

/-- A step that moves no client thread. -/
theorem CallStep.of_clients (hnone : ∀ t call result, .returned t call result ∉ evs)
    (hclients : s'.clients = s.clients) : CallStep info s s' evs :=
  .goes hnone fun t => by rw [hclients]

/-- A call returns and nothing else happens. -/
theorem CallStep.only {t : ℕ} {call : Call} {result : CallResult}
    (hcall : (s.clients t).current = some call)
    (hclients : s'.clients = Function.update s.clients t .idle)
    (hresult : call.Returns info s'.dev result) : CallStep info s s' [.returned t call result] := by
  have hstep : CallStep info s s' ([] ++ [.returned t call result]) :=
    .returns (by simp) hcall hclients hresult
  exact hstep

/-- What a call that has failed returns. -/
theorem Sys.failResult_returns (s : Sys) (herr : s.dev.err.isSome = true) (call : Call) :
    call.Returns info s.dev (s.failResult info call) := by
  obtain ⟨e, he⟩ := Option.isSome_iff_exists.mp herr
  cases call with
  | read timeout =>
    rw [Sys.failResult]
    split_ifs with hthrow
    · exact ⟨by rw [he]; rfl, hthrow⟩
    · exact ⟨timeout, rfl, .inr (by simpa using hthrow)⟩
  | stop => exact fun timeout h => by cases h
  | destroy => exact fun timeout h => by cases h
  | err => exact fun timeout h => by cases h
  | _ =>
    rw [Sys.failResult]
    split_ifs with hthrow
    · exact ⟨by rw [he]; rfl, hthrow⟩
    · exact fun timeout h => by cases h

/-- A call that is past `_reset` returns, or waits in it. -/
theorem CallStep.afterReset {t : ℕ} {call : Call} {finished : Bool} {evs : List SysEvent}
    (hnone : ∀ t call result, .returned t call result ∉ evs)
    (hcall : (s.clients t).current = some call)
    (hclients : s₁.clients = s.clients) (herr : s₁.dev.err.isSome = true) :
    CallStep info s (s₁.afterReset info t call finished).1
      (evs ++ (s₁.afterReset info t call finished).2) := by
  rw [Sys.afterReset_fst, Sys.afterReset_snd]
  cases finished with
  | true =>
    refine .returns hnone hcall ?_ (s₁.failResult_returns herr call)
    rw [if_pos rfl, Sys.setClient_clients, hclients]
  | false =>
    refine .goes (by simpa using hnone) fun t' => ?_
    rw [if_neg Bool.false_ne_true, Sys.setClient_clients, hclients]
    by_cases ht : t' = t
    · subst ht
      rw [Function.update_self, hcall]
      rfl
    · rw [Function.update_of_ne ht]

/-- After `_reset` there is an error. -/
theorem Resets.err_isSome_of {th : Thread} {e : Err} {finished : Bool}
    (h : Resets s th e finished s₁ evs) (herr : s.flags.reset = true → s.dev.err.isSome = true) :
    s₁.dev.err.isSome = true := by
  cases h with
  | again hreset => exact herr hreset
  | _ => exact Dev.isSome_fail_err _ e

theorem ClientStep.callStep {t : ℕ} (h : ClientStep info s t s' evs) (hlife : s.Life)
    (herr : s.dev.err.isSome = s.flags.reset) : CallStep info s s' evs := by
  cases h with
  | returns hpc hd hans =>
    refine .returns not_returned_map_dev hpc.current ?_ ?_
    · rw [Sys.setClient_clients, Sys.setDev_clients]
    · cases hans with
      | err hd' =>
        rw [hd', Sys.setDev_self]
        exact ⟨rfl, rfl⟩
      | xfer => exact ⟨_, rfl⟩
      | nullopt => exact ⟨_, rfl, .inl (by simp)⟩
      | wrote => exact fun timeout h => by cases h
  | @sleeps timeout d devEvs hpc =>
    refine .goes not_returned_map_dev fun t' => ?_
    by_cases ht : t' = t
    · subst ht
      rw [Sys.setClient_self, hpc.current]
      rfl
    · rw [Sys.setClient_of_ne ht]
      exact congrArg (fun c => (c t').current) (Sys.setDev_clients _)
  | @fails call e d devEvs finished s₁ evs₁ hpc hd hnone herr' hr =>
    rw [← List.append_assoc]
    refine .afterReset ?_ hpc.current (hr.threads.2.2.trans (Sys.setDev_clients _)) ?_
    · intro t' call' result hmem
      rcases List.mem_append.mp hmem with hmem | hmem
      · exact not_returned_map_dev _ _ _ hmem
      · exact hr.not_returned hmem
    · refine hr.err_isSome_of fun hreset => ?_
      rw [Sys.setDev_flags] at hreset
      rw [hd.err_isSome herr hreset, Sys.setDev_self, herr, hreset]
  | @loops call finished s₁ hpc hl =>
    have hreset : s.flags.reset = true := (hlife.inReset (.client t) ⟨call, hpc⟩).1
    have hdev : s₁.dev = s.dev := by cases hl <;> rfl
    have hstep : CallStep info s (s₁.afterReset info t call finished).1
        ([] ++ (s₁.afterReset info t call finished).2) :=
      .afterReset (by simp) (by rw [hpc]; rfl) hl.threads.2.2 (by rw [hdev, herr, hreset])
    exact hstep

/-- **A step that begins no call** ends at most one, and what this one returns is what it can
return. -/
theorem SysStep.callStep {a : Action} (h : SysStep info s a s' evs) (hlife : s.Life)
    (herr : s.dev.err.isSome = s.flags.reset) (hcall : ∀ t call, a ≠ .call t call) :
    CallStep info s s' evs := by
  cases h with
  | call call => exact (hcall _ call rfl).elim
  | client hawake h => exact h.callStep hlife herr
  | start hpc hidle h =>
    cases h with
    | fails hf hr =>
      refine .afterReset (fun _ _ _ => hr.not_returned) (by rw [hpc]; rfl) ?_ ?_
      · exact hr.threads.2.2.trans (by cases hf <;> rfl)
      · refine hr.err_isSome_of fun hreset => ?_
        have hnot : s.flags.reset = true := by cases hf <;> exact hreset
        rw [hidle] at hnot
        cases hnot
    | started =>
      exact .only (by rw [hpc]; rfl) (Sys.setClient_clients ..) fun timeout h => by cases h
  | timeout hpc =>
    exact .only (by rw [hpc]; rfl) (Sys.setClient_clients ..) ⟨_, rfl, .inl (by simp)⟩
  | wake => exact .of_clients (by simp) rfl
  | reader hawake h =>
    refine .of_clients (fun t call result hmem => ?_) h.clients_eq
    cases h with
    | fails hpc hr => exact hr.not_returned hmem
    | _ => simp at hmem
  | recv h => cases h <;> exact .of_clients (by simp) rfl
  | writer hawake h =>
    refine .of_clients (fun t call result hmem => ?_) h.clients_eq
    cases h with
    | fails hpc hr => exact hr.not_returned hmem
    | _ => simp at hmem
  | send h => cases h <;> exact .of_clients (by simp) rfl

/-! ### The buffers that are taken -/

theorem written_wrote (e e' : EpIdx) (data : List UInt8) :
    written e [.wrote e' data] = if e' = e then [data] else [] := by
  by_cases he : e' = e <;> simp [written, he]

/-- A call that fails takes no buffer after its `catch`. -/
theorem written_callReset (t : ℕ) (call : Call) (err : Err) (e : EpIdx) :
    written e (devEvents (s.callReset info t call err).2) = [] := by
  have hsnd : (s.callReset info t call err).2 = (s.resetEnter (.client t) err).2.2
      ++ ((s.resetEnter (.client t) err).2.1.afterReset info t call
        (s.resetEnter (.client t) err).1).2 := rfl
  rw [hsnd, devEvents_append, devEvents_afterReset, List.append_nil,
    (resetEnter_spec s (.client t) err).written]

/-- The call of `write()` goes on to return, or to wait in `_reset`, with its buffer in the device
or refused. -/
theorem writeCall_takes {t : ℕ} {ep : UInt8} {data : List UInt8} (hwf : s.dev.Wf)
    (h : s.writeCall info t ep data = some (s', evs)) :
    (∀ call, s'.clients t ≠ .entering call) ∧
      ((∀ e, written e (devEvents evs) = []) ∨
        ∀ e, written e (devEvents evs) = if writeIdx ep = e then [data] else []) := by
  have hafter : ∀ (s₁ : Sys) (finished : Bool) call,
      (s₁.afterReset info t (.write ep data) finished).1.clients t ≠ .entering call := by
    intro s₁ finished call
    rw [Sys.afterReset_fst, Sys.setClient_self]
    cases finished <;> simp
  unfold Sys.writeCall at h
  split at h
  · cases h
  · rename_i d devEvs hstep
    obtain ⟨ev, rfl, hd⟩ := step_spec hwf hstep
    split at h
    · obtain ⟨rfl, rfl⟩ := by simpa [Sys.return_] using h
      refine ⟨fun call => by rw [Sys.setClient_self]; simp, ?_⟩
      cases hd with
      | write => exact .inr fun e => written_wrote e _ data
      | refuse => exact .inl fun e => rfl
    · rename_i err _
      have heq : (((s.setDev d).callReset info t (.write ep data) err).1, [ev].map SysEvent.dev ++
          ((s.setDev d).callReset info t (.write ep data) err).2) = (s', evs) := Option.some.inj h
      obtain ⟨rfl, rfl⟩ := Prod.mk.inj heq
      refine ⟨hafter _ _, ?_⟩
      cases hd with
      | write =>
        refine .inr fun e => ?_
        rw [devEvents_append, written_append, written_callReset, List.append_nil]
        exact written_wrote e _ data
      | refuse =>
        refine .inl fun e => ?_
        rw [devEvents_append, written_append, written_callReset]
        rfl

/-- **What a step takes**: no buffer, or that of the call of `write()` that takes the lock. -/
theorem takes_spec {a : Action} (hwf : s.dev.Wf) (h : s.step info a = some (s', evs)) :
    (∀ e, written e (devEvents evs) = []) ∨
      ∃ t ep data, s.clients t = .entering (.write ep data) ∧
        (∀ call, s'.clients t ≠ .entering call) ∧
        ∀ e, written e (devEvents evs) = if writeIdx ep = e then [data] else [] := by
  by_cases hwrites : ∃ t ep data, a = .client t ∧ s.clients t = .entering (.write ep data)
  · obtain ⟨t, ep, data, rfl, hpc⟩ := hwrites
    rw [Sys.step] at h
    split_ifs at h
    rw [Sys.stepClient, hpc] at h
    obtain ⟨hleft, htakes⟩ := writeCall_takes hwf h
    exact htakes.imp_right fun htakes => ⟨t, ep, data, hpc, hleft, htakes⟩
  · left
    intro e
    by_contra hw
    cases sysStep_spec hwf h with
    | @client t _ _ hawake h =>
      obtain ⟨ep, data, hpc, -⟩ := h.written hw
      exact hwrites ⟨t, ep, data, rfl, hpc⟩
    | start hpc hidle h =>
      cases h with
      | fails hf hr =>
        rw [devEvents_append, devEvents_afterReset, List.append_nil, hr.written] at hw
        exact hw rfl
      | started => exact hw rfl
    | reader hawake h =>
      cases h with
      | fails hpc hr => exact hw (hr.written e)
      | _ => exact hw rfl
    | recv h => cases h <;> exact hw rfl
    | writer hawake h =>
      cases h with
      | fails hpc hr => exact hw (hr.written e)
      | _ => exact hw rfl
    | send h => cases h <;> exact hw rfl
    | _ => exact hw rfl

end VirtualUSB
