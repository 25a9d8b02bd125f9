import VirtualUSB.Threads.Equiv.System

/-!
# Calls and their buffers

* `SysStep.entering`: a call is at its beginning only if a client has made it.
* `SysStep.written`: the device takes a buffer only from a client that has called `write()`.
-/

namespace VirtualUSB

open LabelledSystem

variable {info : Info} {s s' : Sys} {evs : List SysEvent}

/-- A thread that goes on with its call is not at its beginning. -/
theorem setClient_entering {t t' : ℕ} {call : Call} {pc : ClientPc}
    (hc : (s'.setClient t' pc).clients t = .entering call) (hold : s'.clients = s.clients)
    (hpc : ∀ call', pc ≠ .entering call') : s.clients t = .entering call := by
  by_cases ht : t = t'
  · subst ht
    rw [Sys.setClient_self] at hc
    exact (hpc call hc).elim
  · rwa [Sys.setClient_of_ne ht, hold] at hc

theorem afterReset_entering {t t' : ℕ} {call call' : Call} {finished : Bool}
    (hc : (s'.afterReset info t' call' finished).1.clients t = .entering call)
    (hold : s'.clients = s.clients) : s.clients t = .entering call := by
  rw [Sys.afterReset_fst] at hc
  exact setClient_entering hc hold (by cases finished <;> simp)

theorem ClientStep.entering {t t' : ℕ} {call : Call} (h : ClientStep info s t' s' evs)
    (hc : s'.clients t = .entering call) : s.clients t = .entering call := by
  cases h with
  | returns => exact setClient_entering hc (Sys.setDev_clients _) (by simp)
  | sleeps => exact setClient_entering hc (Sys.setDev_clients _) (by simp)
  | fails hpc hd hnone herr hr =>
    exact afterReset_entering hc (hr.threads.2.2.trans (Sys.setDev_clients _))
  | loops hpc hl => exact afterReset_entering hc hl.threads.2.2

theorem StartStep.entering {t t' : ℕ} {o : StartOutcome} {call : Call}
    (h : StartStep info s t' o s' evs) (hc : s'.clients t = .entering call) :
    s.clients t = .entering call := by
  cases h with
  | fails hf hr =>
    apply afterReset_entering hc
    rw [hr.threads.2.2]
    cases hf <;> rfl
  | started => exact setClient_entering hc rfl (by simp)

/-- The step of a client thread moves no other client thread. -/
theorem ClientStep.clients_of_ne {t t' : ℕ} (h : ClientStep info s t s' evs) (hne : t' ≠ t) :
    s'.clients t' = s.clients t' := by
  cases h with
  | returns => rw [Sys.setClient_of_ne hne, Sys.setDev_clients]
  | sleeps =>
    rw [Sys.setClient_of_ne hne]
    exact congrFun (Sys.setDev_clients _) t'
  | fails hpc hd hnone herr hr =>
    rw [Sys.afterReset_fst, Sys.setClient_of_ne hne, hr.threads.2.2, Sys.setDev_clients]
  | loops hpc hl => rw [Sys.afterReset_fst, Sys.setClient_of_ne hne, hl.threads.2.2]

/-- The step of a client thread that waits in `_reset`. -/
theorem ClientStep.of_resetting {t : ℕ} {call : Call} (h : ClientStep info s t s' evs)
    (hpc : s.clients t = .resetting call) :
    ∃ finished s₁, Loops s (.client t) finished s₁ ∧
      s' = (s₁.afterReset info t call finished).1 ∧
      evs = (s₁.afterReset info t call finished).2 := by
  cases h with
  | returns hpc' => exact (hpc'.not_resetting call hpc).elim
  | sleeps hpc' => exact (hpc'.not_resetting call hpc).elim
  | fails hpc' => exact (hpc'.not_resetting call hpc).elim
  | @loops call' finished s₁ hpc' hl =>
    obtain rfl := ClientPc.resetting.inj (hpc'.symm.trans hpc)
    exact ⟨finished, s₁, hl, rfl, rfl⟩

/-- The reader thread and the writer thread leave the client threads alone. -/
theorem ReaderStep.clients_eq (h : ReaderStep s s' evs) : s'.clients = s.clients := by
  cases h with
  | fails hpc hr => exact hr.threads.2.2
  | loops hpc hl => exact hl.threads.2.2
  | _ => rfl

theorem WriterStep.clients_eq (h : WriterStep s s' evs) : s'.clients = s.clients := by
  cases h with
  | fails hpc hr => exact hr.threads.2.2
  | loops hpc hl => exact hl.threads.2.2
  | _ => rfl

/-- A client thread is about to take the lock only if it has just made its call. -/
theorem SysStep.entering {a : Action} (h : SysStep info s a s' evs) {t : ℕ} {call : Call}
    (hc : s'.clients t = .entering call) : s.clients t = .entering call ∨ a = .call t call := by
  cases h with
  | @call t' call' hpc =>
    by_cases ht : t = t'
    · subst ht
      rw [Sys.setClient_self] at hc
      exact .inr (by rw [ClientPc.entering.inj hc])
    · rw [Sys.setClient_of_ne ht] at hc
      exact .inl hc
  | client hawake h => exact .inl (h.entering hc)
  | start hpc hidle h => exact .inl (h.entering hc)
  | timeout hpc => exact .inl (setClient_entering hc rfl (by simp))
  | reader hawake h =>
    rw [h.clients_eq] at hc
    exact .inl hc
  | recv h =>
    left
    cases h <;> exact hc
  | writer hawake h =>
    rw [h.clients_eq] at hc
    exact .inl hc
  | send h =>
    left
    cases h <;> exact hc
  | wake => exact .inl hc

theorem Resets.written {th : Thread} {e : Err} {finished : Bool}
    (h : Resets s th e finished s' evs) (idx : EpIdx) :
    VirtualUSB.written idx (devEvents evs) = [] := by
  cases h <;> rfl

/-- A client thread gives the device a buffer only at the beginning of its call of `write()`. -/
theorem ClientStep.written {t : ℕ} (h : ClientStep info s t s' evs) {e : EpIdx}
    (hw : VirtualUSB.written e (devEvents evs) ≠ []) :
    ∃ ep data, s.clients t = .entering (.write ep data) ∧ writeIdx ep = e := by
  cases h with
  | @returns call result d devEvs hpc hd hans hwrites =>
    rw [devEvents_append, devEvents_map_dev, written_append] at hw
    obtain ⟨ep, data, rfl, he⟩ := hwrites e fun hnil => hw (by rw [hnil]; rfl)
    exact ⟨ep, data, hpc.entering (by simp), he⟩
  | sleeps hpc ht hd herr hcmds hnone hwrites =>
    rw [devEvents_map_dev] at hw
    exact (hw (hwrites e)).elim
  | @fails call err d devEvs finished s₁ evs₁ hpc hd hnone herr hr hwrites =>
    rw [devEvents_append, devEvents_map_dev, devEvents_append, devEvents_afterReset,
      written_append, written_append, hr.written] at hw
    obtain ⟨ep, data, rfl, he⟩ := hwrites e fun hnil => hw (by rw [hnil]; rfl)
    exact ⟨ep, data, hpc.entering (by simp), he⟩
  | loops hpc hl =>
    rw [devEvents_afterReset] at hw
    exact (hw rfl).elim

/-- Buffers are taken only by a client thread that has called `write()` for the endpoint. -/
theorem SysStep.written {a : Action} (h : SysStep info s a s' evs) {e : EpIdx}
    (hw : VirtualUSB.written e (devEvents evs) ≠ []) :
    ∃ t ep data, s.clients t = .entering (.write ep data) ∧ writeIdx ep = e := by
  cases h with
  | client hawake h => exact ⟨_, h.written hw⟩
  | start hpc hidle h =>
    cases h with
    | fails hf hr =>
      rw [devEvents_append, devEvents_afterReset, List.append_nil, hr.written] at hw
      exact (hw rfl).elim
    | started => exact (hw rfl).elim
  | reader hawake h =>
    cases h with
    | fails hpc hr => exact (hw (hr.written e)).elim
    | _ => exact (hw rfl).elim
  | recv h => cases h <;> exact (hw rfl).elim
  | writer hawake h =>
    cases h with
    | fails hpc hr => exact (hw (hr.written e)).elim
    | _ => exact (hw rfl).elim
  | send h => cases h <;> exact (hw rfl).elim
  | _ => exact (hw rfl).elim

end VirtualUSB
