import VirtualUSB.App.Equiv.Sharing

/-!
# What the application sends

* `AppMove.texts`: what a step writes is a text that was due, and a text becomes due when a terminal
  is present.
* `texts_gated`: while no terminal is present at most one text is written.
* `texts_on_wire`: the host reads the text again and again from endpoint 2, nothing from the others,
  and nothing at all if it never says that a terminal is present.
-/

namespace VirtualUSB

open LabelledSystem

variable {info : Info} {a a' : App} {evs evs' : List SysEvent} {act : AppAction}

/-! ### The text -/

/-- A text is about to be written: the thread in `_threadResponse` has seen a terminal, and its call
of `write()` has not begun. -/
def App.due (a : App) : ℕ :=
  if a.response = .ready ∨
      a.sys.clients responseThread = .entering (.write Endpoint.in2 responseText) then 1 else 0

theorem App.due_le_one (a : App) : a.due ≤ 1 := by
  unfold App.due
  split_ifs <;> omega

/-- What is written is the text on endpoint 2, or something on endpoint 0. -/
structure App.Texts (a : App) (evs : List SysEvent) (n : ℕ) : Prop where
  others : ∀ e : EpIdx, e ≠ 0 → e ≠ 2 → written e (devEvents evs) = []
  texts : written 2 (devEvents evs) = List.replicate n responseText

/-- A thread that waits for a terminal is not about to write. -/
theorem App.Linked.due_eq_zero (hlinked : a.Linked) (hmain : a.main ≠ .exited)
    (hresponse : a.response = .waiting) : a.due = 0 := by
  have hnone := (hlinked.response hmain).mpr (by rw [hresponse]; simp)
  refine if_neg fun hdue => ?_
  rcases hdue with hready | hentering
  · rw [hresponse] at hready
    cases hready
  · rw [hentering] at hnone
    cases hnone

theorem App.due_mono (hready : a'.response = .ready → a.response = .ready)
    (hentering : ∀ call, a'.sys.clients responseThread = .entering call →
      a.sys.clients responseThread = .entering call) : a'.due ≤ a.due := by
  by_cases hdue : a'.response = .ready ∨
      a'.sys.clients responseThread = .entering (.write Endpoint.in2 responseText)
  · exact (App.due_le_one a').trans (if_pos (hdue.imp hready (hentering _))).ge
  · exact (if_neg hdue).le.trans (Nat.zero_le _)

/-- The thread in `_threadResponse` does not get ready by what is handed over. -/
theorem Hands.response {s : Sys} (h : Hands info a s a' evs) :
    a'.sys = s ∧ (a'.response = .ready → a.response = .ready) := by
  cases h with
  | nothing => exact ⟨rfl, id⟩
  | @toMain evs call result =>
    cases result with
    | _ => exact ⟨rfl, id⟩
  | @toResponse evs call result =>
    cases result with
    | done => exact ⟨rfl, fun hr => by cases hr⟩
    | _ => exact ⟨rfl, id⟩

/-- What a step writes is a text that was due.  A text becomes due when a terminal is present. -/
theorem AppMove.texts {n : ℕ} (h : AppMove info a a' evs') (hlinked : a.Linked)
    (hmain : a.main ≠ .exited) (htexts : a.Texts evs n) :
    ∃ n', a'.Texts (evs ++ evs') n' ∧ (a.shared.dtePresent = false → n' + a'.due ≤ n + a.due) := by
  cases h with
  | @device s evs' hands hentering htakes =>
    obtain ⟨rfl, hready⟩ := hands.response
    have hdue : a'.due ≤ a.due := App.due_mono hready (hentering responseThread)
    have hwritten : ∀ e, written e (devEvents (evs ++ evs'))
        = written e (devEvents evs) ++ written e (devEvents evs') := fun e => by
      rw [devEvents_append, written_append]
    rcases htakes with hnone | ⟨t, ep, data, hpc, hleft, htakes⟩
    · refine ⟨n, ⟨fun e h0 h2 => ?_, ?_⟩, fun _ => by omega⟩
      · rw [hwritten, hnone, List.append_nil, htexts.others e h0 h2]
      · rw [hwritten, hnone, List.append_nil, htexts.texts]
    · have hcurrent : (a.sys.clients t).current = some (.write ep data) := by
        rw [hpc]
        rfl
      by_cases htmain : t = mainThread
      · -- the main thread writes on endpoint 0
        subst htmain
        have hep : ep = Endpoint.defaultIn := by
          rcases hlinked.mainCall _ hcurrent with h | h | ⟨data', h⟩
          · cases h
          · cases h
          · exact (Call.write.inj h).1
        have hzero : ∀ e : EpIdx, e ≠ 0 → written e (devEvents evs') = [] := by
          intro e he
          rw [htakes, hep]
          exact if_neg fun h => he h.symm
        refine ⟨n, ⟨fun e h0 h2 => ?_, ?_⟩, fun _ => by omega⟩
        · rw [hwritten, hzero e h0, List.append_nil, htexts.others e h0 h2]
        · rw [hwritten, hzero 2 (by decide), List.append_nil, htexts.texts]
      · by_cases htresponse : t = responseThread
        · subst htresponse
          obtain ⟨rfl, rfl⟩ := Call.write.inj (hlinked.responseCall _ hcurrent)
          have hcalling : a.response = .calling := by
            by_contra hr
            rw [(hlinked.response hmain).mpr hr] at hcurrent
            cases hcurrent
          have hbefore : a.due = 1 := if_pos (.inr hpc)
          have hafter : a'.due = 0 := if_neg fun h => h.elim
            (fun hr => by rw [hready hr] at hcalling; cases hcalling) (hleft _)
          refine ⟨n + 1, ⟨fun e h0 h2 => ?_, ?_⟩, fun _ => by omega⟩
          · rw [hwritten, htakes, htexts.others e h0 h2]
            exact if_neg fun h => h2 h.symm
          · rw [hwritten, htakes, htexts.texts, List.replicate_succ']
            rfl
        · rw [hlinked.others t htmain htresponse] at hcurrent
          cases hcurrent
  | own hact h =>
    rw [List.append_nil]
    refine ⟨n, ⟨htexts.others, htexts.texts⟩, fun hdte => ?_⟩
    refine Nat.add_le_add_left ?_ n
    have hcalls : ∀ call' call, (a.sys.setClient mainThread (.entering call')).clients
        responseThread = .entering call → a.sys.clients responseThread = .entering call := by
      intro call' call hc
      rwa [Sys.setClient_of_ne responseThread_ne_mainThread] at hc
    cases h with
    | sys => exact (hact _ rfl).elim
    | starts => exact App.due_mono id (hcalls _)
    | reads => exact App.due_mono id (hcalls _)
    | handles => exact App.due_mono id fun _ hc => hc
    | answers => exact App.due_mono id (hcalls _)
    | fails => exact App.due_mono id fun _ hc => hc
    | launches => exact App.due_mono (fun hr => by cases hr) fun _ hc => hc
    | launchFails => exact App.due_mono (fun hr => by cases hr) fun _ hc => hc
    | looks hpc hpresent =>
      rw [hdte] at hpresent
      cases hpresent
    | sends hpc => exact (App.due_le_one _).trans (if_pos (.inl hpc)).ge

/-- While no terminal is present only the text that is due is written. -/
theorem texts_le_due {is₀ is : List AppAction} {a₀ : App} {evs₀ : List SysEvent}
    (h₀ : (application info).Run is₀ a₀ evs₀)
    (h : (application info).RunWhere (fun b _ => b.shared.dtePresent = false) a₀ is a evs) :
    ∃ n, a.Texts evs n ∧ n + a.due ≤ a₀.due := by
  refine application_induction h₀ (P := fun a evs => ∃ n, a.Texts evs n ∧ n + a.due ≤ a₀.due)
    ⟨0, ⟨fun _ _ _ => rfl, rfl⟩, (Nat.zero_add _).le⟩ ?_ h
  rintro a evs act a' evs' hlinked hmain ⟨n, htexts, hle⟩ hdte hmove
  obtain ⟨n', htexts', hle'⟩ := hmove.texts hlinked hmain htexts
  exact ⟨n', htexts', (hle' hdte).trans hle⟩

/-- Nothing happens after the process has ended. -/
theorem exited_of_run {ok : App → AppAction → Prop} {is : List AppAction} {a₀ : App}
    (hexited : a₀.main = .exited) (h : (application info).RunWhere ok a₀ is a evs) :
    a.main = .exited ∧ evs = [] := by
  refine h.invariant (P := fun a evs => a.main = .exited ∧ evs = []) ⟨hexited, rfl⟩ ?_
  rintro a evs act a' evs' ⟨hmain, -⟩ - hs
  exact (App.main_ne_exited hs hmain).elim

/-- **No terminal, no text.**  From any reachable state on, as long as no terminal is present, at
most one text is written, and none if the thread that sends it waits for a terminal. -/
theorem texts_gated {is₀ is : List AppAction} {a₀ : App} {evs₀ : List SysEvent}
    (h₀ : (application deviceInfo).Run is₀ a₀ evs₀)
    (h : (application deviceInfo).RunWhere (fun b _ => b.shared.dtePresent = false) a₀ is a evs) :
    (∀ e : EpIdx, e ≠ 0 → written e (devEvents evs) = [] ∨
        e = 2 ∧ written e (devEvents evs) = [responseText]) ∧
      (a₀.response = .waiting → ∀ e : EpIdx, e ≠ 0 → written e (devEvents evs) = []) := by
  obtain ⟨n, htexts, hle⟩ := texts_le_due h₀ h
  have hbound := a₀.due_le_one
  have hzero : n = 0 → ∀ e : EpIdx, e ≠ 0 → written e (devEvents evs) = [] := by
    rintro rfl e he
    by_cases h2 : e = 2
    · rw [h2, htexts.texts]
      rfl
    · exact htexts.others e he h2
  refine ⟨fun e he => ?_, fun hresponse => ?_⟩
  · obtain rfl | rfl : n = 0 ∨ n = 1 := by omega
    · exact .inl (hzero rfl e he)
    · by_cases h2 : e = 2
      · exact .inr ⟨h2, by rw [h2, htexts.texts]; rfl⟩
      · exact .inl (htexts.others e he h2)
  · by_cases hmain : a₀.main = .exited
    · obtain ⟨-, rfl⟩ := exited_of_run hmain h
      exact fun _ _ => rfl
    · have hdue := (linked_of_run h₀).due_eq_zero hmain hresponse
      exact hzero (by omega)

/-- The host says that a terminal is present. -/
def terminalMsg : HostMsg :=
  controlMsg 1 usbipDirOut #v[0x21, 0x22, 1, 0, 0, 0, 0, 0] 0 []

/-- The host says that a terminal is present, and when the second thread has seen it, that none is
present any more. -/
def goneRun : List AppAction :=
  [.main, .sys (.start mainThread (.started 3 4)), .launch none, .sys .reader,
    .sys (.recv (.some terminalMsg.encode)), .sys .reader] ++ turn ++
    [.response, .sys (.recv (.some setControlLineStateMsg.encode)), .sys .reader] ++ turn

theorem goneRun_isSome : ((application deviceInfo).exec goneRun).isSome = true := by decide +kernel

/-- The second thread writes the text that was due. -/
def lastTextRun : List AppAction :=
  [.response, .sys (.client responseThread)]

theorem lastTextRun_isSome : ((application deviceInfo).execFrom
    (((application deviceInfo).exec goneRun).get goneRun_isSome).1 lastTextRun).isSome = true := by
  decide +kernel

/-- After `goneRun` one text is written. -/
theorem texts_gated_goneRun :
    written 2 (devEvents (((application deviceInfo).execFrom
      (((application deviceInfo).exec goneRun).get goneRun_isSome).1 lastTextRun).get
        lastTextRun_isSome).2) = [responseText] := by
  have hmeets : (application deviceInfo).meets (fun b _ => b.shared.dtePresent = false)
      (((application deviceInfo).exec goneRun).get goneRun_isSome).1 lastTextRun = true := by
    decide +kernel
  have hrun := runWhere_of_execFrom (Option.some_get lastTextRun_isSome).symm hmeets
  have hgated := (texts_gated (run_exec_get goneRun_isSome) hrun).1 2 (by decide)
  exact (hgated.resolve_left (by decide +kernel)).2

end VirtualUSB
