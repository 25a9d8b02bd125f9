import VirtualUSB.App.Equiv.Calls
import VirtualUSB.Host.Equiv.Server

/-!
# What the application takes from the host

* `App.Shares` says which transfers were handled.
* `shared_of_messages`: the line coding and the terminal state are those of the last messages that
  set them.
* `exits_only_if`: the process ends only because of an error of the device, a failure to create the
  second thread, or a transfer that the application does not know.
-/

namespace VirtualUSB

open LabelledSystem

variable {info : Info} {a a' : App} {evs evs' : List SysEvent} {act : AppAction}

/-! ### The transfers that were handled -/

/-- The transfer that the main thread is about to handle. -/
def MainPc.inHand : MainPc → List Xfer
  | .got x => [x]
  | _ => []

/-- The application has handled the transfers `xs`, all of which it knows; without the one in its
hand these are all that `read()` has returned.  The process has ended because of an error of the
device, because the second thread could not be created, or because of the transfer that came
next. -/
structure App.Shares (a : App) (evs : List SysEvent) (xs : List Xfer) : Prop where
  shared : a.shared = sharedBy xs
  known : ∀ x ∈ xs, x.Known
  isPrefix : xs <+: returnedXfers evs
  returned : a.main ≠ .exited → returnedXfers evs = xs ++ a.main.inHand
  exited : a.main = .exited → a.sys.dev.err.isSome = true ∨
    (a.sys.clients mainThread).current = none ∧
      (a.response = .notCreated ∨ ∃ x, ¬ x.Known ∧ returnedXfers evs = xs ++ [x])

theorem App.Shares.init : ({} : App).Shares [] [] where
  shared := rfl
  known x hx := by cases hx
  isPrefix := List.prefix_rfl
  returned _ := rfl
  exited h := by cases h

theorem returnedXfers_of_none (hnone : ∀ t call result, .returned t call result ∉ evs) :
    returnedXfers evs = [] := by
  refine List.filterMap_eq_nil_iff.mpr fun ev hev => ?_
  cases ev with
  | returned t call result => exact (hnone t call result hev).elim
  | _ => rfl

/-- An error that a call of the application throws is one of the device. -/
theorem Hands.shares {s : Sys} {xs : List Xfer} (h : Hands info a s a' evs')
    (hthrow : info.throwOnErr = true) (hlinked : a.Linked) (hmain : a.main ≠ .exited)
    (hshares : a.Shares evs xs) : a'.Shares (evs ++ evs') xs := by
  have hreturned := hshares.returned hmain
  -- the main thread has no transfer in its hand while it is in a call
  have hcalling : ∀ {call : Call}, (a.sys.clients mainThread).current = some call →
      returnedXfers evs = xs := by
    intro call hcall
    have hpc : a.main = .calling := by
      by_contra hpc
      rw [(hlinked.main hmain).mpr hpc] at hcall
      cases hcall
    rw [hreturned, hpc]
    exact List.append_nil _
  cases h with
  | nothing hnone hsame =>
    have hnil := returnedXfers_of_none hnone
    have hsame' : returnedXfers (evs ++ evs') = returnedXfers evs := by
      rw [returnedXfers_append, hnil, List.append_nil]
    exact ⟨hshares.shared, hshares.known, hsame' ▸ hshares.isPrefix,
      fun _ => hsame'.trans hreturned, fun hm => (hmain hm).elim⟩
  | @toMain evs₁ call result hnone hcall hclients hresult =>
    have hxs := hcalling hcall
    have hlast : returnedXfers (evs ++ (evs₁ ++ [.returned mainThread call result]))
        = xs ++ returnedXfers [.returned mainThread call result] := by
      rw [returnedXfers_append, returnedXfers_append, returnedXfers_of_none hnone, hxs]
      rfl
    have hmainCall := hlinked.mainCall call hcall
    refine ⟨?_, hshares.known, hlast ▸ List.prefix_append _ _, fun hm => ?_, fun hm => ?_⟩
    · cases result <;> exact hshares.shared
    · rw [hlast]
      cases result with
      | done => by_cases hr : a.response = .notLaunched <;> simp [App.mainReturned, hr] <;> rfl
      | xfer x => rfl
      | _ => exact (hm rfl).elim
    · left
      cases result with
      | done => by_cases hr : a.response = .notLaunched <;> simp [App.mainReturned, hr] at hm
      | xfer x => cases hm
      | nullopt =>
        obtain ⟨timeout, rfl, hfinite⟩ := hresult
        rcases hmainCall with hread | hread | ⟨data, hread⟩
        · cases hread
        · obtain rfl := Call.read.inj hread
          exact hfinite.elim (fun h => (h rfl).elim) fun h => by rw [hthrow] at h; cases h
        · cases hread
      | error e =>
        obtain ⟨rfl, -⟩ := hresult
        simp at hmainCall
      | threw e => exact Option.isSome_iff_exists.mpr ⟨e, hresult.1⟩
  | @toResponse evs₁ call result hnone hcall hclients hresult =>
    obtain rfl := hlinked.responseCall call hcall
    have hlast : returnedXfers (evs ++ (evs₁ ++ [.returned responseThread
        (.write Endpoint.in2 responseText) result])) = returnedXfers evs := by
      rw [returnedXfers_append, returnedXfers_append, returnedXfers_of_none hnone]
      cases result with
      | xfer x =>
        obtain ⟨timeout, hread⟩ := hresult
        cases hread
      | _ => exact List.append_nil _
    refine ⟨?_, hshares.known, hlast ▸ hshares.isPrefix, fun hm => ?_, fun hm => ?_⟩
    · cases result <;> exact hshares.shared
    · rw [hlast, hreturned]
      cases result with
      | done => rfl
      | _ => exact (hm rfl).elim
    · left
      cases result with
      | done => exact (hmain hm).elim
      | xfer x =>
        obtain ⟨timeout, hread⟩ := hresult
        cases hread
      | nullopt =>
        obtain ⟨timeout, hread, -⟩ := hresult
        cases hread
      | error e => cases hresult.1
      | threw e => exact Option.isSome_iff_exists.mpr ⟨e, hresult.1⟩

theorem sharedBy_append (xs : List Xfer) (x : Xfer) :
    sharedBy (xs ++ [x]) = ⟨x.lineCoding.getD (sharedBy xs).lineCoding,
      x.dtePresent.getD (sharedBy xs).dtePresent⟩ := by
  simp only [sharedBy, getLast?_getD_filterMap_append]

/-- A transfer is handled, or the process ends because of it. -/
theorem AppStep.shares {xs : List Xfer} (h : AppStep info a act a' [])
    (hact : ∀ act', act ≠ .sys act') (hlinked : a.Linked) (hmain : a.main ≠ .exited)
    (hshares : a.Shares evs xs) : ∃ xs', a'.Shares evs xs' := by
  have hreturned := hshares.returned hmain
  -- a step with no transfer in the hand
  have hsame : ∀ {b : App}, b.shared = a.shared → b.main ≠ .exited →
      b.main.inHand = a.main.inHand → ∃ xs', b.Shares evs xs' := by
    intro b hb hm hhand
    exact ⟨xs, hb.trans hshares.shared, hshares.known, hshares.isPrefix,
      fun _ => hhand ▸ hreturned, fun h => (hm h).elim⟩
  have htakes : ∀ {x : Xfer} {shared : Shared} {out : Option (UInt8 × List UInt8)} {b : App},
      a.main = .got x → handleXfer a.shared x = .ok (shared, out) → b.shared = shared →
      b.main ≠ .exited → b.main.inHand = [] → ∃ xs', b.Shares evs xs' := by
    intro x shared out b hpc hx hb hm hhand
    have hspec := handleXfer_spec a.shared x
    rw [hx] at hspec
    obtain ⟨hknown, rfl, -⟩ := hspec
    rw [hpc] at hreturned
    refine ⟨xs ++ [x], ?_, ?_, hreturned ▸ List.prefix_rfl, fun _ => ?_,
      fun h => (hm h).elim⟩
    · rw [hb, sharedBy_append, ← hshares.shared]
    · rw [List.forall_mem_append, List.forall_mem_singleton]
      exact ⟨hshares.known, hknown⟩
    · rw [hhand, List.append_nil]
      exact hreturned
  cases h with
  | sys => exact (hact _ rfl).elim
  | starts hpc => exact hsame rfl (by simp) (by rw [hpc]; rfl)
  | reads hpc => exact hsame rfl (by simp) (by rw [hpc]; rfl)
  | handles hpc hx => exact htakes hpc hx rfl (by simp) rfl
  | answers hpc hx => exact htakes hpc hx rfl (by simp) rfl
  | @fails xfer e hpc hx =>
    have hspec := handleXfer_spec a.shared xfer
    rw [hx] at hspec
    rw [hpc] at hreturned
    have hidle := (hlinked.main hmain).mpr (by rw [hpc]; simp)
    exact ⟨xs, hshares.shared, hshares.known, hshares.isPrefix,
      fun h => (h rfl).elim, fun _ => .inr ⟨hidle, .inr ⟨xfer, hspec, hreturned⟩⟩⟩
  | launches hpc => exact hsame rfl (by simp) (by rw [hpc]; rfl)
  | launchFails hpc =>
    have hidle := (hlinked.main hmain).mpr (by rw [hpc]; simp)
    exact ⟨xs, hshares.shared, hshares.known, hshares.isPrefix, fun h => (h rfl).elim,
      fun _ => .inr ⟨hidle, .inl rfl⟩⟩
  | looks => exact hsame rfl hmain rfl
  | sends => exact hsame rfl hmain rfl

/-- In every run of the whole program the data are those of the transfers that were handled. -/
theorem shares_of_run (hthrow : info.throwOnErr = true) {is : List AppAction}
    (h : (application info).Run is a evs) : ∃ xs, a.Shares evs xs := by
  refine application_induction .nil (P := fun a evs => ∃ xs, a.Shares evs xs) ⟨[], .init⟩ ?_ h
  rintro a evs act a' evs' hlinked hmain ⟨xs, hshares⟩ - hmove
  cases hmove with
  | device hands => exact ⟨xs, hands.shares hthrow hlinked hmain hshares⟩
  | own hact hstep =>
    rw [List.append_nil]
    exact hstep.shares hact hlinked hmain hshares

/-- The transfers that were handled are those of the first messages that were received, of all of
them when the main thread waits for more. -/
theorem exists_messages_of_shares {msgs : List HostMsg} (hmsgs : ∀ m ∈ msgs, m.WellFormed)
    {is : List AppAction} (h : (application info).Run is a evs)
    (hstream : receivedBytes evs <+: msgs.flatMap HostMsg.encode) {xs : List Xfer}
    (hshares : a.Shares evs xs) :
    (∃ ms, ms <+: Framing.complete HostMsg.encode (receivedBytes evs).length msgs ∧
        ms.filterMap HostMsg.delivered = returnedXfers evs) ∧
      ∃ ms, ms <+: Framing.complete HostMsg.encode (receivedBytes evs).length msgs ∧
        ms.filterMap HostMsg.delivered = xs ∧ (a.CaughtUp → a.sys.reader.inHand = [] →
          ms = Framing.complete HostMsg.encode (receivedBytes evs).length msgs) := by
  obtain ⟨js, hthreads⟩ := threads_run h
  obtain ⟨⟨ops, hdev⟩, -⟩ := device_run hthreads
  obtain ⟨ms, hms, hwf, hhandled, hwaiting⟩ := exists_messages_of_run hmsgs hthreads hstream
  obtain ⟨js, srv, outs, hby⟩ := device_serves hdev hwf hhandled
  have hdelivered : ms.filterMap HostMsg.delivered = returnedXfers evs := by
    rw [returnedXfers_eq hthreads, ← hby.deliveries, deliveriesOf_eq hby.run, hby.messages]
  refine ⟨⟨ms, hms, hdelivered⟩, ?_⟩
  by_cases hup : a.CaughtUp
  · -- everything that was returned was handled
    have hcurrent : (a.sys.clients mainThread).current = some (.read .max) := by
      rw [hup.reading]
      rfl
    have hmain : a.main ≠ .exited := by
      intro hexited
      rcases hshares.exited hexited with herr | ⟨hnone, -⟩
      · rw [hup.err] at herr
        cases herr
      · rw [hcurrent] at hnone
        cases hnone
    have hcalling : a.main = .calling := by
      by_contra hpc
      rw [((linked_of_run h).main hmain).mpr hpc] at hcurrent
      cases hcurrent
    have hreturned := hshares.returned hmain
    rw [hcalling, show MainPc.calling.inHand = [] from rfl, List.append_nil] at hreturned
    refine ⟨ms, hms, hdelivered.trans hreturned, fun _ hhand => hms.eq_of_length ?_⟩
    have hall := congrArg List.length (hwaiting hup.err)
    rw [hup.cmds, hhand, List.append_nil, List.append_nil, List.length_map, List.length_map] at hall
    exact hall
  · obtain ⟨ms', hms', hxs⟩ := List.prefix_filterMap_iff.mp (hdelivered ▸ hshares.isPrefix)
    exact ⟨ms', hms'.trans hms, hxs.symm, fun hup' => (hup hup').elim⟩

/-- **The application knows what the host said last.**  The line coding and the terminal state are
those of the last messages that set them, among the messages that the application has handled; once
it waits for more these are all messages. -/
theorem shared_of_messages {msgs : List HostMsg} (hmsgs : ∀ m ∈ msgs, m.WellFormed)
    {is : List AppAction} (h : (application deviceInfo).Run is a evs)
    (hstream : receivedBytes evs <+: msgs.flatMap HostMsg.encode) :
    ∃ ms, ms <+: Framing.complete HostMsg.encode (receivedBytes evs).length msgs ∧
      a.shared = sharedBy (ms.filterMap HostMsg.delivered) ∧
      (a.CaughtUp → a.sys.reader.inHand = [] →
        ms = Framing.complete HostMsg.encode (receivedBytes evs).length msgs) := by
  obtain ⟨xs, hshares⟩ := shares_of_run rfl h
  obtain ⟨-, ms, hms, rfl, hall⟩ := exists_messages_of_shares hmsgs h hstream hshares
  exact ⟨ms, hms, hshares.shared, hall⟩

/-- After `lineCodingRun` the application knows the line coding that was set. -/
theorem shared_of_messages_lineCodingRun :
    (((application deviceInfo).exec lineCodingRun).get lineCodingRun_isSome).1.shared
      = sharedBy ([setLineCodingMsg, setControlLineStateMsg, getLineCodingMsg].filterMap
          HostMsg.delivered) := by
  have hmsgs : ∀ m ∈ [setLineCodingMsg, setControlLineStateMsg, getLineCodingMsg],
      m.WellFormed := by decide +kernel
  obtain ⟨ms, -, hshared, hall⟩ := shared_of_messages hmsgs (run_exec_get lineCodingRun_isSome)
    (by decide +kernel)
  have hcomplete : Framing.complete HostMsg.encode (receivedBytes
      (((application deviceInfo).exec lineCodingRun).get lineCodingRun_isSome).2).length
      [setLineCodingMsg, setControlLineStateMsg, getLineCodingMsg]
        = [setLineCodingMsg, setControlLineStateMsg, getLineCodingMsg] := by decide +kernel
  rw [hshared, hall lineCodingRun_caughtUp (by decide +kernel), hcomplete]

/-- **What ends the process**: an error of the device, a failure to create the second thread, or the
first message whose transfer the application does not know; and no such message is survived. -/
theorem exits_only_if {msgs : List HostMsg} (hmsgs : ∀ m ∈ msgs, m.WellFormed)
    {is : List AppAction} (h : (application deviceInfo).Run is a evs)
    (hstream : receivedBytes evs <+: msgs.flatMap HostMsg.encode) :
    (a.main = .exited → a.sys.dev.err.isSome = true ∨ a.response = .notCreated ∨
      ∃ ms m x, ms ++ [m] <+: Framing.complete HostMsg.encode (receivedBytes evs).length msgs ∧
        (∀ m' ∈ ms, ∀ y, m'.delivered = some y → y.Known) ∧ m.delivered = some x ∧ ¬ x.Known) ∧
      ∀ x ∈ returnedXfers evs, ¬ x.Known → a.main = .got x ∨ a.main = .exited := by
  obtain ⟨xs, hshares⟩ := shares_of_run rfl h
  obtain ⟨⟨ms₀, hms₀, hdelivered⟩, -⟩ := exists_messages_of_shares hmsgs h hstream hshares
  constructor
  · intro hexited
    refine (hshares.exited hexited).imp_right fun hends => hends.2.imp_right ?_
    rintro ⟨x, hx, hreturned⟩
    rw [hreturned] at hdelivered
    -- the messages before the one that delivered `x` delivered what was handled
    obtain ⟨ms, rest, rfl, hxs, hrest⟩ := List.filterMap_eq_append_iff.mp hdelivered
    obtain ⟨ms', m, tail, rfl, hnone, hm, -⟩ := List.filterMap_eq_cons_iff.mp hrest
    refine ⟨ms ++ ms', m, x, ?_, fun m' hm' y hy => ?_, hm, hx⟩
    · exact List.IsPrefix.trans ⟨tail, by simp⟩ hms₀
    · rcases List.mem_append.mp hm' with hm' | hm'
      · exact hshares.known y (hxs ▸ List.mem_filterMap.mpr ⟨m', hm', hy⟩)
      · rw [hnone m' hm'] at hy
        cases hy
  · intro x hx hunknown
    by_cases hexited : a.main = .exited
    · exact .inr hexited
    · left
      rw [hshares.returned hexited] at hx
      rcases List.mem_append.mp hx with hx | hx
      · exact (hunknown (hshares.known x hx)).elim
      · cases hmain : a.main with
        | got y =>
          rw [hmain] at hx
          rw [List.mem_singleton.mp hx]
        | _ =>
          rw [hmain] at hx
          cases hx

/-- A SET_LINE_CODING with two bytes. -/
def shortLineCodingMsg : HostMsg :=
  controlMsg 1 usbipDirOut #v[0x21, 0x20, 0, 0, 0, 0, 2, 0] 2 [1, 2]

/-- The main thread reads the SET_LINE_CODING and refuses it. -/
def shortLineCodingRun : List AppAction :=
  [.main, .sys (.start mainThread (.started 3 4)), .launch none, .sys .reader,
    .sys (.recv (.some (shortLineCodingMsg.encode.take 48))), .sys (.recv (.some [1, 2])),
    .sys .reader] ++ turn

theorem shortLineCodingRun_isSome :
    ((application deviceInfo).exec shortLineCodingRun).isSome = true := by
  decide +kernel

/-- The process has ended because of the only message. -/
theorem exits_only_if_shortLineCodingRun :
    ∃ ms m x, ms ++ [m] <+: [shortLineCodingMsg] ∧
      (∀ m' ∈ ms, ∀ y, m'.delivered = some y → y.Known) ∧ m.delivered = some x ∧ ¬ x.Known := by
  have hmsgs : ∀ m ∈ [shortLineCodingMsg], m.WellFormed := by decide +kernel
  have hends := (exits_only_if hmsgs (run_exec_get shortLineCodingRun_isSome)
    (by decide +kernel)).1 (by decide +kernel)
  have hcomplete : Framing.complete HostMsg.encode (receivedBytes
      (((application deviceInfo).exec shortLineCodingRun).get shortLineCodingRun_isSome).2).length
      [shortLineCodingMsg] = [shortLineCodingMsg] := by decide +kernel
  rw [hcomplete] at hends
  exact (hends.resolve_left (by decide +kernel)).resolve_left (by decide +kernel)

end VirtualUSB
