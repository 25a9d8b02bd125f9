import VirtualUSB.App.Main
import VirtualUSB.Device.Equiv.ExactlyOnce
import VirtualUSB.Device.Equiv.Matching
import VirtualUSB.Host.Equiv.Delivery
import VirtualUSB.Threads.Equiv.Calls

/-!
# GET_LINE_CODING is never answered

An IN request waits in the deque of its endpoint until the application writes to that endpoint, and
the application writes to endpoint 0 only when it is handed a GET_LINE_CODING.  But `read()` hands
out OUT transfers only.

* `AppStep` lists what a step of the whole program can do.
* `threads_run`: what happens to the device and its threads in a run of the whole program is a run
  of theirs.
* `get_line_coding_unanswered`: no GET_LINE_CODING is ever answered.
-/

namespace VirtualUSB

open LabelledSystem

variable {info : Info} {a a' : App} {evs evs' : List SysEvent} {act : AppAction}

/-! ### What the steps of the whole program do -/

/-- What a step of the whole program can do. -/
inductive AppStep (info : Info) (a : App) : AppAction → App → List SysEvent → Prop
  | sys {act : Action} {s : Sys} {evs : List SysEvent} (hact : ∀ t call, act ≠ .call t call)
      (h : a.sys.step info act = some (s, evs)) :
      AppStep info a (.sys act) (({ a with sys := s } : App).returned evs) evs
  | starts (hpc : a.main = .init) (hidle : a.sys.clients mainThread = .idle) :
      AppStep info a .main
        { a with sys := a.sys.setClient mainThread (.entering .start), main := .calling } []
  | reads (hpc : a.main = .loop) (hidle : a.sys.clients mainThread = .idle) :
      AppStep info a .main
        { a with sys := a.sys.setClient mainThread (.entering (.read .max)), main := .calling } []
  | handles {xfer : Xfer} {shared : Shared} (hpc : a.main = .got xfer)
      (hx : handleXfer a.shared xfer = .ok (shared, none)) :
      AppStep info a .main { a with shared := shared, main := .loop } []
  | answers {xfer : Xfer} {shared : Shared} {ep : UInt8} {data : List UInt8}
      (hpc : a.main = .got xfer) (hx : handleXfer a.shared xfer = .ok (shared, some (ep, data)))
      (hidle : a.sys.clients mainThread = .idle) :
      AppStep info a .main
        { a with
          sys := a.sys.setClient mainThread (.entering (.write ep data))
          shared := shared
          main := .calling } []
  | fails {xfer : Xfer} {e : Err} (hpc : a.main = .got xfer)
      (hx : handleXfer a.shared xfer = .error e) :
      AppStep info a .main { a with main := .exited } []
  | launches (hpc : a.main = .launching) :
      AppStep info a (.launch none) { a with main := .loop, response := .waiting } []
  | launchFails {errno : ℕ} (hpc : a.main = .launching) :
      AppStep info a (.launch (some errno)) { a with main := .exited, response := .notCreated } []
  | looks (hpc : a.response = .waiting) (hdte : a.shared.dtePresent = true) :
      AppStep info a .response { a with response := .ready } []
  | sends (hpc : a.response = .ready) (hidle : a.sys.clients responseThread = .idle) :
      AppStep info a .response
        { a with
          sys := a.sys.setClient responseThread (.entering (.write Endpoint.in2 responseText))
          response := .calling } []

/-- A thread of the application makes a call. -/
theorem App.sysStep_call {t : ℕ} {call : Call}
    (h : a.sysStep info (.call t call) = some (a', evs)) :
    a.sys.clients t = .idle ∧ a' = { a with sys := a.sys.setClient t (.entering call) } ∧
      evs = [] := by
  unfold App.sysStep at h
  by_cases hidle : a.sys.clients t = .idle
  · rw [Sys.step, if_pos hidle] at h
    obtain ⟨rfl, rfl⟩ := by simpa using h
    exact ⟨hidle, rfl, rfl⟩
  · rw [Sys.step, if_neg hidle] at h
    cases h

/-- **What a step of the whole program does.** -/
theorem appStep_spec (h : a.step info act = some (a', evs)) : AppStep info a act a' evs := by
  cases act with
  | sys act =>
    have hsys : ∀ hact : ∀ t call, act ≠ .call t call,
        a.sysStep info act = some (a', evs) → AppStep info a (.sys act) a' evs := by
      intro hact hs
      unfold App.sysStep at hs
      split at hs
      · rename_i s evs₁ hstep
        obtain ⟨rfl, rfl⟩ := by simpa using hs
        exact .sys hact hstep
      · cases hs
    cases act with
    | call t call => cases h
    | _ =>
      rw [App.step] at h
      · split_ifs at h
        exact hsys (by simp) h
      · simp
  | main =>
    rw [App.step] at h
    split at h
    · rename_i hpc
      obtain ⟨hidle, rfl, rfl⟩ := App.sysStep_call h
      exact .starts hpc hidle
    · rename_i hpc
      obtain ⟨hidle, rfl, rfl⟩ := App.sysStep_call h
      exact .reads hpc hidle
    · rename_i xfer hpc
      split at h
      · rename_i shared hx
        obtain ⟨rfl, rfl⟩ := by simpa using h
        exact .handles hpc hx
      · rename_i shared ep data hx
        obtain ⟨hidle, rfl, rfl⟩ := App.sysStep_call h
        exact .answers hpc hx hidle
      · rename_i e hx
        obtain ⟨rfl, rfl⟩ := by simpa using h
        exact .fails hpc hx
    · cases h
  | launch failure =>
    rw [App.step] at h
    split_ifs at h with hpc
    cases failure with
    | none =>
      obtain ⟨rfl, rfl⟩ := by simpa using h
      exact .launches hpc
    | some errno =>
      obtain ⟨rfl, rfl⟩ := by simpa using h
      exact .launchFails hpc
  | response =>
    rw [App.step] at h
    split at h
    · cases h
    · split at h
      · rename_i hpc
        split_ifs at h with hdte
        obtain ⟨rfl, rfl⟩ := by simpa using h
        exact .looks hpc hdte
      · rename_i hpc
        obtain ⟨hidle, rfl, rfl⟩ := App.sysStep_call h
        exact .sends hpc hidle
      · cases h

/-! ### The device under the application -/

/-- What the calls returned changes nothing in the device. -/
@[simp] theorem App.returned_sys (a : App) (evs : List SysEvent) :
    (a.returned evs).sys = a.sys := by
  induction evs generalizing a with
  | nil => rfl
  | cons ev evs ih =>
    cases ev with
    | returned t call result =>
      rw [App.returned]
      split_ifs
      · rw [ih]
        cases result <;> rfl
      · rw [ih]
        cases result <;> rfl
      · exact ih a
    | _ => exact ih a

/-- The main thread has an `Xfer` to handle only if a call of `read()` has returned it. -/
theorem App.returned_main {x : Xfer} (h : (a.returned evs).main = .got x) :
    a.main = .got x ∨ x ∈ returnedXfers evs := by
  induction evs generalizing a with
  | nil => exact .inl h
  | cons ev evs ih =>
    have hlater : ∀ x, x ∈ returnedXfers evs → x ∈ returnedXfers (ev :: evs) := by
      intro x hx
      rw [← List.singleton_append, returnedXfers_append]
      exact List.mem_append_right _ hx
    cases ev with
    | returned t call result =>
      rw [App.returned] at h
      split_ifs at h
      · rcases ih h with hmain | hx
        · cases result with
          | xfer y =>
            obtain rfl : y = x := by simpa [App.mainReturned] using hmain
            exact .inr (List.mem_cons_self ..)
          | done =>
            have hpc : (if a.response = .notLaunched then MainPc.launching else .loop) = .got x :=
              hmain
            split_ifs at hpc
          | _ => cases hmain
        · exact .inr (hlater x hx)
      · rcases ih h with hmain | hx
        · cases result with
          | done => exact .inl hmain
          | _ => cases hmain
        · exact .inr (hlater x hx)
      · exact (ih h).imp_right (hlater x)
    | _ => exact (ih h).imp_right (hlater x)

/-- A step of the whole program is a step of the device and its threads, or none. -/
theorem AppStep.sys_run (h : AppStep info a act a' evs) :
    ∃ js, (threads info).RunFrom a.sys js a'.sys evs := by
  have hcall : ∀ {t : ℕ} {call : Call}, a.sys.clients t = .idle →
      ∃ js, (threads info).RunFrom a.sys js (a.sys.setClient t (.entering call)) [] := by
    intro t call hidle
    have hstep : (threads info).step a.sys (.call t call)
        = some (a.sys.setClient t (.entering call), []) := if_pos hidle
    exact ⟨_, .single trivial hstep⟩
  cases h with
  | sys hact h =>
    rw [App.returned_sys]
    exact ⟨_, .single trivial h⟩
  | starts hpc hidle => exact hcall hidle
  | reads hpc hidle => exact hcall hidle
  | answers hpc hx hidle => exact hcall hidle
  | sends hpc hidle => exact hcall hidle
  | _ => exact ⟨[], .nil⟩

/-- The whole program simulates the device and its threads. -/
def appSimulation (info : Info) : Simulation (application info) (threads info) where
  Rel a s := a.sys = s
  erase := some
  init := rfl
  step := by
    rintro a _ act a' evs rfl hs
    obtain ⟨js, hjs⟩ := (appStep_spec hs).sys_run
    rw [List.filterMap_some]
    exact ⟨js, a'.sys, hjs, rfl⟩

/-- **The device and its threads in a run of the whole program** have a run of their own. -/
theorem threads_run {is : List AppAction} (h : (application info).Run is a evs) :
    ∃ js, (threads info).Run js a.sys evs := by
  obtain ⟨js, s, hrun, rfl⟩ := (appSimulation info).run h
  rw [show (appSimulation info).erase = some from rfl, List.filterMap_some] at hrun
  exact ⟨js, hrun⟩

/-! ### The requests -/

/-- A class request to an interface. -/
structure IsClassRequest (req : SetupRequest) (direction request : UInt8) : Prop where
  type : req.bmRequestType &&& RequestType.typeMask = RequestType.typeClass
  recipient : req.bmRequestType &&& RequestType.recipientMask = RequestType.recipientInterface
  direction : req.bmRequestType &&& RequestType.directionMask = direction
  request : req.bRequest = request

/-- A SET_LINE_CODING as a host sends it, with the bytes of a line coding. -/
structure IsSetLineCoding (c : Cmd) (x : List UInt8) : Prop where
  submit : c.command = usbipCmdSubmit
  direction : c.direction = usbipDirOut
  ep : c.ep = 0
  request : IsClassRequest (getSetupRequest c) RequestType.directionOut CDC.Request.setLineCoding
  payload : c.payload = x
  size : x.length = LineCoding.size

/-- A GET_LINE_CODING as a host sends it. -/
structure IsGetLineCoding (g : Cmd) : Prop where
  submit : g.command = usbipCmdSubmit
  direction : g.direction = usbipDirIn
  ep : g.ep = 0
  request : IsClassRequest (getSetupRequest g) RequestType.directionIn CDC.Request.getLineCoding
  transferBufferLength : g.transferBufferLength.toInt = LineCoding.size
  wLength : (getSetupRequest g).wLength.toNat = LineCoding.size

/-- A command that is to leave the line coding alone: an UNLINK, traffic on another endpoint, a
standard request, a SET_CONTROL_LINE_STATE or a SEND_BREAK. -/
inductive KeepsLineCoding (c : Cmd) : Prop
  | unlink (hc : c.command = usbipCmdUnlink)
  | elsewhere (hep : c.ep ≠ 0)
  | standard (hstd : standardType (getSetupRequest c) = true)
  | setControlLineState
      (hreq : IsClassRequest (getSetupRequest c) RequestType.directionOut
        CDC.Request.setControlLineState)
  | sendBreak
      (hreq : IsClassRequest (getSetupRequest c) RequestType.directionOut CDC.Request.sendBreak)

/-- An OUT SUBMIT with seven bytes whose setup bytes are those of a GET_LINE_CODING, which
contradicts its direction. -/
structure Disguised (c : Cmd) : Prop where
  submit : c.command = usbipCmdSubmit
  direction : c.direction = usbipDirOut
  ep : c.ep = 0
  request : IsClassRequest (getSetupRequest c) RequestType.directionIn CDC.Request.getLineCoding
  payload : c.payloadLen = LineCoding.size

/-- A class request is no standard request. -/
theorem IsClassRequest.not_standard {req : SetupRequest} {direction request : UInt8}
    (h : IsClassRequest req direction request) : standardType req = false := by
  rw [standardType, h.type]
  decide

/-- The direction of a class request is determined by its setup bytes. -/
theorem IsClassRequest.direction_unique {req : SetupRequest} {dir dir' request request' : UInt8}
    (h : IsClassRequest req dir request) (h' : IsClassRequest req dir' request') : dir = dir' :=
  h.direction.symm.trans h'.direction

theorem directionIn_ne_directionOut : RequestType.directionIn ≠ RequestType.directionOut := by
  decide

theorem IsSetLineCoding.not_disguised {c : Cmd} {x : List UInt8} (h : IsSetLineCoding c x) :
    ¬ Disguised c :=
  fun hdis => directionIn_ne_directionOut (hdis.request.direction_unique h.request)

theorem IsGetLineCoding.not_disguised {g : Cmd} (h : IsGetLineCoding g) : ¬ Disguised g := by
  intro hdis
  have hdir : usbipDirIn = usbipDirOut := h.direction.symm.trans hdis.direction
  exact absurd hdir (by decide)

theorem KeepsLineCoding.not_disguised {c : Cmd} (h : KeepsLineCoding c) : ¬ Disguised c := by
  intro hdis
  cases h with
  | unlink hc => exact cmdUnlink_ne_cmdSubmit (hc.symm.trans hdis.submit)
  | elsewhere hep => exact hep hdis.ep
  | standard hstd =>
    rw [hdis.request.not_standard] at hstd
    cases hstd
  | setControlLineState hreq =>
    exact directionIn_ne_directionOut (hdis.request.direction_unique hreq)
  | sendBreak hreq => exact directionIn_ne_directionOut (hdis.request.direction_unique hreq)

/-- A GET_LINE_CODING is an IN transfer of endpoint 0. -/
theorem IsGetLineCoding.isInTransfer {g : Cmd} (h : IsGetLineCoding g) :
    VirtualUSB.isInTransfer 0 g = true := by
  have hep : epIdxOf g = some 0 := by
    rw [epIdxOf, h.ep]
    rfl
  simp [VirtualUSB.isInTransfer, h.submit, h.direction, h.request.not_standard, hep]

/-! ### When the application writes -/

/-- The application writes only when it is handed a GET_LINE_CODING with seven bytes. -/
theorem handleXfer_writes {b b' : Shared} {xfer : Xfer} {ep : UInt8} {data : List UInt8}
    (h : handleXfer b xfer = .ok (b', some (ep, data))) :
    xfer.ep = 0 ∧
      IsClassRequest xfer.setupReq RequestType.directionIn CDC.Request.getLineCoding ∧
      xfer.len = LineCoding.size := by
  unfold handleXfer at h
  split at h
  · rename_i hep
    unfold handleXferEP0 at h
    dsimp only at h
    -- of the requests that raise no error only GET_LINE_CODING writes something
    split_ifs at h with htype hrec hout hset hlen hctl hbreak hin hget hlen <;> cases h
    exact ⟨hep, ⟨not_not.mp htype, not_not.mp hrec, hin, hget⟩, not_not.mp hlen⟩
  · unfold handleXferEPX at h
    split_ifs at h
    cases h

/-- The application writes only because of a disguised command. -/
theorem disguised_of_writes {b b' : Shared} {c : Cmd} {ep : UInt8} {data : List UInt8}
    (hout : isOutTransfer c = true) (h : handleXfer b (xferOf c) = .ok (b', some (ep, data))) :
    Disguised c := by
  obtain ⟨hsub, hdir, -⟩ := isOutTransfer.submit hout
  obtain ⟨-, hget, hlen⟩ := handleXfer_writes h
  have hep : c.ep = 0 := by
    by_contra hep
    -- the setup request of another endpoint is empty
    have htype := hget.type
    rw [xferOf, if_neg hep] at htype
    have hzero : (0 : UInt8) &&& RequestType.typeMask = RequestType.typeClass := htype
    exact absurd hzero (by decide)
  refine ⟨hsub, hdir, hep, ?_, hlen⟩
  simpa [xferOf, hep] using hget

/-! ### Nothing is written to endpoint 0 -/

/-- The main thread handles only `Xfer`s that `read()` has returned, and nobody writes to
endpoint 0. -/
structure App.Quiet (a : App) (evs : List SysEvent) : Prop where
  got : ∀ x, a.main = .got x → x ∈ returnedXfers evs
  calls : ∀ t ep data, a.sys.clients t = .entering (.write ep data) → writeIdx ep ≠ 0
  written : VirtualUSB.written 0 (devEvents evs) = []

theorem App.Quiet.init : ({} : App).Quiet [] where
  got x h := by cases h
  calls t ep data h := by cases h
  written := rfl

/-- A thread of the application goes on without an `Xfer` in its hands. -/
theorem App.Quiet.moves (h : a.Quiet evs) {s : Sys} {shared : Shared} {main : MainPc}
    {response : ResponsePc} (hmain : ∀ x, main = .got x → a.main = .got x)
    (hcalls : ∀ t ep data, s.clients t = .entering (.write ep data) →
      a.sys.clients t = .entering (.write ep data) ∨ writeIdx ep ≠ 0) :
    (⟨s, shared, main, response⟩ : App).Quiet (evs ++ []) where
  got x hx := by rw [List.append_nil]; exact h.got x (hmain x hx)
  calls t ep data hc := (hcalls t ep data hc).elim (h.calls t ep data) id
  written := by rw [List.append_nil]; exact h.written

/-- Every step keeps endpoint 0 free of data, unless a disguised command was read. -/
theorem AppStep.quiet (h : AppStep info a act a' evs') (hwf : a.sys.dev.Wf) (hquiet : a.Quiet evs)
    (hout : ∀ x ∈ returnedXfers evs, ∃ c, isOutTransfer c = true ∧ x = xferOf c ∧ ¬ Disguised c) :
    a'.Quiet (evs ++ evs') := by
  have hset : ∀ {t' : ℕ} {call : Call},
      (∀ ep data, call = .write ep data → writeIdx ep ≠ 0) →
      ∀ t ep data, (a.sys.setClient t' (.entering call)).clients t = .entering (.write ep data) →
        a.sys.clients t = .entering (.write ep data) ∨ writeIdx ep ≠ 0 := by
    intro t' call hcall t ep data hc
    by_cases ht : t = t'
    · subst ht
      rw [Sys.setClient_self] at hc
      exact .inr (hcall ep data (ClientPc.entering.inj hc))
    · rw [Sys.setClient_of_ne ht] at hc
      exact .inl hc
  cases h with
  | @sys act s _ hact h =>
    have hspec := sysStep_spec hwf h
    refine ⟨fun x hx => ?_, fun t ep data hc => ?_, ?_⟩
    · rw [returnedXfers_append]
      rcases App.returned_main hx with hmain | hx
      · exact List.mem_append_left _ (hquiet.got x hmain)
      · exact List.mem_append_right _ hx
    · rw [App.returned_sys] at hc
      rcases hspec.entering hc with hold | hcall
      · exact hquiet.calls t ep data hold
      · exact (hact _ _ hcall).elim
    · rw [devEvents_append, written_append, hquiet.written, List.nil_append]
      by_contra hw
      obtain ⟨t, ep, data, hc, he⟩ := hspec.written hw
      exact hquiet.calls t ep data hc he
  | starts => exact hquiet.moves (by simp) (hset (by simp))
  | reads => exact hquiet.moves (by simp) (hset (by simp))
  | handles => exact hquiet.moves (by simp) fun t ep data hc => .inl hc
  | answers hpc hx =>
    obtain ⟨c, hc, rfl, hdis⟩ := hout _ (hquiet.got _ hpc)
    exact (hdis (disguised_of_writes hc hx)).elim
  | fails => exact hquiet.moves (by simp) fun t ep data hc => .inl hc
  | launches => exact hquiet.moves (by simp) fun t ep data hc => .inl hc
  | launchFails => exact hquiet.moves (by simp) fun t ep data hc => .inl hc
  | looks => exact hquiet.moves (fun x hx => hx) fun t ep data hc => .inl hc
  | sends =>
    refine hquiet.moves (fun x hx => hx) (hset fun ep data hc => ?_)
    obtain ⟨rfl, -⟩ := Call.write.inj hc
    decide

/-- Nothing is written to endpoint 0 in a run in which no disguised command arrives. -/
theorem quiet_of_run {is : List AppAction} (h : (application info).Run is a evs)
    (hdis : ∀ c ∈ arrivals (devEvents evs), ¬ Disguised c) : a.Quiet evs := by
  -- no prefix of the run has a disguised command either
  induction h with
  | nil => exact .init
  | @snoc is a evs act a' evs' hrun _ hs ih =>
    rw [devEvents_append, arrivals_append] at hdis
    have hdis' := fun c hc => hdis c (List.mem_append_left _ hc)
    obtain ⟨js, hthreads⟩ := threads_run hrun
    refine (appStep_spec hs).quiet (device_run hthreads).2 (ih hdis') fun x hx => ?_
    obtain ⟨c, hc, hout, rfl⟩ := outTransfer_of_returned hthreads hx
    exact ⟨c, hout, rfl, hdis' c hc⟩

/-! ### The round trip -/

/-- The commands of a host that sets a line coding and asks for it later. -/
structure LineCodingTraffic (set : Cmd) (x : List UInt8) (between : List Cmd) (get : Cmd) :
    Prop where
  set : IsSetLineCoding set x
  between : ∀ c ∈ between, KeepsLineCoding c
  get : IsGetLineCoding get

theorem LineCodingTraffic.not_disguised {set get : Cmd} {x : List UInt8} {between : List Cmd}
    (h : LineCodingTraffic set x between get) : ∀ c ∈ set :: between ++ [get], ¬ Disguised c := by
  intro c hc
  simp only [List.cons_append, List.mem_cons, List.mem_append, List.not_mem_nil, or_false] at hc
  rcases hc with rfl | hc | rfl
  · exact h.set.not_disguised
  · exact (h.between c hc).not_disguised
  · exact h.get.not_disguised

/-- All commands that arrived were consumed, and the main thread has handled what it was handed and
waits in `read()`. -/
structure App.CaughtUp (a : App) : Prop where
  cmds : a.sys.dev.cmds = []
  reading : a.sys.clients mainThread = .reading .max
  err : a.sys.dev.err = none

/-- **GET_LINE_CODING is never answered**, in no state of any run: the request waits in the deque of
endpoint 0 until an UNLINK removes it.  With distinct numbers there is no RET_SUBMIT with its
number at all. -/
theorem get_line_coding_unanswered {is : List AppAction} (h : (application info).Run is a evs)
    {before between after : List Cmd} {set get : Cmd} {x : List UInt8}
    (harr : arrivals (devEvents evs) = before ++ set :: between ++ get :: after)
    (htraffic : LineCodingTraffic set x between get)
    (hothers : ∀ c ∈ before ++ after, ¬ Disguised c) :
    (∀ p ∈ a.sys.dev.history, p.1 ≠ get) ∧
      ((∀ c ∈ arrivals (devEvents evs), c.seqnum = get.seqnum → c = get) →
        retSubmits a.sys.dev get.seqnum = []) ∧
      (a.CaughtUp → get ∈ a.sys.dev.inCmds 0 ∨ get ∈ unlinkedOn 0 (devEvents evs)) := by
  have hdis : ∀ c ∈ arrivals (devEvents evs), ¬ Disguised c := by
    intro c hc
    have hmem : c ∈ set :: between ++ [get] ∨ c ∈ before ++ after := by
      rw [harr] at hc
      simp only [List.mem_append, List.mem_cons] at hc ⊢
      tauto
    exact hmem.elim (htraffic.not_disguised c) (hothers c)
  obtain ⟨js, hthreads⟩ := threads_run h
  obtain ⟨⟨ops, hdev⟩, -⟩ := device_run hthreads
  have hsent := sent_eq_nil hdev (quiet_of_run h hdis).written
  have hin := htraffic.get.isInTransfer
  have hunanswered : ∀ p ∈ a.sys.dev.history, p.1 ≠ get := by
    intro p hp hget
    have hmem : p ∈ sent 0 a.sys.dev := List.mem_filter.mpr ⟨hp, hget ▸ hin⟩
    rw [hsent] at hmem
    cases hmem
  refine ⟨hunanswered, fun hseq => ?_, fun hup => ?_⟩
  · rw [retSubmits, List.filter_eq_nil_iff]
    intro r hr hmatch
    obtain ⟨p, hp, rfl⟩ := List.mem_map.mp hr
    have hnum := (answer_of_mem_history hdev p hp).repSeqnum
    have hhandled := mem_handledCmds_of_mem_answered hdev (List.mem_map_of_mem hp)
    have harrived := (handledCmds_sublist_arrivals hdev).subset hhandled
    simp only [Bool.and_eq_true, beq_iff_eq] at hmatch
    exact hunanswered p hp (hseq p.1 harrived (hnum.symm.trans hmatch.2))
  · have htaken := popped_append_cmds hdev
    rw [hup.cmds, List.append_nil, popped_eq_handledCmds .init hdev hup.err] at htaken
    have hqueued : get ∈ queued 0 (devEvents evs) := by
      refine List.mem_filter.mpr ⟨?_, hin⟩
      rw [htaken, harr]
      simp
    have hperm := (requests_of_run hdev 0).2
    rw [hsent, List.map_nil, List.nil_append] at hperm
    exact List.mem_append.mp (hperm.mem_iff.mpr hqueued)

/-- A control request of endpoint 0 in a SUBMIT. -/
def controlMsg (seqnum direction : UInt32) (setup : Vector UInt8 8) (length : Int32)
    (payload : List UInt8) : HostMsg :=
  .submit seqnum 0 direction 0
    { transferFlags := 0, transferBufferLength := length, startFrame := 0, numberOfPackets := 0,
      interval := 0, setup := setup } payload

/-- 115200 baud, eight data bits. -/
def baud115200 : List UInt8 := [0x00, 0xC2, 0x01, 0x00, 0, 0, 8]

def setLineCodingMsg : HostMsg :=
  controlMsg 1 usbipDirOut #v[0x21, 0x20, 0, 0, 0, 0, 7, 0] 7 baud115200

def setControlLineStateMsg : HostMsg :=
  controlMsg 2 usbipDirOut #v[0x21, 0x22, 0, 0, 0, 0, 0, 0] 0 []

def getLineCodingMsg : HostMsg :=
  controlMsg 3 usbipDirIn #v[0xA1, 0x21, 0, 0, 0, 0, 7, 0] 7 []

/-- The main thread reads an `Xfer` and handles it. -/
def turn : List AppAction := [.main, .sys (.client mainThread), .main]

/-- The host sets the line coding, says that no terminal is present, and asks for the line coding;
then the main thread takes all of this and waits for more. -/
def lineCodingRun : List AppAction :=
  [.main, .sys (.start mainThread (.started 3 4)), .launch none, .sys .reader,
    .sys (.recv (.some (setLineCodingMsg.encode.take 48))), .sys (.recv (.some baud115200)),
    .sys .reader, .sys (.recv (.some setControlLineStateMsg.encode)), .sys .reader,
    .sys (.recv (.some getLineCodingMsg.encode)), .sys .reader] ++ turn ++ turn ++
    [.main, .sys (.client mainThread)]

theorem lineCodingRun_isSome : ((application deviceInfo).exec lineCodingRun).isSome = true := by
  decide +kernel

theorem lineCodingRun_arrivals :
    arrivals (devEvents (((application deviceInfo).exec lineCodingRun).get lineCodingRun_isSome).2)
      = setLineCodingMsg.toCmd :: [setControlLineStateMsg.toCmd] ++ [getLineCodingMsg.toCmd] := by
  decide +kernel

theorem lineCodingRun_caughtUp :
    (((application deviceInfo).exec lineCodingRun).get lineCodingRun_isSome).1.CaughtUp where
  cmds := by decide +kernel
  reading := by decide +kernel
  err := by decide +kernel

theorem lineCodingRun_traffic :
    LineCodingTraffic setLineCodingMsg.toCmd baud115200 [setControlLineStateMsg.toCmd]
      getLineCodingMsg.toCmd where
  set :=
    { submit := by decide
      direction := by decide
      ep := by decide
      request := ⟨by decide, by decide, by decide, by decide⟩
      payload := rfl
      size := rfl }
  between c hc := by
    obtain rfl := List.mem_singleton.mp hc
    exact .setControlLineState ⟨by decide, by decide, by decide, by decide⟩
  get :=
    { submit := by decide
      direction := by decide
      ep := by decide
      request := ⟨by decide, by decide, by decide, by decide⟩
      transferBufferLength := by decide
      wLength := by decide }

/-- At the end of `lineCodingRun` the GET_LINE_CODING has no reply. -/
theorem get_line_coding_unanswered_lineCodingRun :
    retSubmits (((application deviceInfo).exec lineCodingRun).get lineCodingRun_isSome).1.sys.dev 3
      = [] := by
  have harr : arrivals
      (devEvents (((application deviceInfo).exec lineCodingRun).get lineCodingRun_isSome).2)
        = [] ++ setLineCodingMsg.toCmd :: [setControlLineStateMsg.toCmd]
          ++ getLineCodingMsg.toCmd :: [] := lineCodingRun_arrivals
  obtain ⟨-, hnone, -⟩ := get_line_coding_unanswered (run_exec_get lineCodingRun_isSome) harr
    lineCodingRun_traffic (by simp)
  apply hnone
  -- the three numbers are distinct
  rw [lineCodingRun_arrivals]
  decide +kernel

/-- The round trip fails in `lineCodingRun`. -/
theorem not_line_coding_round_trip :
    ¬ ∀ (is : List AppAction) (a : App) (evs : List SysEvent) (set get : Cmd) (x : List UInt8)
        (between : List Cmd),
      (application deviceInfo).Run is a evs →
      arrivals (devEvents evs) = set :: between ++ [get] →
      LineCodingTraffic set x between get → a.CaughtUp →
      ∃ r ∈ retSubmits a.sys.dev get.seqnum, r.payload = x := by
  intro hall
  obtain ⟨r, hr, -⟩ := hall _ _ _ _ _ _ _ (run_exec_get lineCodingRun_isSome)
    lineCodingRun_arrivals lineCodingRun_traffic lineCodingRun_caughtUp
  have hnone : retSubmits
      (((application deviceInfo).exec lineCodingRun).get lineCodingRun_isSome).1.sys.dev
      getLineCodingMsg.toCmd.seqnum = [] := by decide +kernel
  rw [hnone] at hr
  cases hr

end VirtualUSB
