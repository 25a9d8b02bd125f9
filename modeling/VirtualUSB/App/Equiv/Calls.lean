import VirtualUSB.App.Equiv.LineCoding
import VirtualUSB.Threads.Equiv.Returns

/-!
# The two threads of the application

* `handleXfer_spec`: what the application does with a transfer.
* `App.Linked` ties the two threads of the application to the calls that are going on.
* `AppMove` lists what a step in a run of the whole program does, and `application_induction` is the
  induction over such runs.
-/

namespace VirtualUSB

open LabelledSystem

variable {info : Info} {a a' : App} {evs evs' : List SysEvent} {act : AppAction}

/-! ### What the application knows -/

instance (req : SetupRequest) (direction request : UInt8) :
    Decidable (IsClassRequest req direction request) :=
  decidable_of_iff
    (req.bmRequestType &&& RequestType.typeMask = RequestType.typeClass ∧
      req.bmRequestType &&& RequestType.recipientMask = RequestType.recipientInterface ∧
      req.bmRequestType &&& RequestType.directionMask = direction ∧ req.bRequest = request)
    ⟨fun h => ⟨h.1, h.2.1, h.2.2.1, h.2.2.2⟩,
      fun h => ⟨h.type, h.recipient, h.direction, h.request⟩⟩

namespace Xfer

/-- The line coding that a transfer sets. -/
def lineCoding (x : Xfer) : Option LineCoding :=
  if x.ep = 0 ∧ x.len = LineCoding.size ∧
      IsClassRequest x.setupReq RequestType.directionOut CDC.Request.setLineCoding then
    some (LineCoding.ofBytes x.data)
  else none

/-- Whether a terminal is present, as far as a transfer says so. -/
def dtePresent (x : Xfer) : Option Bool :=
  if x.ep = 0 ∧
      IsClassRequest x.setupReq RequestType.directionOut CDC.Request.setControlLineState then
    some (x.setupReq.wValue &&& 1 != 0)
  else none

/-- The transfers that the application knows. -/
inductive Known (x : Xfer) : Prop
  | data (hep : x.ep = Endpoint.out2)
  | setLineCoding (hep : x.ep = 0) (hlen : x.len = LineCoding.size)
      (hreq : IsClassRequest x.setupReq RequestType.directionOut CDC.Request.setLineCoding)
  | setControlLineState (hep : x.ep = 0)
      (hreq : IsClassRequest x.setupReq RequestType.directionOut CDC.Request.setControlLineState)
  | sendBreak (hep : x.ep = 0)
      (hreq : IsClassRequest x.setupReq RequestType.directionOut CDC.Request.sendBreak)
  | getLineCoding (hep : x.ep = 0) (hlen : x.len = LineCoding.size)
      (hreq : IsClassRequest x.setupReq RequestType.directionIn CDC.Request.getLineCoding)

end Xfer

/-- The line coding and the terminal state after some transfers: those that were set last. -/
def sharedBy (xs : List Xfer) : Shared where
  lineCoding := (xs.filterMap Xfer.lineCoding).getLast?.getD {}
  dtePresent := (xs.filterMap Xfer.dtePresent).getLast?.getD false

theorem getLast?_getD_filterMap_append {α β : Type*} (f : α → Option β) (xs : List α) (x : α)
    (b : β) : ((xs ++ [x]).filterMap f).getLast?.getD b
      = (f x).getD ((xs.filterMap f).getLast?.getD b) := by
  rw [List.filterMap_append]
  cases hf : f x with
  | none => simp [hf]
  | some y => simp [hf]

/-- What handling a transfer does: a known one sets what it says and nothing else, and only
endpoint 0 is written to; any other one is refused. -/
def HandlesXfer (b : Shared) (x : Xfer) : XferResult → Prop
  | .ok (b', out) => x.Known ∧
      b' = ⟨x.lineCoding.getD b.lineCoding, x.dtePresent.getD b.dtePresent⟩ ∧
      ∀ ep data, out = some (ep, data) → ep = Endpoint.defaultIn
  | .error _ => ¬ x.Known

/-- The transfers of endpoint 0 that are known are class requests to an interface. -/
theorem Xfer.Known.request {x : Xfer} (h : x.Known) (hep : x.ep = 0) :
    x.setupReq.bmRequestType &&& RequestType.typeMask = RequestType.typeClass ∧
      x.setupReq.bmRequestType &&& RequestType.recipientMask = RequestType.recipientInterface ∧
      (x.setupReq.bmRequestType &&& RequestType.directionMask = RequestType.directionOut ∧
          (x.setupReq.bRequest = CDC.Request.setLineCoding ∧ x.len = LineCoding.size ∨
            x.setupReq.bRequest = CDC.Request.setControlLineState ∨
            x.setupReq.bRequest = CDC.Request.sendBreak) ∨
        x.setupReq.bmRequestType &&& RequestType.directionMask = RequestType.directionIn ∧
          x.setupReq.bRequest = CDC.Request.getLineCoding ∧ x.len = LineCoding.size) := by
  cases h with
  | data hep' =>
    rw [hep] at hep'
    exact absurd hep' (by decide)
  | setLineCoding _ hlen hreq =>
    exact ⟨hreq.type, hreq.recipient, .inl ⟨hreq.direction, .inl ⟨hreq.request, hlen⟩⟩⟩
  | setControlLineState _ hreq =>
    exact ⟨hreq.type, hreq.recipient, .inl ⟨hreq.direction, .inr (.inl hreq.request)⟩⟩
  | sendBreak _ hreq =>
    exact ⟨hreq.type, hreq.recipient, .inl ⟨hreq.direction, .inr (.inr hreq.request)⟩⟩
  | getLineCoding _ hlen hreq =>
    exact ⟨hreq.type, hreq.recipient, .inr ⟨hreq.direction, hreq.request, hlen⟩⟩

/-- A transfer that is handled without a change sets nothing. -/
theorem HandlesXfer.same {b : Shared} {x : Xfer} {out : Option (UInt8 × List UInt8)}
    (hknown : x.Known) (hline : x.lineCoding = none) (hdte : x.dtePresent = none)
    (hout : ∀ ep data, out = some (ep, data) → ep = Endpoint.defaultIn) :
    HandlesXfer b x (.ok (b, out)) :=
  ⟨hknown, by rw [hline, hdte]; rfl, hout⟩

theorem Xfer.lineCoding_eq_none {x : Xfer}
    (h : x.ep = 0 →
      ¬ IsClassRequest x.setupReq RequestType.directionOut CDC.Request.setLineCoding) :
    x.lineCoding = none :=
  if_neg fun hcond => h hcond.1 hcond.2.2

theorem Xfer.dtePresent_eq_none {x : Xfer}
    (h : x.ep = 0 →
      ¬ IsClassRequest x.setupReq RequestType.directionOut CDC.Request.setControlLineState) :
    x.dtePresent = none :=
  if_neg fun hcond => h hcond.1 hcond.2

theorem handleXferEP0_spec (b : Shared) {x : Xfer} (hep : x.ep = 0) :
    HandlesXfer b x (handleXferEP0 b x) := by
  have hrefuses := fun h : x.Known => h.request hep
  have hnone : ∀ ep data, (none : Option (UInt8 × List UInt8)) = some (ep, data) →
      ep = Endpoint.defaultIn := fun ep data h => by cases h
  unfold handleXferEP0
  dsimp only
  split_ifs with htype hrec hout hset hlen hctl hbreak hin hget hlen
  · exact fun h => htype (hrefuses h).1
  · exact fun h => hrec (hrefuses h).2.1
  · -- SET_LINE_CODING with another length
    intro h
    obtain ⟨-, hreq⟩ | ⟨hdir, -⟩ := (hrefuses h).2.2
    · rw [hset] at hreq
      rcases hreq with ⟨-, heq⟩ | heq | heq
      · exact hlen heq
      · exact absurd heq (by decide)
      · exact absurd heq (by decide)
    · exact directionIn_ne_directionOut (hdir.symm.trans hout)
  · have hreq : IsClassRequest x.setupReq RequestType.directionOut CDC.Request.setLineCoding :=
      ⟨not_not.mp htype, not_not.mp hrec, hout, hset⟩
    refine ⟨.setLineCoding hep (not_not.mp hlen) hreq, ?_, hnone⟩
    have hdte : x.dtePresent = none := Xfer.dtePresent_eq_none fun _ h =>
      absurd (hset.symm.trans h.request) (by decide)
    rw [Xfer.lineCoding, if_pos ⟨hep, not_not.mp hlen, hreq⟩, hdte]
    rfl
  · have hreq : IsClassRequest x.setupReq RequestType.directionOut
        CDC.Request.setControlLineState := ⟨not_not.mp htype, not_not.mp hrec, hout, hctl⟩
    refine ⟨.setControlLineState hep hreq, ?_, hnone⟩
    have hline : x.lineCoding = none := Xfer.lineCoding_eq_none fun _ h => hset h.request
    rw [Xfer.dtePresent, if_pos ⟨hep, hreq⟩, hline]
    rfl
  · exact .same (.sendBreak hep ⟨not_not.mp htype, not_not.mp hrec, hout, hbreak⟩)
      (Xfer.lineCoding_eq_none fun _ h => hset h.request)
      (Xfer.dtePresent_eq_none fun _ h => hctl h.request) hnone
  · -- another OUT request
    intro h
    obtain ⟨-, ⟨heq, -⟩ | heq | heq⟩ | ⟨hdir, -⟩ := (hrefuses h).2.2
    · exact hset heq
    · exact hctl heq
    · exact hbreak heq
    · exact directionIn_ne_directionOut (hdir.symm.trans hout)
  · -- GET_LINE_CODING with another length
    intro h
    obtain ⟨hdir, -⟩ | ⟨-, -, heq⟩ := (hrefuses h).2.2
    · exact hout hdir
    · exact hlen heq
  · refine .same (.getLineCoding hep (not_not.mp hlen)
      ⟨not_not.mp htype, not_not.mp hrec, hin, hget⟩)
      (Xfer.lineCoding_eq_none fun _ h => hout h.direction)
      (Xfer.dtePresent_eq_none fun _ h => hout h.direction) fun ep data h => ?_
    obtain ⟨rfl, -⟩ := Prod.mk.inj (Option.some.inj h)
    rfl
  · -- another IN request
    intro h
    obtain ⟨hdir, -⟩ | ⟨-, heq, -⟩ := (hrefuses h).2.2
    · exact hout hdir
    · exact hget heq
  · -- no direction
    intro h
    obtain ⟨hdir, -⟩ | ⟨hdir, -⟩ := (hrefuses h).2.2
    · exact hout hdir
    · exact hin hdir

/-- **What the application does with a transfer.** -/
theorem handleXfer_spec (b : Shared) (x : Xfer) : HandlesXfer b x (handleXfer b x) := by
  unfold handleXfer
  split_ifs with hep
  · exact handleXferEP0_spec b hep
  · unfold handleXferEPX
    by_cases hout : x.ep = Endpoint.out2
    · rw [if_pos hout]
      exact .same (.data hout) (Xfer.lineCoding_eq_none fun h => (hep h).elim)
        (Xfer.dtePresent_eq_none fun h => (hep h).elim) fun ep data h => by cases h
    · rw [if_neg hout]
      intro h
      cases h with
      | data h => exact hout h
      | setLineCoding h => exact hep h
      | setControlLineState h => exact hep h
      | sendBreak h => exact hep h
      | getLineCoding h => exact hep h

/-! ### The threads of the application and their calls -/

/-- How the threads of the application are tied to the calls that are going on. -/
structure App.Linked (a : App) : Prop where
  main : a.main ≠ .exited → ((a.sys.clients mainThread).current = none ↔ a.main ≠ .calling)
  response : a.main ≠ .exited →
    ((a.sys.clients responseThread).current = none ↔ a.response ≠ .calling)
  mainCall : ∀ call, (a.sys.clients mainThread).current = some call →
    call = .start ∨ call = .read .max ∨ ∃ data, call = .write Endpoint.defaultIn data
  responseCall : ∀ call, (a.sys.clients responseThread).current = some call →
    call = .write Endpoint.in2 responseText
  others : ∀ t, t ≠ mainThread → t ≠ responseThread → (a.sys.clients t).current = none
  launching : a.main = .launching → a.response = .notLaunched

theorem App.Linked.init : ({} : App).Linked where
  main _ := iff_of_true rfl (by simp)
  response _ := iff_of_true rfl (by simp)
  mainCall call h := by cases h
  responseCall call h := by cases h
  others t _ _ := rfl
  launching h := by cases h

/-- A process that has ended takes no step. -/
theorem App.main_ne_exited (h : a.step info act = some (a', evs)) : a.main ≠ .exited := by
  intro hexited
  cases act with
  | sys act =>
    cases act with
    | call t call => cases h
    | _ => simp [App.step, hexited] at h
  | main => simp [App.step, hexited] at h
  | launch failure => simp [App.step, hexited] at h
  | response => simp [App.step, hexited] at h

/-- Calls that go on do not concern the application. -/
theorem App.returned_of_none (a : App) (hnone : ∀ t call result, .returned t call result ∉ evs) :
    a.returned evs = a := by
  induction evs with
  | nil => rfl
  | cons ev evs ih =>
    have htail := ih fun t call result hmem => hnone t call result (List.mem_cons_of_mem _ hmem)
    cases ev with
    | returned t call result => exact (hnone t call result (List.mem_cons_self ..)).elim
    | _ => exact htail

theorem App.returned_append (a : App) (evs evs' : List SysEvent) :
    a.returned (evs ++ evs') = (a.returned evs).returned evs' := by
  induction evs generalizing a with
  | nil => rfl
  | cons ev evs ih =>
    cases ev with
    | returned t call result =>
      rw [List.cons_append, App.returned, App.returned]
      split_ifs
      · exact ih _
      · exact ih _
      · exact ih _
    | _ => exact ih a

/-- What a step of the device does to the application: nothing, or it hands over what a call
returns. -/
inductive Hands (info : Info) (a : App) (s : Sys) : App → List SysEvent → Prop
  | nothing {evs : List SysEvent} (hnone : ∀ t call result, .returned t call result ∉ evs)
      (hsame : ∀ t, (s.clients t).current = (a.sys.clients t).current) :
      Hands info a s { a with sys := s } evs
  | toMain {evs : List SysEvent} {call : Call} {result : CallResult}
      (hnone : ∀ t call result, .returned t call result ∉ evs)
      (hcall : (a.sys.clients mainThread).current = some call)
      (hclients : s.clients = Function.update a.sys.clients mainThread .idle)
      (hresult : call.Returns info s.dev result) :
      Hands info a s (({ a with sys := s } : App).mainReturned result)
        (evs ++ [.returned mainThread call result])
  | toResponse {evs : List SysEvent} {call : Call} {result : CallResult}
      (hnone : ∀ t call result, .returned t call result ∉ evs)
      (hcall : (a.sys.clients responseThread).current = some call)
      (hclients : s.clients = Function.update a.sys.clients responseThread .idle)
      (hresult : call.Returns info s.dev result) :
      Hands info a s (({ a with sys := s } : App).responseReturned result)
        (evs ++ [.returned responseThread call result])

/-- A step of the device in a run of the whole program. -/
theorem App.Linked.hands (hlinked : a.Linked) {s : Sys} (h : CallStep info a.sys s evs) :
    Hands info a s (({ a with sys := s } : App).returned evs) evs := by
  cases h with
  | goes hnone hsame =>
    rw [App.returned_of_none _ hnone]
    exact .nothing hnone hsame
  | @returns evs t call result hnone hcall hclients hresult =>
    rw [App.returned_append, App.returned_of_none _ hnone, App.returned]
    by_cases hmain : t = mainThread
    · subst hmain
      rw [if_pos rfl]
      exact .toMain hnone hcall hclients hresult
    · by_cases hresponse : t = responseThread
      · subst hresponse
        rw [if_neg hmain, if_pos rfl]
        exact .toResponse hnone hcall hclients hresult
      · rw [hlinked.others t hmain hresponse] at hcall
        cases hcall

/-- A thread of the application begins a call. -/
theorem current_setClient_entering (s : Sys) (t : ℕ) (call : Call) (t' : ℕ) :
    ((s.setClient t (.entering call)).clients t').current
      = if t' = t then some call else (s.clients t').current := by
  by_cases ht : t' = t
  · subst ht
    rw [Sys.setClient_self, if_pos rfl]
    rfl
  · rw [Sys.setClient_of_ne ht, if_neg ht]

theorem responseThread_ne_mainThread : responseThread ≠ mainThread := by decide

/-- What is handed over leaves the application tied to its calls. -/
theorem Hands.linked {s : Sys} (h : Hands info a s a' evs) (hlinked : a.Linked)
    (hmain : a.main ≠ .exited) : a'.Linked := by
  cases h with
  | nothing hnone hsame =>
    exact ⟨fun hm => by rw [hsame]; exact hlinked.main hm,
      fun hm => by rw [hsame]; exact hlinked.response hm,
      fun call hc => hlinked.mainCall call ((hsame _).symm.trans hc),
      fun call hc => hlinked.responseCall call ((hsame _).symm.trans hc),
      fun t ht ht' => (hsame t).trans (hlinked.others t ht ht'), hlinked.launching⟩
  | @toMain evs call result hnone hcall hclients hresult =>
    have hself : (s.clients mainThread).current = none := by
      rw [hclients, Function.update_self]
      rfl
    have hother : ∀ t, t ≠ mainThread → (s.clients t).current = (a.sys.clients t).current := by
      intro t ht
      rw [hclients, Function.update_of_ne ht]
    have hresponse := hlinked.response hmain
    rw [← hother _ responseThread_ne_mainThread] at hresponse
    have hsys : ∀ {a' : App}, a'.sys = s → a'.main ≠ .calling → a'.response = a.response →
        (a'.main = .launching → a.response = .notLaunched) → a'.Linked := by
      rintro a' rfl hm hr hlaunching
      exact ⟨fun _ => iff_of_true hself hm, fun _ => by rw [hr]; exact hresponse,
        fun call hc => (Option.some_ne_none _ (hc.symm.trans hself)).elim,
        fun call hc => hlinked.responseCall call
          ((hother _ responseThread_ne_mainThread).symm.trans hc),
        fun t ht ht' => (hother t ht).trans (hlinked.others t ht ht'),
        fun h => hr.trans (hlaunching h)⟩
    cases result with
    | done =>
      by_cases hr : a.response = .notLaunched
      · exact hsys rfl (by simp [App.mainReturned, hr]) rfl fun _ => hr
      · exact hsys rfl (by simp [App.mainReturned, hr]) rfl (by simp [App.mainReturned, hr])
    | _ => exact hsys rfl (by simp [App.mainReturned]) rfl (by simp [App.mainReturned])
  | @toResponse evs call result hnone hcall hclients hresult =>
    have hself : (s.clients responseThread).current = none := by
      rw [hclients, Function.update_self]
      rfl
    have hother : ∀ t, t ≠ responseThread → (s.clients t).current = (a.sys.clients t).current := by
      intro t ht
      rw [hclients, Function.update_of_ne ht]
    have hmain' := hlinked.main hmain
    rw [← hother _ responseThread_ne_mainThread.symm] at hmain'
    -- the main thread is past creating this thread
    have hlaunching : a.main ≠ .launching := by
      intro hpc
      rw [(hlinked.response hmain).mpr (by rw [hlinked.launching hpc]; simp)] at hcall
      cases hcall
    have hsys : ∀ {a' : App}, a'.sys = s → (a'.main = .exited ∨ a'.main = a.main) →
        (a'.main ≠ .exited → a'.response ≠ .calling) → a'.Linked := by
      rintro a' rfl hm' hr
      have hm := hm'.resolve_left
      refine ⟨fun h => by rw [hm h]; exact hmain', fun h => iff_of_true hself (hr h),
        fun call hc => hlinked.mainCall call
          ((hother _ responseThread_ne_mainThread.symm).symm.trans hc),
        fun call hc => (Option.some_ne_none _ (hc.symm.trans hself)).elim,
        fun t ht ht' => (hother t ht').trans (hlinked.others t ht ht'), fun h => ?_⟩
      rcases hm' with hexited | hsame
      · cases hexited.symm.trans h
      · exact (hlaunching (hsame.symm.trans h)).elim
    cases result with
    | done => exact hsys rfl (.inr rfl) fun _ => by simp [App.responseReturned]
    | _ => exact hsys rfl (.inl rfl) fun h => (h rfl).elim

/-- A step of a thread of the application between its calls leaves it tied to them. -/
theorem AppStep.linked (h : AppStep info a act a' evs) (hlinked : a.Linked)
    (hmain : a.main ≠ .exited) (hact : ∀ act', act ≠ .sys act') : a'.Linked := by
  -- a thread that goes on without a call was in none
  have hgoes : ∀ {b : App}, b.sys = a.sys → (b.main = .calling ↔ a.main = .calling) →
      (b.response = .calling ↔ a.response = .calling) →
      (b.main = .launching → b.response = .notLaunched) → b.Linked := by
    intro b hsys hm hr hlaunching
    refine ⟨fun _ => ?_, fun _ => ?_, fun call h => ?_, fun call h => ?_, fun t ht ht' => ?_,
      hlaunching⟩
    · rw [hsys, hlinked.main hmain]
      exact not_congr hm.symm
    · rw [hsys, hlinked.response hmain]
      exact not_congr hr.symm
    · rw [hsys] at h
      exact hlinked.mainCall call h
    · rw [hsys] at h
      exact hlinked.responseCall call h
    · rw [hsys]
      exact hlinked.others t ht ht'
  -- the main thread begins a call
  have hcalls : ∀ {call : Call} {b : App},
      (call = .start ∨ call = .read .max ∨ ∃ data, call = .write Endpoint.defaultIn data) →
      b.sys = a.sys.setClient mainThread (.entering call) → b.main = .calling →
      b.response = a.response → b.Linked := by
    intro call b hc hsys hm hr
    have hcurrent := current_setClient_entering a.sys mainThread call
    rw [← hsys] at hcurrent
    refine ⟨fun _ => ?_, fun _ => ?_, fun call' h => ?_, fun call' h => ?_, fun t ht ht' => ?_,
      fun h => by cases hm.symm.trans h⟩
    · rw [hcurrent, if_pos rfl, hm]
      simp
    · rw [hcurrent, if_neg responseThread_ne_mainThread, hr]
      exact hlinked.response hmain
    · rw [hcurrent, if_pos rfl] at h
      obtain rfl := Option.some.inj h
      exact hc
    · rw [hcurrent, if_neg responseThread_ne_mainThread] at h
      exact hlinked.responseCall call' h
    · rw [hcurrent, if_neg ht]
      exact hlinked.others t ht ht'
  cases h with
  | sys => exact (hact _ rfl).elim
  | starts => exact hcalls (.inl rfl) rfl rfl rfl
  | reads => exact hcalls (.inr (.inl rfl)) rfl rfl rfl
  | handles hpc => exact hgoes rfl (by rw [hpc]; simp) Iff.rfl (by simp)
  | @answers xfer shared ep data hpc hx =>
    have hspec := handleXfer_spec a.shared xfer
    rw [hx] at hspec
    obtain rfl := hspec.2.2 ep data rfl
    exact hcalls (.inr (.inr ⟨data, rfl⟩)) rfl rfl rfl
  | fails hpc => exact hgoes rfl (by rw [hpc]; simp) Iff.rfl (by simp)
  | launches hpc =>
    exact hgoes rfl (by rw [hpc]; simp) (by rw [hlinked.launching hpc]; simp) (by simp)
  | launchFails hpc =>
    exact hgoes rfl (by rw [hpc]; simp) (by rw [hlinked.launching hpc]; simp) (by simp)
  | looks hpc =>
    refine hgoes rfl Iff.rfl (by rw [hpc]; simp) fun h => ?_
    cases hpc.symm.trans (hlinked.launching h)
  | sends hpc =>
    have hcurrent :=
      current_setClient_entering a.sys responseThread (.write Endpoint.in2 responseText)
    refine ⟨fun _ => ?_, fun _ => ?_, fun call' h => ?_, fun call' h => ?_, fun t ht ht' => ?_,
      fun h => by cases hpc.symm.trans (hlinked.launching h)⟩
    · rw [hcurrent, if_neg responseThread_ne_mainThread.symm]
      exact hlinked.main hmain
    · rw [hcurrent, if_pos rfl]
      simp
    · rw [hcurrent, if_neg responseThread_ne_mainThread.symm] at h
      exact hlinked.mainCall call' h
    · rw [hcurrent, if_pos rfl] at h
      exact (Option.some.inj h).symm
    · rw [hcurrent, if_neg ht']
      exact hlinked.others t ht ht'

/-! ### Runs of the application -/

/-- What a step in a run of the whole program does: a step of the device hands something over, and
takes what is written; or one of the two threads goes on between its calls. -/
inductive AppMove (info : Info) (a a' : App) : List SysEvent → Prop
  | device {s : Sys} {evs : List SysEvent} (hands : Hands info a s a' evs)
      (hentering : ∀ t call, s.clients t = .entering call → a.sys.clients t = .entering call)
      (htakes : (∀ e, written e (devEvents evs) = []) ∨
        ∃ t ep data, a.sys.clients t = .entering (.write ep data) ∧
          (∀ call, s.clients t ≠ .entering call) ∧
          ∀ e, written e (devEvents evs) = if writeIdx ep = e then [data] else []) :
      AppMove info a a' evs
  | own {act : AppAction} (hact : ∀ act', act ≠ .sys act') (h : AppStep info a act a' []) :
      AppMove info a a' []

theorem AppStep.own_events (h : AppStep info a act a' evs) (hact : ∀ act', act ≠ .sys act') :
    evs = [] := by
  cases h with
  | sys => exact (hact _ rfl).elim
  | _ => rfl

/-- The calls of the application in every reachable state, and what the next step does. -/
theorem linked_of_run {is : List AppAction} (h : (application info).Run is a evs) : a.Linked := by
  induction h with
  | nil => exact .init
  | @snoc is a evs act a' evs' hrun _ hs ih =>
    have hmain := App.main_ne_exited hs
    obtain ⟨js, hthreads⟩ := threads_run hrun
    have hstep := appStep_spec hs
    by_cases hact : ∀ act', act ≠ .sys act'
    · exact hstep.linked ih hmain hact
    · cases hstep with
      | sys hcall h =>
        have hcalls := (sysStep_spec (device_run hthreads).2 h).callStep (life_of_run hthreads)
          (err_isSome_of_run hthreads) hcall
        exact (ih.hands hcalls).linked ih hmain
      | _ => exact (hact (by simp)).elim

/-- A step after a run. -/
theorem appMove_of_run {is : List AppAction} (h : (application info).Run is a evs)
    (hs : a.step info act = some (a', evs')) : AppMove info a a' evs' := by
  obtain ⟨js, hthreads⟩ := threads_run h
  have hwf := (device_run hthreads).2
  have hstep := appStep_spec hs
  by_cases hact : ∀ act', act ≠ .sys act'
  · obtain rfl := hstep.own_events hact
    exact .own hact hstep
  · cases hstep with
    | sys hcall hsys =>
      have hspec := sysStep_spec hwf hsys
      have hcalls := hspec.callStep (life_of_run hthreads) (err_isSome_of_run hthreads) hcall
      exact .device ((linked_of_run h).hands hcalls)
        (fun t call hc => (hspec.entering hc).resolve_right (hcall t call)) (takes_spec hwf hsys)
    | _ => exact (hact (by simp)).elim

/-- **Induction over the runs of the whole program**, from a reachable state on. -/
theorem application_induction {is₀ is : List AppAction} {a₀ : App} {evs₀ : List SysEvent}
    (h₀ : (application info).Run is₀ a₀ evs₀) {ok : App → AppAction → Prop}
    {P : App → List SysEvent → Prop} (hinit : P a₀ [])
    (hstep : ∀ a evs act a' evs', a.Linked → a.main ≠ .exited → P a evs → ok a act →
      AppMove info a a' evs' → P a' (evs ++ evs'))
    (h : (application info).RunWhere ok a₀ is a evs) : P a evs := by
  have hboth : (∃ is', (application info).Run is' a (evs₀ ++ evs)) ∧ P a evs := by
    refine h.invariant (P := fun a evs => (∃ is', (application info).Run is' a (evs₀ ++ evs)) ∧
      P a evs) ⟨⟨is₀, by rwa [List.append_nil]⟩, hinit⟩ ?_
    rintro a evs act a' evs' ⟨⟨is', hrun⟩, hP⟩ hok hs
    refine ⟨⟨_, by rw [← List.append_assoc]; exact hrun.snoc trivial hs⟩, ?_⟩
    exact hstep a evs act a' evs' (linked_of_run hrun) (App.main_ne_exited hs) hP hok
      (appMove_of_run hrun hs)
  exact hboth.2

end VirtualUSB
