import VirtualUSB.Base.GreedyMatch
import VirtualUSB.Device.System

/-!
# What the handlers do

One specification for each handler, so that nothing after this file unfolds one.

* `sendDataForInEndpoint_run`: the matcher is `GreedyMatch.drain` with `serve` on the two deques of
  its endpoint.
* `handleCmd_spec`: `handleCmd` either throws and leaves the state as it was, or does one of the
  things `Handled` lists; no assertion fails.
-/

namespace VirtualUSB

open Handler

variable {info : Info} {c : Cmd} {d : Dev}

/-! ### Memory and deques -/

theorem sizeOfInt32_of_nonneg {x : Int32} (h : 0 ≤ x.toInt) : sizeOfInt32 x = x.toInt.toNat := by
  have hlt := Int32.toInt_lt x
  rw [sizeOfInt32, Int.emod_eq_of_lt h (by omega)]

@[simp] theorem setDeque_self {α : Type} (f : EpIdx → List α) (e : EpIdx) (l : List α) :
    setDeque f e l e = l := by
  simp [setDeque]

theorem setDeque_of_ne {α : Type} (f : EpIdx → List α) {e e' : EpIdx} (l : List α) (h : e' ≠ e) :
    setDeque f e l e' = f e' := by
  simp [setDeque, h]

@[simp] theorem setDeque_setDeque {α : Type} (f : EpIdx → List α) (e : EpIdx) (l l' : List α) :
    setDeque (setDeque f e l) e l' = setDeque f e l' := by
  simp [setDeque]

@[simp] theorem setDeque_eq_self {α : Type} (f : EpIdx → List α) (e : EpIdx) :
    setDeque f e (f e) = f := by
  simp [setDeque]

/-- Copying from `&d.data[d.off]` takes the next unsent bytes. -/
theorem Data.read_ptr (x : Data) {n : ℕ} (hn : n ≤ x.len - x.off) :
    x.ptr.read n = x.unsent.take n := by
  apply List.ext_getElem
  · simp only [Ptr.length_read, Data.unsent, List.length_take, List.length_drop]
    have : n ≤ x.data.length - x.off := hn
    omega
  · intro i h₁ h₂
    rw [Ptr.length_read] at h₁
    have hlt : x.off + i < x.data.length := by
      have : n ≤ x.data.length - x.off := hn
      omega
    simp [Ptr.read, Data.ptr, Data.unsent, List.getElem?_eq_getElem hlt]

/-! ### Replies -/

/-- An IN transfer is answered with `len` bytes from the pointer. -/
theorem reply_in (hc : c.command = usbipCmdSubmit) (hdir : c.direction = usbipDirIn) (p : Ptr)
    (len : ℕ) (status : Int32) (d : Dev) :
    (reply c (some p) len status).run d
      = (.ok (), enqueue c (retSubmit c (p.read len) len) status d) := by
  have hvalid : replyArgsValid c.direction (some p) len = true := by
    by_cases hlen : len = 0 <;> simp [replyArgsValid, hdir, hlen]
  have hpay : (if c.direction = usbipDirIn ∧ len ≠ 0 then ((some p).map fun p => p.read len).getD []
      else []) = p.read len := by
    by_cases hlen : len = 0 <;> simp [hdir, hlen, Ptr.read]
  have hassert : (assert (replyArgsValid c.direction (some p) len)).run d = (.ok (), d) := by
    rw [run_assert, hvalid, if_pos rfl]
  simp only [reply, hc, ↓reduceIte, hpay]
  rw [run_bind_ok hassert]
  simp

/-- A SUBMIT is answered without data. -/
theorem reply_none (hc : c.command = usbipCmdSubmit)
    (hdir : c.direction = usbipDirIn ∨ c.direction = usbipDirOut) (len : ℕ)
    (hlen : c.direction = usbipDirIn → len = 0) (status : Int32) (d : Dev) :
    (reply c none len status).run d = (.ok (), enqueue c (retSubmit c [] len) status d) := by
  have hvalid : replyArgsValid c.direction none len = true := by
    rcases hdir with hdir | hdir
    · simp [replyArgsValid, hdir, hlen hdir]
    · simp [replyArgsValid, hdir]
  have hassert : (assert (replyArgsValid c.direction none len)).run d = (.ok (), d) := by
    rw [run_assert, hvalid, if_pos rfl]
  simp only [reply, hc, ↓reduceIte, Option.map_none, Option.getD_none, ite_self]
  rw [run_bind_ok hassert]
  simp

/-- An OUT transfer is acknowledged with any length. -/
theorem reply_out (hc : c.command = usbipCmdSubmit) (hdir : c.direction = usbipDirOut) (len : ℕ)
    (status : Int32) (d : Dev) :
    (reply c none len status).run d = (.ok (), enqueue c (retSubmit c [] len) status d) := by
  apply reply_none hc (Or.inr hdir)
  rw [hdir]
  intro h
  exact absurd h (by decide)

/-- An UNLINK is answered with the status. -/
theorem reply_unlink (hc : c.command = usbipCmdUnlink) (data : Option Ptr) (len : ℕ)
    (status : Int32) (d : Dev) :
    (reply c data len status).run d = (.ok (), enqueue c (retUnlink c status) status d) := by
  have hne : ¬ c.command = usbipCmdSubmit := by rw [hc]; decide
  simp only [reply, if_neg hne, if_pos hc, run_modify]

/-! ### The IN matcher -/

/-- What one turn of the matcher does with the front command and the front data: the answer, and
the data that is left unless all of it was sent. -/
def serve (c : Cmd) (x : Data) : (Cmd × Rep) × Option Data :=
  let n := min (sizeOfInt32 c.transferBufferLength) (x.len - x.off)
  ((c, retSubmit c (x.unsent.take n) n),
    if x.off + n = x.len then none else some { x with off := x.off + n })

/-- The state after `_sendDataForInEndpoint(e)`. -/
def Dev.drained (d : Dev) (e : EpIdx) : Dev :=
  { d with
    inCmds := setDeque d.inCmds e (GreedyMatch.drain serve (d.inCmds e) (d.inData e)).2.1
    inData := setDeque d.inData e (GreedyMatch.drain serve (d.inCmds e) (d.inData e)).2.2
    reps := d.reps ++ (GreedyMatch.drain serve (d.inCmds e) (d.inData e)).1.map Prod.snd
    history := d.history ++ (GreedyMatch.drain serve (d.inCmds e) (d.inData e)).1
    statuses := d.statuses ++ (GreedyMatch.drain serve (d.inCmds e) (d.inData e)).1.map fun _ => 0 }

/-- `push_back` of a new buffer. -/
def Dev.pushData (d : Dev) (e : EpIdx) (data : List UInt8) : Dev :=
  { d with inData := setDeque d.inData e (d.inData e ++ [{ data := data }]) }

/-- `push_back` of an IN command. -/
def Dev.pushCmd (d : Dev) (e : EpIdx) (c : Cmd) : Dev :=
  { d with inCmds := setDeque d.inCmds e (d.inCmds e ++ [c]) }

section Deques

variable {e e' : EpIdx}

@[simp] theorem Dev.drained_inCmds_self :
    (d.drained e).inCmds e = (GreedyMatch.drain serve (d.inCmds e) (d.inData e)).2.1 :=
  setDeque_self ..

@[simp] theorem Dev.drained_inData_self :
    (d.drained e).inData e = (GreedyMatch.drain serve (d.inCmds e) (d.inData e)).2.2 :=
  setDeque_self ..

theorem Dev.drained_inCmds_of_ne (h : e' ≠ e) : (d.drained e).inCmds e' = d.inCmds e' :=
  setDeque_of_ne _ _ h

theorem Dev.drained_inData_of_ne (h : e' ≠ e) : (d.drained e).inData e' = d.inData e' :=
  setDeque_of_ne _ _ h

@[simp] theorem Dev.drained_err : (d.drained e).err = d.err := rfl

@[simp] theorem Dev.drained_cmds : (d.drained e).cmds = d.cmds := rfl

@[simp] theorem Dev.drained_reps : (d.drained e).reps =
    d.reps ++ (GreedyMatch.drain serve (d.inCmds e) (d.inData e)).1.map Prod.snd := rfl

@[simp] theorem Dev.drained_history : (d.drained e).history =
    d.history ++ (GreedyMatch.drain serve (d.inCmds e) (d.inData e)).1 := rfl

@[simp] theorem Dev.pushData_inData_self (data : List UInt8) :
    (d.pushData e data).inData e = d.inData e ++ [{ data := data }] :=
  setDeque_self ..

theorem Dev.pushData_inData_of_ne (h : e' ≠ e) {data : List UInt8} :
    (d.pushData e data).inData e' = d.inData e' :=
  setDeque_of_ne _ _ h

@[simp] theorem Dev.pushCmd_inCmds_self (c : Cmd) :
    (d.pushCmd e c).inCmds e = d.inCmds e ++ [c] :=
  setDeque_self ..

theorem Dev.pushCmd_inCmds_of_ne (h : e' ≠ e) : (d.pushCmd e c).inCmds e' = d.inCmds e' :=
  setDeque_of_ne _ _ h

/-- What holds of the commands in a deque and of the new one holds of all of them. -/
theorem Dev.forall_mem_pushCmd {P : Cmd → Prop} (hold : ∀ c' ∈ d.inCmds e, P c') (hc : P c) :
    ∀ c' ∈ (d.pushCmd e c).inCmds e, P c' := by
  intro c' hc'
  rw [pushCmd_inCmds_self] at hc'
  rcases List.mem_append.mp hc' with hc' | hc'
  · exact hold c' hc'
  · rwa [List.mem_singleton.mp hc']

@[simp] theorem Dev.pushCmd_inData (c : Cmd) : (d.pushCmd e c).inData = d.inData := rfl

@[simp] theorem Dev.pushCmd_reps (c : Cmd) : (d.pushCmd e c).reps = d.reps := rfl

@[simp] theorem Dev.pushCmd_history (c : Cmd) : (d.pushCmd e c).history = d.history := rfl

@[simp] theorem Dev.pushData_err (data : List UInt8) : (d.pushData e data).err = d.err := rfl

@[simp] theorem Dev.pushData_cmds (data : List UInt8) : (d.pushData e data).cmds = d.cmds := rfl

@[simp] theorem Dev.pushData_inCmds (data : List UInt8) :
    (d.pushData e data).inCmds = d.inCmds := rfl

@[simp] theorem Dev.pushData_history (data : List UInt8) :
    (d.pushData e data).history = d.history := rfl

end Deques

/-- Only IN SUBMITs wait in the deques. -/
def InSubmits (cs : List Cmd) : Prop :=
  ∀ c ∈ cs, c.command = usbipCmdSubmit ∧ c.direction = usbipDirIn

theorem sendDataTurn_run {e : EpIdx} {cs : List Cmd} {x : Data} {xs : List Data}
    (hc : c.command = usbipCmdSubmit ∧ c.direction = usbipDirIn) (d : Dev) :
    (sendDataTurn e c cs x xs).run d
      = (.ok (), { enqueue c (serve c x).1.2 0 d with
          inCmds := setDeque d.inCmds e cs
          inData := setDeque d.inData e ((serve c x).2.toList ++ xs) }) := by
  rw [sendDataTurn, run_bind_ok (reply_in hc.1 hc.2 _ _ _ _), x.read_ptr (Nat.min_le_right _ _)]
  by_cases hend : x.off + min (sizeOfInt32 c.transferBufferLength) (x.data.length - x.off)
      = x.data.length
  · simp [serve, enqueue, Data.len, hend]
  · simp [serve, enqueue, Data.len, hend]

theorem sendDataLoop_run {e : EpIdx} {n : ℕ} (d : Dev) (hn : (d.inCmds e).length = n)
    (hcs : InSubmits (d.inCmds e)) : (sendDataLoop e n).run d = (.ok (), d.drained e) := by
  induction n generalizing d with
  | zero =>
    have hnil : d.inCmds e = [] := List.length_eq_zero_iff.mp hn
    have hself := setDeque_eq_self d.inCmds e
    rw [hnil] at hself
    simp [sendDataLoop, Dev.drained, hnil, hself]
  | succ n ih =>
    cases hcmds : d.inCmds e with
    | nil => simp [hcmds] at hn
    | cons c cs =>
      -- without data the loop ends, and both deques stay as they are
      cases hdata : d.inData e with
      | nil =>
        have hself := setDeque_eq_self d.inCmds e
        have hself' := setDeque_eq_self d.inData e
        rw [hcmds] at hself
        rw [hdata] at hself'
        simp [sendDataLoop, Dev.drained, hcmds, hdata, hself, hself']
      | cons x xs =>
        rw [hcmds] at hn hcs
        simp only [sendDataLoop, run_bind_get, hcmds, hdata]
        rw [run_bind_ok (sendDataTurn_run (hcs c (List.mem_cons_self ..)) d),
          ih _ (by simpa using hn)
            (by simpa [InSubmits] using fun c' hc' => hcs c' (List.mem_cons_of_mem _ hc'))]
        simp [Dev.drained, hcmds, hdata, enqueue, GreedyMatch.drain_cons, serve]

/-- **The matcher is greedy matching** of the commands and the data of its endpoint. -/
theorem sendDataForInEndpoint_run {e : EpIdx} (d : Dev) (hcs : InSubmits (d.inCmds e)) :
    (sendDataForInEndpoint e).run d = (.ok (), d.drained e) := by
  rw [sendDataForInEndpoint, run_bind_get]
  exact sendDataLoop_run d rfl hcs

/-! ### Specifications -/

/-- `x` run on `d` either succeeds with `Q`, or throws and leaves the state as it was. -/
def Handler.Spec {α : Type} (x : Handler α) (d : Dev) (Q : α → Dev → Prop) : Prop :=
  match x.run d with
  | (.ok a, d') => Q a d'
  | (.error (.thrown _), d') => d' = d
  | (.error .aborted, _) => False

namespace Handler.Spec

variable {α β : Type} {x : Handler α} {Q : α → Dev → Prop}

theorem of_run {a : α} {d' : Dev} (h : x.run d = (.ok a, d')) (hQ : Q a d') : x.Spec d Q := by
  rw [Handler.Spec, h]
  exact hQ

theorem throw (e : Err) (d : Dev) : (Handler.throw e : Handler α).Spec d Q := rfl

theorem throwRuntime (msg : String) (d : Dev) : (Handler.throwRuntime msg : Handler α).Spec d Q :=
  rfl

theorem mono {P : α → Dev → Prop} (h : x.Spec d Q) (hP : ∀ a d', Q a d' → P a d') :
    x.Spec d P := by
  unfold Handler.Spec at h ⊢
  split at h
  · rename_i a d' hrun
    exact hP a d' h
  · exact h
  · exact h

/-- A pure end changes the result only. -/
theorem bind_pure {P : β → Dev → Prop} (h : x.Spec d Q) (f : α → β)
    (hP : ∀ a d', Q a d' → P (f a) d') : (x >>= fun a => pure (f a)).Spec d P := by
  unfold Handler.Spec at h ⊢
  rw [run_bind]
  split at h
  · rename_i a d' hrun
    rw [hrun]
    exact hP a d' h
  · rename_i e d' hrun
    rw [hrun]
    exact h
  · exact h.elim

end Handler.Spec

/-! ### What handling a command does -/

/-- The two bytes of the GetStatus answer. -/
def statusBytes (p : ConfigDescPtr) : List UInt8 :=
  if selfPowered p.desc then [1, 0] else [0, 0]

/-- The answers to endpoint-0 standard requests: the configuration that is active afterwards, the
reply, and the status that is passed to `_reply`. -/
inductive StandardAnswer (info : Info) (c : Cmd) (cfg : Option ConfigDescPtr) :
    Option ConfigDescPtr → Rep → Int32 → Prop
  | getStatus {p : ConfigDescPtr} (hdir : c.direction = usbipDirIn)
      (hreq : (getSetupRequest c).bRequest = Request.getStatus) (hcfg : cfg = some p) :
      StandardAnswer info c cfg cfg (retSubmit c (statusBytes p) 2) 0
  | getDescriptor {p : Option Ptr} {n : ℕ} (hdir : c.direction = usbipDirIn)
      (hreq : (getSetupRequest c).bRequest = Request.getDescriptor)
      (hsel : selectDescriptor info (getSetupRequest c) = .ok (p, n)) :
      StandardAnswer info c cfg cfg (retSubmit c
        ((p.map fun p => p.read (min n (getSetupRequest c).wLength.toNat)).getD [])
        (min n (getSetupRequest c).wLength.toNat)) (if p.isSome then 0 else 1)
  | setConfiguration {i : ℕ}
      (hdir : c.direction = usbipDirIn ∨
        c.direction = usbipDirOut ∧ sizeOfInt32 c.transferBufferLength = 0)
      (hreq : (getSetupRequest c).bRequest = Request.setConfiguration)
      (hfind : findConfig info ((getSetupRequest c).wValue &&& 0x00FF).toUInt8 = some i) :
      StandardAnswer info c cfg (some (info.configDescPtr i)) (retSubmit c [] 0) 0

/-- The `Xfer` an OUT command yields. -/
def xferOf (c : Cmd) : Xfer where
  ep := getEndpointAddr c
  setupReq := if c.ep = 0 then getSetupRequest c else {}
  data := c.payload

/-- The command is an endpoint-0 standard request. -/
def isStandard (c : Cmd) : Bool :=
  c.ep == 0 && standardType (getSetupRequest c)

/-- The command is an endpoint-0 standard request to the device. -/
def isDeviceRequest (bRequest : UInt8) (c : Cmd) : Bool :=
  c.command == usbipCmdSubmit && isStandard c &&
    (getSetupRequest c).bmRequestType &&& RequestType.recipientMask
      == RequestType.recipientDevice &&
    (getSetupRequest c).bRequest == bRequest

theorem isDeviceRequest_iff {bRequest : UInt8} : isDeviceRequest bRequest c = true ↔
    c.command = usbipCmdSubmit ∧ isStandard c = true ∧
      (getSetupRequest c).bmRequestType &&& RequestType.recipientMask
        = RequestType.recipientDevice ∧
      (getSetupRequest c).bRequest = bRequest := by
  simp [isDeviceRequest, and_assoc]

/-- What handling a command without an error does: the state afterwards and the `Xfer`. -/
inductive Handled (info : Info) (c : Cmd) (d : Dev) : Dev → Option Xfer → Prop
  | standard {cfg : Option ConfigDescPtr} {rep : Rep} {status : Int32}
      (hc : c.command = usbipCmdSubmit) (hstd : isStandard c = true)
      (hrec : (getSetupRequest c).bmRequestType &&& RequestType.recipientMask
        = RequestType.recipientDevice)
      (hans : StandardAnswer info c d.configDesc cfg rep status) :
      Handled info c d (enqueue c rep status { d with configDesc := cfg }) none
  | out {e : EpIdx} (hc : c.command = usbipCmdSubmit) (hstd : isStandard c = false)
      (hdir : c.direction = usbipDirOut) (hep : epIdxOf c = some e) :
      Handled info c d (enqueue c (retSubmit c [] c.payloadLen) 0 d) (some (xferOf c))
  | inTransfer {e : EpIdx} (hin : isInTransfer e c = true) :
      Handled info c d ((d.pushCmd e c).drained e) none
  | unlink {e : EpIdx} (hc : c.command = usbipCmdUnlink) (hep : epIdxOf c = some e) :
      Handled info c d
        (enqueue c
          (retUnlink c (if (eraseInCmd d.inCmds c.unlinkSeqnum).1 then -econnreset else 0))
          (if (eraseInCmd d.inCmds c.unlinkSeqnum).1 then -econnreset else 0)
          { d with inCmds := (eraseInCmd d.inCmds c.unlinkSeqnum).2 }) none

theorem setConfiguration_run {req : SetupRequest} {i : ℕ} (hc : c.command = usbipCmdSubmit)
    (hdir : c.direction = usbipDirIn ∨ c.direction = usbipDirOut)
    (hfind : findConfig info (req.wValue &&& 0x00FF).toUInt8 = some i) (d : Dev) :
    (setConfiguration info c req 0).run d
      = (.ok (), enqueue c (retSubmit c [] 0) 0
          { d with configDesc := some (info.configDescPtr i) }) := by
  unfold setConfiguration
  dsimp only
  rw [hfind]
  dsimp only
  rw [run_bind_modify, reply_none hc hdir 0 (fun _ => rfl)]

theorem setConfiguration_spec {req : SetupRequest} (hc : c.command = usbipCmdSubmit)
    (hdir : c.direction = usbipDirIn ∨ c.direction = usbipDirOut) :
    (setConfiguration info c req 0).Spec d fun _ d' =>
      ∃ i, findConfig info (req.wValue &&& 0x00FF).toUInt8 = some i ∧
        d' = enqueue c (retSubmit c [] 0) 0
          { d with configDesc := some (info.configDescPtr i) } := by
  cases hfind : findConfig info (req.wValue &&& 0x00FF).toUInt8 with
  | some i => exact .of_run (setConfiguration_run hc hdir hfind d) ⟨i, rfl, rfl⟩
  | none =>
    unfold setConfiguration
    dsimp only
    rw [hfind]
    exact .throwRuntime _ _

theorem getStatus_run {p : ConfigDescPtr} (hc : c.command = usbipCmdSubmit)
    (hdir : c.direction = usbipDirIn) (hcfg : d.configDesc = some p) :
    (getStatus c).run d = (.ok (), enqueue c (retSubmit c (statusBytes p) 2) 0 d) := by
  unfold getStatus
  simp only [run_bind_get, hcfg]
  rw [reply_in hc hdir]
  have hzero : ((1 : UInt16) >>> 8).toUInt8 = 0 := by decide
  by_cases hsp : selfPowered p.desc = true <;>
    simp [statusBytes, hsp, Ptr.read, List.range_succ, hzero]

theorem getStatus_spec (hc : c.command = usbipCmdSubmit) (hdir : c.direction = usbipDirIn) :
    (getStatus c).Spec d fun _ d' =>
      ∃ p, d.configDesc = some p ∧ d' = enqueue c (retSubmit c (statusBytes p) 2) 0 d := by
  cases hcfg : d.configDesc with
  | none =>
    unfold Handler.Spec getStatus
    simp [hcfg]
  | some p => exact .of_run (getStatus_run hc hdir hcfg) ⟨p, rfl, rfl⟩

/-- A descriptor that does not exist has length zero. -/
theorem selectDescriptor_none {req : SetupRequest} {n : ℕ}
    (h : selectDescriptor info req = .ok (none, n)) : n = 0 := by
  unfold selectDescriptor at h
  cases hs : info.stringDescs <;> cases hq : info.deviceQualifierDesc <;>
    · simp only [hs, hq] at h
      split_ifs at h <;> simp_all

/-- The selected descriptor is sent, or nothing if there is none. -/
theorem reply_selected {req : SetupRequest} {p : Option Ptr} {n : ℕ}
    (hc : c.command = usbipCmdSubmit) (hdir : c.direction = usbipDirIn)
    (hsel : selectDescriptor info req = .ok (p, n)) (status : Int32) (d : Dev) :
    (reply c p (min n req.wLength.toNat) status).run d
      = (.ok (), enqueue c (retSubmit c ((p.map fun p => p.read (min n req.wLength.toNat)).getD [])
          (min n req.wLength.toNat)) status d) := by
  cases p with
  | none =>
    apply reply_none hc (Or.inl hdir)
    intro _
    rw [selectDescriptor_none hsel, Nat.zero_min]
  | some p => exact reply_in hc hdir p _ _ d

theorem getDescriptor_run {req : SetupRequest} {p : Option Ptr} {n : ℕ}
    (hc : c.command = usbipCmdSubmit) (hdir : c.direction = usbipDirIn)
    (hsel : selectDescriptor info req = .ok (p, n)) (d : Dev) :
    (getDescriptor info c req).run d
      = (.ok (), enqueue c (retSubmit c ((p.map fun p => p.read (min n req.wLength.toNat)).getD [])
          (min n req.wLength.toNat)) (if p.isSome then 0 else 1) d) := by
  unfold getDescriptor
  rw [hsel]
  exact reply_selected hc hdir hsel _ d

theorem getDescriptor_spec (hc : c.command = usbipCmdSubmit) (hdir : c.direction = usbipDirIn)
    {req : SetupRequest} :
    (getDescriptor info c req).Spec d fun _ d' =>
      ∃ p n, selectDescriptor info req = .ok (p, n) ∧
        d' = enqueue c (retSubmit c ((p.map fun p => p.read (min n req.wLength.toNat)).getD [])
          (min n req.wLength.toNat)) (if p.isSome then 0 else 1) d := by
  cases hsel : selectDescriptor info req with
  | error e =>
    unfold getDescriptor
    rw [hsel]
    exact .throw _ _
  | ok r => exact .of_run (getDescriptor_run hc hdir hsel d) ⟨_, _, rfl, rfl⟩

/-- The endpoint-0 standard requests. -/
theorem handleCmdSubmitEP0StandardRequest_spec (hc : c.command = usbipCmdSubmit) :
    (handleCmdSubmitEP0StandardRequest info c (getSetupRequest c)).Spec d fun _ d' =>
      (getSetupRequest c).bmRequestType &&& RequestType.recipientMask
          = RequestType.recipientDevice ∧
        ∃ cfg rep status, StandardAnswer info c d.configDesc cfg rep status ∧
          d' = enqueue c rep status { d with configDesc := cfg } := by
  unfold handleCmdSubmitEP0StandardRequest
  dsimp only
  split_ifs with hrec hin hstatus hdesc hset hout hlen hset
  · exact .throwRuntime _ _
  · refine (getStatus_spec hc hin).mono ?_
    rintro - d' ⟨p, hcfg, rfl⟩
    exact ⟨not_not.mp hrec, _, _, _, .getStatus hin hstatus hcfg, rfl⟩
  · refine (getDescriptor_spec hc hin).mono ?_
    rintro - d' ⟨p, n, hsel, rfl⟩
    exact ⟨not_not.mp hrec, _, _, _, .getDescriptor hin hdesc hsel, rfl⟩
  · refine (setConfiguration_spec hc (Or.inl hin)).mono ?_
    rintro - d' ⟨i, hfind, rfl⟩
    exact ⟨not_not.mp hrec, _, _, _, .setConfiguration (Or.inl hin) hset hfind, rfl⟩
  · exact .throwRuntime _ _
  · exact .throwRuntime _ _
  · rw [not_not.mp hlen]
    refine (setConfiguration_spec hc (Or.inr hout)).mono ?_
    rintro - d' ⟨i, hfind, rfl⟩
    exact ⟨not_not.mp hrec, _, _, _,
      .setConfiguration (Or.inr ⟨hout, not_not.mp hlen⟩) hset hfind, rfl⟩
  · exact .throwRuntime _ _
  · exact .throwRuntime _ _

theorem handleCmdSubmitEPXOut_run {e : EpIdx} (hc : c.command = usbipCmdSubmit)
    (hdir : c.direction = usbipDirOut) (hep : epIdxOf c = some e) (d : Dev) :
    (handleCmdSubmitEPXOut c).run d
      = (.ok { ep := getEndpointAddr c, data := c.payload },
          enqueue c (retSubmit c [] c.payloadLen) 0 d) := by
  unfold handleCmdSubmitEPXOut
  rw [hep]
  dsimp only
  rw [run_bind_ok (reply_out hc hdir _ _ d), run_pure]

theorem handleCmdSubmitEPXIn_run {e : EpIdx} (hc : c.command = usbipCmdSubmit)
    (hdir : c.direction = usbipDirIn) (hep : epIdxOf c = some e) (hq : InSubmits (d.inCmds e)) :
    (handleCmdSubmitEPXIn c).run d = (.ok (), (d.pushCmd e c).drained e) := by
  unfold handleCmdSubmitEPXIn
  rw [hep]
  dsimp only
  rw [run_bind_modify]
  exact sendDataForInEndpoint_run (d.pushCmd e c) (Dev.forall_mem_pushCmd hq ⟨hc, hdir⟩)

/-- The route of a SUBMIT that is not an endpoint-0 standard request. -/
theorem handleCmdSubmitEPX_spec (info : Info) (hc : c.command = usbipCmdSubmit)
    (hstd : isStandard c = false)
    (hq : ∀ e, InSubmits (d.inCmds e)) :
    (handleCmdSubmitEPX c).Spec d fun x d' =>
      Handled info c d d' (x.map fun x => { x with setupReq := (xferOf c).setupReq }) ∧
        ∀ y ∈ x, y.setupReq = {} := by
  unfold handleCmdSubmitEPX
  split_ifs with hout hin
  · refine Spec.bind_pure (Q := fun x d' => ∃ e, epIdxOf c = some e ∧
        x = { ep := getEndpointAddr c, data := c.payload } ∧
        d' = enqueue c (retSubmit c [] c.payloadLen) 0 d) ?_ some ?_
    · cases hep : epIdxOf c with
      | none =>
        unfold handleCmdSubmitEPXOut
        rw [hep]
        exact .throwRuntime _ _
      | some e => exact .of_run (handleCmdSubmitEPXOut_run hc hout hep d) ⟨e, rfl, rfl, rfl⟩
    · rintro x d' ⟨e, hep, rfl, rfl⟩
      exact ⟨.out hc hstd hout hep, by simp⟩
  · refine Spec.bind_pure (Q := fun _ d' => ∃ e, epIdxOf c = some e ∧
        d' = (d.pushCmd e c).drained e) ?_
        (fun _ => none) ?_
    · cases hep : epIdxOf c with
      | none =>
        unfold handleCmdSubmitEPXIn
        rw [hep]
        exact .throwRuntime _ _
      | some e => exact .of_run (handleCmdSubmitEPXIn_run hc hin hep (hq e)) ⟨e, rfl, rfl⟩
    · rintro - d' ⟨e, hep, rfl⟩
      refine ⟨.inTransfer ?_, by simp⟩
      simp only [isStandard] at hstd
      simp [isInTransfer, hc, hin, hep, hstd]
  · exact .throwRuntime _ _

theorem handleCmdUnlink_run {e : EpIdx} (hc : c.command = usbipCmdUnlink)
    (hep : epIdxOf c = some e) (d : Dev) :
    (handleCmdUnlink c).run d
      = (.ok (), enqueue c
          (retUnlink c (if (eraseInCmd d.inCmds c.unlinkSeqnum).1 then -econnreset else 0))
          (if (eraseInCmd d.inCmds c.unlinkSeqnum).1 then -econnreset else 0)
          { d with inCmds := (eraseInCmd d.inCmds c.unlinkSeqnum).2 }) := by
  unfold handleCmdUnlink
  rw [hep]
  dsimp only
  rw [run_bind_get, run_bind_modify, reply_unlink hc]

theorem handleCmdUnlink_spec (info : Info) (hc : c.command = usbipCmdUnlink) :
    (handleCmdUnlink c).Spec d fun _ d' => Handled info c d d' none := by
  cases hep : epIdxOf c with
  | none =>
    unfold handleCmdUnlink
    rw [hep]
    exact .throwRuntime _ _
  | some e => exact .of_run (handleCmdUnlink_run hc hep d) (.unlink hc hep)

/-- **What `handleCmd` does**: it throws and leaves the state as it was, or does what `Handled`
says. -/
theorem handleCmd_spec (info : Info) (c : Cmd) (d : Dev) (hq : ∀ e, InSubmits (d.inCmds e)) :
    (handleCmd info c).Spec d fun x d' => Handled info c d d' x := by
  unfold handleCmd
  split_ifs with hc hep hu
  · unfold handleCmdSubmitEP0
    dsimp only
    split_ifs with hstd
    · refine Spec.bind_pure (handleCmdSubmitEP0StandardRequest_spec hc) (fun _ => none) ?_
      rintro - d' ⟨hrec, cfg, rep, status, hans, rfl⟩
      exact .standard hc (by simp [isStandard, hep, hstd]) hrec hans
    · refine Spec.bind_pure (handleCmdSubmitEPX_spec info hc
        (by simp [isStandard, hstd]) hq) _ ?_
      intro x d' hx
      simpa [xferOf, hep] using hx.1
  -- the setup request is filled in for endpoint 0 only
  · refine (handleCmdSubmitEPX_spec info hc (by simp [isStandard, hep]) hq).mono ?_
    rintro x d' ⟨hx, hsetup⟩
    cases x with
    | none => exact hx
    | some y =>
      have hy : y.setupReq = {} := hsetup y rfl
      rw [Option.map_some, xferOf, if_neg hep, ← hy] at hx
      exact hx
  · exact Spec.bind_pure (handleCmdUnlink_spec info hu) (fun _ => none)
      fun _ _ h => h
  · exact .throwRuntime _ _

/-! ### Nothing else makes a command fail -/

theorem standardRequest_run {cfg : Option ConfigDescPtr} {rep : Rep} {status : Int32}
    (hc : c.command = usbipCmdSubmit)
    (hrec : (getSetupRequest c).bmRequestType &&& RequestType.recipientMask
      = RequestType.recipientDevice) (hans : StandardAnswer info c d.configDesc cfg rep status) :
    (handleCmdSubmitEP0StandardRequest info c (getSetupRequest c)).run d
      = (.ok (), enqueue c rep status { d with configDesc := cfg }) := by
  unfold handleCmdSubmitEP0StandardRequest
  dsimp only
  rw [if_neg (not_not.mpr hrec)]
  cases hans with
  | getStatus hdir hreq hcfg =>
    rw [if_pos hdir, if_pos hreq]
    exact getStatus_run hc hdir hcfg
  | getDescriptor hdir hreq hsel =>
    rw [if_pos hdir, hreq, if_neg (by decide), if_pos rfl]
    exact getDescriptor_run hc hdir hsel d
  | setConfiguration hdir hreq hfind =>
    rcases hdir with hdir | ⟨hdir, hlen⟩
    · rw [if_pos hdir, hreq, if_neg (by decide), if_neg (by decide), if_pos rfl]
      exact setConfiguration_run hc (Or.inl hdir) hfind d
    · rw [hdir, if_neg (by decide), if_pos rfl, hlen, if_neg (not_not.mpr rfl), if_pos hreq]
      exact setConfiguration_run hc (Or.inr hdir) hfind d

/-- The route of an endpoint-0 standard request. -/
theorem handleCmd_standard (hc : c.command = usbipCmdSubmit) (hstd : isStandard c = true) :
    handleCmd info c = (do
      handleCmdSubmitEP0StandardRequest info c (getSetupRequest c)
      pure none) := by
  obtain ⟨hep, htype⟩ : c.ep = 0 ∧ standardType (getSetupRequest c) = true := by
    simpa [isStandard] using hstd
  rw [handleCmd, if_pos hc, if_pos hep, handleCmdSubmitEP0, if_pos htype]

/-- **`handleCmd` does whatever `Handled` lists**: it throws on no other command. -/
theorem Handled.run {d' : Dev} {x : Option Xfer} (hq : ∀ e, InSubmits (d.inCmds e))
    (h : Handled info c d d' x) : (handleCmd info c).run d = (.ok x, d') := by
  cases h with
  | standard hc hstd hrec hans =>
    rw [handleCmd_standard hc hstd, run_bind_ok (standardRequest_run hc hrec hans), run_pure]
  | out hc hstd hdir hep =>
    have hEPX : (handleCmdSubmitEPX c).run d
        = (.ok (some { ep := getEndpointAddr c, data := c.payload }),
            enqueue c (retSubmit c [] c.payloadLen) 0 d) := by
      rw [handleCmdSubmitEPX, if_pos hdir, run_bind_ok (handleCmdSubmitEPXOut_run hc hdir hep d),
        run_pure]
    rw [handleCmd, if_pos hc]
    by_cases hzero : c.ep = 0
    · have htype : ¬ standardType (getSetupRequest c) = true := by
        simpa [isStandard, hzero] using hstd
      rw [if_pos hzero, handleCmdSubmitEP0]
      rw [if_neg htype, run_bind_ok hEPX, run_pure, Option.map_some, xferOf, if_pos hzero]
    · rw [if_neg hzero, hEPX, xferOf, if_neg hzero]
  | @inTransfer e hin =>
    simp only [isInTransfer, Bool.and_eq_true, beq_iff_eq, Bool.not_eq_true'] at hin
    obtain ⟨⟨⟨hc, hdir⟩, hstd⟩, hep⟩ := hin
    have hEPX : (handleCmdSubmitEPX c).run d = (.ok none, (d.pushCmd e c).drained e) := by
      rw [handleCmdSubmitEPX, if_neg (by rw [hdir]; decide), if_pos hdir,
        run_bind_ok (handleCmdSubmitEPXIn_run hc hdir hep (hq e)), run_pure]
    rw [handleCmd, if_pos hc]
    by_cases hzero : c.ep = 0
    · have htype : ¬ standardType (getSetupRequest c) = true := by
        simpa [hzero] using hstd
      rw [if_pos hzero, handleCmdSubmitEP0]
      rw [if_neg htype, run_bind_ok hEPX, run_pure, Option.map_none]
    · rw [if_neg hzero, hEPX]
  | unlink hc hep =>
    rw [handleCmd, if_neg (by rw [hc]; decide), if_pos hc,
      run_bind_ok (handleCmdUnlink_run hc hep d), run_pure]

/-- **`handleCmd` throws exactly on the commands that `Handled` does not list.** -/
theorem handleCmd_throws_iff (hq : ∀ e, InSubmits (d.inCmds e)) :
    (∃ e, (handleCmd info c).run d = (.error (.thrown e), d)) ↔
      ¬ ∃ d' x, Handled info c d d' x := by
  constructor
  · rintro ⟨e, hthrown⟩ ⟨d', x, hh⟩
    rw [hh.run hq] at hthrown
    cases (Prod.ext_iff.mp hthrown).1
  · intro hnone
    have hspec := handleCmd_spec info c d hq
    unfold Handler.Spec at hspec
    split at hspec
    · rename_i x d' hrun
      exact (hnone ⟨d', x, hspec⟩).elim
    · rename_i e d' hrun
      rw [hspec] at hrun
      exact ⟨e, hrun⟩
    · exact hspec.elim

end VirtualUSB
