import VirtualUSB.Device.Equiv.System

/-!
# OUT transfers

* `xfers_eq`: the `Xfer`s are those of the OUT transfers that were handled, in order.
* `acknowledged_eq`: the replies to OUT transfers are their acknowledgements, in order.
* `delivers_xferOf`: what an `Xfer` says about its command.
-/

namespace VirtualUSB

open Endian Handler LabelledSystem GreedyMatch

variable {info : Info} {c : Cmd} {d d' : Dev} {e : EpIdx}

/-- An OUT transfer: a SUBMIT with direction OUT that is not an endpoint-0 standard request. -/
def isOutTransfer (c : Cmd) : Bool :=
  c.command == usbipCmdSubmit && c.direction == usbipDirOut && !isStandard c

theorem isOutTransfer.submit (h : isOutTransfer c = true) :
    c.command = usbipCmdSubmit ∧ c.direction = usbipDirOut ∧ isStandard c = false := by
  simp only [isOutTransfer, Bool.and_eq_true, beq_iff_eq, Bool.not_eq_true'] at h
  exact ⟨h.1.1, h.1.2, h.2⟩

theorem isInTransfer.not_out (h : isInTransfer e c = true) : isOutTransfer c = false := by
  by_contra hout
  have hdir := (isOutTransfer.submit (by simpa using hout)).2.1
  exact absurd ((isInTransfer.submit h).2.symm.trans hdir) (by decide)

/-! ### The `Xfer` of a command -/

/-- The `Xfer` carries what the OUT command does.  For endpoint 0 the eight setup bytes are decoded
as little-endian words. -/
structure Delivers (c : Cmd) (x : Xfer) : Prop where
  ep : x.ep.toNat = c.ep.toNat
  data : x.data = c.payload
  len : x.len = c.payloadLen
  setup : c.ep = 0 →
    x.setupReq.bmRequestType = c.setup[0] ∧ x.setupReq.bRequest = c.setup[1] ∧
      x.setupReq.wValue.toNat = c.setup[2].toNat + 256 * c.setup[3].toNat ∧
      x.setupReq.wIndex.toNat = c.setup[4].toNat + 256 * c.setup[5].toNat ∧
      x.setupReq.wLength.toNat = c.setup[6].toNat + 256 * c.setup[7].toNat

/-- **The `Xfer` of an OUT transfer carries what the command does**, if its endpoint number fits
into eight bits. -/
theorem delivers_xferOf (hout : isOutTransfer c = true) (hep : c.ep.toNat < 256) :
    Delivers c (xferOf c) where
  ep := by
    have hne : ¬ c.direction = usbipDirIn := by
      rw [(isOutTransfer.submit hout).2.1]
      decide
    show (getEndpointAddr c).toNat = c.ep.toNat
    rw [getEndpointAddr, if_neg hne, UInt8.or_zero, UInt32.toNat_toUInt8, Nat.mod_eq_of_lt hep]
  data := rfl
  len := rfl
  setup hzero := by
    simp only [xferOf, if_pos hzero]
    exact ⟨rfl, rfl, toNat_leWord16 .., toNat_leWord16 .., toNat_leWord16 ..⟩

/-! ### Handling OUT transfers -/

/-- Exactly the OUT transfers yield an `Xfer`. -/
theorem Handled.xfer_eq {x : Option Xfer} (h : Handled info c d d' x) :
    x = if isOutTransfer c then some (xferOf c) else none := by
  cases h with
  | standard _ hstd => simp [isOutTransfer, hstd]
  | out hc hstd hdir => simp [isOutTransfer, hc, hstd, hdir]
  | inTransfer hin => simp [isInTransfer.not_out hin]
  | unlink hc =>
    have hne : ¬ usbipCmdUnlink = usbipCmdSubmit := by decide
    simp [isOutTransfer, hc, hne]

/-- The acknowledgement of an OUT transfer. -/
def ackOf (c : Cmd) : Cmd × Rep :=
  (c, retSubmit c [] c.payloadLen)

/-- The replies to OUT transfers, each with its command. -/
def acknowledged (d : Dev) : List (Cmd × Rep) :=
  d.history.filter fun p => isOutTransfer p.1

/-- The matcher acknowledges nothing. -/
theorem acknowledged_drained (hin : ∀ c ∈ d.inCmds e, isInTransfer e c = true) :
    acknowledged (d.drained e) = acknowledged d := by
  have hnone : (drain serve (d.inCmds e) (d.inData e)).1.filter (fun p => isOutTransfer p.1)
      = [] := by
    rw [List.filter_eq_nil_iff]
    intro p hp
    have hp' := forall_mem_drain (P := fun c => isInTransfer e c = true)
      (Q := fun p => isInTransfer e p.1 = true) (fun _ _ hc => hc) hin (d.inData e) p hp
    simp [isInTransfer.not_out hp']
  rw [acknowledged, Dev.drained_history, List.filter_append, hnone, List.append_nil]
  rfl

/-- Handling an OUT transfer acknowledges it. -/
theorem Handled.acknowledged_eq {x : Option Xfer} (hwf : d.Wf) (h : Handled info c d d' x) :
    acknowledged d' = acknowledged d ++ if isOutTransfer c then [ackOf c] else [] := by
  cases h with
  | standard _ hstd =>
    have hout : isOutTransfer c = false := by simp [isOutTransfer, hstd]
    simp [acknowledged, enqueue, hout]
  | out hc hstd hdir =>
    have hout : isOutTransfer c = true := by simp [isOutTransfer, hc, hstd, hdir]
    simp [acknowledged, enqueue, hout, ackOf]
  | @inTransfer e hin =>
    have hqueue : ∀ c' ∈ (d.pushCmd e c).inCmds e, isInTransfer e c' = true :=
      Dev.forall_mem_pushCmd (hwf.inTransfer e) hin
    rw [acknowledged_drained hqueue, isInTransfer.not_out hin]
    simp [acknowledged, Dev.pushCmd]
  | unlink hc =>
    have hne : ¬ usbipCmdUnlink = usbipCmdSubmit := by decide
    have hout : isOutTransfer c = false := by simp [isOutTransfer, hc, hne]
    simp [acknowledged, enqueue, hout]

/-! ### Runs -/

variable {ok : Dev → Op → Prop} {is : List Op} {evs : List Event} {d₀ : Dev}

/-- In a run exactly the OUT transfers yield an `Xfer`. -/
theorem xfer_eq_of_mem (hwf : d₀.Wf) (h : (device info).RunWhere ok d₀ is d evs) {t : Option Cmd}
    {x : Option Xfer} (hev : .handled c t x ∈ evs) :
    x = if isOutTransfer c then some (xferOf c) else none := by
  obtain ⟨is₁, d₁, evs₁, op, d₂, evs₂, is₃, evs₃, h₁, -, hs, hmem, -, -⟩ := h.exists_step_of_mem hev
  obtain ⟨ev, rfl, hd⟩ := step_spec (wf_of_run hwf h₁) hs
  obtain rfl := List.mem_singleton.mp hmem
  cases hd with
  | handle _ _ hh => exact hh.xfer_eq

/-- **OUT transfers yield their `Xfer`s**, in the order in which they were handled, and nothing else
yields one. -/
theorem xfers_eq (hwf : d₀.Wf) (h : (device info).RunWhere ok d₀ is d evs) :
    xfers evs = ((handledCmds evs).filter isOutTransfer).map xferOf := by
  have hall := fun (c : Cmd) (t : Option Cmd) (x : Option Xfer) =>
    xfer_eq_of_mem (c := c) (t := t) (x := x) hwf h
  clear h
  induction evs with
  | nil => rfl
  | cons ev evs ih =>
    have hrest := ih fun c t x hev => hall c t x (List.mem_cons_of_mem _ hev)
    cases ev with
    | handled c t x =>
      have hx := hall c t x (List.mem_cons_self ..)
      show xfers ([.handled c t x] ++ evs)
        = ((handledCmds ([.handled c t x] ++ evs)).filter _).map _
      rw [xfers_append, handledCmds_append, List.filter_append, List.map_append, hrest, hx]
      cases hout : isOutTransfer c <;> simp [xfers, handledCmds, hout]
    | _ => exact hrest

/-- **OUT transfers are acknowledged** once each, in the order in which they were handled. -/
theorem acknowledged_eq (h : (device info).RunWhere ok {} is d evs) :
    acknowledged d = ((handledCmds evs).filter isOutTransfer).map ackOf := by
  refine (run_induction
    (P := fun d evs => acknowledged d = ((handledCmds evs).filter isOutTransfer).map ackOf) .init
    rfl ?_ h).2
  intro d evs op d' ev hwf hP _ hs
  rw [handledCmds_append, List.filter_append, List.map_append, ← hP]
  cases hs with
  | @handle c cs _ x _ _ hh =>
    have hwf' : Dev.Wf { d with cmds := cs } := hwf.congr rfl rfl
    rw [hh.acknowledged_eq hwf']
    cases hout : isOutTransfer c <;> simp [acknowledged, handledCmds, hout]
  | @write ep data =>
    have hdrained := acknowledged_drained (d := d.pushData (writeIdx ep) data)
      (hwf.inTransfer (writeIdx ep))
    rw [hdrained]
    simp [acknowledged, handledCmds]
  | fail => simp [acknowledged, handledCmds]
  | _ => simp [acknowledged, handledCmds]

/-- The commands that `read()` takes before one yields an `Xfer` are no OUT transfers. -/
theorem not_out_of_xfers_nil (hwf : d₀.Wf) (h : (device info).RunWhere ok d₀ is d evs)
    (hnone : xfers evs = []) : ∀ c ∈ handledCmds evs, isOutTransfer c = false := by
  rw [xfers_eq hwf h, List.map_eq_nil_iff, List.filter_eq_nil_iff] at hnone
  simpa using hnone

end VirtualUSB
