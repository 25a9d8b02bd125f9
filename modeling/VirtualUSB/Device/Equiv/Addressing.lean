import VirtualUSB.Device.Equiv.Matching

/-!
# Endpoint numbers

A command names its endpoint with 32 bits; the handlers keep the low eight of them and check these
against `MaxCount`, and `write()` keeps four bits of an endpoint address.

`addressedExactly_iff`: a command is handled under the endpoint it names, for every state and every
run, exactly if it is not `Misaddressed`.
-/

namespace VirtualUSB

open Handler LabelledSystem GreedyMatch

variable {info : Info} {c : Cmd} {d d' : Dev} {e : EpIdx}

/-! ### The index of an endpoint -/

/-- The index is the low byte of the endpoint number. -/
theorem epIdxOf_eq_some_iff : epIdxOf c = some e ↔ c.ep.toNat % 256 = e.val := by
  have hlow : c.ep.toUInt8.toNat = c.ep.toNat % 256 := UInt32.toNat_toUInt8 _
  unfold epIdxOf
  split_ifs with h
  · rw [Option.some.injEq, Fin.ext_iff]
    show c.ep.toUInt8.toNat = e.val ↔ _
    rw [hlow]
  · have he := e.isLt
    rw [hlow] at h
    constructor
    · intro hnone
      cases hnone
    · omega

/-- `write()` reaches the first sixteen deques only. -/
theorem writeIdx_lt (ep : UInt8) : (writeIdx ep).val < 16 := by
  have h : ep &&& Endpoint.indexMask ≤ Endpoint.indexMask := UInt8.and_le_right
  have h' := UInt8.le_iff_toNat_le.mp h
  have hm : Endpoint.indexMask.toNat = 15 := rfl
  show (ep &&& Endpoint.indexMask).toNat < 16
  omega

/-- `write()` reaches the first sixteen deques. -/
theorem exists_writeIdx (he : e.val < 16) :
    ∃ ep : UInt8, ep &&& Endpoint.directionMask = Endpoint.directionIn ∧ writeIdx ep = e := by
  obtain ⟨n, hn⟩ := e
  have hall : ∀ k : Fin 16, (UInt8.ofNat (128 + k) &&& Endpoint.directionMask
      = Endpoint.directionIn) ∧ (writeIdx (UInt8.ofNat (128 + k))).val = k := by decide
  obtain ⟨hdir, hidx⟩ := hall ⟨n, he⟩
  exact ⟨_, hdir, Fin.ext hidx⟩

/-! ### Commands that are handled under their endpoint -/

/-- `read()` is about to take `c` in a reachable state. -/
structure Pending (info : Info) (c : Cmd) (d : Dev) (cs : List Cmd) : Prop where
  reachable : ∃ is evs, (device info).Run is d evs
  err : d.err = none
  cmds : d.cmds = c :: cs

/-- The command is handled under the endpoint it names. -/
structure AddressedExactly (info : Info) (c : Cmd) : Prop where
  /-- A SUBMIT or UNLINK for an endpoint that does not exist makes `read()` fail and enqueues
  nothing. -/
  rejected : c.command = usbipCmdSubmit ∨ c.command = usbipCmdUnlink →
    Endpoint.maxCount ≤ c.ep.toNat → ∀ d cs, Pending info c d cs →
      ∃ err, readSection info d = (.threw err, { d with cmds := cs, err := some err },
        [.rejected c err])
  /-- An IN SUBMIT that is accepted and no endpoint-0 standard request is queued under its number,
  and there is an address by which `write()` feeds this deque. -/
  queued : c.command = usbipCmdSubmit → c.direction = usbipDirIn → isStandard c = false →
    ∀ d cs d' t x, Pending info c d cs → d.step info .handle = some (d', [.handled c t x]) →
      ∃ e : EpIdx, e.val = c.ep.toNat ∧
        (sendDataForInEndpoint e).run (Dev.pushCmd { d with cmds := cs } e c) = (.ok (), d') ∧
        ∃ ep : UInt8, ep &&& Endpoint.directionMask = Endpoint.directionIn ∧ writeIdx ep = e
  /-- It is answered with bytes that were written for this endpoint. -/
  sent : c.command = usbipCmdSubmit → c.direction = usbipDirIn → isStandard c = false →
    ∀ is d evs, (device info).Run is d evs → ∀ rep, (c, rep) ∈ d.history →
      ∃ e : EpIdx, e.val = c.ep.toNat ∧ (c, rep) ∈ sent e d ∧
        Cut (written e evs) ((sent e d).map fun p => p.2.payload) ((d.inData e).map Data.unsent)
  /-- An `Xfer` for endpoint 0 comes from a command for endpoint 0 and carries its setup
  request. -/
  xfer : ∀ d cs d' t x, Pending info c d cs →
    d.step info .handle = some (d', [.handled c t (some x)]) → x.ep = 0 →
      c.ep = 0 ∧ x.setupReq = getSetupRequest c

/-- The commands that are handled under another endpoint than the one they name, or under one that
`write()` does not reach. -/
inductive Misaddressed (c : Cmd) : Prop
  /-- The number is out of range and its low byte is not. -/
  | truncated (hcmd : c.command = usbipCmdUnlink ∨ c.command = usbipCmdSubmit ∧
        (c.direction = usbipDirIn ∨ c.direction = usbipDirOut))
      (hep : Endpoint.maxCount ≤ c.ep.toNat) (hlow : c.ep.toNat % 256 < Endpoint.maxCount)
  /-- The deque exists, but no IN endpoint address has its index. -/
  | unfed (hc : c.command = usbipCmdSubmit) (hdir : c.direction = usbipDirIn)
      (hlow : 16 ≤ c.ep.toNat) (hep : c.ep.toNat < Endpoint.maxCount)

/-! ### Accepted and rejected commands -/

/-- Standard requests are for endpoint 0. -/
theorem isStandard_of_pos (h : 0 < c.ep.toNat) : isStandard c = false := by
  have hne : c.ep ≠ 0 := by
    rintro hzero
    rw [hzero] at h
    exact absurd h (by decide)
  simp [isStandard, hne]

/-- The low byte of the number decides whether a command of another endpoint is accepted. -/
theorem exists_handled (info : Info) (d : Dev) (hep : epIdxOf c = some e)
    (hstd : isStandard c = false)
    (hcmd : c.command = usbipCmdUnlink ∨ c.command = usbipCmdSubmit ∧
      (c.direction = usbipDirIn ∨ c.direction = usbipDirOut)) :
    ∃ d' x, Handled info c d d' x := by
  rcases hcmd with hc | ⟨hc, hdir | hdir⟩
  · exact ⟨_, _, .unlink hc hep⟩
  · refine ⟨_, _, .inTransfer (e := e) ?_⟩
    rw [isStandard] at hstd
    simp [isInTransfer, hc, hdir, hep, hstd]
  · exact ⟨_, _, .out hc hstd hdir hep⟩

/-- What is handled passed the range check, unless it is an endpoint-0 standard request. -/
theorem Handled.exists_epIdx {x : Option Xfer} (h : Handled info c d d' x)
    (hstd : isStandard c = false) : ∃ e, epIdxOf c = some e := by
  cases h with
  | standard _ hstd' => exact absurd (hstd.symm.trans hstd') (by decide)
  | out _ _ _ hep => exact ⟨_, hep⟩
  | inTransfer hin => exact ⟨_, isInTransfer.epIdx hin⟩
  | unlink _ hep => exact ⟨_, hep⟩

/-- What is handled and is no endpoint-0 standard request is an UNLINK, or a SUBMIT with a
direction. -/
theorem Handled.direction {x : Option Xfer} (h : Handled info c d d' x) :
    c.command = usbipCmdUnlink ∨ c.command = usbipCmdSubmit ∧
      (c.direction = usbipDirIn ∨ c.direction = usbipDirOut) := by
  cases h with
  | standard hc _ _ hans =>
    cases hans with
    | getStatus hdir => exact Or.inr ⟨hc, Or.inl hdir⟩
    | getDescriptor hdir => exact Or.inr ⟨hc, Or.inl hdir⟩
    | setConfiguration hdir => exact Or.inr ⟨hc, hdir.imp_right And.left⟩
  | out hc _ hdir => exact Or.inr ⟨hc, Or.inr hdir⟩
  | inTransfer hin => exact Or.inr ((isInTransfer.submit hin).imp_right Or.inl)
  | unlink hc => exact Or.inl hc

/-- The other IN SUBMITs are queued. -/
theorem Handled.queued {x : Option Xfer} (h : Handled info c d d' x)
    (hc : c.command = usbipCmdSubmit) (hdir : c.direction = usbipDirIn)
    (hstd : isStandard c = false) :
    ∃ e, isInTransfer e c = true ∧ d' = (d.pushCmd e c).drained e := by
  cases h with
  | standard _ hstd' => exact absurd (hstd.symm.trans hstd') (by decide)
  | out _ _ hdir' => exact absurd (hdir.symm.trans hdir') (by decide)
  | inTransfer hin => exact ⟨_, hin, rfl⟩
  | unlink hc' => exact absurd (hc.symm.trans hc') (by decide)

/-- They are answered by the matcher only. -/
theorem Answer.isInTransfer {rep : Rep} (h : Answer info c rep) (hc : c.command = usbipCmdSubmit)
    (hdir : c.direction = usbipDirIn) (hstd : isStandard c = false) :
    ∃ e, isInTransfer e c = true := by
  cases h with
  | standard _ hstd' => exact absurd (hstd.symm.trans hstd') (by decide)
  | out _ _ hdir' => exact absurd (hdir.symm.trans hdir') (by decide)
  | inTransfer hin => exact ⟨_, hin⟩
  | unlink hc' => exact absurd (hc.symm.trans hc') (by decide)

namespace Pending

variable {cs : List Cmd}

theorem wf (h : Pending info c d cs) : d.Wf := by
  obtain ⟨_, _, hrun⟩ := h.reachable
  exact wf_of_run .init hrun

/-- The state before anything but the arrival of the command. -/
theorem init (info : Info) (c : Cmd) : Pending info c { cmds := [c] } [] where
  reachable := ⟨_, _, RunWhere.single (i := .arrive c) trivial rfl⟩
  err := rfl
  cmds := rfl

/-- A handled command was handled as `Handled` says. -/
theorem handled (h : Pending info c d cs) {t : Option Cmd} {x : Option Xfer}
    (hs : d.step info .handle = some (d', [.handled c t x])) :
    Handled info c { d with cmds := cs } d' x := by
  obtain ⟨ev, hev, hstep⟩ := step_spec h.wf hs
  obtain rfl := List.singleton_inj.mp hev
  cases hstep with
  | handle _ hcmds hh =>
    rw [h.cmds] at hcmds
    obtain ⟨-, rfl⟩ := List.cons.inj hcmds
    exact hh

theorem inSubmits (h : Pending info c d cs) (e : EpIdx) :
    InSubmits (({ d with cmds := cs } : Dev).inCmds e) :=
  h.wf.inSubmits e

theorem run_of_handled (h : Pending info c d cs) {x : Option Xfer}
    (hh : Handled info c { d with cmds := cs } d' x) :
    (handleCmd info c).run { d with cmds := cs } = (.ok x, d') :=
  hh.run h.inSubmits

theorem step_of_handled (h : Pending info c d cs) {x : Option Xfer}
    (hh : Handled info c { d with cmds := cs } d' x) :
    d.step info .handle = some (d', [.handled c (unlinkTarget d c) x]) := by
  rw [Dev.step_handle h.err h.cmds, handleStep, h.run_of_handled hh]

/-- `read()` fails exactly on the commands that cannot be handled. -/
theorem readSection_threw_iff (h : Pending info c d cs) :
    (∃ err, readSection info d = (.threw err, { d with cmds := cs, err := some err },
        [.rejected c err])) ↔ ¬ ∃ d' x, Handled info c { d with cmds := cs } d' x := by
  have hread : readSection info d = readCmds info (c :: cs) d := by
    rw [readSection, h.err, h.cmds]
  rw [hread, readCmds]
  constructor
  · rintro ⟨err, hthrew⟩ ⟨d', x, hh⟩
    rw [h.run_of_handled hh] at hthrew
    cases x with
    | some x => cases (Prod.ext_iff.mp hthrew).1
    | none =>
      have hevs := (Prod.ext_iff.mp (Prod.ext_iff.mp hthrew).2).2
      cases (List.cons.inj hevs).1
  · intro hnone
    obtain ⟨err, hrun⟩ := (handleCmd_throws_iff h.inSubmits).mpr hnone
    refine ⟨err, ?_⟩
    rw [hrun]
    simp [Dev.fail, h.err]

end Pending

/-! ### Exactly the misaddressed commands are handled elsewhere -/

/-- Below `MaxCount` the index is the number. -/
theorem val_eq_ep_of_not_misaddressed (h : ¬ Misaddressed c) (hep : epIdxOf c = some e)
    (hcmd : c.command = usbipCmdUnlink ∨ c.command = usbipCmdSubmit ∧
      (c.direction = usbipDirIn ∨ c.direction = usbipDirOut)) : e.val = c.ep.toNat := by
  have hlow := epIdxOf_eq_some_iff.mp hep
  have hlt := e.isLt
  by_contra hne
  apply h
  apply Misaddressed.truncated hcmd
  · by_contra hep
    have hmax : Endpoint.maxCount = 32 := rfl
    omega
  · omega

/-- A command for an endpoint out of range is not handled. -/
theorem not_handled_of_le (h : ¬ Misaddressed c) (hep : Endpoint.maxCount ≤ c.ep.toNat) (d : Dev) :
    ¬ ∃ d' x, Handled info c d d' x := by
  rintro ⟨d', x, hh⟩
  have hstd := isStandard_of_pos (lt_of_lt_of_le (by decide) hep)
  obtain ⟨e, he⟩ := hh.exists_epIdx hstd
  have hval := val_eq_ep_of_not_misaddressed h he hh.direction
  have hlt := e.isLt
  omega

/-- An IN transfer is queued under its number, which `write()` reaches. -/
theorem isInTransfer.val_eq_ep (hin : isInTransfer e c = true) (h : ¬ Misaddressed c) :
    e.val = c.ep.toNat ∧ e.val < 16 := by
  obtain ⟨hc, hdir⟩ := isInTransfer.submit hin
  have hval := val_eq_ep_of_not_misaddressed h (isInTransfer.epIdx hin)
    (Or.inr ⟨hc, Or.inl hdir⟩)
  refine ⟨hval, ?_⟩
  have hlt := e.isLt
  by_contra hge
  exact h (.unfed hc hdir (by omega) (by omega))

/-- An OUT command whose `Xfer` is for endpoint 0 is for endpoint 0. -/
theorem ep_eq_zero_of_xferOf (h : ¬ Misaddressed c) (hc : c.command = usbipCmdSubmit)
    (hdir : c.direction = usbipDirOut) (hep : epIdxOf c = some e) (hzero : (xferOf c).ep = 0) :
    c.ep = 0 := by
  have hne : c.direction ≠ usbipDirIn := by rw [hdir]; decide
  have hlow : c.ep.toUInt8 = 0 := by
    rw [← hzero]
    show _ = c.ep.toUInt8 ||| _
    rw [if_neg hne, UInt8.or_zero]
  have hmod := epIdxOf_eq_some_iff.mp hep
  rw [← UInt32.toNat_toUInt8, hlow] at hmod
  apply UInt32.toNat_inj.mp
  -- both numbers are the index of the deque
  calc c.ep.toNat = e.val := (val_eq_ep_of_not_misaddressed h hep (Or.inr ⟨hc, Or.inr hdir⟩)).symm
    _ = (0 : UInt8).toNat := hmod.symm

theorem addressedExactly_of_not_misaddressed (h : ¬ Misaddressed c) : AddressedExactly info c := by
  constructor
  · intro _ hep d cs hpending
    rw [hpending.readSection_threw_iff]
    exact not_handled_of_le h hep _
  · intro hc hdir hstd d cs d' t x hpending hs
    obtain ⟨e, hin, rfl⟩ := (hpending.handled hs).queued hc hdir hstd
    obtain ⟨hval, hfed⟩ := isInTransfer.val_eq_ep hin h
    refine ⟨e, hval, ?_, exists_writeIdx hfed⟩
    apply sendDataForInEndpoint_run
    exact Dev.forall_mem_pushCmd (hpending.wf.inSubmits e) ⟨hc, hdir⟩
  · intro hc hdir hstd is d evs hrun rep hmem
    obtain ⟨e, hin⟩ := (answer_of_mem_history hrun _ hmem).isInTransfer hc hdir hstd
    exact ⟨e, (isInTransfer.val_eq_ep hin h).1, List.mem_filter.mpr ⟨hmem, hin⟩, cut_of_run hrun e⟩
  · intro d cs d' t x hpending hs hzero
    cases hpending.handled hs with
    | out hc _ hdir hep =>
      have hep0 := ep_eq_zero_of_xferOf h hc hdir hep hzero
      refine ⟨hep0, ?_⟩
      rw [xferOf, if_pos hep0]

/-- **Endpoint numbers are exact but for the misaddressed commands.**  In every run, a command that
names an endpoint out of range is rejected without a trace, an IN command is queued under its
number, where `write()` can feed it, and is answered with bytes written for this number, and an
`Xfer` for endpoint 0 comes with a setup request: if and only if the command is not one whose
number is out of range but has its low byte within the range, nor an IN command for one of the
endpoints 16 to 31. -/
theorem addressedExactly_iff (info : Info) (c : Cmd) :
    AddressedExactly info c ↔ ¬ Misaddressed c := by
  refine ⟨fun h hmis => ?_, addressedExactly_of_not_misaddressed⟩
  -- either way the command is accepted in the state in which nothing but it has arrived
  have hpending := Pending.init info c
  cases hmis with
  | truncated hcmd hep hlow =>
    have hstd := isStandard_of_pos (lt_of_lt_of_le (by decide) hep)
    have hidx : epIdxOf c = some ⟨c.ep.toNat % 256, hlow⟩ := epIdxOf_eq_some_iff.mpr rfl
    have hcmd' : c.command = usbipCmdSubmit ∨ c.command = usbipCmdUnlink :=
      hcmd.symm.imp_left And.left
    exact hpending.readSection_threw_iff.mp (h.rejected hcmd' hep _ _ hpending)
      (exists_handled info _ hidx hstd hcmd)
  | unfed hc hdir hlow hep =>
    have hstd := isStandard_of_pos (lt_of_lt_of_le (by decide) hlow)
    have hidx : epIdxOf c = some ⟨c.ep.toNat % 256, by omega⟩ := epIdxOf_eq_some_iff.mpr rfl
    obtain ⟨d', x, hh⟩ := exists_handled info _ hidx hstd (Or.inr ⟨hc, Or.inl hdir⟩)
    obtain ⟨e, he, -, ep, -, hwrite⟩ := h.queued hc hdir hstd _ _ _ _ _ hpending
      (hpending.step_of_handled hh)
    -- but `write()` masks its address with four bits
    have hlt := writeIdx_lt ep
    rw [hwrite] at hlt
    omega

/-- An OUT SUBMIT for endpoint 256. -/
def truncatedSubmit : Cmd := .submit 1 usbipDirOut 256 0

/-- It yields an `Xfer` for endpoint 0 without a setup request. -/
theorem not_addressedExactly :
    (readSection .minimal { cmds := [truncatedSubmit] }).1 = .xfer { ep := 0 } ∧
      ¬ AddressedExactly .minimal truncatedSubmit := by
  constructor
  · decide
  · intro h
    have hep := (h.xfer _ _ _ _ _ (Pending.init _ _) rfl rfl).1
    exact absurd hep (by decide)

end VirtualUSB
