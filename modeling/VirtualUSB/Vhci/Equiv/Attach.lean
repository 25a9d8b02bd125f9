import VirtualUSB.Vhci.Equiv.Driver
import VirtualUSB.Vhci.Start
import VirtualUSB.Vhci.StatusTable

/-!
# Does the loop of `start()` make progress?

It does not after `EBUSY`: nothing that the search for a free port looks at has changed, so the next
turn tries the same port again.

* `attachLoop_spec`: all turns make the same attempt, and the loop ends with the first answer that
  is not `EBUSY`.
* `attachLoop_endless`: if the answer stays `EBUSY` the loop never ends.
* `attachLoop_attached_iff`: when a loop that ends has attached the device.
* `cutsPort_iff`: when the number of the port that is found is not the one it stands for.
* `makesProgress_iff`: a port that was busy is tried again exactly if the first answer is `EBUSY`.
  A device of the speed `USB_SPEED_SUPER_PLUS` is attached to a high-speed port, and a port whose
  number has more than eight bits is mistaken for another one, so there the loop can also end in the
  wrong way.
-/

namespace VirtualUSB

variable {d : Driver} {sockfd : ℤ} {speed : UInt32} {kernel : ℕ → Attach → AttachAnswer}
  {turns k : ℕ}

/-! ### The turns of the loop -/

/-- The search fails exactly if no entry qualifies. -/
theorem usbipVhciGetFreePort_lt_zero_iff :
    usbipVhciGetFreePort d speed < 0 ↔ d.freeEntry speed = none := by
  unfold usbipVhciGetFreePort
  cases d.freeEntry speed with
  | none => simp
  | some idev => simp

theorem not_usbipVhciGetFreePort_lt_zero {idev : ImportedDevice}
    (h : d.freeEntry speed = some idev) : ¬ usbipVhciGetFreePort d speed < 0 := by
  rw [usbipVhciGetFreePort_lt_zero_iff, h]
  simp

theorem usbipVhciGetFreePort_of_freeEntry {idev : ImportedDevice}
    (h : d.freeEntry speed = some idev) : usbipVhciGetFreePort d speed = idev.port.toNat := by
  rw [usbipVhciGetFreePort, h]

/-- The attempt is made on the port of the entry that was found. -/
theorem port_attempt {idev : ImportedDevice} (h : d.freeEntry speed = some idev) :
    (attempt d sockfd speed).port = idev.port := by
  show UInt8.ofInt (usbipVhciGetFreePort d speed) = idev.port
  apply UInt8.toNat_inj.mp
  rw [usbipVhciGetFreePort_of_freeEntry h, toNat_uint8_ofInt]
  exact Nat.mod_eq_of_lt idev.port.toNat_lt

theorem attachLoop_noPort (h : d.freeEntry speed = none) :
    attachLoop d sockfd speed kernel (turns + 1) k = (.noPort, []) := by
  rw [attachLoop, if_pos (usbipVhciGetFreePort_lt_zero_iff.mpr h)]

/-- The attempts of the loop up to its `n`-th turn, if all of them find the port busy. -/
def busyAttempts (d : Driver) (sockfd : ℤ) (speed : UInt32) (n : ℕ) : List StartEvent :=
  List.replicate n (.attempt (attempt d sockfd speed) (.failed ebusy))

/-- The ways in which `turns` turns of the loop can go if there is a free port. -/
inductive Turns (d : Driver) (sockfd : ℤ) (speed : UInt32) (kernel : ℕ → Attach → AttachAnswer)
    (turns k : ℕ) : LoopEnd × List StartEvent → Prop
  | running (hbusy : ∀ j < turns, kernel (k + j) (attempt d sockfd speed) = .failed ebusy) :
      Turns d sockfd speed kernel turns k (.running, busyAttempts d sockfd speed turns)
  | attached {n : ℕ} (hn : n < turns)
      (hbusy : ∀ j < n, kernel (k + j) (attempt d sockfd speed) = .failed ebusy)
      (hans : kernel (k + n) (attempt d sockfd speed) = .attached) :
      Turns d sockfd speed kernel turns k
        (.attached,
          busyAttempts d sockfd speed n ++ [.attempt (attempt d sockfd speed) .attached])
  | failed {n errno : ℕ} (hn : n < turns)
      (hbusy : ∀ j < n, kernel (k + j) (attempt d sockfd speed) = .failed ebusy)
      (hans : kernel (k + n) (attempt d sockfd speed) = .failed errno) (herrno : errno ≠ ebusy) :
      Turns d sockfd speed kernel turns k
        (.failed errno,
          busyAttempts d sockfd speed n ++ [.attempt (attempt d sockfd speed) (.failed errno)])

/-- One more turn in front that finds the port busy. -/
theorem Turns.cons {r : LoopEnd × List StartEvent}
    (hbusy : kernel k (attempt d sockfd speed) = .failed ebusy)
    (h : Turns d sockfd speed kernel turns (k + 1) r) :
    Turns d sockfd speed kernel (turns + 1) k
      (r.1, .attempt (attempt d sockfd speed) (.failed ebusy) :: r.2) := by
  have hall : ∀ n, (∀ j < n, kernel (k + 1 + j) (attempt d sockfd speed) = .failed ebusy) →
      ∀ j < n + 1, kernel (k + j) (attempt d sockfd speed) = .failed ebusy := by
    intro n hrest j hj
    cases j with
    | zero => exact hbusy
    | succ j =>
      rw [show k + (j + 1) = k + 1 + j by omega]
      exact hrest j (by omega)
  cases h with
  | running hrest => exact .running (hall _ hrest)
  | @attached n hn hrest hans =>
    rw [show k + 1 + n = k + (n + 1) by omega] at hans
    exact .attached (by omega) (hall _ hrest) hans
  | @failed n errno hn hrest hans herrno =>
    rw [show k + 1 + n = k + (n + 1) by omega] at hans
    exact .failed (by omega) (hall _ hrest) hans herrno

/-- **All turns make the same attempt**, and the loop ends with the first answer that is not
`EBUSY`. -/
theorem attachLoop_spec {idev : ImportedDevice} (h : d.freeEntry speed = some idev) (sockfd : ℤ)
    (kernel : ℕ → Attach → AttachAnswer) (turns k : ℕ) :
    Turns d sockfd speed kernel turns k (attachLoop d sockfd speed kernel turns k) := by
  have hport := not_usbipVhciGetFreePort_lt_zero h
  induction turns generalizing k with
  | zero => exact .running fun j hj => absurd hj (Nat.not_lt_zero j)
  | succ turns ih =>
    rw [attachLoop, if_neg hport]
    dsimp only
    split
    · rename_i hans
      exact .attached (n := 0) (by omega) (fun j hj => absurd hj (Nat.not_lt_zero j)) hans
    · rename_i errno hans
      split_ifs with herrno
      · subst herrno
        exact (ih (k + 1)).cons hans
      · exact .failed (n := 0) (by omega) (fun j hj => absurd hj (Nat.not_lt_zero j)) hans herrno

/-- **The loop does not end** while the kernel answers `EBUSY`. -/
theorem attachLoop_endless {idev : ImportedDevice} (h : d.freeEntry speed = some idev)
    (hbusy : ∀ k, kernel k (attempt d sockfd speed) = .failed ebusy) (turns : ℕ) :
    attachLoop d sockfd speed kernel turns 0 = (.running, busyAttempts d sockfd speed turns) := by
  have hspec := attachLoop_spec h sockfd kernel turns 0
  generalize attachLoop d sockfd speed kernel turns 0 = r at hspec
  cases hspec with
  | running => rfl
  | attached hn _ hans =>
    rw [hbusy] at hans
    cases hans
  | failed hn _ hans herrno =>
    rw [hbusy] at hans
    exact absurd (AttachAnswer.failed.inj hans).symm herrno

/-- All attempts of the loop are the same one, on the port that was found. -/
theorem mem_attachLoop {ev : StartEvent}
    (h : ev ∈ (attachLoop d sockfd speed kernel turns k).2) :
    (∃ answer, ev = .attempt (attempt d sockfd speed) answer) ∧
      ∃ idev, d.freeEntry speed = some idev := by
  cases hfree : d.freeEntry speed with
  | none =>
    cases turns with
    | zero => exact (List.not_mem_nil h).elim
    | succ turns =>
      rw [attachLoop_noPort hfree] at h
      exact (List.not_mem_nil h).elim
  | some idev =>
    refine ⟨?_, idev, rfl⟩
    have hspec := attachLoop_spec hfree sockfd kernel turns k
    generalize attachLoop d sockfd speed kernel turns k = r at hspec h
    cases hspec with
    | running => exact ⟨_, List.eq_of_mem_replicate h⟩
    | attached =>
      rcases List.mem_append.mp h with h | h
      · exact ⟨_, List.eq_of_mem_replicate h⟩
      · exact ⟨_, List.mem_singleton.mp h⟩
    | failed =>
      rcases List.mem_append.mp h with h | h
      · exact ⟨_, List.eq_of_mem_replicate h⟩
      · exact ⟨_, List.mem_singleton.mp h⟩

/-- The first turn makes an attempt if a port is found. -/
theorem exists_attempt {idev : ImportedDevice} (hfree : d.freeEntry speed = some idev)
    (sockfd : ℤ) (kernel : ℕ → Attach → AttachAnswer) :
    ∃ answer, .attempt (attempt d sockfd speed) answer
      ∈ (attachLoop d sockfd speed kernel 1 0).2 := by
  refine ⟨kernel 0 (attempt d sockfd speed), ?_⟩
  rw [attachLoop, if_neg (not_usbipVhciGetFreePort_lt_zero hfree)]
  dsimp only
  split
  · rename_i hans
    rw [hans]
    exact List.mem_singleton_self _
  · rename_i errno hans
    rw [hans]
    split_ifs <;> exact List.mem_cons_self

/-- The kernel accepts the device with its first answer that is not `EBUSY`. -/
def Accepts (kernel : ℕ → Attach → AttachAnswer) (a : Attach) : Prop :=
  ∃ k, kernel k a = .attached ∧ ∀ j < k, kernel j a = .failed ebusy

/-- A loop that ends has attached the device exactly if there is a free port and the kernel accepts
the device. -/
theorem attachLoop_attached_iff {stop : LoopEnd} {log : List StartEvent}
    (h : attachLoop d sockfd speed kernel turns 0 = (stop, log)) (hstop : stop ≠ .running) :
    stop = .attached ↔ d.freeEntry speed ≠ none ∧ Accepts kernel (attempt d sockfd speed) := by
  cases hfree : d.freeEntry speed with
  | none =>
    cases turns with
    | zero =>
      obtain ⟨rfl, -⟩ := Prod.ext_iff.mp h
      exact (hstop rfl).elim
    | succ turns =>
      rw [attachLoop_noPort hfree] at h
      obtain ⟨rfl, -⟩ := Prod.ext_iff.mp h
      simp
  | some idev =>
    have hspec := attachLoop_spec hfree sockfd kernel turns 0
    rw [h] at hspec
    cases hspec with
    | running => exact (hstop rfl).elim
    | @attached n hn hbusy hans =>
      rw [Nat.zero_add] at hans
      refine iff_of_true rfl ⟨by simp, n, hans, fun j hj => ?_⟩
      rw [← hbusy j hj, Nat.zero_add]
    | @failed n errno hn hbusy hans herrno =>
      rw [Nat.zero_add] at hans
      refine iff_of_false (by simp) ?_
      rintro ⟨-, k, hattached, hbefore⟩
      -- both `k` and `n` are the first turn that does not find the port busy
      rcases Nat.lt_trichotomy k n with hlt | rfl | hgt
      · have hbusy' := hbusy k hlt
        rw [Nat.zero_add, hattached] at hbusy'
        cases hbusy'
      · rw [hattached] at hans
        cases hans
      · rw [hbefore n hgt] at hans
        exact herrno (AttachAnswer.failed.inj hans).symm

/-! ### Progress -/

/-- The entry is that of a free port of the hub. -/
def ImportedDevice.Free (idev : ImportedDevice) (hub : HubSpeed) : Prop :=
  idev.hub = hub ∧ idev.status = UsbipStatus.vdevStNull

/-- Between two attempts on a port of which the first found it busy, the list was read again and
shows it free. -/
def NoBlindRetry (log : List StartEvent) : Prop :=
  ∀ l₁ l₂ l₃ a a' answer,
    log = l₁ ++ .attempt a (.failed ebusy) :: (l₂ ++ .attempt a' answer :: l₃) →
    a'.port = a.port →
    ∃ d, .listed d ∈ l₂ ∧ ∃ idev ∈ d.idev, idev.port = a.port ∧
      idev.status = UsbipStatus.vdevStNull

/-- The kernel that answers `EBUSY` for the ports taken since the list was read, and accepts the
others. -/
def takenKernel (taken : ℕ → Bool) (_ : ℕ) (a : Attach) : AttachAnswer :=
  if taken a.port.toNat then .failed ebusy else .attached

/-- The numbers of the free ports on a hub. -/
def Driver.freePorts (d : Driver) (hub : HubSpeed) : Set ℕ :=
  {p | ∃ idev, d.idev[p]? = some idev ∧ idev.Free hub}

def attemptsOf (log : List StartEvent) : List Attach :=
  log.filterMap fun
    | .attempt a _ => some a
    | .listed _ => none

/-- The loop ends after at most as many attempts as there are ports, attached if a port of the hub
that carries the speed is free and failing otherwise. -/
def EndsAgainst (d : Driver) (sockfd : ℤ) (speed : UInt32) (taken : ℕ → Bool) : Prop :=
  ∃ turns stop log, attachLoop d sockfd speed (takenKernel taken) turns 0 = (stop, log) ∧
    stop ≠ .running ∧ (attemptsOf log).length ≤ d.nports ∧
    (stop = .attached ↔ ∃ p ∈ d.freePorts (hubOfClass speed), taken p = false)

/-- A port that was busy is not attempted again before the list was read again; so the loop ends if
the kernel refuses only the ports taken since the list was read. -/
def MakesProgress (d : Driver) (sockfd : ℤ) (speed : UInt32)
    (kernel : ℕ → Attach → AttachAnswer) : Prop :=
  (∀ turns, NoBlindRetry (attachLoop d sockfd speed kernel turns 0).2) ∧
    ∀ taken, kernel = takenKernel taken → EndsAgainst d sockfd speed taken

/-- A log with one event at most has no second attempt. -/
theorem noBlindRetry_of_length_le {log : List StartEvent} (h : log.length ≤ 1) :
    NoBlindRetry log := by
  rintro l₁ l₂ l₃ a a' answer rfl -
  simp only [List.length_append, List.length_cons] at h
  omega

/-- After `EBUSY` the next turn is blind. -/
theorem not_noBlindRetry_of_busy {idev : ImportedDevice} (h : d.freeEntry speed = some idev)
    (hbusy : kernel 0 (attempt d sockfd speed) = .failed ebusy) :
    ¬ NoBlindRetry (attachLoop d sockfd speed kernel 2 0).2 := by
  intro hno
  have hport := not_usbipVhciGetFreePort_lt_zero h
  have hlog : ∃ answer, (attachLoop d sockfd speed kernel 2 0).2
      = [.attempt (attempt d sockfd speed) (.failed ebusy),
        .attempt (attempt d sockfd speed) answer] := by
    refine ⟨kernel 1 (attempt d sockfd speed), ?_⟩
    rw [attachLoop, if_neg hport]
    simp only [hbusy, if_true]
    rw [attachLoop, if_neg hport]
    simp only [Nat.zero_add]
    cases hans : kernel 1 (attempt d sockfd speed) with
    | attached => rfl
    | failed errno =>
      simp only [attachLoop]
      split_ifs <;> rfl
  obtain ⟨answer, hlog⟩ := hlog
  obtain ⟨d', hmem, -⟩ := hno [] [] [] _ _ answer hlog rfl
  exact List.not_mem_nil hmem

/-- The search finds a free entry of the hub on which it looks, if there is one. -/
theorem freeEntry_free {idev : ImportedDevice} (h : d.freeEntry speed = some idev) :
    idev ∈ d.idev ∧ idev.Free (hubOfSpeed speed) := by
  have hfound := List.find?_some h
  rw [decide_eq_true_eq] at hfound
  exact ⟨List.mem_of_find?_eq_some h, hfound⟩

/-- **The search finds the free port with the smallest number** on the hub on which it looks. -/
theorem freeEntry_eq_some_iff {idev : ImportedDevice} :
    d.freeEntry speed = some idev ↔
      ∃ p, IsLeast (d.freePorts (hubOfSpeed speed)) p ∧ d.idev[p]? = some idev := by
  rw [Driver.freeEntry, List.find?_eq_some_iff_getElem]
  constructor
  · rintro ⟨hfree, p, hp, rfl, hbefore⟩
    rw [decide_eq_true_eq] at hfree
    refine ⟨p, ⟨⟨_, List.getElem?_eq_getElem hp, hfree⟩, ?_⟩, List.getElem?_eq_getElem hp⟩
    rintro q ⟨idev', hq, hfree'⟩
    by_contra hlt
    obtain ⟨hq', rfl⟩ := List.getElem?_eq_some_iff.mp hq
    have hnot := hbefore q (not_le.mp hlt)
    rw [Bool.not_eq_true', decide_eq_false_iff_not] at hnot
    exact hnot hfree'
  · rintro ⟨p, ⟨⟨idev', hp', hfree⟩, hleast⟩, hp⟩
    obtain rfl := Option.some.inj (hp'.symm.trans hp)
    obtain ⟨hlt, rfl⟩ := List.getElem?_eq_some_iff.mp hp
    refine ⟨decide_eq_true hfree, p, hlt, rfl, fun q hq => ?_⟩
    by_contra hfound
    have hfree' : d.idev[q].Free (hubOfSpeed speed) := by
      simpa [ImportedDevice.Free] using hfound
    exact absurd (hleast ⟨_, List.getElem?_eq_getElem (hq.trans hlt), hfree'⟩) (not_le.mpr hq)

theorem freeEntry_eq_none_iff :
    d.freeEntry speed = none ↔ ∀ idev ∈ d.idev, ¬ idev.Free (hubOfSpeed speed) := by
  simp [Driver.freeEntry, ImportedDevice.Free]

theorem freeEntry_ne_none_iff :
    d.freeEntry speed ≠ none ↔ (d.freePorts (hubOfSpeed speed)).Nonempty := by
  rw [ne_eq, freeEntry_eq_none_iff]
  push Not
  constructor
  · rintro ⟨idev, hmem, hfree⟩
    obtain ⟨p, hp⟩ := List.getElem?_of_mem hmem
    exact ⟨p, idev, hp, hfree⟩
  · rintro ⟨p, idev, hp, hfree⟩
    exact ⟨idev, List.mem_of_getElem? hp, hfree⟩

/-- The first attempt, if there is one, is not answered with `EBUSY`. -/
def FirstNotBusy (d : Driver) (sockfd : ℤ) (speed : UInt32)
    (kernel : ℕ → Attach → AttachAnswer) : Prop :=
  d.freeEntry speed = none ∨ kernel 0 (attempt d sockfd speed) ≠ .failed ebusy

/-- Then no port is tried twice. -/
theorem noBlindRetry_of_firstNotBusy (h : FirstNotBusy d sockfd speed kernel) (turns : ℕ) :
    NoBlindRetry (attachLoop d sockfd speed kernel turns 0).2 := by
  cases hfree : d.freeEntry speed with
  | none =>
    cases turns with
    | zero => exact noBlindRetry_of_length_le (by simp [attachLoop])
    | succ turns => exact noBlindRetry_of_length_le (by simp [attachLoop_noPort hfree])
  | some idev =>
    have hans := h.resolve_left (by rw [hfree]; simp)
    -- no turn can find the port busy before the last one
    have hzero : ∀ {n}, (∀ j < n, kernel (0 + j) (attempt d sockfd speed) = .failed ebusy) →
        n = 0 := by
      intro n hbusy
      by_contra hpos
      exact hans (hbusy 0 (Nat.pos_of_ne_zero hpos))
    apply noBlindRetry_of_length_le
    have hspec := attachLoop_spec hfree sockfd kernel turns 0
    generalize attachLoop d sockfd speed kernel turns 0 = r at hspec
    cases hspec with
    | running hbusy => simp [busyAttempts, hzero hbusy]
    | attached _ hbusy => simp [busyAttempts, hzero hbusy]
    | failed _ hbusy => simp [busyAttempts, hzero hbusy]

/-- The number handed over is not that of a port that was taken. -/
theorem FirstNotBusy.not_taken {taken : ℕ → Bool}
    (h : FirstNotBusy d sockfd speed (takenKernel taken)) {idev : ImportedDevice}
    (hfree : d.freeEntry speed = some idev) : taken idev.port.toNat = false := by
  have hans := h.resolve_left (by rw [hfree]; simp)
  rw [takenKernel, port_attempt hfree] at hans
  by_contra htaken
  rw [if_pos (by simpa using htaken)] at hans
  exact hans rfl

/-- The loop ends in its first turn, attached if the search found a port. -/
theorem attachLoop_one {taken : ℕ → Bool}
    (h : FirstNotBusy d sockfd speed (takenKernel taken)) :
    ∃ stop log, attachLoop d sockfd speed (takenKernel taken) 1 0 = (stop, log) ∧
      stop ≠ .running ∧ (attemptsOf log).length ≤ d.nports ∧
      (stop = .attached ↔ d.freeEntry speed ≠ none) := by
  cases hfree : d.freeEntry speed with
  | none => exact ⟨.noPort, [], attachLoop_noPort hfree, by simp, by simp [attemptsOf], by simp⟩
  | some idev =>
    have hans : takenKernel taken 0 (attempt d sockfd speed) = .attached := by
      rw [takenKernel, port_attempt hfree, h.not_taken hfree]
      rfl
    refine ⟨.attached, [.attempt (attempt d sockfd speed) .attached], ?_, by simp, ?_, by simp⟩
    · rw [attachLoop, if_neg (not_usbipVhciGetFreePort_lt_zero hfree)]
      simp only [hans]
    · show 1 ≤ d.idev.length
      exact List.length_pos_of_mem (freeEntry_free hfree).1

/-- The search finds a port exactly if there is a free port of the right hub that was not taken
since. -/
def FindsSuitable (d : Driver) (speed : UInt32) (taken : ℕ → Bool) : Prop :=
  (d.freePorts (hubOfSpeed speed)).Nonempty ↔
    ∃ p ∈ d.freePorts (hubOfClass speed), taken p = false

/-- Whether the loop ends as it should is a question of what the search finds. -/
theorem endsAgainst_iff {taken : ℕ → Bool}
    (h : FirstNotBusy d sockfd speed (takenKernel taken)) :
    EndsAgainst d sockfd speed taken ↔ FindsSuitable d speed taken := by
  obtain ⟨stop, log, hloop, hstop, hlen, hattached⟩ := attachLoop_one h
  rw [freeEntry_ne_none_iff] at hattached
  constructor
  · rintro ⟨turns, stop', log', hloop', hstop', -, hattached'⟩
    -- all ends of the loop are the same one
    rw [FindsSuitable, ← hattached, attachLoop_attached_iff hloop hstop,
      ← attachLoop_attached_iff hloop' hstop', hattached']
  · intro hfinds
    exact ⟨1, stop, log, hloop, hstop, hlen, hattached.trans hfinds⟩

/-- The number of the port that the search finds is not the one it stands for. -/
def Driver.CutsPort (d : Driver) (speed : UInt32) : Prop :=
  ∃ p idev, IsLeast (d.freePorts (hubOfSpeed speed)) p ∧ d.idev[p]? = some idev ∧
    idev.port.toNat ≠ p

/-- In a list that was read this is so exactly if the number has more than eight bits. -/
theorem cutsPort_iff {u : Udev} {lib lib' : Lib}
    (h : usbipVhciDriverOpen u lib = some (true, lib')) (hd : lib'.vhciDriver = some d) :
    d.CutsPort speed ↔ ∃ p, 2 ^ 8 ≤ p ∧ IsLeast (d.freePorts (hubOfSpeed speed)) p := by
  have hnum := driverOpen_numbered h hd
  constructor
  · rintro ⟨p, idev, hp, hidev, hne⟩
    obtain ⟨idev', hidev', hfree⟩ := hp.1
    obtain rfl := Option.some.inj (hidev.symm.trans hidev')
    refine ⟨p, ?_, hp⟩
    by_contra hlt
    exact hne ((hnum p idev hidev hfree.2).trans (Nat.mod_eq_of_lt (not_le.mp hlt)))
  · rintro ⟨p, hle, hp⟩
    obtain ⟨idev, hidev, -⟩ := hp.1
    refine ⟨p, idev, hp, hidev, fun heq => ?_⟩
    have hlt := idev.port.toNat_lt
    omega

/-- Otherwise the search finds the right ports. -/
theorem findsSuitable_of_not {taken : ℕ → Bool}
    (h : FirstNotBusy d sockfd speed (takenKernel taken))
    (hok : ¬ (speed = Speed.superPlus ∨ d.CutsPort speed)) : FindsSuitable d speed taken := by
  rw [not_or] at hok
  rw [FindsSuitable, hubOfClass_of_ne hok.1]
  constructor
  · intro hne
    obtain ⟨idev, hfree⟩ := Option.ne_none_iff_exists'.mp (freeEntry_ne_none_iff.mpr hne)
    obtain ⟨p, hp, hidev⟩ := freeEntry_eq_some_iff.mp hfree
    have hport : idev.port.toNat = p := by
      by_contra hcut
      exact hok.2 ⟨p, idev, hp, hidev, hcut⟩
    exact ⟨p, hp.1, hport ▸ h.not_taken hfree⟩
  · rintro ⟨p, hp, -⟩
    exact ⟨p, hp⟩

/-- **The exact condition**: the first answer of the kernel, if the list has a port for an attempt,
is not `EBUSY`; and if the speed is `USB_SPEED_SUPER_PLUS` or the number of the port found was cut,
and the kernel refuses the ports taken since, the search finds a port exactly if a suitable one is
free. -/
theorem makesProgress_iff (d : Driver) (sockfd : ℤ) (speed : UInt32)
    (kernel : ℕ → Attach → AttachAnswer) :
    MakesProgress d sockfd speed kernel ↔
      FirstNotBusy d sockfd speed kernel ∧
        (speed = Speed.superPlus ∨ d.CutsPort speed →
          ∀ taken, kernel = takenKernel taken → FindsSuitable d speed taken) := by
  constructor
  · rintro ⟨hno, hends⟩
    have hfirst : FirstNotBusy d sockfd speed kernel := by
      by_contra hbusy
      rw [FirstNotBusy, not_or, not_ne_iff] at hbusy
      obtain ⟨idev, hidev⟩ := Option.ne_none_iff_exists'.mp hbusy.1
      exact not_noBlindRetry_of_busy hidev hbusy.2 (hno 2)
    refine ⟨hfirst, ?_⟩
    rintro - taken rfl
    exact (endsAgainst_iff hfirst).mp (hends taken rfl)
  · rintro ⟨hfirst, hfinds⟩
    refine ⟨noBlindRetry_of_firstNotBusy hfirst, ?_⟩
    rintro taken rfl
    rw [endsAgainst_iff hfirst]
    by_cases hwrong : speed = Speed.superPlus ∨ d.CutsPort speed
    · exact hfinds hwrong taken rfl
    · exact findsSuitable_of_not hfirst hwrong

/-- Two free ports of which the first one was taken since the list was read. -/
def racedDriver : Driver where
  hcDevice := 1
  ncontrollers := 1
  idev := [{ port := 0, status := UsbipStatus.vdevStNull },
    { port := 1, status := UsbipStatus.vdevStNull }]

/-- The loop attempts the port 0 again and again; the port 1 is never tried. -/
theorem not_makesProgress :
    ¬ MakesProgress racedDriver 4 Speed.high (takenKernel fun port => port == 0) ∧
      ∀ turns, attachLoop racedDriver 4 Speed.high (takenKernel fun port => port == 0) turns 0
        = (.running, busyAttempts racedDriver 4 Speed.high turns) := by
  have hfree : racedDriver.freeEntry Speed.high
      = some { port := 0, status := UsbipStatus.vdevStNull } := by decide
  refine ⟨?_, attachLoop_endless hfree fun _ => rfl⟩
  rintro ⟨hno, -⟩
  exact not_noBlindRetry_of_busy hfree rfl (hno 2)

end VirtualUSB
