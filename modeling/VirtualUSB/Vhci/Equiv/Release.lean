import VirtualUSB.Threads.Equiv.Calls
import VirtualUSB.Threads.Equiv.Shutdown
import VirtualUSB.Vhci.Equiv.Ports
import VirtualUSB.Vhci.Equiv.Start

/-!
# Does `start()` release what it acquired?

Not on all exits: the driver is closed only once the device is attached, and the thread bits are
set before the threads are created, so that `_reset` waits for threads that do not exist.

* `Sys.Stuck`: the call waits for a writer thread that was not created; no step changes that.
* `releasesAll_iff`: `start()` returns and has released everything exactly if all goes well from
  the search for a port on.
-/

namespace VirtualUSB

open LabelledSystem

variable {info : Info} {w : StartEnv} {turns t : ℕ} {s s' : Sys} {lib lib' : Lib} {r : StartTry}
  {p p' q : Process} {evs os : List SysEvent} {is : List ProcessAction}

/-! ### What is to be released -/

/-- The descriptors that `start()` gets from `socketpair`, if it gets so far. -/
def openedSockets (info : Info) (w : StartEnv) : Option (ℕ × ℕ) :=
  match speedFromBCDUSB (bcdDevice info.deviceDesc), w.sockets with
  | .ok _, .ok fds => some fds
  | _, _ => none

/-- The states in which a call of `start()` returns or throws, if the step that leaves its `try`
block leads to `p` and has the events `evs`: in this step, or later, after a wait in `_reset`. -/
inductive Returns (info : Info) (t : ℕ) (p : Process) (evs : List SysEvent) : Process → Prop
  | atOnce {result : CallResult} (hret : .returned t .start result ∈ evs) : Returns info t p evs p
  | later {is : List ProcessAction} {q q' : Process} {os os' : List SysEvent} {a : ProcessAction}
      {result : CallResult} (hwait : ∀ result, .returned t .start result ∉ evs)
      (hrun : (process info).RunFrom p is q os)
      (hwait' : ∀ result, .returned t .start result ∉ os) (hs : q.step info a = some (q', os'))
      (hret : .returned t .start result ∈ os') : Returns info t p evs q'

/-- What `start()` leaves behind: `opened` are the descriptors it got, `stop` is how its `try` block
ended. -/
structure StartReleases (opened : Option (ℕ × ℕ)) (stop : TryEnd) (p : Process) : Prop where
  driver : p.lib.vhciDriver = none
  udev : ∀ o < p.lib.ledger.obtained, p.lib.ledger.released.count o = 1
  usbipSocket : p.sys.usbipSocket = -1
  usbipClosed : ∀ a b, opened = some (a, b) → p.sys.closed.count (b : ℤ) = 1
  threw : ∀ e, stop = .threw e →
    p.sys.socket = -1 ∧ (∀ a b, opened = some (a, b) → p.sys.closed.count (a : ℤ) = 1) ∧
      p.sys.reader.stage.active = false ∧ p.sys.writer.stage.active = false ∧
      p.sys.dev.err = some e
  done : stop = .done →
    ∃ a b, opened = some (a, b) ∧ p.sys.socket = a ∧ (a : ℤ) ∉ p.sys.closed ∧
      p.sys.dev.err = none ∧
      p.sys.flags = { started := true, readThreadRunning := true, writeThreadRunning := true }

/-- `start()` does not block on itself, and when it returns it has released what it acquired. -/
def ReleasesAll (info : Info) (t : ℕ) (opened : Option (ℕ × ℕ)) (stop : TryEnd) (p : Process)
    (evs : List SysEvent) : Prop :=
  (∃ q, Returns info t p evs q) ∧ ∀ q, Returns info t p evs q → StartReleases opened stop q

/-- If `start()` gets to its loop, all goes well from there on: there is a free port, the kernel
accepts the device, and both threads are created. -/
def GoesWell (info : Info) (w : StartEnv) (lib : Lib) : Prop :=
  ∀ speed a b d lib', ReachesLoop info w lib speed a b d lib' →
    (d.freeEntry speed ≠ none ∧ Accepts w.kernel (attempt d b speed)) ∧
      w.readThread = none ∧ w.writeThread = none

/-- The loop is reached in one way only. -/
theorem ReachesLoop.goesWell_iff {speed : UInt32} {a b : ℕ} {d : Driver}
    (hr : ReachesLoop info w lib speed a b d lib') :
    GoesWell info w lib ↔
      (d.freeEntry speed ≠ none ∧ Accepts w.kernel (attempt d b speed)) ∧
        w.readThread = none ∧ w.writeThread = none := by
  constructor
  · intro h
    exact h _ _ _ _ _ hr
  · rintro h speed' a' b' d' lib'' hr'
    obtain rfl : speed = speed' := Except.ok.inj (hr.speed.symm.trans hr'.speed)
    obtain ⟨rfl, rfl⟩ : a = a' ∧ b = b' := by simpa using hr.sockets.symm.trans hr'.sockets
    obtain rfl : lib' = lib'' := by simpa using hr.opens.symm.trans hr'.opens
    obtain rfl : d = d' := by simpa using hr.driver.symm.trans hr'.driver
    exact h

/-- A call that returns in the step returns nowhere else. -/
theorem Returns.eq_of_mem {result : CallResult} (h : Returns info t p evs q)
    (hret : .returned t .start result ∈ evs) : q = p := by
  cases h with
  | atOnce => rfl
  | later hwait => exact (hwait _ hret).elim

/-- What is to be shown of a call that returns in the step. -/
theorem releasesAll_of_mem {opened : Option (ℕ × ℕ)} {stop : TryEnd} {result : CallResult}
    (hret : .returned t .start result ∈ evs) :
    ReleasesAll info t opened stop p evs ↔ StartReleases opened stop p := by
  constructor
  · rintro ⟨-, h⟩
    exact h p (.atOnce hret)
  · intro h
    refine ⟨⟨p, .atOnce hret⟩, fun q hq => ?_⟩
    rwa [hq.eq_of_mem hret]

/-! ### Waiting for a thread that does not exist -/

/-- A client thread waits in the `_reset` of its `start()` for a writer thread that was not
created. -/
structure Sys.Stuck (s : Sys) (t : ℕ) : Prop where
  started : s.flags.started = true
  running : s.flags.writeThreadRunning = true
  writer : s.writer = .notLaunched
  client : s.clients t = .resetting .start

/-- A client thread in the wait loop of `_reset` stays there while the bit of a thread is set. -/
theorem ClientStep.stuck (h : ClientStep info s t s' evs) (hst : s.Stuck t) :
    s'.clients t = .resetting .start ∧ evs = [] := by
  obtain ⟨finished, s₁, hl, rfl, rfl⟩ := h.of_resetting hst.client
  have hrun : s.running = true := by rw [Sys.running, hst.running, Bool.or_true]
  cases hl with
  | waits =>
    rw [Sys.afterReset_fst, Sys.afterReset_snd, Sys.setClient_self]
    exact ⟨rfl, rfl⟩
  | closes hrun' => exact absurd (hrun.symm.trans hrun') (by simp)

/-- Whatever step is taken, the client thread stays in the wait loop and its call does not
return. -/
theorem SysStep.stuck_client {a : Action} (h : SysStep info s a s' evs) (hst : s.Stuck t) :
    s'.clients t = .resetting .start ∧ ∀ call result, .returned t call result ∉ evs := by
  have hne : ∀ {t' : ℕ} {pc : ClientPc}, s.clients t' = pc → pc ≠ .resetting .start → t ≠ t' := by
    rintro t' pc hpc hpc' rfl
    exact hpc' (hpc.symm.trans hst.client)
  cases h with
  | call call hpc => exact ⟨(Sys.setClient_of_ne (hne hpc (by simp)) _).trans hst.client, by simp⟩
  | @client t' _ _ hawake h =>
    by_cases heq : t = t'
    · subst heq
      obtain ⟨hclient, rfl⟩ := h.stuck hst
      exact ⟨hclient, by simp⟩
    · exact ⟨(h.clients_of_ne heq).trans hst.client, fun _ _ hmem => heq (h.returned hmem).1⟩
  | start hpc hidle =>
    have hstarted := hst.started
    rw [hidle] at hstarted
    cases hstarted
  | timeout hpc =>
    have hne' := hne hpc (by simp)
    exact ⟨(Sys.setClient_of_ne hne' _).trans hst.client, by simp [hne']⟩
  | wake => exact ⟨hst.client, by simp⟩
  | reader hawake h =>
    refine ⟨by rw [h.clients_eq, hst.client], fun call result hmem => ?_⟩
    cases h with
    | fails hpc hr => exact hr.not_returned hmem
    | _ => simp at hmem
  | recv h => cases h <;> exact ⟨hst.client, by simp⟩
  | writer hawake h =>
    have hactive := h.active
    rw [hst.writer] at hactive
    cases hactive
  | send h => cases h <;> exact ⟨hst.client, by simp⟩

/-- **No step changes that the call waits.** -/
theorem SysStep.stuck {a : Action} (h : SysStep info s a s' evs) (hst : s.Stuck t) :
    s'.Stuck t := by
  have hexit : s.writer ≠ .exiting := by simp [hst.writer]
  refine ⟨h.started hst.started, ?_, ?_, (h.stuck_client hst).1⟩
  · exact h.bits (P := fun fl => fl.writeThreadRunning = true) (by simp) (fun _ h => h)
      (fun _ _ h => h) (fun hexit' => (hexit hexit').elim) hst.running
  · rcases h.writer_cases with ⟨hpc | ⟨hidle, -⟩, -⟩ | ⟨-, h⟩ | ⟨r, -, h⟩
    · rw [hpc, hst.writer]
    · have hstarted := hst.started
      rw [hidle] at hstarted
      cases hstarted
    · have hactive := h.active
      rw [hst.writer] at hactive
      cases hactive
    · obtain ⟨fd, pc, hsend, -⟩ := h.works
      rw [hst.writer] at hsend
      cases hsend

/-- The call never returns. -/
theorem Sys.Stuck.not_returns (hst : p.sys.Stuck t) (hwf : p.sys.dev.Wf)
    (hwait : ∀ result, .returned t .start result ∉ evs) : ¬ Returns info t p evs q := by
  have hstep : ∀ {q q' : Process} {a : ProcessAction} {os : List SysEvent},
      q.sys.dev.Wf ∧ q.sys.Stuck t → q.step info a = some (q', os) →
      (q'.sys.dev.Wf ∧ q'.sys.Stuck t) ∧ ∀ call result, .returned t call result ∉ os := by
    rintro q q' a os ⟨hwf, hst⟩ hs
    obtain ⟨act, hact⟩ := process_step_sys hs
    have hspec := sysStep_spec hwf hact
    exact ⟨⟨hspec.wf hwf, hspec.stuck hst⟩, (hspec.stuck_client hst).2⟩
  intro h
  cases h with
  | atOnce hret => exact hwait _ hret
  | later _ hrun _ hs hret =>
    have hinv := hrun.state_invariant (P := fun q => q.sys.dev.Wf ∧ q.sys.Stuck t) ⟨hwf, hst⟩
      fun q a q' os hq _ hs => (hstep hq hs).1
    exact (hstep hinv hs).2 _ _ hret

/-! ### The exits -/

/-- Nothing is in use. -/
structure Process.Idle (p : Process) : Prop where
  flags : p.sys.flags = {}
  socket : p.sys.socket = -1
  usbipSocket : p.sys.usbipSocket = -1
  closed : p.sys.closed = []
  reader : p.sys.reader = .notLaunched
  writer : p.sys.writer = .notLaunched
  err : p.sys.dev.err = none
  lib : p.lib = {}

/-- A device that is about to be started is idle. -/
theorem idle_of_run (h : (process info).Run is p os) (hflags : p.sys.flags = {}) : p.Idle := by
  obtain ⟨js, hrun⟩ := threads_run_of_process h
  have hstarted : p.sys.flags.started = false := by rw [hflags]
  obtain ⟨hr, hw, -, hsocket, husbip, hclosed⟩ := (life_of_run hrun).fresh hstarted
  have herr := err_isSome_of_run hrun
  rw [hflags] at herr
  exact ⟨hflags, hsocket, husbip, hclosed, ReaderPc.stage_off hr, WriterPc.stage_off hw,
    by simpa using herr, lib_of_run h hstarted⟩

/-- The two open descriptors are those of `opened`. -/
def Sys.HasSockets (s : Sys) : Option (ℕ × ℕ) → Prop
  | none => s.socket = -1 ∧ s.usbipSocket = -1
  | some (a, b) => s.socket = a ∧ s.usbipSocket = b ∧ a ≠ b

/-- Closing the sockets closes each of them once. -/
theorem Sys.HasSockets.close {opened : Option (ℕ × ℕ)} (h : s.HasSockets opened)
    (hclosed : s.closed = []) :
    s.closeSockets.socket = -1 ∧ s.closeSockets.usbipSocket = -1 ∧
      ∀ a b, opened = some (a, b) →
        s.closeSockets.closed.count (a : ℤ) = 1 ∧ s.closeSockets.closed.count (b : ℤ) = 1 := by
  cases opened with
  | none =>
    obtain ⟨hsocket, husbip⟩ := h
    refine ⟨?_, ?_, by simp⟩
    · simp [Sys.closeSockets, hsocket]
    · simp [Sys.closeSockets, husbip]
  | some fds =>
    obtain ⟨a, b⟩ := fds
    obtain ⟨hsocket, husbip, hne⟩ := h
    have hlist : s.closeSockets.closed = [(a : ℤ), (b : ℤ)] := by
      simp [Sys.closeSockets, Sys.openSockets, hsocket, husbip, hclosed]
    refine ⟨by simp [Sys.closeSockets, hsocket], by simp [Sys.closeSockets, husbip], ?_⟩
    rintro a' b' heq
    obtain ⟨rfl, rfl⟩ : a = a' ∧ b = b' := by simpa using heq
    rw [hlist]
    simp [hne, hne.symm]

/-- `start()` has not attached the device yet; it has the descriptors `opened`. -/
structure Sys.Early (s : Sys) (opened : Option (ℕ × ℕ)) : Prop where
  flags : s.flags = { started := true }
  sockets : s.HasSockets opened
  closed : s.closed = []
  reader : s.reader = .notLaunched
  writer : s.writer = .notLaunched
  err : s.dev.err = none

theorem Process.Idle.begun_flags (h : p.Idle) : p.sys.begun.flags = { started := true } := by
  rw [Sys.begun, h.flags]

theorem Process.Idle.early (h : p.Idle) : p.sys.begun.Early none :=
  ⟨h.begun_flags, ⟨h.socket, h.usbipSocket⟩, h.closed, h.reader, h.writer, h.err⟩

theorem Process.Idle.early_opened (h : p.Idle) {a b : ℕ} (hne : a ≠ b) :
    ({ p.sys.begun with socket := a, usbipSocket := b } : Sys).Early (some (a, b)) :=
  ⟨h.begun_flags, ⟨rfl, rfl, hne⟩, h.closed, h.reader, h.writer, h.err⟩

/-- **The exits before the device is attached**: `_reset` closes the sockets and returns, so what
matters is what has become of the driver. -/
theorem releasesAll_of_early {opened : Option (ℕ × ℕ)} {e : Err} (h : s.Early opened)
    (hleaves : (p'.sys, evs) = s.callReset info t .start e) :
    ReleasesAll info t opened (.threw e) p' evs ↔
      p'.lib.vhciDriver = none ∧
        ∀ o < p'.lib.ledger.obtained, p'.lib.ledger.released.count o = 1 := by
  have hreset : s.flags.reset = false := by rw [h.flags]
  have hrun : s.running = false := by rw [Sys.running, h.flags]; rfl
  rw [Sys.callReset_of_not_running hreset hrun] at hleaves
  obtain ⟨hsys, rfl⟩ := Prod.ext_iff.mp hleaves
  change p'.sys = _ at hsys
  rw [releasesAll_of_mem (List.mem_cons_of_mem _ (List.mem_singleton_self _))]
  have hfailed : (s.failed e).HasSockets opened := h.sockets
  obtain ⟨hsocket, husbip, hcount⟩ := hfailed.close h.closed
  constructor
  · intro hrel
    exact ⟨hrel.driver, hrel.udev⟩
  · rintro ⟨hdriver, hudev⟩
    refine ⟨hdriver, hudev, ?_, ?_, ?_, by simp⟩
    · rw [hsys]
      exact husbip
    · intro a b hopened
      rw [hsys]
      exact (hcount a b hopened).2
    · rintro e' heq
      obtain rfl := TryEnd.threw.inj heq
      rw [hsys]
      refine ⟨hsocket, fun a b hopened => (hcount a b hopened).1, ?_, ?_, ?_⟩
      · show s.reader.stage.active = false
        rw [h.reader]
        rfl
      · show s.writer.stage.active = false
        rw [h.writer]
        rfl
      · show (s.dev.fail e).err = some e
        simp [Dev.fail, h.err]

/-- **The exits with a thread that was not created**: `_reset` waits for it. -/
theorem not_releasesAll_of_waits {opened : Option (ℕ × ℕ)} {stop : TryEnd} {e : Err}
    (hwf : p'.sys.dev.Wf) (hreset : s.flags.reset = false) (hstarted : s.flags.started = true)
    (hbit : s.flags.writeThreadRunning = true) (hwriter : s.writer = .notLaunched)
    (hleaves : (p'.sys, evs) = s.callReset info t .start e) :
    ¬ ReleasesAll info t opened stop p' evs := by
  have hrun : s.running = true := by rw [Sys.running, hbit, Bool.or_true]
  rw [Sys.callReset_of_running hreset hrun] at hleaves
  obtain ⟨hsys, rfl⟩ := Prod.ext_iff.mp hleaves
  change p'.sys = _ at hsys
  have hst : p'.sys.Stuck t := by
    rw [hsys]
    exact ⟨hstarted, hbit, hwriter, Sys.setClient_self _ _⟩
  rintro ⟨⟨q, hq⟩, -⟩
  exact hst.not_returns hwf (by simp) hq

/-- **The exit at the end of the `try` block**: the threads run, and what matters is what has become
of the driver. -/
theorem releasesAll_of_attached (h : p.Idle) {a b : ℕ} (hne : a ≠ b)
    (hleaves : (p'.sys, evs) = ({ p.sys.begun.attached a b with
      reader := .launched, writer := .launched } : Sys).return_ t .start .done) :
    ReleasesAll info t (some (a, b)) .done p' evs ↔
      p'.lib.vhciDriver = none ∧
        ∀ o < p'.lib.ledger.obtained, p'.lib.ledger.released.count o = 1 := by
  obtain ⟨hsys, hevs⟩ := Prod.ext_iff.mp hleaves
  change p'.sys = _ at hsys
  change evs = [.returned t .start .done] at hevs
  subst hevs
  have hclosed : p'.sys.closed = [(b : ℤ)] := by
    rw [hsys]
    show (b : ℤ) :: p.sys.closed = [(b : ℤ)]
    rw [h.closed]
  rw [releasesAll_of_mem (List.mem_singleton_self _)]
  constructor
  · intro hrel
    exact ⟨hrel.driver, hrel.udev⟩
  · rintro ⟨hdriver, hudev⟩
    refine ⟨hdriver, hudev, by rw [hsys]; rfl, ?_, by simp, fun _ => ?_⟩
    · rintro a' b' heq
      obtain ⟨rfl, rfl⟩ : a = a' ∧ b = b' := by simpa using heq
      rw [hclosed, List.count_singleton_self]
    · refine ⟨a, b, rfl, by rw [hsys]; rfl, ?_, by rw [hsys]; exact h.err, ?_⟩
      · rw [hclosed, List.mem_singleton]
        exact_mod_cast hne
      · rw [hsys]
        show ({ p.sys.flags with
          started := true, readThreadRunning := true, writeThreadRunning := true } : Flags) = _
        rw [h.flags]

/-- A driver that was closed has released all that it obtained. -/
theorem driverClose_releases {u : Udev} (hopen : usbipVhciDriverOpen u {} = some (true, lib')) :
    (usbipVhciDriverClose lib').vhciDriver = none ∧
      ∀ o < (usbipVhciDriverClose lib').ledger.obtained,
        (usbipVhciDriverClose lib').ledger.released.count o = 1 := by
  obtain ⟨d, context, hd, hcontext, hholds⟩ := driverOpen_opened_holds hopen Ledger.holds_init
  obtain ⟨hnull, hnothing⟩ := driverClose_holds hd hcontext hholds
  exact ⟨hnull, fun o ho => hnothing.released_once ho⟩

theorem ReachesLoop.openedSockets_eq {speed : UInt32} {a b : ℕ} {d : Driver}
    (hr : ReachesLoop info w lib speed a b d lib') : openedSockets info w = some (a, b) := by
  rw [openedSockets, hr.speed, hr.sockets]

/-- Before the loop there is nothing that could go wrong in it. -/
theorem goesWell_of_not_reaches
    (h : ∀ speed a b d lib', ¬ ReachesLoop info w lib speed a b d lib') : GoesWell info w lib :=
  fun _ _ _ _ _ hr => (h _ _ _ _ _ hr).elim

/-- **The exact condition** under which `start()` returns and has released what it acquired, in
every state in which it is called. -/
theorem releasesAll_iff (hrun : (process info).Run is p os)
    (hs : p.step info (.start t w turns) = some (p', evs)) :
    ReleasesAll info t (openedSockets info w) (startTry info w turns p.sys.begun p.lib).stop p' evs
      ↔ GoesWell info w p.lib := by
  obtain ⟨-, hw, hflags, hleaves⟩ := process_start_spec hs
  have hidle := idle_of_run hrun hflags
  have hwf : p'.sys.dev.Wf := by
    have hstep : (process info).step p (.start t w turns) = some (p', evs) := hs
    obtain ⟨js, hjs⟩ := threads_run_of_process (hrun.snoc trivial hstep)
    exact (device_run hjs).2
  have hne : ∀ {a b : ℕ}, w.sockets = .ok (a, b) → a ≠ b := by
    intro a b hsockets
    simpa [StartEnv.distinct, hsockets] using hw
  have hspec := startTry_spec info w turns p.sys.begun p.lib
  generalize startTry info w turns p.sys.begun p.lib = r at hspec hleaves
  have hlib : p'.lib = r.lib := by cases hleaves <;> rfl
  cases hspec with
  | rejected hspeed =>
    have hopened : openedSockets info w = none := by rw [openedSockets, hspeed]
    rw [hopened, releasesAll_of_early hidle.early (hleaves.threw_eq rfl), hlib, hidle.lib]
    refine iff_of_true ⟨rfl, fun o ho => (Nat.not_lt_zero o ho).elim⟩ ?_
    exact goesWell_of_not_reaches fun _ _ _ _ _ hr => by cases hspeed.symm.trans hr.speed
  | @noSockets speed errno hspeed hsockets =>
    have hopened : openedSockets info w = none := by rw [openedSockets, hspeed, hsockets]
    rw [hopened, releasesAll_of_early hidle.early (hleaves.threw_eq rfl), hlib, hidle.lib]
    refine iff_of_true ⟨rfl, fun o ho => (Nat.not_lt_zero o ho).elim⟩ ?_
    exact goesWell_of_not_reaches fun _ _ _ _ _ hr => by cases hsockets.symm.trans hr.sockets
  | @noDriver speed a b lib' hspeed hsockets hopen =>
    have hopened : openedSockets info w = some (a, b) := by rw [openedSockets, hspeed, hsockets]
    rw [hidle.lib] at hopen
    obtain ⟨hnull, hholds⟩ := driverOpen_failed_holds rfl hopen Ledger.holds_init
    rw [hopened, releasesAll_of_early (hidle.early_opened (hne hsockets)) (hleaves.threw_eq rfl),
      hlib, hidle.lib]
    refine iff_of_true ⟨hnull, fun o ho => hholds.released_once ho⟩ ?_
    exact goesWell_of_not_reaches fun _ _ _ _ _ hr => by cases hopen.symm.trans hr.opens
  | noPort hr hloop =>
    rw [hr.openedSockets_eq, hr.goesWell_iff, ← attachLoop_attached_iff hloop (by simp),
      releasesAll_of_early (hidle.early_opened (hne hr.sockets)) (hleaves.threw_eq rfl), hlib]
    -- the driver is still open
    exact iff_of_false (fun h => by simp [hr.driver] at h) (by simp)
  | refused hr hloop =>
    rw [hr.openedSockets_eq, hr.goesWell_iff, ← attachLoop_attached_iff hloop (by simp),
      releasesAll_of_early (hidle.early_opened (hne hr.sockets)) (hleaves.threw_eq rfl), hlib]
    exact iff_of_false (fun h => by simp [hr.driver] at h) (by simp)
  | noReadThread hr hloop hread =>
    rw [hr.goesWell_iff, hread]
    refine iff_of_false (not_releasesAll_of_waits hwf ?_ ?_ ?_ ?_ (hleaves.threw_eq rfl)) (by simp)
    · show p.sys.flags.reset = false
      rw [hflags]
    · rfl
    · rfl
    · exact hidle.writer
  | noWriteThread hr hloop hread hwrite =>
    rw [hr.goesWell_iff, hwrite]
    refine iff_of_false (not_releasesAll_of_waits hwf ?_ ?_ ?_ ?_ (hleaves.threw_eq rfl)) (by simp)
    · show p.sys.flags.reset = false
      rw [hflags]
    · rfl
    · rfl
    · exact hidle.writer
  | done hr hloop hread hwrite =>
    have hopen := hr.opens
    rw [hidle.lib] at hopen
    rw [hr.openedSockets_eq, hr.goesWell_iff, ← attachLoop_attached_iff hloop (by simp),
      releasesAll_of_attached hidle (hne hr.sockets) (hleaves.done_eq rfl), hlib]
    exact iff_of_true (driverClose_releases hopen) ⟨rfl, hread, hwrite⟩
  | running => cases hleaves <;> rename_i hstop <;> cases hstop
  | aborted => cases hleaves <;> rename_i hstop <;> cases hstop

/-- `start()` has been called, and nothing else. -/
theorem run_call_start (info : Info) :
    (process info).Run [.thread (.call 0 .start)]
      { sys := ({} : Sys).setClient 0 (.entering .start) } [] :=
  .single trivial rfl

/-- All goes well with a free port. -/
theorem releasesAll_iff_smallTable :
    ∃ p os p' evs, (process Info.minimal).Run [.thread (.call 0 .start)] p os ∧
      p.step Info.minimal (.start 0 (.smooth (kernelOf smallTable 3)) 1) = some (p', evs) ∧
      ReleasesAll Info.minimal 0 (openedSockets Info.minimal (.smooth (kernelOf smallTable 3)))
        (startTry Info.minimal (.smooth (kernelOf smallTable 3)) 1 p.sys.begun p.lib).stop
        p' evs := by
  obtain ⟨lib', d, hopen, hd, -, hport⟩ :=
    getFreePort_kernelOf smallTable (show PortsListed _ 3 from ⟨by decide, by decide⟩) (by omega)
      (by omega)
  have hr : ReachesLoop Info.minimal (.smooth (kernelOf smallTable 3)) {} Speed.full 3 4 d lib' :=
    ⟨by decide, rfl, hopen, hd⟩
  have hfree : ¬ usbipVhciGetFreePort d Speed.full < 0 := by
    rw [hport]
    decide
  have hstop : (startTry Info.minimal (.smooth (kernelOf smallTable 3)) 1
      (({} : Sys).setClient 0 (.entering .start)).begun {}).stop = .done := by
    simp only [startTry, hr.speed, hr.sockets, hr.opens, hr.driver, attachLoop, if_neg hfree]
    rfl
  have hrun := run_call_start Info.minimal
  obtain ⟨p', evs, hs⟩ := exists_process_start
    (p := { sys := ({} : Sys).setClient 0 (.entering .start) }) (t := 0) rfl rfl rfl
    (by rw [hstop]; simp) (by rw [hstop]; simp)
  refine ⟨_, _, p', evs, hrun, hs, (releasesAll_iff hrun hs).mpr ?_⟩
  rw [hr.goesWell_iff]
  refine ⟨⟨?_, 0, rfl, fun j hj => absurd hj (Nat.not_lt_zero j)⟩, rfl, rfl⟩
  rwa [ne_eq, ← usbipVhciGetFreePort_lt_zero_iff]

/-- Without a free port `start()` returns, and the host controller is never released. -/
theorem not_releasesAll :
    ∃ p os p' evs result d, (process Info.minimal).Run [.thread (.call 0 .start)] p os ∧
      p.step Info.minimal (.start 0 (.smooth (kernelOf fullTable 1)) 1) = some (p', evs) ∧
      .returned 0 .start result ∈ evs ∧ p'.lib.vhciDriver = some d ∧
      d.hcDevice < p'.lib.ledger.obtained ∧ p'.lib.ledger.released.count d.hcDevice = 0 ∧
      ¬ ReleasesAll Info.minimal 0 (openedSockets Info.minimal (.smooth (kernelOf fullTable 1)))
        (startTry Info.minimal (.smooth (kernelOf fullTable 1)) 1 p.sys.begun p.lib).stop
        p' evs := by
  obtain ⟨lib', d, hopen, hd, -, hport⟩ :=
    getFreePort_kernelOf fullTable (show PortsListed _ 1 from ⟨by decide, by decide⟩) (by omega)
      (by omega)
  have hr : ReachesLoop Info.minimal (.smooth (kernelOf fullTable 1)) {} Speed.full 3 4 d lib' :=
    ⟨by decide, rfl, hopen, hd⟩
  have hfree : usbipVhciGetFreePort d Speed.full < 0 := by
    rw [hport]
    decide
  have htry : startTry Info.minimal (.smooth (kernelOf fullTable 1)) 1
      (({} : Sys).setClient 0 (.entering .start)).begun {}
      = { stop := .threw (.os VhciCall.getFreePort.message 0)
          sys := { (({} : Sys).setClient 0 (.entering .start)).begun with
            socket := (3 : ℕ), usbipSocket := (4 : ℕ) }
          lib := lib', log := [.listed d] } := by
    simp only [startTry, hr.speed, hr.sockets, hr.opens, hr.driver, attachLoop, if_pos hfree]
    rfl
  have hrun := run_call_start Info.minimal
  obtain ⟨p', evs, hs⟩ := exists_process_start
    (p := { sys := ({} : Sys).setClient 0 (.entering .start) }) (t := 0) rfl rfl rfl
    (by rw [htry]; simp) (by rw [htry]; simp)
  obtain ⟨-, -, -, hleaves⟩ := process_start_spec hs
  rw [htry] at hleaves
  have hlib : p'.lib = lib' := by cases hleaves <;> rfl
  obtain ⟨result, hret⟩ : ∃ result, .returned 0 .start result ∈ evs := by
    cases hleaves with
    | done hstop => cases hstop
    | threw => exact ⟨_, List.mem_cons_of_mem _ (List.mem_singleton_self _)⟩
  obtain ⟨d', context, hd', -, hholds⟩ := driverOpen_opened_holds hopen Ledger.holds_init
  obtain rfl : d = d' := Option.some.inj (hd.symm.trans hd')
  have hheld := hholds.not_released
  refine ⟨_, _, p', evs, result, d, hrun, hs, hret, by rw [hlib]; exact hd, ?_, ?_, ?_⟩
  · rw [hlib]
    exact hheld.1
  · rw [hlib]
    exact hheld.2
  · rintro ⟨-, hall⟩
    have hnull := (hall p' (.atOnce hret)).driver
    rw [hlib, hd] at hnull
    cases hnull

end VirtualUSB
