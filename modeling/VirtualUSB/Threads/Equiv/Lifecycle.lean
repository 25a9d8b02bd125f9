import VirtualUSB.Threads.Equiv.System

/-!
# The lifecycle of the device: starting, resetting, stopping

`Sys.Life` is what holds of the thread bits, the sockets and the threads in every reachable state:
`life_of_run`.  Two operations matter for it, entering `_reset` (`Life.resets`) and going on in the
wait loop of `_reset` (`Life.loops`); most steps leave alone what it speaks of.
-/

namespace VirtualUSB

open LabelledSystem

variable {info : Info} {s s₁ s' : Sys} {th : Thread} {e : Err} {finished : Bool}
  {evs : List SysEvent}

/-! ### Stages -/

/-- The same stage, but for being in the wait loop of `_reset`. -/
def Stage.Same (a b : Stage) : Prop :=
  a = b ∨ a.active = true ∧ b.active = true

theorem Stage.Same.active {a b : Stage} (h : a.Same b) (hb : b.active = true) :
    a.active = true := by
  rcases h with rfl | ⟨ha, -⟩
  · exact hb
  · exact ha

theorem Stage.Same.gone {a b : Stage} (h : a.Same b) (hb : b = .gone) : a = .gone := by
  rcases h with rfl | ⟨-, hb'⟩
  · exact hb
  · rw [hb] at hb'
    cases hb'

theorem Stage.Same.off {a b : Stage} (h : a.Same b) (ha : a = .off) : b = .off := by
  rcases h with rfl | ⟨ha', -⟩
  · exact ha
  · rw [ha] at ha'
    cases ha'

theorem ReaderPc.stage_off {pc : ReaderPc} (h : pc.stage = .off) : pc = .notLaunched := by
  cases pc <;> first | rfl | cases h

theorem WriterPc.stage_off {pc : WriterPc} (h : pc.stage = .off) : pc = .notLaunched := by
  cases pc <;> first | rfl | cases h

/-- A thread that works with a socket is at work. -/
theorem ReaderPc.stage_of_fd {pc : ReaderPc} {fd : ℤ} (h : pc.fd = some fd) : pc.stage = .on := by
  cases pc <;> first | rfl | cases h

theorem WriterPc.stage_of_fd {pc : WriterPc} {fd : ℤ} (h : pc.fd = some fd) : pc.stage = .on := by
  cases pc <;> first | rfl | cases h

theorem ReaderPc.fd_of_receiving {pc : ReaderPc} {fd : ℤ} (h : pc.receiving = some fd) :
    pc.fd = some fd := by
  cases pc <;> first | exact h | cases h

theorem WriterPc.fd_of_sending {pc : WriterPc} {fd : ℤ} (h : pc.sending = some fd) :
    pc.fd = some fd := by
  cases pc <;> first | exact h | cases h

/-- The thread is at work, with no socket but `fd`. -/
def ReaderPc.WorksWith (pc : ReaderPc) (fd : ℤ) : Prop :=
  pc.stage = .on ∧ ∀ fd', pc.fd = some fd' → fd' = fd

/-- The thread is at work, with no socket but `fd`. -/
def WriterPc.WorksWith (pc : WriterPc) (fd : ℤ) : Prop :=
  pc.stage = .on ∧ ∀ fd', pc.fd = some fd' → fd' = fd

theorem ReaderPc.worksWith_caught (e : Err) (fd : ℤ) : (ReaderPc.caught e).WorksWith fd :=
  ⟨rfl, fun _ h => by cases h⟩

theorem WriterPc.worksWith_caught (e : Err) (fd : ℤ) : (WriterPc.caught e).WorksWith fd :=
  ⟨rfl, fun _ h => by cases h⟩

theorem ReaderPc.worksWith_of_fd {pc : ReaderPc} {fd : ℤ} (h : pc.fd = some fd) :
    pc.WorksWith fd :=
  ⟨stage_of_fd h, fun _ h' => Option.some.inj (h'.symm.trans h)⟩

theorem WriterPc.worksWith_of_fd {pc : WriterPc} {fd : ℤ} (h : pc.fd = some fd) :
    pc.WorksWith fd :=
  ⟨stage_of_fd h, fun _ h' => Option.some.inj (h'.symm.trans h)⟩

/-- After a header the reader thread goes on with the same socket, or it has failed. -/
theorem readerHeaderDone_worksWith (fd : ℤ) (buf : List UInt8) :
    (Sys.readerHeaderDone fd buf).WorksWith fd := by
  unfold Sys.readerHeaderDone
  split
  · exact ReaderPc.worksWith_caught _ _
  · split_ifs
    · exact ReaderPc.worksWith_of_fd rfl
    · exact ReaderPc.worksWith_caught _ _
    · exact ReaderPc.worksWith_of_fd rfl

theorem readerNext_worksWith {fd : ℤ} {again done : List UInt8 → ReaderPc} (len : ℕ)
    (buf : List UInt8) (hagain : (again buf).WorksWith fd) (hdone : (done buf).WorksWith fd) :
    (Sys.readerNext len buf again done).WorksWith fd := by
  unfold Sys.readerNext
  split_ifs
  · exact hagain
  · exact hdone

theorem writerPayload_worksWith (fd : ℤ) (payload : List UInt8) :
    (Sys.writerPayload fd payload).WorksWith fd := by
  unfold Sys.writerPayload
  split_ifs <;> exact WriterPc.worksWith_of_fd rfl

/-- A call of `recv` moves the reader thread only, and leaves it at work with the same socket. -/
theorem RecvStep.works {r : IoResult (List UInt8)} (h : RecvStep s r s' evs) :
    ∃ fd pc, s.reader.receiving = some fd ∧ pc.WorksWith fd ∧ s' = { s with reader := pc } := by
  cases h with
  | header hpc =>
    exact ⟨_, _, by rw [hpc]; rfl, readerNext_worksWith _ _ (ReaderPc.worksWith_of_fd rfl)
      (readerHeaderDone_worksWith _ _), rfl⟩
  | payload hpc =>
    exact ⟨_, _, by rw [hpc]; rfl, readerNext_worksWith _ _ (ReaderPc.worksWith_of_fd rfl)
      (ReaderPc.worksWith_of_fd rfl), rfl⟩
  | again hpc =>
    exact ⟨_, s.reader, hpc, ReaderPc.worksWith_of_fd (ReaderPc.fd_of_receiving hpc), rfl⟩
  | fails hpc e => exact ⟨_, _, hpc, ReaderPc.worksWith_caught e _, rfl⟩

/-- A call of `send` moves the writer thread only, and leaves it at work with the same socket. -/
theorem SendStep.works {r : IoResult ℕ} (h : SendStep s r s' evs) :
    ∃ fd pc, s.writer.sending = some fd ∧ pc.WorksWith fd ∧ s' = { s with writer := pc } := by
  cases h with
  | @header socket rest payload n hpc =>
    refine ⟨socket, _, by rw [hpc]; rfl, ?_, rfl⟩
    split_ifs
    · exact writerPayload_worksWith _ _
    · exact WriterPc.worksWith_of_fd rfl
  | @payload socket rest n hpc =>
    refine ⟨socket, _, by rw [hpc]; rfl, ?_, rfl⟩
    split_ifs <;> exact WriterPc.worksWith_of_fd rfl
  | again hpc =>
    exact ⟨_, s.writer, hpc, WriterPc.worksWith_of_fd (WriterPc.fd_of_sending hpc), rfl⟩
  | fails hpc e => exact ⟨_, _, hpc, WriterPc.worksWith_caught e _, rfl⟩

/-! ### The invariant -/

/-- The invariant of the lifecycle. -/
structure Sys.Life (s : Sys) : Prop where
  /-- The bit of a thread is set from before it is created until it clears it. -/
  reader : s.reader.stage.active = true → s.flags.readThreadRunning = true
  readerGone : s.reader.stage = .gone → s.flags.readThreadRunning = false
  writer : s.writer.stage.active = true → s.flags.writeThreadRunning = true
  writerGone : s.writer.stage = .gone → s.flags.writeThreadRunning = false
  /-- The threads work with copies of the socket. -/
  readerFd : ∀ fd, s.reader.fd = some fd → fd = s.socket
  writerFd : ∀ fd, s.writer.fd = some fd → fd = s.socket
  socket : s.socket = -1 ∨ 0 ≤ s.socket
  usbipSocket : s.usbipSocket = -1 ∨ 0 ≤ s.usbipSocket
  /-- While a thread bit is set the socket is open and the other one was given away. -/
  running : s.running = true → 0 ≤ s.socket ∧ s.usbipSocket = -1
  /-- Only one thread is ever in the wait loop of `_reset`, and the socket is open until then. -/
  inReset : ∀ th, s.InReset th → s.flags.reset = true ∧ 0 ≤ s.socket ∧ s.usbipSocket = -1
  unique : ∀ th th', s.InReset th → s.InReset th' → th = th'
  /-- A device that was reset waits for its threads or has stopped. -/
  reset : s.flags.reset = true → (∃ th, s.InReset th) ∨ s.Stopped
  shut : s.flags.reset = true → 0 ≤ s.socket → s.socket ∈ s.shut
  closed : 0 ≤ s.socket → s.socket ∉ s.closed
  fresh : s.flags.started = false → s.reader.stage = .off ∧ s.writer.stage = .off ∧
    s.running = false ∧ s.socket = -1 ∧ s.usbipSocket = -1 ∧ s.closed = []

theorem Sys.Life.init : ({} : Sys).Life where
  reader h := by cases h
  readerGone h := by cases h
  writer h := by cases h
  writerGone h := by cases h
  readerFd fd h := by cases h
  writerFd fd h := by cases h
  socket := .inl rfl
  usbipSocket := .inl rfl
  running h := by cases h
  inReset th h := by
    cases th with
    | client t => obtain ⟨call, hcall⟩ := h; cases hcall
    | _ => cases h
  unique th th' h := by
    cases th with
    | client t => obtain ⟨call, hcall⟩ := h; cases hcall
    | _ => cases h
  reset h := by cases h
  shut h := by cases h
  closed h := by simp at h
  fresh _ := ⟨rfl, rfl, rfl, rfl, rfl, rfl⟩

namespace Sys.Life

/-! ### Steps that leave alone what the invariant speaks of -/

/-- The invariant does not speak of the device and of who is asleep. -/
theorem congr (h : s.Life) (d : Dev) (f : Thread → Bool) :
    ({ s with dev := d, asleep := f } : Sys).Life :=
  { h with }

theorem setDev (h : s.Life) (d : Dev) : (s.setDev d).Life := by
  unfold Sys.setDev
  split_ifs
  · exact h.congr d _
  · exact h.congr d _

/-- The invariant depends on the bits, the sockets and the stages of the threads only. -/
theorem of_link (h : s.Life) (hflags : s'.flags = s.flags) (hsocket : s'.socket = s.socket)
    (husbip : s'.usbipSocket = s.usbipSocket) (hshut : s'.shut = s.shut)
    (hclosed : s'.closed = s.closed) (hreader : s.reader.stage.Same s'.reader.stage)
    (hwriter : s.writer.stage.Same s'.writer.stage)
    (hreaderFd : ∀ fd, s'.reader.fd = some fd → fd = s.socket)
    (hwriterFd : ∀ fd, s'.writer.fd = some fd → fd = s.socket)
    (hin : ∀ th, s'.InReset th ↔ s.InReset th) : s'.Life where
  reader hb := by rw [hflags]; exact h.reader (hreader.active hb)
  readerGone hb := by rw [hflags]; exact h.readerGone (hreader.gone hb)
  writer hb := by rw [hflags]; exact h.writer (hwriter.active hb)
  writerGone hb := by rw [hflags]; exact h.writerGone (hwriter.gone hb)
  readerFd := by rw [hsocket]; exact hreaderFd
  writerFd := by rw [hsocket]; exact hwriterFd
  socket := by rw [hsocket]; exact h.socket
  usbipSocket := by rw [husbip]; exact h.usbipSocket
  running := by rw [Sys.running, hflags, hsocket, husbip]; exact h.running
  inReset th hth := by rw [hflags, hsocket, husbip]; exact h.inReset th ((hin th).mp hth)
  unique th th' hth hth' := h.unique th th' ((hin th).mp hth) ((hin th').mp hth')
  reset hreset := by
    rw [hflags] at hreset
    rcases h.reset hreset with ⟨th, hth⟩ | hstopped
    · exact .inl ⟨th, (hin th).mpr hth⟩
    · refine .inr ?_
      rw [Sys.Stopped, hflags, hsocket, husbip]
      exact hstopped
  shut := by rw [hflags, hsocket, hshut]; exact h.shut
  closed := by rw [hsocket, hclosed]; exact h.closed
  fresh hstart := by
    rw [hflags] at hstart
    obtain ⟨hr, hw, hrun⟩ := h.fresh hstart
    rw [Sys.running, hflags, hsocket, husbip, hclosed]
    exact ⟨hreader.off hr, hwriter.off hw, hrun⟩

/-- The reader thread goes on with its work. -/
theorem setReader (h : s.Life) {pc : ReaderPc} (hon : s.reader.stage = .on)
    (hpc : pc.WorksWith s.socket) : ({ s with reader := pc } : Sys).Life := by
  refine h.of_link rfl rfl rfl rfl rfl (.inl (hon.trans hpc.1.symm)) (.inl rfl) hpc.2 h.writerFd
    fun th => ?_
  cases th with
  | reader =>
    show pc.stage = .waiting ↔ s.reader.stage = .waiting
    rw [hpc.1, hon]
  | _ => exact Iff.rfl

/-- The writer thread goes on with its work. -/
theorem setWriter (h : s.Life) {pc : WriterPc} (hon : s.writer.stage = .on)
    (hpc : pc.WorksWith s.socket) : ({ s with writer := pc } : Sys).Life := by
  refine h.of_link rfl rfl rfl rfl rfl (.inl rfl) (.inl (hon.trans hpc.1.symm)) h.readerFd hpc.2
    fun th => ?_
  cases th with
  | writer =>
    show pc.stage = .waiting ↔ s.writer.stage = .waiting
    rw [hpc.1, hon]
  | _ => exact Iff.rfl

/-- A client thread that is not in `_reset` goes on. -/
theorem setClient (h : s.Life) {t : ℕ} {pc : ClientPc}
    (hold : ∀ call, s.clients t ≠ .resetting call)
    (hnew : ∀ call, pc ≠ .resetting call) : (s.setClient t pc).Life := by
  refine h.of_link rfl rfl rfl rfl rfl (.inl rfl) (.inl rfl) h.readerFd h.writerFd fun th => ?_
  cases th with
  | client t' =>
    by_cases ht : t' = t
    · subst ht
      constructor
      · rintro ⟨call, hcall⟩
        rw [Sys.setClient_self] at hcall
        exact (hnew call hcall).elim
      · rintro ⟨call, hcall⟩
        exact (hold call hcall).elim
    · show (∃ call, _ = _) ↔ ∃ call, _ = _
      rw [Sys.setClient_of_ne ht]
  | _ => exact Iff.rfl

end Sys.Life

/-! ### Entering `_reset` and waiting in it -/

/-- A thread is past its call of `_reset`, or in its wait loop: only its program counter has
changed. -/
structure Parks (s : Sys) (th : Thread) (finished : Bool) (s' : Sys) : Prop where
  flags : s'.flags = s.flags
  socket : s'.socket = s.socket
  usbipSocket : s'.usbipSocket = s.usbipSocket
  shut : s'.shut = s.shut
  closed : s'.closed = s.closed
  reader : s.reader.stage.Same s'.reader.stage
  writer : s.writer.stage.Same s'.writer.stage
  readerFd : ∀ fd, s'.reader.fd = some fd → s.reader.fd = some fd
  writerFd : ∀ fd, s'.writer.fd = some fd → s.writer.fd = some fd
  inReset : ∀ th', s'.InReset th' ↔ th' = th ∧ finished = false ∨ th' ≠ th ∧ s.InReset th'

theorem parks_reader (s : Sys) (finished : Bool) (hactive : s.reader.stage.active = true) :
    Parks s .reader finished
      { s with reader := if finished then .exiting else .resetWait } where
  flags := rfl
  socket := rfl
  usbipSocket := rfl
  shut := rfl
  closed := rfl
  reader := .inr ⟨hactive, by cases finished <;> rfl⟩
  writer := .inl rfl
  readerFd fd h := by cases finished <;> cases h
  writerFd fd h := h
  inReset th' := by
    cases th' with
    | reader => cases finished <;> simp [Sys.InReset, ReaderPc.stage]
    | _ => simp [Sys.InReset]

theorem parks_writer (s : Sys) (finished : Bool) (hactive : s.writer.stage.active = true) :
    Parks s .writer finished
      { s with writer := if finished then .exiting else .resetWait } where
  flags := rfl
  socket := rfl
  usbipSocket := rfl
  shut := rfl
  closed := rfl
  reader := .inl rfl
  writer := .inr ⟨hactive, by cases finished <;> rfl⟩
  readerFd fd h := h
  writerFd fd h := by cases finished <;> cases h
  inReset th' := by
    cases th' with
    | writer => cases finished <;> simp [Sys.InReset, WriterPc.stage]
    | _ => simp [Sys.InReset]

theorem parks_client (info : Info) (s : Sys) (t : ℕ) (call : Call) (finished : Bool) :
    Parks s (.client t) finished (s.afterReset info t call finished).1 := by
  rw [Sys.afterReset_fst]
  refine ⟨rfl, rfl, rfl, rfl, rfl, .inl rfl, .inl rfl, fun _ h => h, fun _ h => h, fun th' => ?_⟩
  cases th' with
  | client t' =>
    by_cases ht : t' = t
    · subst ht
      cases finished <;> simp [Sys.InReset]
    · simp [Sys.InReset, Sys.setClient_of_ne ht, ht]
  | _ => simp [Sys.InReset, Sys.setClient]

namespace Sys.Life

/-- Closing the sockets leaves none open. -/
theorem closeSockets_socket (h : s.Life) : s.closeSockets.socket = -1 := by
  show (if 0 ≤ s.socket then -1 else s.socket) = -1
  rcases h.socket with hs | hs
  · rw [hs]; rfl
  · exact if_pos hs

theorem closeSockets_usbipSocket (h : s.Life) : s.closeSockets.usbipSocket = -1 := by
  show (if 0 ≤ s.usbipSocket then -1 else s.usbipSocket) = -1
  rcases h.usbipSocket with hs | hs
  · rw [hs]; rfl
  · exact if_pos hs

/-- No thread works while both bits are clear. -/
theorem not_on (h : s.Life) (hrun : s.running = false) :
    s.reader.stage ≠ .on ∧ s.writer.stage ≠ .on := by
  rw [Sys.running, Bool.or_eq_false_iff] at hrun
  constructor
  · intro hon
    have hbit := h.reader (by rw [hon]; rfl)
    rw [hrun.1] at hbit
    cases hbit
  · intro hon
    have hbit := h.writer (by rw [hon]; rfl)
    rw [hrun.2] at hbit
    cases hbit

/-- The thread that closed the sockets leaves `_reset`: the device has stopped. -/
theorem close (h : s.Life) (hrun : s.running = false)
    (hflags : s'.flags = { s.flags with reset := true }) (hsocket : s'.socket = -1)
    (husbip : s'.usbipSocket = -1) (hclosed : s'.closed = s.openSockets ++ s.closed)
    (hreader : s.reader.stage.Same s'.reader.stage)
    (hwriter : s.writer.stage.Same s'.writer.stage)
    (hreaderFd : ∀ fd, s'.reader.fd = some fd → s.reader.fd = some fd)
    (hwriterFd : ∀ fd, s'.writer.fd = some fd → s.writer.fd = some fd)
    (hin : ∀ th, ¬ s'.InReset th) : s'.Life := by
  have hrun' : s'.running = false := by
    rw [Sys.running, hflags]
    exact hrun
  have hbits := Bool.or_eq_false_iff.mp hrun'
  exact {
    reader := fun hb => by rw [hflags]; exact h.reader (hreader.active hb)
    readerGone := fun _ => hbits.1
    writer := fun hb => by rw [hflags]; exact h.writer (hwriter.active hb)
    writerGone := fun _ => hbits.2
    readerFd := fun fd hfd =>
      ((h.not_on hrun).1 (ReaderPc.stage_of_fd (hreaderFd fd hfd))).elim
    writerFd := fun fd hfd =>
      ((h.not_on hrun).2 (WriterPc.stage_of_fd (hwriterFd fd hfd))).elim
    socket := .inl hsocket
    usbipSocket := .inl husbip
    running := fun hr => by rw [hrun'] at hr; cases hr
    inReset := fun th hth => (hin th hth).elim
    unique := fun th _ hth _ => (hin th hth).elim
    reset := fun _ => .inr ⟨hbits.1, hbits.2, hsocket, husbip⟩
    shut := fun _ hopen => by rw [hsocket] at hopen; simp at hopen
    closed := fun hopen => by rw [hsocket] at hopen; simp at hopen
    fresh := fun hstart => by
      rw [hflags] at hstart
      obtain ⟨hr, hw, -, hs, hu, hc⟩ := h.fresh hstart
      refine ⟨hreader.off hr, hwriter.off hw, hrun', hsocket, husbip, ?_⟩
      rw [hclosed, hc, List.append_nil, Sys.openSockets, hs, hu]
      rfl }

/-- No thread is in `_reset` on a device that was not reset. -/
theorem not_inReset (h : s.Life) (hreset : s.flags.reset = false) (th : Thread) :
    ¬ s.InReset th := by
  intro hth
  rw [(h.inReset th hth).1] at hreset
  cases hreset

/-- Parking leaves the invariant alone if the same thread is in the wait loop of `_reset`. -/
theorem parks (h : s.Life) (hp : Parks s th finished s')
    (hin : ∀ th', s'.InReset th' ↔ s.InReset th') : s'.Life :=
  h.of_link hp.flags hp.socket hp.usbipSocket hp.shut hp.closed hp.reader hp.writer
    (fun fd hfd => h.readerFd fd (hp.readerFd fd hfd))
    (fun fd hfd => h.writerFd fd (hp.writerFd fd hfd)) hin

/-- The first thread that enters `_reset` shuts the open socket down and begins to wait for the
threads. -/
theorem begins (h : s.Life) (hp : Parks ((s.failed e).wait th) th false s')
    (hreset : s.flags.reset = false) (hrun : s.running = true) : s'.Life := by
  obtain ⟨hopen, husbip⟩ := h.running hrun
  have hflags : s'.flags = { s.flags with reset := true } := hp.flags
  have hsocket : s'.socket = s.socket := hp.socket
  have husbip' : s'.usbipSocket = -1 := hp.usbipSocket.trans husbip
  -- no other thread is in the wait loop
  have honly : ∀ th', s'.InReset th' → th' = th := by
    intro th' hth'
    rcases (hp.inReset th').mp hth' with ⟨heq, -⟩ | ⟨-, hold⟩
    · exact heq
    · exact (h.not_inReset hreset th' hold).elim
  exact {
    reader := fun hb => by rw [hflags]; exact h.reader (hp.reader.active hb)
    readerGone := fun hb => by rw [hflags]; exact h.readerGone (hp.reader.gone hb)
    writer := fun hb => by rw [hflags]; exact h.writer (hp.writer.active hb)
    writerGone := fun hb => by rw [hflags]; exact h.writerGone (hp.writer.gone hb)
    readerFd := fun fd hfd => by rw [hsocket]; exact h.readerFd fd (hp.readerFd fd hfd)
    writerFd := fun fd hfd => by rw [hsocket]; exact h.writerFd fd (hp.writerFd fd hfd)
    socket := by rw [hsocket]; exact h.socket
    usbipSocket := .inl husbip'
    running := fun _ => by rw [hsocket]; exact ⟨hopen, husbip'⟩
    inReset := fun _ _ => by rw [hflags, hsocket]; exact ⟨rfl, hopen, husbip'⟩
    unique := fun th' th'' h' h'' => (honly th' h').trans (honly th'' h'').symm
    reset := fun _ => .inl ⟨th, (hp.inReset th).mpr (.inl ⟨rfl, rfl⟩)⟩
    shut := fun _ _ => by
      rw [hsocket, hp.shut]
      apply List.mem_append_left
      show s.socket ∈ [s.socket, s.usbipSocket].filter (0 ≤ ·)
      simp [hopen]
    closed := by rw [hsocket, hp.closed]; exact h.closed
    fresh := fun hstart => by
      rw [hflags] at hstart
      rw [(h.fresh hstart).2.2.1] at hrun
      cases hrun }

/-- A thread enters `_reset`: the device has been reset before, the thread begins to wait for the
threads, or there is nothing to wait for and the sockets are closed. -/
theorem resets (h : s.Life) (hth : ¬ s.InReset th) (hr : Resets s th e finished s₁ evs)
    (hp : Parks s₁ th finished s') : s'.Life := by
  cases hr with
  | again hreset =>
    refine h.parks hp fun th' => ?_
    rw [hp.inReset]
    constructor
    · rintro (⟨-, hfin⟩ | ⟨-, hin⟩)
      · cases hfin
      · exact hin
    · intro hin
      exact .inr ⟨fun heq => hth (heq ▸ hin), hin⟩
  | waits hreset hrun => exact h.begins hp hreset hrun
  | closes hreset hrun =>
    refine h.close hrun hp.flags (hp.socket.trans h.closeSockets_socket)
      (hp.usbipSocket.trans h.closeSockets_usbipSocket) hp.closed hp.reader hp.writer hp.readerFd
      hp.writerFd fun th' hin => ?_
    rcases (hp.inReset th').mp hin with ⟨-, hfin⟩ | ⟨-, hold⟩
    · cases hfin
    · exact h.not_inReset hreset th' hold

/-- The thread in the wait loop of `_reset` goes on: it waits again, or both bits are clear and it
closes the sockets. -/
theorem loops (h : s.Life) (hth : s.InReset th) (hl : Loops s th finished s₁)
    (hp : Parks s₁ th finished s') : s'.Life := by
  cases hl with
  | waits hrun =>
    refine (h.congr _ _).parks hp fun th' => ?_
    rw [hp.inReset]
    constructor
    · rintro (⟨rfl, -⟩ | ⟨-, hin⟩)
      · exact hth
      · exact hin
    · intro hin
      exact .inl ⟨h.unique th' th hin hth, rfl⟩
  | closes hrun =>
    have hflags : s'.flags = { s.flags with reset := true } := by
      rw [← (h.inReset th hth).1]
      exact hp.flags
    refine h.close hrun hflags (hp.socket.trans h.closeSockets_socket)
      (hp.usbipSocket.trans h.closeSockets_usbipSocket) hp.closed hp.reader hp.writer hp.readerFd
      hp.writerFd fun th' hin => ?_
    rcases (hp.inReset th').mp hin with ⟨-, hfin⟩ | ⟨hne, hold⟩
    · cases hfin
    · exact hne (h.unique th' th hold hth)

/-! ### The other steps -/

/-- The reader thread clears its bit. -/
theorem readerExits (h : s.Life) (hpc : s.reader = .exiting) :
    ({ s with flags := { s.flags with readThreadRunning := false }, reader := .exited } : Sys
      ).Life := by
  have hon : s.reader.stage = .on := by rw [hpc]; rfl
  have hbit := h.reader (by rw [hon]; rfl)
  have hin : ∀ th, ({ s with
      flags := { s.flags with readThreadRunning := false }, reader := .exited } : Sys).InReset th →
      s.InReset th := by
    intro th hth
    cases th with
    | reader => cases hth
    | _ => exact hth
  refine { h with
    reader := fun hb => by cases hb
    readerGone := fun _ => rfl
    readerFd := fun fd hfd => by cases hfd
    running := fun hr => h.running ?_
    inReset := fun th hth => h.inReset th (hin th hth)
    unique := fun th th' hth hth' => h.unique th th' (hin th hth) (hin th' hth')
    reset := fun hreset => ?_
    fresh := fun hstart => ?_ }
  · rw [Sys.running, hbit, Bool.true_or]
  · rcases h.reset hreset with ⟨th, hth⟩ | hstopped
    · refine .inl ⟨th, ?_⟩
      cases th with
      | reader => exact absurd (hon.symm.trans hth) (by simp)
      | _ => exact hth
    · exact absurd (hbit.symm.trans hstopped.1) (by simp)
  · exact absurd (hon.symm.trans (h.fresh hstart).1) (by simp)

/-- The writer thread clears its bit. -/
theorem writerExits (h : s.Life) (hpc : s.writer = .exiting) :
    ({ s with flags := { s.flags with writeThreadRunning := false }, writer := .exited } : Sys
      ).Life := by
  have hon : s.writer.stage = .on := by rw [hpc]; rfl
  have hbit := h.writer (by rw [hon]; rfl)
  have hin : ∀ th, ({ s with
      flags := { s.flags with writeThreadRunning := false }, writer := .exited } : Sys).InReset th →
      s.InReset th := by
    intro th hth
    cases th with
    | writer => cases hth
    | _ => exact hth
  refine { h with
    writer := fun hb => by cases hb
    writerGone := fun _ => rfl
    writerFd := fun fd hfd => by cases hfd
    running := fun hr => h.running ?_
    inReset := fun th hth => h.inReset th (hin th hth)
    unique := fun th th' hth hth' => h.unique th th' (hin th hth) (hin th' hth')
    reset := fun hreset => ?_
    fresh := fun hstart => ?_ }
  · rw [Sys.running, hbit, Bool.or_true]
  · rcases h.reset hreset with ⟨th, hth⟩ | hstopped
    · refine .inl ⟨th, ?_⟩
      cases th with
      | writer => exact absurd (hon.symm.trans hth) (by simp)
      | _ => exact hth
    · exact absurd (hbit.symm.trans hstopped.2.1) (by simp)
  · exact absurd (hon.symm.trans (h.fresh hstart).2.1) (by simp)

/-- `start()` opens the two sockets. -/
theorem opened (h : s.Life) (hidle : s.flags = {}) (a b : ℕ) :
    ({ s.begun with socket := a, usbipSocket := b } : Sys).Life := by
  obtain ⟨hr, hw, hrun, -, -, hclosed⟩ := h.fresh (by rw [hidle])
  have hnot : s.flags.reset = false := by rw [hidle]
  refine { h with
    readerFd := fun fd hfd => ?_
    writerFd := fun fd hfd => ?_
    socket := .inr (Int.natCast_nonneg a)
    usbipSocket := .inr (Int.natCast_nonneg b)
    running := fun hrun' => ?_
    inReset := fun th hth => (h.not_inReset hnot th hth).elim
    reset := fun hreset => ?_
    shut := fun hreset => ?_
    closed := fun _ => ?_
    fresh := fun hstart => by cases hstart }
  · exact absurd ((ReaderPc.stage_of_fd hfd).symm.trans hr) (by simp)
  · exact absurd ((WriterPc.stage_of_fd hfd).symm.trans hw) (by simp)
  · exact absurd (hrun'.symm.trans hrun) (by simp)
  · exact absurd (hreset.symm.trans hnot) (by simp)
  · exact absurd (hreset.symm.trans hnot) (by simp)
  · show (a : ℤ) ∉ s.closed
    rw [hclosed]
    exact List.not_mem_nil

/-- `start()` has attached the device: the thread bits are set, and each of the threads is created
or not. -/
theorem attached (h : s.Life) (hidle : s.flags = {}) {a b : ℕ} (hne : a ≠ b) {r : ReaderPc}
    {w : WriterPc} (hr : r = .notLaunched ∨ r = .launched) (hw : w = .notLaunched ∨ w = .launched) :
    ({ s.begun.attached a b with reader := r, writer := w } : Sys).Life := by
  obtain ⟨-, -, -, -, -, hclosed⟩ := h.fresh (by rw [hidle])
  have hnot : s.flags.reset = false := by rw [hidle]
  have hin : ∀ th, ¬ ({ s.begun.attached a b with reader := r, writer := w } : Sys).InReset th := by
    intro th hth
    cases th with
    | reader => rcases hr with rfl | rfl <;> cases hth
    | writer => rcases hw with rfl | rfl <;> cases hth
    | client t => exact h.not_inReset hnot (.client t) hth
  refine {
    reader := fun _ => rfl
    readerGone := fun hg => by rcases hr with rfl | rfl <;> cases hg
    writer := fun _ => rfl
    writerGone := fun hg => by rcases hw with rfl | rfl <;> cases hg
    readerFd := fun fd hfd => by rcases hr with rfl | rfl <;> cases hfd
    writerFd := fun fd hfd => by rcases hw with rfl | rfl <;> cases hfd
    socket := .inr (Int.natCast_nonneg a)
    usbipSocket := .inl rfl
    running := fun _ => ⟨Int.natCast_nonneg a, rfl⟩
    inReset := fun th hth => (hin th hth).elim
    unique := fun th _ hth _ => (hin th hth).elim
    reset := fun hreset => ?_
    shut := fun hreset => ?_
    closed := fun _ => ?_
    fresh := fun hstart => by cases hstart }
  · exact absurd (hreset.symm.trans hnot) (by simp)
  · exact absurd (hreset.symm.trans hnot) (by simp)
  · show (a : ℤ) ∉ (b : ℤ) :: s.closed
    rw [hclosed, List.mem_singleton]
    exact_mod_cast hne

/-- The invariant holds where `start()` throws, and no thread is in `_reset` yet. -/
theorem startFails {o : StartOutcome} (h : s.Life) (hidle : s.flags = {})
    (hf : StartFails s o s₁) : s₁.Life ∧ s₁.flags.reset = false := by
  have hnot : s.flags.reset = false := by rw [hidle]
  obtain ⟨hr, hw, -⟩ := h.fresh (by rw [hidle])
  cases hf with
  | early => exact ⟨{ h with fresh := fun hstart => by cases hstart }, hnot⟩
  | noVhci => exact ⟨h.opened hidle _ _, hnot⟩
  | noReadThread errno hne =>
    exact ⟨h.attached hidle hne (.inl (ReaderPc.stage_off hr)) (.inl (WriterPc.stage_off hw)), hnot⟩
  | noWriteThread errno hne =>
    exact ⟨h.attached hidle hne (.inr rfl) (.inl (WriterPc.stage_off hw)), hnot⟩

/-- The reader thread receives with its socket only. -/
theorem recv {r : IoResult (List UInt8)} (h : s.Life) (hs : RecvStep s r s' evs) : s'.Life := by
  obtain ⟨fd, pc, hrecv, hpc, rfl⟩ := hs.works
  have hfd := ReaderPc.fd_of_receiving hrecv
  rw [h.readerFd fd hfd] at hpc
  exact h.setReader (ReaderPc.stage_of_fd hfd) hpc

/-- The writer thread sends with its socket only. -/
theorem send {r : IoResult ℕ} (h : s.Life) (hs : SendStep s r s' evs) : s'.Life := by
  obtain ⟨fd, pc, hsend, hpc, rfl⟩ := hs.works
  have hfd := WriterPc.fd_of_sending hsend
  rw [h.writerFd fd hfd] at hpc
  exact h.setWriter (WriterPc.stage_of_fd hfd) hpc

end Sys.Life

/-! ### Every step -/

theorem ClientStep.life {t : ℕ} (h : ClientStep info s t s' evs) (hlife : s.Life) : s'.Life := by
  cases h with
  | returns hpc =>
    apply (hlife.setDev _).setClient ?_ (by simp)
    rw [Sys.setDev_clients]
    exact hpc.not_resetting
  | sleeps hpc =>
    refine Sys.Life.setClient ?_ ?_ (by simp)
    · exact (hlife.setDev _).congr _ _
    · show ∀ call, (Sys.setDev s _).clients _ ≠ _
      rw [Sys.setDev_clients]
      exact hpc.not_resetting
  | fails hpc hd hnone herr hr =>
    apply (hlife.setDev _).resets ?_ hr (parks_client ..)
    rintro ⟨call, hin⟩
    rw [Sys.setDev_clients] at hin
    exact hpc.not_resetting call hin
  | loops hpc hl =>
    have hin : s.InReset (.client t) := ⟨_, hpc⟩
    exact hlife.loops hin hl (parks_client ..)

theorem StartStep.life {t : ℕ} {o : StartOutcome} (h : StartStep info s t o s' evs)
    (hpc : s.clients t = .entering .start) (hidle : s.flags = {}) (hlife : s.Life) : s'.Life := by
  cases h with
  | fails hf hr =>
    obtain ⟨hlife₁, hnot⟩ := hlife.startFails hidle hf
    exact hlife₁.resets (hlife₁.not_inReset hnot _) hr (parks_client ..)
  | started hne =>
    apply (hlife.attached hidle hne (.inr rfl) (.inr rfl)).setClient ?_ (by simp)
    intro call hcall
    exact absurd (hpc.symm.trans hcall) (by simp)

theorem ReaderStep.life (h : ReaderStep s s' evs) (hlife : s.Life) : s'.Life := by
  cases h with
  | copies hpc => exact hlife.setReader (by rw [hpc]; rfl) (ReaderPc.worksWith_of_fd rfl)
  | @pushes socket cmd hpc =>
    have hfd : socket = s.socket := hlife.readerFd socket (by rw [hpc]; rfl)
    have hpc' : (ReaderPc.recvHeader socket []).WorksWith s.socket :=
      ReaderPc.worksWith_of_fd (congrArg some hfd)
    exact (hlife.setReader (by rw [hpc]; rfl) hpc').congr _ _
  | fails hpc hr =>
    refine hlife.resets ?_ hr (parks_reader _ _ ?_)
    · show s.reader.stage ≠ .waiting
      rw [hpc]
      simp [ReaderPc.stage]
    · rw [hr.threads.1, hpc]
      rfl
  | loops hpc hl =>
    refine hlife.loops ?_ hl (parks_reader _ _ ?_)
    · show s.reader.stage = .waiting
      rw [hpc]
      rfl
    · rw [hl.threads.1, hpc]
      rfl
  | exits hpc => exact (hlife.readerExits hpc).congr _ _

theorem WriterStep.life (h : WriterStep s s' evs) (hlife : s.Life) : s'.Life := by
  cases h with
  | copies hpc => exact hlife.setWriter (by rw [hpc]; rfl) (WriterPc.worksWith_of_fd rfl)
  | raises hpc => exact hlife.setWriter (by rw [hpc]; rfl) (WriterPc.worksWith_caught _ _)
  | sleeps => exact hlife.congr _ _
  | @takes socket rep reps hpc =>
    have hfd : socket = s.socket := hlife.writerFd socket (by rw [hpc]; rfl)
    have hpc' : (WriterPc.sendHeader socket rep.header.bytes rep.payload).WorksWith s.socket :=
      WriterPc.worksWith_of_fd (congrArg some hfd)
    exact (hlife.setWriter (by rw [hpc]; rfl) hpc').congr _ _
  | fails hpc hr =>
    refine hlife.resets ?_ hr (parks_writer _ _ ?_)
    · show s.writer.stage ≠ .waiting
      rw [hpc]
      simp [WriterPc.stage]
    · rw [hr.threads.2.1, hpc]
      rfl
  | loops hpc hl =>
    refine hlife.loops ?_ hl (parks_writer _ _ ?_)
    · show s.writer.stage = .waiting
      rw [hpc]
      rfl
    · rw [hl.threads.2.1, hpc]
      rfl
  | exits hpc => exact (hlife.writerExits hpc).congr _ _

/-- **Every step preserves the invariant of the lifecycle.** -/
theorem SysStep.life {a : Action} (h : SysStep info s a s' evs) (hlife : s.Life) : s'.Life := by
  cases h with
  | call call hpc => exact hlife.setClient (by simp [hpc]) (by simp)
  | client hawake h => exact h.life hlife
  | start hpc hidle h => exact h.life hpc hidle hlife
  | timeout hpc =>
    refine Sys.Life.setClient (hlife.congr _ _) ?_ (by simp)
    intro call hcall
    exact absurd (hpc.symm.trans hcall) (by simp)
  | wake => exact hlife.congr _ _
  | reader hawake h => exact h.life hlife
  | recv h => exact hlife.recv h
  | writer hawake h => exact h.life hlife
  | send h => exact hlife.send h

/-- The invariant of the lifecycle holds in every run. -/
theorem life_of_run {ok : Sys → Action → Prop} {is : List Action}
    (h : (threads info).RunWhere ok {} is s evs) : s.Life :=
  threads_induction (P := fun s _ => s.Life) .init
    (fun _ _ _ _ _ _ hlife _ hs => hs.life hlife) h

/-! ### The bits -/

/-- `_reset` sets its bit and leaves the others alone. -/
theorem Resets.flags {e : Err} {finished : Bool} (h : Resets s th e finished s₁ evs) :
    s₁.flags = { s.flags with reset := true } := by
  cases h with
  | again hreset => rw [← hreset]
  | _ => rfl

theorem Loops.flags {finished : Bool} (h : Loops s th finished s₁) : s₁.flags = s.flags := by
  cases h <;> rfl

/-- The step of a client thread leaves the thread bits alone. -/
theorem ClientStep.flags {t : ℕ} (h : ClientStep info s t s' evs) :
    s'.flags = s.flags ∨ s'.flags = { s.flags with reset := true } := by
  cases h with
  | returns => exact .inl (Sys.setDev_flags _)
  | sleeps => exact .inl (Sys.setDev_flags _)
  | fails hpc hd hnone herr hr =>
    have hflags := hr.flags
    rw [Sys.setDev_flags] at hflags
    rw [Sys.afterReset_fst]
    exact .inr hflags
  | loops hpc hl =>
    rw [Sys.afterReset_fst]
    exact .inl hl.flags

/-- **What no thread clears stays set**: a condition on the bits that an idle device does not meet
and that neither setting the reset bit nor an exiting thread breaks holds from then on. -/
theorem SysStep.bits {a : Action} {P : Flags → Prop} (h : SysStep info s a s' evs)
    (hidle : ¬ P {}) (hreset : ∀ fl, P fl → P { fl with reset := true })
    (hreader : s.reader = .exiting → ∀ fl, P fl → P { fl with readThreadRunning := false })
    (hwriter : s.writer = .exiting → ∀ fl, P fl → P { fl with writeThreadRunning := false })
    (hP : P s.flags) : P s'.flags := by
  cases h with
  | client hawake h =>
    rcases h.flags with hflags | hflags <;> rw [hflags]
    · exact hP
    · exact hreset _ hP
  | start hpc hidle' h =>
    rw [hidle'] at hP
    exact (hidle hP).elim
  | reader hawake h =>
    cases h with
    | fails hpc hr =>
      show P (Sys.flags _)
      rw [hr.flags]
      exact hreset _ hP
    | loops hpc hl =>
      show P (Sys.flags _)
      rw [hl.flags]
      exact hP
    | exits hpc => exact hreader hpc _ hP
    | _ => exact hP
  | writer hawake h =>
    cases h with
    | fails hpc hr =>
      show P (Sys.flags _)
      rw [hr.flags]
      exact hreset _ hP
    | loops hpc hl =>
      show P (Sys.flags _)
      rw [hl.flags]
      exact hP
    | exits hpc => exact hwriter hpc _ hP
    | _ => exact hP
  | recv h =>
    obtain ⟨fd, pc, -, -, rfl⟩ := h.works
    exact hP
  | send h =>
    obtain ⟨fd, pc, -, -, rfl⟩ := h.works
    exact hP
  | _ => exact hP

/-- A device that was reset stays so. -/
theorem SysStep.reset {a : Action} (h : SysStep info s a s' evs) (hreset : s.flags.reset = true) :
    s'.flags.reset = true :=
  h.bits (P := fun fl => fl.reset = true) (by simp) (fun _ _ => rfl) (fun _ _ h => h)
    (fun _ _ h => h) hreset

/-- A device that was started stays so. -/
theorem SysStep.started {a : Action} (h : SysStep info s a s' evs)
    (hstarted : s.flags.started = true) : s'.flags.started = true :=
  h.bits (P := fun fl => fl.started = true) (by simp) (fun _ h => h) (fun _ _ h => h)
    (fun _ _ h => h) hstarted

end VirtualUSB
