import VirtualUSB.Base.Ranking
import VirtualUSB.Threads.Equiv.Failure
import VirtualUSB.Threads.Equiv.Instances

/-!
# The threads do not run for ever

A thread that changes something wakes up all others, and who is woken up looks at its condition and
mostly goes to sleep again.  That this does not go on for ever is shown by a rank.

* `Sys.news` counts what the threads can still be notified of: commands that were not taken, calls
  that did not begin, the reset and the exits.  It falls whenever `notify_all` is called.
* `Sys.way` counts how far the threads are from a wait, with the bytes that were not sent.  It falls
  in every other step.
* `outside_again_and_again`: in an infinite run the outside acts again and again.
-/

namespace VirtualUSB

open LabelledSystem

variable {info : Info} {s s₁ s' : Sys} {th : Thread} {e : Err} {finished : Bool}
  {evs : List SysEvent}

/-! ### The steps of the program itself -/

/-- The steps that the program takes by itself: those in which no client makes a call, no byte
arrives, no system call is interrupted and no thread wakes up without having been notified. -/
def Action.Own : Action → Prop
  | .call _ _ | .wake _ | .recv (.some _) => False
  | .recv (.failed errno) | .send (.failed errno) => errno ≠ eintr
  | _ => True

/-! ### The rank -/

/-- A command that is about to arrive counts for the command and for its arrival. -/
def ReaderPc.news : ReaderPc → ℕ
  | .push _ _ => 3
  | .exited => 0
  | _ => 1

def WriterPc.news : WriterPc → ℕ
  | .exited => 0
  | _ => 1

def ClientPc.news : ClientPc → ℕ
  | .entering _ => 1
  | _ => 0

def ReaderPc.way : ReaderPc → ℕ
  | .launched => 8
  | .recvHeader _ _ | .recvPayload _ _ _ _ | .push _ _ => 6
  | .caught _ => 4
  | .resetWait => 2
  | _ => 0

def WriterPc.way : WriterPc → ℕ
  | .launched => 8
  | .loop _ => 6
  | .sendHeader _ rest payload => 7 + rest.length + payload.length
  | .sendPayload _ rest => 7 + rest.length
  | .caught _ => 4
  | .resetWait => 2
  | _ => 0

def ClientPc.way : ClientPc → ℕ
  | .reading _ | .resetting _ => 2
  | _ => 0

namespace Sys

/-- What the others can still be notified of by a thread. -/
def news (s : Sys) : Thread → ℕ
  | .reader => s.reader.news
  | .writer => s.writer.news
  | .client t => (s.clients t).news

/-- How far the place where a thread is lies from the end of its way. -/
def place (s : Sys) : Thread → ℕ
  | .reader => s.reader.way
  | .writer => s.writer.way
  | .client t => (s.clients t).way

/-- How far a thread is from its next wait. -/
def way (s : Sys) (th : Thread) : ℕ :=
  s.place th + if s.asleep th then 0 else 1

/-- The bytes of the replies that the writer thread did not take, and a little more for each. -/
def unsent (s : Sys) : ℕ :=
  (s.dev.reps.map fun rep => rep.header.bytes.length + rep.payload.length + 2).sum

/-- What the threads can be notified of that does not depend on where they are. -/
def sharedNews (s : Sys) : ℕ :=
  s.dev.cmds.length + if s.flags.reset then 0 else 1

/-- The rank of a state, for a set of threads that contains all that are at work. -/
def rank (T : Finset Thread) (s : Sys) : ℕ ×ₗ ℕ :=
  toLex (s.sharedNews + ∑ th ∈ T, s.news th, s.unsent + ∑ th ∈ T, s.way th)

/-- A step of a thread that notifies the others. -/
structure Tells (s s' : Sys) (th : Thread) : Prop where
  others : ∀ th', th' ≠ th → s'.news th' = s.news th'
  lowers : s'.sharedNews + s'.news th < s.sharedNews + s.news th

/-- A step of a thread that notifies nobody. -/
structure Advances (s s' : Sys) (th : Thread) : Prop where
  others : ∀ th', th' ≠ th → s.Stays s' th' ∧ s'.asleep th' = s.asleep th'
  shared : s'.sharedNews = s.sharedNews
  news : s'.news th = s.news th
  lowers : s'.unsent + s'.way th < s.unsent + s.way th

theorem Stays.news (h : s.Stays s' th) : s'.news th = s.news th := by
  cases th with
  | reader => exact congrArg ReaderPc.news h
  | writer => exact congrArg WriterPc.news h
  | client t => exact congrArg ClientPc.news h

theorem Stays.place (h : s.Stays s' th) : s'.place th = s.place th := by
  cases th with
  | reader => exact congrArg ReaderPc.way h
  | writer => exact congrArg WriterPc.way h
  | client t => exact congrArg ClientPc.way h

theorem Stays.way (h : s.Stays s' th) (hasleep : s'.asleep th = s.asleep th) :
    s'.way th = s.way th := by
  rw [Sys.way, Sys.way, h.place, hasleep]

variable {T : Finset Thread}

theorem Tells.rank_lt (h : s.Tells s' th) (hth : th ∈ T) : s'.rank T < s.rank T := by
  have hsum := sum_add_eq_of_ne hth h.others
  have hlt := h.lowers
  refine Prod.Lex.toLex_lt_toLex.mpr (.inl ?_)
  show s'.sharedNews + ∑ th ∈ T, s'.news th < s.sharedNews + ∑ th ∈ T, s.news th
  omega

theorem Advances.rank_lt (h : s.Advances s' th) (hth : th ∈ T) : s'.rank T < s.rank T := by
  have hnews : ∑ th ∈ T, s'.news th = ∑ th ∈ T, s.news th := by
    refine Finset.sum_congr rfl fun th' _ => ?_
    by_cases heq : th' = th
    · rw [heq, h.news]
    · exact (h.others th' heq).1.news
  have hway := sum_add_eq_of_ne (f := s.way) (g := s'.way) hth fun th' hne =>
    (h.others th' hne).1.way (h.others th' hne).2
  have hlt := h.lowers
  refine Prod.Lex.toLex_lt_toLex.mpr (.inr ⟨?_, ?_⟩)
  · show s'.sharedNews + ∑ th ∈ T, s'.news th = s.sharedNews + ∑ th ∈ T, s.news th
    rw [h.shared, hnews]
  · show s'.unsent + ∑ th ∈ T, s'.way th < s.unsent + ∑ th ∈ T, s.way th
    omega

/-- A thread that was awake falls asleep where it is. -/
theorem Advances.sleeps (hawake : s.asleep th = false) (hdev : s'.dev = s.dev)
    (hreset : s'.flags.reset = s.flags.reset) (hstays : ∀ th, s.Stays s' th)
    (hasleep : s'.asleep = (s.wait th).asleep) : s.Advances s' th where
  others th' hne := ⟨hstays th', by rw [hasleep, Sys.asleep_wait_of_ne hne]⟩
  shared := by rw [Sys.sharedNews, Sys.sharedNews, hdev, hreset]
  news := (hstays th).news
  lowers := by
    have hself : s'.asleep th = true := by
      rw [hasleep]
      exact Function.update_self ..
    rw [Sys.way, Sys.way, (hstays th).place, hself, hawake, Sys.unsent, Sys.unsent, hdev]
    simp

/-- A thread goes on to a place that is nearer to the end of its way. -/
theorem Advances.goes (hdev : s'.dev = s.dev) (hreset : s'.flags.reset = s.flags.reset)
    (hothers : ∀ th', th' ≠ th → s.Stays s' th') (hasleep : s'.asleep = s.asleep)
    (hnews : s'.news th = s.news th) (hplace : s'.place th < s.place th) : s.Advances s' th where
  others th' hne := ⟨hothers th' hne, by rw [hasleep]⟩
  shared := by rw [Sys.sharedNews, Sys.sharedNews, hdev, hreset]
  news := hnews
  lowers := by
    rw [Sys.way, Sys.way, hasleep, Sys.unsent, Sys.unsent, hdev]
    omega

end Sys

/-- The first call of `_reset` is news; the others do nothing. -/
theorem Resets.news (h : Resets s th e finished s₁ evs) :
    finished = true ∧ s₁ = s ∨ s₁.sharedNews + 1 = s.sharedNews := by
  have hfirst : s.flags.reset = false → (s.failed e).sharedNews + 1 = s.sharedNews := by
    intro hreset
    have hnow : (s.failed e).flags.reset = true := rfl
    have hcmds : (s.failed e).dev.cmds = s.dev.cmds := Dev.fail_cmds ..
    rw [Sys.sharedNews, Sys.sharedNews, hnow, hcmds, hreset]
    rfl
  cases h with
  | again => exact .inl ⟨rfl, rfl⟩
  | waits hreset => exact .inr (hfirst hreset)
  | closes hreset => exact .inr (hfirst hreset)

/-! ### The reader thread -/

/-- The reader thread alone goes on. -/
theorem Sys.advances_reader {pc : ReaderPc} (hnews : pc.news = s.reader.news)
    (hway : pc.way < s.reader.way) : s.Advances { s with reader := pc } .reader := by
  refine .goes rfl rfl (fun th' hne => ?_) rfl hnews hway
  cases th' with
  | reader => exact absurd rfl hne
  | _ => rfl

theorem ReaderStep.stays (h : ReaderStep s s' evs) (hne : th ≠ .reader) : s.Stays s' th := by
  cases th with
  | reader => exact absurd rfl hne
  | writer => exact h.io.1
  | client t => exact congrFun h.clients_eq t

/-- **A step of the reader thread between its calls of `recv`.** -/
theorem ReaderStep.lowers (h : ReaderStep s s' evs) (hawake : s.asleep .reader = false) :
    s.Tells s' .reader ∨ s.Advances s' .reader := by
  have hothers : ∀ th', th' ≠ .reader → s.Stays s' th' := fun _ hne => h.stays hne
  have htells : s'.sharedNews + s'.reader.news < s.sharedNews + s.reader.news →
      s.Tells s' .reader := fun hlt => ⟨fun th' hne => (hothers th' hne).news, hlt⟩
  cases h with
  | copies hpc =>
    refine .inr (Sys.advances_reader ?_ ?_)
    · rw [hpc]
      rfl
    · simp [hpc, ReaderPc.way]
  | @pushes socket cmd hpc =>
    refine .inl (htells ?_)
    show (s.dev.cmds ++ [cmd]).length + (if s.flags.reset then 0 else 1) + 1 < _
    rw [Sys.sharedNews, hpc, List.length_append]
    simp only [ReaderPc.news, List.length_singleton]
    omega
  | @fails e finished s₁ evs₁ hpc hr =>
    rcases hr.news with ⟨rfl, rfl⟩ | hshared
    · refine .inr (Sys.advances_reader ?_ ?_)
      · rw [hpc]
        rfl
      · simp [hpc, ReaderPc.way]
    · refine .inl (htells ?_)
      have hnews : ReaderPc.news (if finished then .exiting else .resetWait) = 1 := by
        cases finished <;> rfl
      show s₁.sharedNews + ReaderPc.news (if finished then .exiting else .resetWait) < _
      rw [hnews, hpc]
      show s₁.sharedNews + 1 < s.sharedNews + 1
      omega
  | loops hpc hl =>
    cases hl with
    | waits =>
      refine .inr (.sleeps hawake rfl rfl (fun th' => ?_) rfl)
      by_cases heq : th' = .reader
      · subst heq
        exact hpc.symm
      · exact hothers th' heq
    | closes =>
      refine .inr (.goes rfl rfl hothers rfl ?_ ?_)
      · simp [Sys.news, hpc, ReaderPc.news]
      · simp [Sys.place, hpc, ReaderPc.way]
  | exits hpc =>
    refine .inl (htells ?_)
    show s.sharedNews + 0 < _
    rw [hpc]
    simp [ReaderPc.news]

/-- A failing call of `recv`. -/
theorem RecvStep.lowers {r : IoResult (List UInt8)} (h : RecvStep s r s' evs)
    (hown : (Action.recv r).Own) : s.Advances s' .reader := by
  cases h with
  | header => exact hown.elim
  | payload => exact hown.elim
  | again => exact (hown rfl).elim
  | @fails _ fd hpc e hr =>
    refine Sys.advances_reader ?_ ?_
    · cases hreader : s.reader <;> simp_all [ReaderPc.news, ReaderPc.receiving]
    · cases hreader : s.reader <;> simp_all [ReaderPc.way, ReaderPc.receiving]

/-! ### The writer thread -/

/-- The writer thread alone goes on. -/
theorem Sys.advances_writer {pc : WriterPc} (hnews : pc.news = s.writer.news)
    (hway : pc.way < s.writer.way) : s.Advances { s with writer := pc } .writer := by
  refine .goes rfl rfl (fun th' hne => ?_) rfl hnews hway
  cases th' with
  | writer => exact absurd rfl hne
  | _ => rfl

theorem WriterStep.stays (h : WriterStep s s' evs) (hne : th ≠ .writer) : s.Stays s' th := by
  cases th with
  | reader => exact h.io.1
  | writer => exact absurd rfl hne
  | client t => exact congrFun h.clients_eq t

/-- **A step of the writer thread between its calls of `send`.** -/
theorem WriterStep.lowers (h : WriterStep s s' evs) (hawake : s.asleep .writer = false) :
    s.Tells s' .writer ∨ s.Advances s' .writer := by
  have hothers : ∀ th', th' ≠ .writer → s.Stays s' th' := fun _ hne => h.stays hne
  have htells : s'.sharedNews + s'.writer.news < s.sharedNews + s.writer.news →
      s.Tells s' .writer := fun hlt => ⟨fun th' hne => (hothers th' hne).news, hlt⟩
  have hsleeps : s'.writer = s.writer → ∀ th', s.Stays s' th' := by
    intro hpc th'
    by_cases heq : th' = .writer
    · subst heq
      exact hpc
    · exact hothers th' heq
  cases h with
  | copies hpc =>
    refine .inr (Sys.advances_writer ?_ ?_)
    · rw [hpc]
      rfl
    · simp [hpc, WriterPc.way]
  | raises hpc =>
    refine .inr (Sys.advances_writer ?_ ?_)
    · rw [hpc]
      rfl
    · simp [hpc, WriterPc.way]
  | sleeps => exact .inr (.sleeps hawake rfl rfl (hsleeps rfl) rfl)
  | @takes socket rep reps hpc herr hreps =>
    -- what is to be sent goes from the queue into the hands of the thread
    refine .inr ⟨fun th' hne => ⟨hothers th' hne, rfl⟩, rfl, ?_, ?_⟩
    · simp [Sys.news, hpc, WriterPc.news]
    · simp [Sys.unsent, Sys.way, Sys.place, hpc, hreps, WriterPc.way]
      omega
  | @fails e finished s₁ evs₁ hpc hr =>
    rcases hr.news with ⟨rfl, rfl⟩ | hshared
    · refine .inr (Sys.advances_writer ?_ ?_)
      · rw [hpc]
        rfl
      · simp [hpc, WriterPc.way]
    · refine .inl (htells ?_)
      have hnews : WriterPc.news (if finished then .exiting else .resetWait) = 1 := by
        cases finished <;> rfl
      show s₁.sharedNews + WriterPc.news (if finished then .exiting else .resetWait) < _
      rw [hnews, hpc]
      show s₁.sharedNews + 1 < s.sharedNews + 1
      omega
  | loops hpc hl =>
    cases hl with
    | waits => exact .inr (.sleeps hawake rfl rfl (hsleeps hpc.symm) rfl)
    | closes =>
      refine .inr (.goes rfl rfl hothers rfl ?_ ?_)
      · simp [Sys.news, hpc, WriterPc.news]
      · simp [Sys.place, hpc, WriterPc.way]
  | exits hpc =>
    refine .inl (htells ?_)
    show s.sharedNews + 0 < _
    rw [hpc]
    simp [WriterPc.news]

/-- A call of `send` that is not interrupted. -/
theorem SendStep.lowers {r : IoResult ℕ} (h : SendStep s r s' evs) (hown : (Action.send r).Own) :
    s.Advances s' .writer := by
  cases h with
  | @header socket rest payload n hpc hpos hlen =>
    refine Sys.advances_writer ?_ ?_
    · rw [hpc]
      unfold Sys.writerPayload
      split_ifs <;> rfl
    · rw [hpc]
      unfold Sys.writerPayload
      split_ifs <;> simp only [WriterPc.way, List.length_drop] <;> omega
  | @payload socket rest n hpc hpos hlen =>
    refine Sys.advances_writer ?_ ?_
    · rw [hpc]
      split_ifs <;> rfl
    · rw [hpc]
      split_ifs <;> simp only [WriterPc.way, List.length_drop] <;> omega
  | again => exact (hown rfl).elim
  | fails hpc e =>
    refine Sys.advances_writer ?_ ?_
    · cases hwriter : s.writer <;> simp_all [WriterPc.news, WriterPc.sending]
    · cases hwriter : s.writer <;> simp_all [WriterPc.way, WriterPc.sending] <;> omega

/-! ### The client threads -/

/-- The commands that `read()` and `write()` leave were there before. -/
theorem Inner.cmds_le {d d' : Dev} {devEvs : List Event} (hwf : d.Wf)
    (hd : Inner info d d' devEvs) : d'.cmds.length ≤ d.cmds.length := by
  obtain ⟨is, his⟩ := hd.run
  have hcmds := popped_append_cmds_from hwf his
  rw [hd.arrivals, List.append_nil] at hcmds
  rw [← hcmds, List.length_append]
  omega

/-- The loop of `read()` takes the command that is there. -/
theorem readCmds_cmds_lt {d : Dev} {cs : List Cmd} (hwf : d.Wf) (hne : cs ≠ []) :
    (readCmds info cs d).2.1.cmds.length < cs.length := by
  induction cs generalizing d with
  | nil => exact (hne rfl).elim
  | cons c cs ih =>
    rw [readCmds, List.length_cons]
    rcases handleStep_cases info hwf c cs with ⟨x, d₁, hrun, hh, -⟩ | ⟨e, hrun, -⟩
    · have hcmds : d₁.cmds = cs := hh.err_cmds.2
      have hwf' : Dev.Wf { d with cmds := cs } := hwf.congr rfl rfl
      rw [hrun]
      cases x with
      | some x => simp [hcmds]
      | none =>
        dsimp only
        by_cases hnil : cs = []
        · subst hnil
          simp [readCmds, hcmds]
        · exact (ih (hh.wf hwf') hnil).trans (Nat.lt_succ_self _)
    · rw [hrun]
      simp

theorem Resets.cmds_eq (h : Resets s th e finished s₁ evs) : s₁.dev.cmds = s.dev.cmds := by
  cases h with
  | again => rfl
  | waits => exact Dev.fail_cmds ..
  | closes => exact Dev.fail_cmds ..

/-- What a call of `read()` leaves of the commands is what its loop leaves. -/
theorem Sys.readCall_cmds {t : ℕ} {timeout : Timeout}
    (h : s.readCall info t timeout = some (s', evs)) :
    s'.dev.cmds = (readSection info s.dev).2.1.cmds := by
  unfold Sys.readCall at h
  rcases hread : readSection info s.dev with ⟨out, d, devEvs⟩
  rw [hread] at h
  cases out with
  | xfer x =>
    obtain ⟨rfl, rfl⟩ := by simpa using h
    exact congrArg Dev.cmds (Sys.setDev_dev d)
  | empty =>
    dsimp only at h
    split_ifs at h
    · obtain ⟨rfl, rfl⟩ := by simpa using h
      exact congrArg Dev.cmds (Sys.setDev_dev d)
    · obtain ⟨rfl, rfl⟩ := by simpa using h
      exact congrArg Dev.cmds (Sys.setDev_dev d)
  | threw e =>
    obtain ⟨rfl, rfl⟩ := by simpa using h
    show (Sys.afterReset info ((s.setDev d).resetEnter (.client t) e).2.1 t (.read timeout)
      ((s.setDev d).resetEnter (.client t) e).1).1.dev.cmds = _
    rw [Sys.afterReset_fst]
    exact (resetEnter_spec (s.setDev d) (.client t) e).cmds_eq.trans
      (congrArg Dev.cmds (Sys.setDev_dev d))
  | aborted => cases h

/-- Setting the reset bit can only lower the count. -/
theorem Sys.sharedNews_add_le {n : ℕ} (hcmds : s'.dev.cmds.length + n ≤ s.dev.cmds.length)
    (hflags : s'.flags = s.flags ∨ s'.flags = { s.flags with reset := true }) :
    s'.sharedNews + n ≤ s.sharedNews := by
  unfold Sys.sharedNews
  rcases hflags with hflags | hflags <;> rw [hflags]
  · omega
  · simp only [if_true]
    omega

namespace ClientStep

variable {t : ℕ}

theorem stays (h : ClientStep info s t s' evs) (hne : th ≠ .client t) : s.Stays s' th := by
  cases th with
  | reader => exact h.io.1.1
  | writer => exact h.io.2.1
  | client t' => exact h.clients_of_ne fun heq => hne (by rw [heq])

theorem cmds_le (h : ClientStep info s t s' evs) (hwf : s.dev.Wf) :
    s'.dev.cmds.length ≤ s.dev.cmds.length := by
  cases h with
  | returns hpc hd =>
    show (s.setDev _).dev.cmds.length ≤ _
    rw [Sys.setDev_dev]
    exact hd.cmds_le hwf
  | sleeps hpc ht hd =>
    show (s.setDev _).dev.cmds.length ≤ _
    rw [Sys.setDev_dev]
    exact hd.cmds_le hwf
  | @fails _ _ d _ finished s₁ _ hpc hd hnone herr hr =>
    rw [Sys.afterReset_fst]
    show s₁.dev.cmds.length ≤ _
    rw [hr.cmds_eq, Sys.setDev_dev]
    exact hd.cmds_le hwf
  | loops hpc hl =>
    rw [Sys.afterReset_fst]
    cases hl <;> exact le_rfl

/-- After its step a client thread is past the beginning of its call. -/
theorem news_self (h : ClientStep info s t s' evs) : s'.news (.client t) = 0 := by
  cases h with
  | returns => exact congrArg ClientPc.news (Sys.setClient_self ..)
  | sleeps => exact congrArg ClientPc.news (Sys.setClient_self ..)
  | @fails _ _ _ _ finished =>
    rw [Sys.afterReset_fst]
    cases finished <;> exact congrArg ClientPc.news (Sys.setClient_self ..)
  | @loops _ finished =>
    rw [Sys.afterReset_fst]
    cases finished <;> exact congrArg ClientPc.news (Sys.setClient_self ..)

/-- A client thread that takes the lock for the first time, or takes commands, notifies the
others. -/
theorem tells (h : ClientStep info s t s' evs) (hwf : s.dev.Wf)
    (hless : 0 < s.news (.client t) ∨ s'.dev.cmds.length < s.dev.cmds.length) :
    s.Tells s' (.client t) where
  others _ hne := (h.stays hne).news
  lowers := by
    rw [h.news_self]
    rcases hless with hless | hless
    · have hle := Sys.sharedNews_add_le (n := 0) (h.cmds_le hwf) h.flags
      omega
    · have hlt := Sys.sharedNews_add_le (n := 1) hless h.flags
      omega

end ClientStep

/-- A client thread that leaves its call, or falls asleep in it, moves on. -/
theorem Sys.Advances.client {t : ℕ} {pc : ClientPc} (hpc : (s.clients t).way = 2)
    (hnews : pc.news = (s.clients t).news) (hway : pc.way = 0) (hdev : s'.dev = s.dev)
    (hreset : s'.flags.reset = s.flags.reset) (hothers : ∀ th', th' ≠ .client t → s.Stays s' th')
    (hself : s'.clients t = pc) (hasleep : s'.asleep = s.asleep) : s.Advances s' (.client t) := by
  refine .goes hdev hreset hothers hasleep ?_ ?_
  · show (s'.clients t).news = _
    rw [hself, hnews]
    rfl
  · show (s'.clients t).way < (s.clients t).way
    rw [hself, hpc, hway]
    omega

/-- **A client thread goes on in `read()`**: it takes a command, or notifies nobody. -/
theorem Sys.readCall_lowers {t : ℕ} {timeout : Timeout} (hs : s.Sound)
    (hpc : s.clients t = .reading timeout) (hawake : s.asleep (.client t) = false)
    (h : s.readCall info t timeout = some (s', evs)) :
    s.Tells s' (.client t) ∨ s.Advances s' (.client t) := by
  have hstep : ClientStep info s t s' evs := readCall_spec hs.wf (by rw [hpc]; rfl) h
  have hothers : ∀ th', th' ≠ .client t → s.Stays s' th' := fun _ hne => hstep.stays hne
  have hidle : s' = s.setClient t .idle → s.Advances s' (.client t) := by
    intro hs'
    subst hs'
    exact .client (by rw [hpc]; rfl) (by rw [hpc]; rfl) rfl rfl rfl hothers
      (Sys.setClient_self ..) rfl
  cases herr : s.dev.err with
  | some e =>
    have hf : s.Failed e := ⟨herr, by rw [← hs.err, herr]; rfl⟩
    have hread : readSection info s.dev = (.threw e, s.dev, []) := by rw [readSection, herr]
    have hcall : (Call.read timeout).Transfers := trivial
    rw [Sys.readCall, hread] at h
    dsimp only at h
    rw [Sys.setDev_self, hf.callReset hcall] at h
    obtain ⟨rfl, -⟩ := Prod.ext_iff.mp (Option.some.inj h)
    exact .inr (hidle rfl)
  | none =>
    by_cases hcmds : s.dev.cmds = []
    · have hread : readSection info s.dev = (.empty, s.dev, []) := by
        rw [readSection, herr]
        dsimp only
        rw [hcmds, readCmds]
      rw [Sys.readCall, hread] at h
      dsimp only at h
      rw [Sys.setDev_self] at h
      split_ifs at h
      · obtain ⟨rfl, -⟩ := Prod.ext_iff.mp (Option.some.inj h)
        exact .inr (hidle rfl)
      · obtain ⟨rfl, -⟩ := Prod.ext_iff.mp (Option.some.inj h)
        refine .inr (.sleeps hawake rfl rfl (fun th' => ?_) rfl)
        by_cases heq : th' = .client t
        · subst heq
          exact (Sys.setClient_self ..).trans hpc.symm
        · exact hothers th' heq
    · refine .inl (hstep.tells hs.wf (.inr ?_))
      have hread : readSection info s.dev = readCmds info s.dev.cmds s.dev := by
        rw [readSection, herr]
      rw [Sys.readCall_cmds h, hread]
      exact readCmds_cmds_lt hs.wf hcmds

/-- **A step of a client thread.** -/
theorem Sys.stepClient_lowers {t : ℕ} (hs : s.Sound) (hawake : s.asleep (.client t) = false)
    (h : s.stepClient info t = some (s', evs)) :
    s.Tells s' (.client t) ∨ s.Advances s' (.client t) := by
  have hstep : ClientStep info s t s' evs := stepClient_spec hs.wf h
  cases hpc : s.clients t with
  | idle =>
    rw [Sys.stepClient, hpc] at h
    cases h
  | entering call =>
    refine .inl (hstep.tells hs.wf (.inl ?_))
    show 0 < (s.clients t).news
    rw [hpc]
    exact Nat.one_pos
  | reading timeout =>
    rw [Sys.stepClient, hpc] at h
    exact Sys.readCall_lowers hs hpc hawake h
  | resetting call =>
    obtain ⟨finished, s₁, hl, rfl, -⟩ := hstep.of_resetting hpc
    have hothers : ∀ th', th' ≠ .client t →
        s.Stays (s₁.afterReset info t call finished).1 th' := fun _ hne => hstep.stays hne
    rw [Sys.afterReset_fst] at hothers ⊢
    cases hl with
    | waits =>
      refine .inr (.sleeps hawake rfl rfl (fun th' => ?_) rfl)
      by_cases heq : th' = .client t
      · subst heq
        exact (Sys.setClient_self ..).trans hpc.symm
      · exact hothers th' heq
    | closes =>
      exact .inr (.client (by rw [hpc]; rfl) (by rw [hpc]; rfl) rfl rfl rfl hothers
        (Sys.setClient_self ..) rfl)

/-- **`start()`** begins, and the threads that it creates are those that it could create. -/
theorem StartStep.lowers {t : ℕ} {o : StartOutcome} (h : StartStep info s t o s' evs)
    (hlife : s.Life) (hpc : s.clients t = .entering .start) (hidle : s.flags = {}) :
    s.Tells s' (.client t) := by
  obtain ⟨hr, hw, -⟩ := hlife.fresh (by rw [hidle])
  have hr' := ReaderPc.stage_off hr
  have hw' := WriterPc.stage_off hw
  have hclients : ∃ pc : ClientPc, pc.news = 0 ∧ s'.clients = Function.update s.clients t pc ∧
      s'.sharedNews ≤ s.sharedNews := by
    cases h with
    | @fails o e s₁ s₂ finished evs₁ hf hres =>
      have hshared : s₁.sharedNews = s.sharedNews := by cases hf <;> rfl
      have hcl : s₂.clients = s.clients := by
        rw [hres.threads.2.2]
        cases hf <;> rfl
      rw [Sys.afterReset_fst]
      refine ⟨if finished then .idle else .resetting .start, by cases finished <;> rfl, ?_, ?_⟩
      · show Function.update s₂.clients t _ = _
        rw [hcl]
      · show s₂.sharedNews ≤ _
        rcases hres.news with ⟨-, rfl⟩ | hres
        · rw [hshared]
        · omega
    | started => exact ⟨.idle, rfl, rfl, le_rfl⟩
  obtain ⟨pc, hnews, hcl, hshared⟩ := hclients
  refine ⟨fun th' hne => ?_, ?_⟩
  · cases th' with
    | reader =>
      show s'.reader.news = s.reader.news
      rcases h.io.1.1 with heq | heq <;> rw [heq]
      rw [hr']
      rfl
    | writer =>
      show s'.writer.news = s.writer.news
      rcases h.io.2.1 with heq | heq <;> rw [heq]
      rw [hw']
      rfl
    | client t' =>
      have ht : t' ≠ t := fun heq => hne (by rw [heq])
      show (s'.clients t').news = (s.clients t').news
      rw [hcl, Function.update_of_ne ht]
  · show s'.sharedNews + (s'.clients t).news < s.sharedNews + (s.clients t).news
    rw [hcl, Function.update_self, hnews, hpc]
    show s'.sharedNews + 0 < s.sharedNews + 1
    omega

/-- A call of `read()` whose timeout has expired returns and notifies nobody. -/
theorem Sys.Advances.timeout {t : ℕ} (hpc : s.clients t = .reading .finite) :
    s.Advances ((s.wake (.client t)).setClient t .idle) (.client t) where
  others th' hne := by
    refine ⟨?_, Sys.asleep_wake_of_ne hne⟩
    cases th' with
    | client t' =>
      exact Sys.setClient_of_ne (s := s.wake (.client t)) (fun heq => hne (by rw [heq])) .idle
    | _ => rfl
  shared := rfl
  news := by
    show (((s.wake (.client t)).setClient t .idle).clients t).news = (s.clients t).news
    rw [Sys.setClient_self, hpc]
    rfl
  lowers := by
    have hold : s.place (.client t) = 2 := by
      show (s.clients t).way = 2
      rw [hpc]
      rfl
    have hnew : ((s.wake (.client t)).setClient t .idle).place (.client t) = 0 := by
      show (((s.wake (.client t)).setClient t .idle).clients t).way = 0
      rw [Sys.setClient_self]
      rfl
    have hle : ((s.wake (.client t)).setClient t .idle).way (.client t) ≤ 1 := by
      unfold Sys.way
      rw [hnew]
      split_ifs <;> simp
    have hge : 2 ≤ s.way (.client t) := by
      rw [Sys.way, hold]
      exact Nat.le_add_right ..
    show s.unsent + _ < s.unsent + _
    omega

/-! ### All steps -/

/-- The threads that are not between two calls. -/
def Sys.AtWork (s : Sys) : Thread → Prop
  | .client t => s.clients t ≠ .idle
  | _ => True

/-- A client thread gets to work only by making a call. -/
theorem SysStep.atWork {a : Action} (h : SysStep info s a s' evs) (hth : s'.AtWork th) :
    s.AtWork th ∨ ∃ t call, th = .client t ∧ a = .call t call := by
  cases th with
  | reader => exact .inl trivial
  | writer => exact .inl trivial
  | client t =>
    have hmoves : ∀ {t' : ℕ}, s.clients t' ≠ .idle → (t ≠ t' → s'.clients t = s.clients t) →
        s.clients t ≠ .idle := by
      intro t' hpc hother
      by_cases ht : t = t'
      · exact ht ▸ hpc
      · exact (hother ht) ▸ hth
    cases h with
    | @call t' call hpc =>
      by_cases ht : t = t'
      · subst ht
        exact .inr ⟨t, call, rfl, rfl⟩
      · have hne : (s.setClient t' (.entering call)).clients t ≠ .idle := hth
        rw [Sys.setClient_of_ne ht] at hne
        exact .inl hne
    | @client t' _ _ _ h =>
      refine .inl (hmoves (fun hidle => ?_) h.clients_of_ne)
      cases h with
      | returns hpc => rw [hidle] at hpc; exact hpc
      | sleeps hpc => rw [hidle] at hpc; exact hpc
      | fails hpc => rw [hidle] at hpc; exact hpc
      | loops hpc => rw [hidle] at hpc; cases hpc
    | @start t' _ _ _ hpc _ h =>
      refine .inl (hmoves (by rw [hpc]; simp) fun ht => ?_)
      cases h with
      | @fails _ _ s₁ s₂ _ _ hf hr =>
        rw [Sys.afterReset_fst, Sys.setClient_of_ne ht, hr.threads.2.2]
        cases hf <;> rfl
      | started => exact Sys.setClient_of_ne ht _
    | @timeout t' hpc =>
      refine .inl (hmoves (by rw [hpc]; simp) fun ht => ?_)
      exact Sys.setClient_of_ne (s := s.wake (.client t')) ht .idle
    | wake => exact .inl hth
    | reader _ h =>
      have hne : s'.clients t ≠ .idle := hth
      rw [h.clients_eq] at hne
      exact .inl hne
    | recv h =>
      obtain ⟨fd, pc, -, -, rfl⟩ := h.works
      exact .inl hth
    | writer _ h =>
      have hne : s'.clients t ≠ .idle := hth
      rw [h.clients_eq] at hne
      exact .inl hne
    | send h =>
      obtain ⟨fd, pc, -, -, rfl⟩ := h.works
      exact .inl hth

/-- **A step that the program takes by itself** is the step of a thread at work, and notifies the
others or moves the thread on. -/
theorem Sys.step_lowers {a : Action} (hs : s.Sound) (hown : a.Own)
    (h : s.step info a = some (s', evs)) :
    ∃ th, s.AtWork th ∧ (s.Tells s' th ∨ s.Advances s' th) := by
  have hspec := sysStep_spec hs.wf h
  cases hspec with
  | call => exact hown.elim
  | @client t _ _ hawake hstep =>
    rw [Sys.step, if_neg (by simp [hawake])] at h
    refine ⟨.client t, fun hidle => ?_, Sys.stepClient_lowers hs hawake h⟩
    rw [Sys.stepClient, hidle] at h
    cases h
  | @start t o _ _ hpc hidle hstep =>
    exact ⟨.client t, by rw [Sys.AtWork, hpc]; simp, .inl (hstep.lowers hs.life hpc hidle)⟩
  | @timeout t hpc =>
    exact ⟨.client t, by rw [Sys.AtWork, hpc]; simp, .inr (.timeout hpc)⟩
  | wake => exact hown.elim
  | reader hawake hstep => exact ⟨.reader, trivial, hstep.lowers hawake⟩
  | recv hstep => exact ⟨.reader, trivial, .inr (hstep.lowers hown)⟩
  | writer hawake hstep => exact ⟨.writer, trivial, hstep.lowers hawake⟩
  | send hstep => exact ⟨.writer, trivial, .inr (hstep.lowers hown)⟩

/-- What the steps of the program itself lower, for threads among which are all that are at
work. -/
def ownRanking (info : Info) (T : Finset Thread) :
    Ranking (threads info) (fun _ a => a.Own) (ℕ ×ₗ ℕ) where
  Inv s := s.Sound ∧ ∀ th, s.AtWork th → th ∈ T
  rank := Sys.rank T
  keeps s a s' evs := by
    rintro ⟨hs, hT⟩ hown h
    have hspec := sysStep_spec hs.wf h
    refine ⟨hspec.sound hs, fun th hth => ?_⟩
    rcases hspec.atWork hth with hold | ⟨t, call, -, rfl⟩
    · exact hT th hold
    · exact hown.elim
  lowers s a s' evs := by
    rintro ⟨hs, hT⟩ hown h
    obtain ⟨th, hth, htells | hadvances⟩ := Sys.step_lowers hs hown h
    · exact htells.rank_lt (hT th hth)
    · exact hadvances.rank_lt (hT th hth)

/-- In a state that is reached only finitely many threads are at work. -/
theorem exists_ownRanking {is : List Action} (h : (threads info).Run is s evs) :
    s.Sound ∧ ∃ T : Finset Thread, ∀ th, s.AtWork th → th ∈ T := by
  refine h.state_invariant (P := fun s => s.Sound ∧ ∃ T : Finset Thread, ∀ th, s.AtWork th → th ∈ T)
    ⟨.init, {.reader, .writer}, fun th hth => ?_⟩ ?_
  · cases th with
    | client t => exact (hth rfl).elim
    | _ => simp
  · rintro s a s' evs ⟨hs, T, hT⟩ - h
    have hspec := sysStep_spec hs.wf h
    refine ⟨hspec.sound hs, ?_⟩
    cases a with
    | call t call =>
      refine ⟨insert (.client t) T, fun th hth => ?_⟩
      rcases hspec.atWork hth with hold | ⟨t', call', rfl, heq⟩
      · exact Finset.mem_insert_of_mem (hT th hold)
      · obtain ⟨rfl, -⟩ := Action.call.inj heq
        exact Finset.mem_insert_self ..
    | _ =>
      refine ⟨T, fun th hth => ?_⟩
      rcases hspec.atWork hth with hold | ⟨t', call', -, heq⟩
      · exact hT th hold
      · cases heq

/-- **No livelock.**  In an infinite run of critical sections, whatever the threads do and in
whatever order, the outside acts again and again: a client makes a call, bytes arrive, a system call
is interrupted, or a thread wakes up without having been notified. -/
theorem outside_again_and_again {f : ℕ → Sys} {a : ℕ → Action}
    (h : (threads info).Execution f a) (hinit : f 0 = {}) (n : ℕ) : ∃ m, n ≤ m ∧ ¬ (a m).Own :=
  h.exists_ge_not_ok hinit (fun _ _ _ hrun =>
    have ⟨hs, T, hT⟩ := exists_ownRanking hrun
    ⟨ownRanking info T, hs, hT⟩) n

/-- A client asks for the error for ever. -/
theorem outside_again_and_again_errCalls :
    ∃ m, 5 ≤ m ∧ ¬ (if m % 2 = 0 then Action.call 0 .err else .client 0).Own := by
  have hsteps : (threads .minimal).Execution
      (fun n => if n % 2 = 0 then {} else ({} : Sys).setClient 0 (.entering .err))
      (fun n => if n % 2 = 0 then .call 0 .err else .client 0) := by
    intro n
    rcases Nat.mod_two_eq_zero_or_one n with hn | hn
    · refine ⟨[], ?_⟩
      simp [hn, Nat.add_mod, threads, Sys.step]
    · refine ⟨[.returned 0 .err (.error none)], ?_⟩
      have hback : (({} : Sys).setClient 0 (.entering .err)).setClient 0 .idle = {} := by
        simp [Sys.setClient]
      have hawake : (({} : Sys).setClient 0 (.entering .err)).asleep (.client 0) = false := rfl
      simp [hn, Nat.add_mod, threads, Sys.step, hawake, Sys.stepClient, Sys.return_, hback]
      rfl
  exact outside_again_and_again hsteps rfl 5

end VirtualUSB
