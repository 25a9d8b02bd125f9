import VirtualUSB.Host.Messages
import VirtualUSB.Threads.Equiv.Waking

/-!
# The reader thread decodes what the host encodes

* `decodeHeader_wire`: the header of a message is decoded to the header of its command.
* `cmdFraming` is the frame format of the commands; `ReaderInv` says which frames the reader thread
  has received and what of them it has appended to `cmds`.
* `commands_decoded`: the reader thread appends the commands of the messages that are complete, in
  order, and nothing else.
-/

namespace VirtualUSB

open Endian LabelledSystem

/-! ### A single message -/

namespace HostMsg

/-- The header of a message as it lies in the memory of the device when it was received. -/
def wire : HostMsg → Header
  | .submit seqnum devid direction ep cmd _ =>
    { base :=
        { command := bfhU32 usbipCmdSubmit, seqnum := bfhU32 seqnum, devid := bfhU32 devid,
          direction := bfhU32 direction, ep := bfhU32 ep }
      union :=
        { word0 := bfhU32 cmd.transferFlags
          word1 := bfhU32 cmd.transferBufferLength.toUInt32
          word2 := bfhU32 cmd.startFrame.toUInt32
          word3 := bfhU32 cmd.numberOfPackets.toUInt32
          word4 := bfhU32 cmd.interval.toUInt32
          tail := cmd.setup } }
  | .unlink seqnum devid direction ep target padding =>
    { base :=
        { command := bfhU32 usbipCmdUnlink, seqnum := bfhU32 seqnum, devid := bfhU32 devid,
          direction := bfhU32 direction, ep := bfhU32 ep }
      union := { padding with word0 := bfhU32 target } }

/-- The memory of the header and the payload are the bytes the host sends. -/
theorem encode_eq (m : HostMsg) : m.encode = m.wire.bytes ++ m.toCmd.payload := by
  cases m with
  | submit seqnum devid direction ep cmd payload =>
    simp only [encode, encodeBase, wire, Header.bytes, leBytes_bfhU32, toCmd]
  | unlink seqnum devid direction ep target padding =>
    simp only [encode, encodeBase, wire, Header.bytes, leBytes_bfhU32, toCmd, List.append_nil]

/-- **Decoding undoes encoding**: the header that was received is decoded to the header of the
command. -/
theorem decodeHeader_wire (m : HostMsg) : decodeHeader m.wire = .ok m.toCmd.header := by
  have hs : ∀ x : Int32, hfbS32 (bfhU32 x.toUInt32).toInt32 = x := hfbS32_bfhS32
  cases m with
  | submit seqnum devid direction ep cmd payload =>
    simp only [decodeHeader, wire, toCmd, hfbU32_bfhU32, if_true, Header.cmdSubmit, hs]
    rfl
  | unlink seqnum devid direction ep target padding =>
    have hne : ¬ usbipCmdUnlink = usbipCmdSubmit := by decide
    simp only [decodeHeader, wire, toCmd, hfbU32_bfhU32, if_neg hne, if_true,
      Header.cmdUnlinkSeqnum]
    rfl

/-- The payload is as long as the decoded header says, and shorter than what cannot be allocated. -/
theorem WellFormed.payloadLenOf {m : HostMsg} (h : m.WellFormed) :
    VirtualUSB.payloadLenOf m.toCmd.header = m.toCmd.payload.length ∧
      m.toCmd.payload.length < maxAllocation := by
  cases m with
  | submit seqnum devid direction ep cmd payload =>
    obtain ⟨hnonneg, hlen⟩ := h
    have hlt := Int32.toInt_lt cmd.transferBufferLength
    have hsize : sizeOfInt32 cmd.transferBufferLength = cmd.transferBufferLength.toInt.toNat :=
      sizeOfInt32_of_nonneg hnonneg
    by_cases hdir : direction = usbipDirOut
    · rw [if_pos hdir] at hlen
      have hout :
          VirtualUSB.payloadLenOf (toCmd (.submit seqnum devid direction ep cmd payload)).header
          = sizeOfInt32 cmd.transferBufferLength := by
        simp [VirtualUSB.payloadLenOf, toCmd, hdir]
      refine ⟨?_, ?_⟩
      · rw [hout, hsize]
        exact hlen.symm
      · show payload.length < 2 ^ 63
        omega
    · rw [if_neg hdir] at hlen
      have hin :
          VirtualUSB.payloadLenOf (toCmd (.submit seqnum devid direction ep cmd payload)).header
          = 0 := by
        simp [VirtualUSB.payloadLenOf, toCmd, hdir]
      refine ⟨?_, ?_⟩
      · rw [hin]
        exact hlen.symm
      · show payload.length < 2 ^ 63
        omega
  | unlink seqnum devid direction ep target padding => exact ⟨rfl, Nat.two_pow_pos 63⟩

end HostMsg

/-! ### The frame format of the commands -/

/-- The frame format of the commands: a header and the payload that the decoded header announces.
What cannot be decoded is never complete. -/
def cmdFraming : Framing UInt8 where
  header := headerSize
  body bs :=
    match decodeHeader (Header.ofBytes bs) with
    | .ok h => payloadLenOf h
    | .error _ => 1
  header_pos := headerSize_pos

/-- The command in a frame. -/
def decodeFrame (f : List UInt8) : Cmd where
  header :=
    match decodeHeader (Header.ofBytes (f.take headerSize)) with
    | .ok h => h
    | .error _ => {}
  payload := f.drop headerSize

/-- The length of the frame that begins with a header. -/
theorem frameLength_of_decode {hdr p : List UInt8} {h : Header} (hlen : hdr.length = headerSize)
    (hdec : decodeHeader (Header.ofBytes hdr) = .ok h) :
    cmdFraming.frameLength (hdr ++ p) = headerSize + payloadLenOf h := by
  have htake : (hdr ++ p).take headerSize = hdr := by rw [← hlen, List.take_left]
  show headerSize + cmdFraming.body ((hdr ++ p).take headerSize) = _
  rw [htake]
  simp only [cmdFraming, hdec]

/-- A header with a payload of the announced length is a frame, and it is decoded as it should. -/
theorem isFrame_of_decode {hdr p : List UInt8} {h : Header} (hlen : hdr.length = headerSize)
    (hdec : decodeHeader (Header.ofBytes hdr) = .ok h) (hp : p.length = payloadLenOf h) :
    cmdFraming.IsFrame (hdr ++ p) ∧ decodeFrame (hdr ++ p) = { header := h, payload := p } := by
  refine ⟨⟨?_, ?_⟩, ?_⟩
  · show headerSize ≤ (hdr ++ p).length
    rw [List.length_append]
    omega
  · rw [frameLength_of_decode hlen hdec, List.length_append]
    omega
  · have htake : (hdr ++ p).take headerSize = hdr := by rw [← hlen, List.take_left]
    have hdrop : (hdr ++ p).drop headerSize = p := by rw [← hlen, List.drop_left]
    rw [decodeFrame, htake, hdrop, hdec]

/-- The bytes of a message are a frame, and it is decoded to the command of the message. -/
theorem isFrame_encode {m : HostMsg} (hm : m.WellFormed) :
    cmdFraming.IsFrame m.encode ∧ decodeFrame m.encode = m.toCmd := by
  have hdec : decodeHeader (Header.ofBytes m.wire.bytes) = .ok m.toCmd.header := by
    have hof := Header.ofBytes_append m.wire []
    rw [List.append_nil] at hof
    rw [hof, m.decodeHeader_wire]
  rw [m.encode_eq]
  exact isFrame_of_decode (Header.length_bytes _) hdec hm.payloadLenOf.1.symm

/-! ### What the reader thread has received -/

/-- What the commands that were appended to `cmds` have to do with the frames `fs` and the rest `p`
that were received, by where the reader thread is. -/
inductive Parsed (arrived : List Cmd) (fs : List (List UInt8)) : List UInt8 → ReaderPc → Prop
  | idle {pc : ReaderPc} (hpc : pc = .notLaunched ∨ pc = .launched)
      (harr : arrived = fs.map decodeFrame) : Parsed arrived fs [] pc
  | header {socket : ℤ} {buf : List UInt8} (hlen : buf.length < headerSize)
      (harr : arrived = fs.map decodeFrame) : Parsed arrived fs buf (.recvHeader socket buf)
  | payload {socket : ℤ} {h : Header} {hdr buf : List UInt8} (hhdr : hdr.length = headerSize)
      (hdec : decodeHeader (Header.ofBytes hdr) = .ok h) (hlen : buf.length < payloadLenOf h)
      (harr : arrived = fs.map decodeFrame) :
      Parsed arrived fs (hdr ++ buf) (.recvPayload socket h (payloadLenOf h) buf)
  | push {socket : ℤ} {cmd : Cmd} (harr : arrived ++ [cmd] = fs.map decodeFrame) :
      Parsed arrived fs [] (.push socket cmd)
  | ended {pc : ReaderPc} {p : List UInt8} (hpc : pc.failed = true) (hp : cmdFraming.Incomplete p)
      (harr : arrived = fs.map decodeFrame) : Parsed arrived fs p pc

/-- The bytes that were received are complete frames and a rest, and the commands of the frames are
appended to `cmds`, but for one that the reader thread has in its hand. -/
def ReaderInv (s : Sys) (evs : List SysEvent) : Prop :=
  ∃ fs p, (∀ f ∈ fs, cmdFraming.IsFrame f) ∧ receivedBytes evs = fs.flatten ++ p ∧
    Parsed (arrivals (devEvents evs)) fs p s.reader

/-- The rest is no complete frame. -/
theorem Parsed.incomplete {arrived : List Cmd} {fs : List (List UInt8)} {p : List UInt8}
    {pc : ReaderPc} (h : Parsed arrived fs p pc) : cmdFraming.Incomplete p := by
  cases h with
  | idle => exact cmdFraming.incomplete_nil
  | header hlen => exact .inl hlen
  | payload hhdr hdec hlen =>
    refine .inr ?_
    rw [frameLength_of_decode hhdr hdec, List.length_append]
    omega
  | push => exact cmdFraming.incomplete_nil
  | ended _ hp => exact hp

variable {info : Info} {s s' : Sys} {evs evs' : List SysEvent}

theorem Parsed.of_recvHeader {arrived : List Cmd} {fs : List (List UInt8)} {p : List UInt8}
    {socket : ℤ} {buf : List UInt8} (h : Parsed arrived fs p (.recvHeader socket buf)) :
    p = buf ∧ buf.length < headerSize ∧ arrived = fs.map decodeFrame := by
  cases h with
  | idle hpc => rcases hpc with hpc | hpc <;> cases hpc
  | header hlen harr => exact ⟨rfl, hlen, harr⟩
  | ended hpc => cases hpc

theorem Parsed.of_recvPayload {arrived : List Cmd} {fs : List (List UInt8)} {p : List UInt8}
    {socket : ℤ} {h : Header} {len : ℕ} {buf : List UInt8}
    (hp : Parsed arrived fs p (.recvPayload socket h len buf)) :
    ∃ hdr, p = hdr ++ buf ∧ hdr.length = headerSize ∧
      decodeHeader (Header.ofBytes hdr) = .ok h ∧ len = payloadLenOf h ∧ buf.length < len ∧
      arrived = fs.map decodeFrame := by
  cases hp with
  | idle hpc => rcases hpc with hpc | hpc <;> cases hpc
  | payload hhdr hdec hlen harr => exact ⟨_, rfl, hhdr, hdec, rfl, hlen, harr⟩
  | ended hpc => cases hpc

theorem Parsed.of_push {arrived : List Cmd} {fs : List (List UInt8)} {p : List UInt8} {socket : ℤ}
    {cmd : Cmd} (h : Parsed arrived fs p (.push socket cmd)) :
    p = [] ∧ arrived ++ [cmd] = fs.map decodeFrame := by
  cases h with
  | idle hpc => rcases hpc with hpc | hpc <;> cases hpc
  | push harr => exact ⟨rfl, harr⟩
  | ended hpc => cases hpc

theorem Parsed.of_idle {arrived : List Cmd} {fs : List (List UInt8)} {p : List UInt8}
    {pc : ReaderPc} (h : Parsed arrived fs p pc) (hpc : pc = .notLaunched ∨ pc = .launched) :
    p = [] ∧ arrived = fs.map decodeFrame := by
  cases h with
  | idle _ harr => exact ⟨rfl, harr⟩
  | ended hfailed => rcases hpc with rfl | rfl <;> cases hfailed
  | _ => simp at hpc

theorem Parsed.of_failed {arrived : List Cmd} {fs : List (List UInt8)} {p : List UInt8}
    {pc : ReaderPc} (h : Parsed arrived fs p pc) (hpc : pc.failed = true) :
    arrived = fs.map decodeFrame := by
  cases h with
  | idle hidle => rcases hidle with rfl | rfl <;> cases hpc
  | ended _ _ harr => exact harr
  | _ => cases hpc

/-- The header is complete. -/
theorem Parsed.headerDone {arrived : List Cmd} {fs : List (List UInt8)} {hdr : List UInt8}
    (hfs : ∀ f ∈ fs, cmdFraming.IsFrame f) (hlen : hdr.length = headerSize)
    (harr : arrived = fs.map decodeFrame) (socket : ℤ) :
    ∃ fs' p, (∀ f ∈ fs', cmdFraming.IsFrame f) ∧ fs.flatten ++ hdr = fs'.flatten ++ p ∧
      Parsed arrived fs' p (Sys.readerHeaderDone socket hdr) := by
  unfold Sys.readerHeaderDone
  cases hdec : decodeHeader (Header.ofBytes hdr) with
  | error e =>
    refine ⟨fs, hdr, hfs, rfl, .ended rfl (.inr ?_) harr⟩
    show hdr.length < headerSize + cmdFraming.body (hdr.take headerSize)
    rw [← hlen, List.take_length]
    simp only [cmdFraming, hdec]
    omega
  | ok h =>
    have hframe := isFrame_of_decode (p := []) hlen hdec
    rw [List.append_nil] at hframe
    simp only
    split_ifs with hzero hmax
    · -- the message has no payload
      obtain ⟨hf, hd⟩ := hframe hzero.symm
      refine ⟨fs ++ [hdr], [], ?_, by simp, .push ?_⟩
      · rw [List.forall_mem_append]
        exact ⟨hfs, by simpa using hf⟩
      · rw [List.map_append, List.map_singleton, hd, harr]
    · -- the payload cannot be allocated
      refine ⟨fs, hdr, hfs, rfl, .ended rfl (.inr ?_) harr⟩
      have hfl := frameLength_of_decode (p := []) hlen hdec
      rw [List.append_nil] at hfl
      rw [hfl]
      omega
    · refine ⟨fs, hdr ++ [], hfs, by simp, .payload hlen hdec ?_ harr⟩
      exact Nat.pos_of_ne_zero hzero

/-- After the last byte of a payload the command is in the hands of the reader thread. -/
theorem Parsed.payloadDone {cmds : List Cmd} {fs : List (List UInt8)} {hdr p : List UInt8}
    {h : Header} (hfs : ∀ f ∈ fs, cmdFraming.IsFrame f) (hhdr : hdr.length = headerSize)
    (hdec : decodeHeader (Header.ofBytes hdr) = .ok h) (hall : p.length = payloadLenOf h)
    (harr : cmds = fs.map decodeFrame) (socket : ℤ) :
    ∃ fs' p', (∀ f ∈ fs', cmdFraming.IsFrame f) ∧ fs.flatten ++ (hdr ++ p) = fs'.flatten ++ p' ∧
      Parsed cmds fs' p' (.push socket { header := h, payload := p }) := by
  obtain ⟨hf, hd⟩ := isFrame_of_decode hhdr hdec hall
  refine ⟨fs ++ [hdr ++ p], [], ?_, by simp, .push ?_⟩
  · rw [List.forall_mem_append]
    exact ⟨hfs, by simpa using hf⟩
  · rw [List.map_append, List.map_singleton, hd, harr]

/-- Between the bytes of a message all commands before it have been appended. -/
theorem Parsed.of_receiving {cmds : List Cmd} {fs : List (List UInt8)} {p : List UInt8}
    {pc : ReaderPc} {fd : ℤ} (h : Parsed cmds fs p pc) (hpc : pc.receiving = some fd) :
    cmds = fs.map decodeFrame := by
  cases pc with
  | recvHeader socket buf => exact h.of_recvHeader.2.2
  | recvPayload socket hd len buf =>
    obtain ⟨hdr, -, -, -, -, -, harr⟩ := h.of_recvPayload
    exact harr
  | _ => cases hpc

/-- A call of `recv` keeps the invariant of the reader thread. -/
theorem RecvStep.readerInv {r : IoResult (List UInt8)} (h : RecvStep s r s' evs')
    (hinv : ReaderInv s evs) : ReaderInv s' (evs ++ evs') := by
  obtain ⟨fs, p, hfs, hbytes, hparsed⟩ := hinv
  have hreceived : receivedBytes (evs ++ evs') = fs.flatten ++ (p ++ receivedBytes evs') := by
    rw [receivedBytes_append, hbytes, List.append_assoc]
  have harrived : arrivals (devEvents (evs ++ evs')) = arrivals (devEvents evs) := by
    have hnone : arrivals (devEvents evs') = [] := by cases h <;> rfl
    rw [devEvents_append, arrivals_append, hnone, List.append_nil]
  unfold ReaderInv
  rw [hreceived, harrived]
  cases h with
  | @header socket buf bs hpc hpos hlen =>
    rw [hpc] at hparsed
    obtain ⟨rfl, hbuf, harr⟩ := hparsed.of_recvHeader
    have hbs : receivedBytes [.received bs] = bs := List.append_nil bs
    rw [hbs]
    dsimp only [Sys.readerNext]
    split_ifs with hmore
    · exact ⟨fs, p ++ bs, hfs, rfl, .header hmore harr⟩
    · refine Parsed.headerDone hfs ?_ harr socket
      rw [List.length_append] at hmore ⊢
      omega
  | @payload socket h len buf bs hpc hpos hlen =>
    rw [hpc] at hparsed
    obtain ⟨hdr, rfl, hhdr, hdec, rfl, hbuf, harr⟩ := hparsed.of_recvPayload
    have hbs : receivedBytes [.received bs] = bs := List.append_nil bs
    rw [hbs, List.append_assoc]
    dsimp only [Sys.readerNext]
    split_ifs with hmore
    · exact ⟨fs, hdr ++ (buf ++ bs), hfs, rfl, .payload hhdr hdec hmore harr⟩
    · -- the payload is complete
      have hall : (buf ++ bs).length = payloadLenOf h := by
        rw [List.length_append] at hmore ⊢
        omega
      exact Parsed.payloadDone hfs hhdr hdec hall harr socket
  | again hpc => exact ⟨fs, p ++ [], hfs, rfl, by rwa [List.append_nil]⟩
  | fails hpc e _ =>
    refine ⟨fs, p ++ [], hfs, rfl, .ended rfl ?_ (hparsed.of_receiving hpc)⟩
    rw [List.append_nil]
    exact hparsed.incomplete

/-- The other steps of the reader thread keep its invariant. -/
theorem ReaderStep.readerInv (h : ReaderStep s s' evs') (hinv : ReaderInv s evs) :
    ReaderInv s' (evs ++ evs') := by
  obtain ⟨fs, p, hfs, hbytes, hparsed⟩ := hinv
  refine ⟨fs, p, hfs, by rw [receivedBytes_append, h.io.2.1, List.append_nil, hbytes], ?_⟩
  have hover : ∀ {pc : ReaderPc}, s.reader.failed = true → pc.failed = true →
      arrivals (devEvents evs') = [] → Parsed (arrivals (devEvents (evs ++ evs'))) fs p pc := by
    intro pc hfailed hpc hnone
    rw [devEvents_append, arrivals_append, hnone, List.append_nil]
    exact .ended hpc hparsed.incomplete (hparsed.of_failed hfailed)
  cases h with
  | copies hpc =>
    rw [hpc] at hparsed
    obtain ⟨rfl, harr⟩ := hparsed.of_idle (.inr rfl)
    refine .header (by decide) ?_
    rw [devEvents_append, arrivals_append, harr]
    exact List.append_nil _
  | pushes hpc =>
    rw [hpc] at hparsed
    obtain ⟨rfl, harr⟩ := hparsed.of_push
    refine .header (by decide) ?_
    rw [devEvents_append, arrivals_append, ← harr]
    rfl
  | @fails e finished s₁ _ hpc hr =>
    exact hover (by rw [hpc]; rfl) (by cases finished <;> rfl) hr.io.2.2.1
  | @loops finished s₁ hpc hl =>
    exact hover (by rw [hpc]; rfl) (by cases finished <;> rfl) rfl
  | exits hpc => exact hover (by rw [hpc]; rfl) rfl rfl

/-- **The reader thread decodes the frames it receives**, in every run. -/
theorem readerInv_of_run {ok : Sys → Action → Prop} {is : List Action}
    (h : (threads info).RunWhere ok {} is s evs) : ReaderInv s evs := by
  refine (threads_induction (P := fun s evs => s.Life ∧ ReaderInv s evs) ?_ ?_ h).2
  · exact ⟨.init, [], [], by simp, rfl, .idle (.inl rfl) rfl⟩
  · rintro s evs a s' evs' - ⟨hlife, hinv⟩ - hs
    refine ⟨hs.life hlife, ?_⟩
    rcases hs.reader_cases with ⟨hpc, hbytes, harr⟩ | ⟨-, h⟩ | ⟨r, -, h⟩
    · obtain ⟨fs, p, hfs, hreceived, hparsed⟩ := hinv
      refine ⟨fs, p, hfs, by rw [receivedBytes_append, hbytes, List.append_nil, hreceived], ?_⟩
      rw [devEvents_append, arrivals_append, harr, List.append_nil]
      rcases hpc with hpc | ⟨hidle, hpc⟩
      · rw [hpc]
        exact hparsed
      · -- the thread is created
        have hoff := ReaderPc.stage_off (hlife.fresh (by rw [hidle])).1
        obtain ⟨rfl, harr'⟩ := hparsed.of_idle (.inl hoff)
        exact .idle (.inr hpc) harr'
    · exact h.readerInv hinv
    · exact h.readerInv hinv

/-! ### Decoding a whole stream -/

/-- The command that the reader thread is about to append. -/
def ReaderPc.inHand : ReaderPc → List Cmd
  | .push _ cmd => [cmd]
  | _ => []

/-- The number of bytes that the next call of `recv` asks for. -/
def ReaderPc.asked : ReaderPc → ℕ
  | .recvHeader _ buf => headerSize - buf.length
  | .recvPayload _ _ len buf => len - buf.length
  | _ => 0

/-- If the step is a call of `recv`, it returns bytes or was interrupted. -/
def RecvSucceeds : Action → Prop
  | .recv .zero => False
  | .recv (.failed errno) => errno = eintr
  | _ => True

/-- The device was reset with an error. -/
def Sys.ResetWithError (s : Sys) : Prop :=
  s.flags.reset = true ∧ s.dev.err.isSome = true

/-- The frames in `ReaderInv` are those of the commands. -/
theorem ReaderInv.arrivals_eq {msgs : List HostMsg} (h : ReaderInv s evs)
    (hmsgs : ∀ m ∈ msgs, m.WellFormed)
    (hstream : receivedBytes evs <+: msgs.flatMap HostMsg.encode) :
    arrivals (devEvents evs) ++ s.reader.inHand =
      (Framing.complete HostMsg.encode (receivedBytes evs).length msgs).map HostMsg.toCmd := by
  obtain ⟨fs, p, hfs, hbytes, hparsed⟩ := h
  -- the frames that were received are those of the messages that are complete
  have hcomplete : fs =
      (Framing.complete HostMsg.encode (receivedBytes evs).length msgs).map HostMsg.encode := by
    rw [hbytes] at hstream ⊢
    exact Framing.eq_complete (fun m hm => (isFrame_encode (hmsgs m hm)).1) hfs hparsed.incomplete
      hstream
  have hdecoded : fs.map decodeFrame =
      (Framing.complete HostMsg.encode (receivedBytes evs).length msgs).map HostMsg.toCmd := by
    rw [hcomplete, List.map_map]
    refine List.map_congr_left fun m hm => (isFrame_encode (hmsgs m ?_)).2
    exact (Framing.complete_isPrefix ..).subset hm
  rw [← hdecoded]
  generalize s.reader = pc at hparsed
  cases hparsed with
  | idle hpc harr => rcases hpc with rfl | rfl <;> rw [harr] <;> exact List.append_nil _
  | header _ harr => rw [harr]; exact List.append_nil _
  | payload _ _ _ harr => rw [harr]; exact List.append_nil _
  | push harr => exact harr
  | ended hpc _ harr =>
    have hnil : pc.inHand = [] := by cases pc <;> first | rfl | cases hpc
    rw [hnil, harr, List.append_nil]

/-- A header that begins in the stream of the messages where a message should begin does not make
the reader thread fail. -/
theorem readerHeaderDone_not_failed {msgs : List HostMsg} (hmsgs : ∀ m ∈ msgs, m.WellFormed)
    {fs : List (List UInt8)} {hdr : List UInt8} (hfs : ∀ f ∈ fs, cmdFraming.IsFrame f)
    (hlen : hdr.length = headerSize) (hpre : fs.flatten ++ hdr <+: msgs.flatMap HostMsg.encode)
    (socket : ℤ) : (Sys.readerHeaderDone socket hdr).failed = false := by
  rw [List.flatMap_def] at hpre
  obtain ⟨g, hg, htake⟩ := Framing.exists_take_header hfs
    (by simpa using fun m hm => (isFrame_encode (hmsgs m hm)).1) hpre hlen
  obtain ⟨m, hm, rfl⟩ := List.mem_map.mp hg
  -- it is the header of a message
  have hhdr : hdr = m.wire.bytes := by
    rw [← htake, m.encode_eq]
    exact Header.take_bytes_append _ _
  have hdec : decodeHeader (Header.ofBytes hdr) = .ok m.toCmd.header := by
    have hof := Header.ofBytes_append m.wire []
    rw [List.append_nil] at hof
    rw [hhdr, hof, m.decodeHeader_wire]
  obtain ⟨hpayload, hmax⟩ := (hmsgs m hm).payloadLenOf
  rw [Sys.readerHeaderDone, hdec]
  simp only [hpayload, if_neg (Nat.not_le.mpr hmax)]
  split_ifs <;> rfl

/-- Only a call of `recv` makes the reader thread fail. -/
theorem ReaderStep.failed (h : ReaderStep s s' evs) : s'.reader.failed = s.reader.failed := by
  cases h with
  | copies hpc => rw [hpc]; rfl
  | pushes hpc => rw [hpc]; rfl
  | @fails e finished s₁ _ hpc hr => rw [hpc]; cases finished <;> rfl
  | @loops finished s₁ hpc hl => rw [hpc]; cases finished <;> rfl
  | exits hpc => rw [hpc]; rfl

theorem ReaderPc.not_failed_of_receiving {pc : ReaderPc} {fd : ℤ} (h : pc.receiving = some fd) :
    pc.failed = false := by
  cases pc <;> first | rfl | cases h

/-- On the stream of the messages the reader thread fails exactly if `recv` does. -/
theorem RecvStep.failed_iff {msgs : List HostMsg} (hmsgs : ∀ m ∈ msgs, m.WellFormed)
    {r : IoResult (List UInt8)} (h : RecvStep s r s' evs') (hinv : ReaderInv s evs)
    (hstream : receivedBytes (evs ++ evs') <+: msgs.flatMap HostMsg.encode) :
    s'.reader.failed = false ↔ s.reader.failed = false ∧ RecvSucceeds (.recv r) := by
  cases h with
  | @header socket buf bs hpc hpos hlen =>
    have hold : s.reader.failed = false := by rw [hpc]; rfl
    refine iff_of_true ?_ ⟨hold, trivial⟩
    dsimp only [Sys.readerNext]
    split_ifs with hmore
    · rfl
    · -- the header is complete
      obtain ⟨fs, p, hfs, hbytes, hparsed⟩ := hinv
      rw [hpc] at hparsed
      obtain ⟨rfl, hbuf, -⟩ := hparsed.of_recvHeader
      have hbs : receivedBytes [.received bs] = bs := List.append_nil bs
      rw [receivedBytes_append, hbytes, hbs, List.append_assoc] at hstream
      refine readerHeaderDone_not_failed hmsgs hfs ?_ hstream socket
      rw [List.length_append] at hmore ⊢
      omega
  | @payload socket h len buf bs hpc hpos hlen =>
    have hold : s.reader.failed = false := by rw [hpc]; rfl
    refine iff_of_true ?_ ⟨hold, trivial⟩
    dsimp only [Sys.readerNext]
    split_ifs <;> rfl
  | again hpc => exact (and_iff_left rfl).symm
  | fails hpc e hr =>
    refine iff_of_false (by simp [ReaderPc.failed]) ?_
    rintro ⟨-, hok⟩
    rcases hr with rfl | ⟨errno, hne, rfl⟩
    · exact hok
    · exact hne hok

/-- On the stream of the messages a step makes the reader thread fail exactly if it is a call of
`recv` that fails. -/
theorem SysStep.failed_iff {msgs : List HostMsg} (hmsgs : ∀ m ∈ msgs, m.WellFormed) {a : Action}
    (h : SysStep info s a s' evs') (hlife : s.Life) (hinv : ReaderInv s evs)
    (hstream : receivedBytes (evs ++ evs') <+: msgs.flatMap HostMsg.encode) :
    s'.reader.failed = false ↔ s.reader.failed = false ∧ RecvSucceeds a := by
  cases h with
  | recv h => exact h.failed_iff hmsgs hinv hstream
  | reader hawake h =>
    rw [h.failed]
    exact (and_iff_left trivial).symm
  | client hawake h =>
    rw [h.io.1.1]
    exact (and_iff_left trivial).symm
  | start hpc hidle h =>
    have hoff := ReaderPc.stage_off (hlife.fresh (by rw [hidle])).1
    have hold : s.reader.failed = false := by rw [hoff]; rfl
    refine iff_of_true ?_ ⟨hold, trivial⟩
    rcases h.io.1.1 with hpc' | hpc' <;> rw [hpc']
    · exact hold
    · rfl
  | writer hawake h =>
    rw [h.io.1]
    exact (and_iff_left trivial).symm
  | send h =>
    obtain ⟨fd, pc, -, -, rfl⟩ := h.works
    exact (and_iff_left trivial).symm
  | _ => exact (and_iff_left trivial).symm

/-- In a run on the stream of the messages the reader thread has failed exactly if a call of `recv`
has. -/
theorem failed_iff_of_run {msgs : List HostMsg} (hmsgs : ∀ m ∈ msgs, m.WellFormed)
    {is : List Action} (h : (threads info).Run is s evs)
    (hstream : receivedBytes evs <+: msgs.flatMap HostMsg.encode) :
    s.reader.failed = false ↔ ∀ a ∈ is, RecvSucceeds a := by
  induction h with
  | nil => exact iff_of_true rfl (by simp)
  | @snoc is s evs a s' evs' hr _ hs ih =>
    have hpre : receivedBytes evs <+: msgs.flatMap HostMsg.encode := by
      rw [receivedBytes_append] at hstream
      exact (List.prefix_append _ _).trans hstream
    have hspec := sysStep_spec (device_run hr).2 hs
    rw [hspec.failed_iff hmsgs (life_of_run hr) (readerInv_of_run hr) hstream, ih hpre]
    rw [List.forall_mem_append, List.forall_mem_singleton]

/-- If a call of `recv` makes the reader thread fail, it has caught an exception. -/
theorem RecvStep.caught {r : IoResult (List UInt8)} (h : RecvStep s r s' evs)
    (hfailed : s'.reader.failed = true) : ∃ e, s'.reader = .caught e := by
  have hdone : ∀ {socket : ℤ} {hdr : List UInt8},
      (Sys.readerHeaderDone socket hdr).failed = true →
        ∃ e, Sys.readerHeaderDone socket hdr = .caught e := by
    intro socket hdr hf
    unfold Sys.readerHeaderDone at hf ⊢
    split at hf
    · exact ⟨_, rfl⟩
    · split_ifs at hf ⊢
      · cases hf
      · exact ⟨_, rfl⟩
      · cases hf
  cases h with
  | header hpc =>
    dsimp only [Sys.readerNext] at hfailed ⊢
    split_ifs at hfailed ⊢
    · cases hfailed
    · exact hdone hfailed
  | payload hpc =>
    dsimp only [Sys.readerNext] at hfailed
    split_ifs at hfailed <;> cases hfailed
  | again hpc =>
    rw [ReaderPc.not_failed_of_receiving hpc] at hfailed
    cases hfailed
  | fails hpc e => exact ⟨e, rfl⟩

/-- A reader thread that has failed is about to call `_reset`, or the device was reset. -/
theorem SysStep.failed_reset {a : Action} (h : SysStep info s a s' evs)
    (hinv : s.reader.failed = true → (∃ e, s.reader = .caught e) ∨ s.flags.reset = true)
    (hfailed : s'.reader.failed = true) :
    (∃ e, s'.reader = .caught e) ∨ s'.flags.reset = true := by
  have hold : s'.reader = s.reader → (∃ e, s'.reader = .caught e) ∨ s'.flags.reset = true := by
    intro hpc
    rw [hpc] at hfailed
    rcases hinv hfailed with ⟨e, hcaught⟩ | hreset
    · exact .inl ⟨e, hpc.trans hcaught⟩
    · exact .inr (h.reset hreset)
  have hlater : s.reader.failed = true → (∀ e, s.reader ≠ .caught e) → s'.flags.reset = true := by
    intro hf hne
    rcases hinv hf with ⟨e, hcaught⟩ | hreset
    · exact (hne e hcaught).elim
    · exact h.reset hreset
  rcases h.reader_cases with ⟨hpc | ⟨-, hpc⟩, -⟩ | ⟨rfl, hstep⟩ | ⟨r, rfl, hstep⟩
  · exact hold hpc
  · rw [hpc] at hfailed
    cases hfailed
  · cases hstep with
    | copies => cases hfailed
    | pushes => cases hfailed
    | @fails e finished s₁ _ hpc hr =>
      have hreset : s₁.flags.reset = true := by rw [hr.flags]
      exact .inr hreset
    | loops hpc hl => exact .inr (hlater (by rw [hpc]; rfl) (by simp [hpc]))
    | exits hpc => exact .inr (hlater (by rw [hpc]; rfl) (by simp [hpc]))
  · exact .inl (hstep.caught hfailed)

theorem failed_reset_of_run {is : List Action} (h : (threads info).Run is s evs) :
    s.reader.failed = true → (∃ e, s.reader = .caught e) ∨ s.flags.reset = true :=
  threads_induction
    (P := fun s _ => s.reader.failed = true → (∃ e, s.reader = .caught e) ∨ s.flags.reset = true)
    (fun hf => by cases hf) (fun _ _ _ _ _ _ hinv _ hs => hs.failed_reset hinv) h

/-- A reader thread that is not in the wait loop of `_reset` is awake. -/
theorem reader_awake_of_run {is : List Action} (h : (threads info).Run is s evs)
    (hstage : s.reader.stage ≠ .waiting) : s.asleep .reader = false := by
  by_contra hasleep
  exact hstage (blocked_of_run h .reader (by simpa using hasleep)).1

/-- The reader thread can go on. -/
inductive Sys.ReaderReady (info : Info) (s : Sys) : Prop
  | notLaunched (hpc : s.reader = .notLaunched)
  | launched (hpc : s.reader = .launched) (hstep : (s.step info .reader).isSome = true)
  /-- It takes whatever `recv` may return to it. -/
  | receives (hasked : 0 < s.reader.asked) (hhand : s.reader.inHand = [])
      (hstep : ∀ bs : List UInt8, 0 < bs.length → bs.length ≤ s.reader.asked →
        (s.step info (.recv (.some bs))).isSome = true)
  /-- It appends the command that it has in its hands. -/
  | appends {cmd : Cmd} {s' : Sys} (hhand : s.reader.inHand = [cmd])
      (hstep : s.step info .reader = some (s', [.dev (.arrived cmd)]))
      (hdone : s'.reader.inHand = [])

/-- The reader thread has decoded the messages as far as it has received their bytes. -/
structure Decoded (info : Info) (msgs : List HostMsg) (is : List Action) (s : Sys)
    (evs : List SysEvent) : Prop where
  /-- Exactly the commands of the messages that are complete are appended to `cmds`, in order; the
  last of them may still be in the hands of the reader thread. -/
  appended : arrivals (devEvents evs) ++ s.reader.inHand =
    (Framing.complete HostMsg.encode (receivedBytes evs).length msgs).map HostMsg.toCmd
  /-- All commands are there when all bytes are. -/
  all : receivedBytes evs = msgs.flatMap HostMsg.encode →
    arrivals (devEvents evs) ++ s.reader.inHand = msgs.map HostMsg.toCmd
  /-- The reader thread goes on until it fails. -/
  progress : s.reader.failed = false → s.ReaderReady info
  /-- It fails exactly if the stream ends or fails. -/
  failed_iff : s.reader.failed = true ↔ ∃ a ∈ is, ¬ RecvSucceeds a
  /-- When it has failed the device is reset with an error, at the latest in its next step, and no
  command is appended there. -/
  resets : s.reader.failed = true → s.ResetWithError ∨
    ∃ s' evs', s.step info .reader = some (s', evs') ∧ s'.ResetWithError ∧
      arrivals (devEvents evs') = []

/-- The reader thread goes on until it fails. -/
theorem ReaderInv.ready (h : ReaderInv s evs)
    (hawake : s.reader.stage ≠ .waiting → s.asleep .reader = false)
    (hfailed : s.reader.failed = false) : s.ReaderReady info := by
  obtain ⟨fs, p, hfs, hbytes, hparsed⟩ := h
  have hstep : s.reader.stage ≠ .waiting → s.step info .reader = s.stepReader := by
    intro hstage
    rw [Sys.step, hawake hstage]
    rfl
  cases hpc : s.reader with
  | notLaunched => exact .notLaunched hpc
  | launched =>
    refine .launched hpc ?_
    rw [hstep (by simp [hpc, ReaderPc.stage]), Sys.stepReader, hpc]
    rfl
  | recvHeader socket buf =>
    rw [hpc] at hparsed
    refine .receives ?_ (by rw [hpc]; rfl) fun bs hpos hlen => ?_
    · rw [hpc]
      exact Nat.sub_pos_of_lt hparsed.of_recvHeader.2.1
    · rw [hpc] at hlen
      rw [Sys.step, Sys.stepRecv, hpc]
      dsimp only
      rw [Sys.readTurn, if_pos ⟨hpos, hlen⟩]
      rfl
  | recvPayload socket h len buf =>
    rw [hpc] at hparsed
    obtain ⟨hdr, -, -, -, -, hlt, -⟩ := hparsed.of_recvPayload
    refine .receives ?_ (by rw [hpc]; rfl) fun bs hpos hlen => ?_
    · rw [hpc]
      exact Nat.sub_pos_of_lt hlt
    · rw [hpc] at hlen
      rw [Sys.step, Sys.stepRecv, hpc]
      dsimp only
      rw [Sys.readTurn, if_pos ⟨hpos, hlen⟩]
      rfl
  | push socket cmd =>
    obtain ⟨s', hs', hdone⟩ : ∃ s', s.stepReader = some (s', [.dev (.arrived cmd)]) ∧
        s'.reader.inHand = [] := by
      rw [Sys.stepReader, hpc]
      exact ⟨_, rfl, rfl⟩
    refine .appends (by rw [hpc]; rfl) ?_ hdone
    rw [hstep (by simp [hpc, ReaderPc.stage]), hs']
  | _ => rw [hpc] at hfailed; cases hfailed

/-- **Command decoding**: on every stream of well-formed messages, however `recv` cuts it, the
reader thread appends exactly the commands of the messages that are complete; it fails exactly if
`recv` does, and then the device is reset with an error. -/
theorem commands_decoded {msgs : List HostMsg} (hmsgs : ∀ m ∈ msgs, m.WellFormed)
    {is : List Action} (h : (threads info).Run is s evs)
    (hstream : receivedBytes evs <+: msgs.flatMap HostMsg.encode) :
    Decoded info msgs is s evs where
  appended := (readerInv_of_run h).arrivals_eq hmsgs hstream
  all hall := by
    rw [(readerInv_of_run h).arrivals_eq hmsgs hstream, hall, Framing.complete_all]
  progress := (readerInv_of_run h).ready (reader_awake_of_run h)
  failed_iff := by
    have hiff := failed_iff_of_run hmsgs h hstream
    rw [← Bool.not_eq_false, hiff]
    simp only [not_forall, exists_prop]
  resets hfailed := by
    have herr := err_isSome_of_run h
    rcases failed_reset_of_run h hfailed with ⟨e, hcaught⟩ | hreset
    · right
      have hstep : s.step info .reader = s.stepReader := by
        rw [Sys.step, reader_awake_of_run h (by simp [hcaught, ReaderPc.stage])]
        rfl
      rw [hstep, Sys.stepReader, hcaught]
      have hr := resetEnter_spec s .reader e
      refine ⟨_, _, rfl, ?_, hr.io.2.2.1⟩
      have hreset' : (s.resetEnter .reader e).2.1.flags.reset = true := by rw [hr.flags]
      exact ⟨hreset', (hr.err_isSome herr).trans hreset'⟩
    · exact .inl ⟨hreset, herr.trans hreset⟩

/-- A SUBMIT with direction OUT and three bytes. -/
def outMsg : HostMsg :=
  .submit 1 0 usbipDirOut 2
    { transferFlags := 0, transferBufferLength := 3, startFrame := 0, numberOfPackets := 0,
      interval := 0, setup := Vector.replicate 8 0 } [10, 20, 30]

/-- The message arrives in four pieces, one of which ends in the middle of the header. -/
def outMsgRun : List Action :=
  [.call 0 .start, .start 0 (.started 3 4), .reader, .recv (.some (outMsg.encode.take 20)),
    .recv (.failed eintr), .recv (.some ((outMsg.encode.drop 20).take 28)),
    .recv (.some [10]), .recv (.some [20, 30]), .reader]

/-- At the end of `outMsgRun` the command of the message is there. -/
theorem commands_decoded_outMsgRun :
    ∃ s evs, (threads Info.minimal).Run outMsgRun s evs ∧
      Decoded Info.minimal [outMsg] outMsgRun s evs ∧
        arrivals (devEvents evs) = [outMsg.toCmd] := by
  have hrun : (threads Info.minimal).Run outMsgRun _ _ := run_exec_get (by decide)
  refine ⟨_, _, hrun, commands_decoded ?_ hrun ?_, by decide⟩
  · rw [List.forall_mem_singleton]
    exact ⟨by decide, by decide⟩
  · exact ⟨[], by decide⟩

end VirtualUSB
