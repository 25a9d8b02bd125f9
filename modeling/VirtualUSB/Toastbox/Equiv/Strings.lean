import VirtualUSB.App.Main
import VirtualUSB.Device.Equiv.Status
import VirtualUSB.Host.Equiv.Server
import VirtualUSB.Toastbox.Strings

/-!
# The texts of the device are read back

* `charOf_wordOf`, `leWord16_leBytes16`: a character and a word are read back.
* `asciiString_take`: the text is read back from the first bytes of its descriptor.
* `heard_getDescriptor`: what the host reads in reply to a request for a descriptor.
* `text_read_back`: whatever the threads do, the host reads the text of the device.
-/

namespace VirtualUSB

open Endian LabelledSystem

/-! ### Characters and words -/

/-- Whatever a character was extended by is cut off again. -/
theorem charOf_wordOf (c : Int8) : charOf (wordOf c) = c := by
  apply Int8.toBitVec.inj
  simp only [charOf, wordOf, lfhU16_eq, hflU16_eq]
  show BitVec.setWidth 8 (BitVec.signExtend 16 c.toBitVec) = c.toBitVec
  apply BitVec.eq_of_getElem_eq
  intro i hi
  rw [BitVec.getElem_setWidth, BitVec.getLsbD_signExtend, if_pos hi, decide_eq_true (by omega),
    Bool.true_and]
  rfl

/-- A word is read back from its bytes in memory. -/
theorem leWord16_leBytes16 (w : UInt16) : leWord16 w.toUInt8 (w >>> 8).toUInt8 = w := by
  apply UInt16.eq_of_toBitVec_eq
  simp only [leWord16, UInt16.toBitVec_or, UInt16.toBitVec_shiftLeft, UInt8.toBitVec_toUInt16,
    UInt16.toBitVec_toUInt8, UInt16.toBitVec_shiftRight]
  ext i hi
  simp
  interval_cases i <;> simp

theorem length_flatMap_leBytes16 (ws : List UInt16) :
    (ws.flatMap leBytes16).length = 2 * ws.length := by
  induction ws with
  | nil => rfl
  | cons w ws ih =>
    rw [List.flatMap_cons, List.length_append, ih, List.length_cons]
    show 2 + _ = _
    omega

/-- Word `i` lies at offset `2 * i`. -/
theorem getD_flatMap_leBytes16 {ws : List UInt16} {i : ℕ} (h : i < ws.length) :
    (ws.flatMap leBytes16).getD (2 * i) 0 = ws[i].toUInt8 ∧
      (ws.flatMap leBytes16).getD (2 * i + 1) 0 = (ws[i] >>> 8).toUInt8 := by
  induction ws generalizing i with
  | nil => cases h
  | cons w ws ih =>
    cases i with
    | zero => exact ⟨rfl, rfl⟩
    | succ i => exact ih (Nat.lt_of_succ_lt_succ h)

/-! ### The descriptor of a text -/

namespace StringDescriptorN

variable {N : ℕ}

theorem length_bytes (d : StringDescriptorN N) : d.bytes.length = size N := by
  simp only [bytes, size, List.length_append, length_flatMap_leBytes16, Vector.length_toList,
    List.length_cons, List.length_nil]

/-- A character is read back from any beginning of the descriptor that holds it. -/
theorem word_take {text : Vector Int8 N} (le : N ≤ 126) {k i : ℕ} (hi : i < N)
    (hk : 4 + 2 * i ≤ k) :
    leWord16 (((ofChars text le).bytes.take k).getD (2 + 2 * i) 0)
      (((ofChars text le).bytes.take k).getD (3 + 2 * i) 0) = wordOf text[i] := by
  have hbyte : ∀ j < k, ((ofChars text le).bytes.take k).getD j 0
      = (ofChars text le).bytes.getD j 0 := fun j hj => by
    rw [List.getD_eq_getElem?_getD, List.getElem?_take_of_lt hj, List.getD_eq_getElem?_getD]
  have hlen : i < ((text.map wordOf).toList).length := by simpa using hi
  obtain ⟨hlo, hhi⟩ := getD_flatMap_leBytes16 hlen
  rw [hbyte _ (by omega), hbyte _ (by omega), show 2 + 2 * i = 2 * i + 1 + 1 by omega,
    show 3 + 2 * i = 2 * i + 1 + 1 + 1 by omega]
  show leWord16 (((text.map wordOf).toList.flatMap leBytes16).getD (2 * i) 0)
    (((text.map wordOf).toList.flatMap leBytes16).getD (2 * i + 1) 0) = _
  rw [hlo, hhi, leWord16_leBytes16]
  simp

theorem getElem_ofBytes (bs : List UInt8) (le : N ≤ 126) {i : ℕ} (hi : i < N) :
    (ofBytes bs le).str[i] = leWord16 (bs.getD (2 + 2 * i) 0) (bs.getD (3 + 2 * i) 0) :=
  Vector.getElem_ofFn hi

end StringDescriptorN

/-- **A text is read back**: as much of it as there is in the first `k` bytes of its descriptor. -/
theorem asciiString_take {N : ℕ} (text : Vector Int8 N) (le : N ≤ 126) {k : ℕ} (hk : 2 ≤ k)
    (hle : k ≤ StringDescriptorN.size N) :
    (stringDescriptor (Int32.ofNat k) ((StringDescriptorN.ofChars text le).bytes.take k)).bind
      StringDescriptorMax.asciiString = some (text.toList.take ((k - 2) / 2)) := by
  have hsize : StringDescriptorN.size N ≤ 254 := by
    rw [StringDescriptorN.size]
    omega
  have hint : (Int32.ofNat k).toInt = k := Int32.toInt_ofNat_of_lt (by omega)
  have hnonneg : ¬ Int32.ofNat k < 0 := by
    rw [Int32.lt_iff_toInt_lt, hint]
    simp
  have hlength : k.toUInt8.toNat = k := by
    rw [Nat.toUInt8_eq, UInt8.toNat_ofNat', Nat.mod_eq_of_lt (by omega)]
  have hzero : k.toUInt8 ≠ 0 := fun h => by
    rw [h] at hlength
    exact absurd hlength.symm (by simp; omega)
  rw [stringDescriptor, if_neg hnonneg, Option.bind_some, StringDescriptorMax.asciiString, hint,
    Int.toNat_natCast]
  dsimp only
  rw [if_neg hzero, hlength]
  congr 1
  -- the words behind the text are not reached
  have hcount : (k - 2) / 2 ≤ N := by
    rw [StringDescriptorN.size] at hle
    omega
  refine List.ext_getElem (by simp; omega) fun i hi _ => ?_
  have hi' : i < (k - 2) / 2 := by
    rw [List.length_map, List.length_take] at hi
    omega
  simp only [List.getElem_map, List.getElem_take, Vector.getElem_toList,
    StringDescriptorN.getElem_ofBytes]
  rw [StringDescriptorN.word_take le (by omega) (by omega), charOf_wordOf]

/-! ### Asking for a descriptor -/

variable {info : Info} {s : Sys} {is : List Action} {evs : List SysEvent} {msgs : List HostMsg}

theorem descType_leWord16 (descIdx descType : UInt8) :
    ((leWord16 descIdx descType &&& 0xFF00) >>> 8).toUInt8 = descType := by
  apply UInt8.eq_of_toBitVec_eq
  simp only [leWord16, UInt16.toBitVec_toUInt8, UInt16.toBitVec_shiftRight, UInt16.toBitVec_and,
    UInt16.toBitVec_or, UInt16.toBitVec_shiftLeft, UInt8.toBitVec_toUInt16]
  ext i hi
  simp
  interval_cases i <;> simp

theorem descIdx_leWord16 (descIdx descType : UInt8) :
    (leWord16 descIdx descType &&& 0x00FF).toUInt8 = descIdx := by
  apply UInt8.eq_of_toBitVec_eq
  simp only [leWord16, UInt16.toBitVec_toUInt8, UInt16.toBitVec_and, UInt16.toBitVec_or,
    UInt16.toBitVec_shiftLeft, UInt8.toBitVec_toUInt16]
  ext i hi
  simp
  interval_cases i <;> simp

theorem setupRequestOf_getDescriptorSetup (descType descIdx : UInt8) (len : UInt16) :
    setupRequestOf (getDescriptorSetup descType descIdx len) =
      { bmRequestType := 0x80, bRequest := Request.getDescriptor,
        wValue := leWord16 descIdx descType, wIndex := 0, wLength := len } := by
  rw [setupRequestOf, SetupRequest.mk.injEq]
  exact ⟨rfl, rfl, rfl, (by decide : leWord16 0 0 = 0), leWord16_leBytes16 len⟩

/-- What the device reads in the setup bytes. -/
theorem HostMsg.AsksFor.request {m : HostMsg} {descType descIdx : UInt8} {len : UInt16}
    (h : m.AsksFor descType descIdx len) :
    isGetDescriptor m.toCmd = true ∧ (getSetupRequest m.toCmd).descType = descType ∧
      (getSetupRequest m.toCmd).descIdx = descIdx ∧ (getSetupRequest m.toCmd).wLength = len := by
  obtain ⟨seqnum, devid, cmd, payload, rfl, hsetup⟩ := h
  have hreq : getSetupRequest (HostMsg.toCmd (.submit seqnum devid usbipDirIn 0 cmd payload))
      = setupRequestOf cmd.setup := rfl
  rw [hsetup, setupRequestOf_getDescriptorSetup] at hreq
  refine ⟨?_, ?_, ?_, ?_⟩
  · have hstd : isStandard (HostMsg.toCmd (.submit seqnum devid usbipDirIn 0 cmd payload))
        = true := by
      rw [isStandard, hreq]
      show ((0 : UInt32) == 0 &&
        (0x80 : UInt8) &&& RequestType.typeMask == RequestType.typeStandard) = true
      decide
    have hrecipient :
        (0x80 : UInt8) &&& RequestType.recipientMask = RequestType.recipientDevice := by decide
    rw [isGetDescriptor_iff, isDeviceRequest_iff, hreq]
    exact ⟨⟨rfl, hstd, hrecipient, rfl⟩, rfl⟩
  · rw [hreq]
    exact descType_leWord16 descIdx descType
  · rw [hreq]
    exact descIdx_leWord16 descIdx descType
  · rw [hreq]

/-- **The answer to a request for a descriptor** is the beginning of the selected descriptor. -/
theorem heard_getDescriptor (hmsgs : ∀ m ∈ msgs, m.WellFormed)
    (hnd : (msgs.map fun m => m.toCmd.seqnum).Nodup) (h : (threads info).Run is s evs)
    (hstream : receivedBytes evs <+: msgs.flatMap HostMsg.encode) {m : HostMsg} (hm : m ∈ msgs)
    (hget : isGetDescriptor m.toCmd = true) {r : HostRep} (hr : r ∈ heard evs)
    (hseq : r.seqnum = m.toCmd.seqnum) :
    ∃ p n, selectDescriptor info (getSetupRequest m.toCmd) = .ok (p, n) ∧
      r = m.ticket.transferred (min n (getSetupRequest m.toCmd).wLength.toNat)
        ((p.map fun p => p.read (min n (getSetupRequest m.toCmd).wLength.toNat)).getD []) := by
  obtain ⟨⟨c, rep⟩, -, -, hview, hans⟩ := answer_of_heard hmsgs hnd h hstream hm hr hseq
  dsimp only at hview hans
  have hsub := isGetDescriptor.submit hget
  have hstd := isGetDescriptor.standard hget
  have hreq := isGetDescriptor.request hget
  cases hans with
  | standard _ _ hans =>
    cases hans with
    | getStatus _ hreq' => exact absurd (hreq.symm.trans hreq') (by decide)
    | setConfiguration _ hreq' => exact absurd (hreq.symm.trans hreq') (by decide)
    | getDescriptor _ _ hsel =>
      exact ⟨_, _, hsel, by rw [hview, repView_retSubmit, HostMsg.ticket_toCmd]⟩
  | out _ hstd' => exact absurd (hstd.symm.trans hstd') (by decide)
  | inTransfer hin => exact (isInTransfer.not_getDescriptor hin hget).elim
  | unlink hunlink => exact absurd (hsub.symm.trans hunlink) (by decide)

/-! ### The texts of the program -/

/-- An ASCII string as `char`s. -/
def charsOf (str : String) : Vector Int8 str.toList.length :=
  ⟨(str.toList.map fun c => c.toNat.toUInt8.toInt8).toArray, by simp⟩

theorem leBytes16_wordOf_ascii :
    ∀ n < 128, leBytes16 (wordOf n.toUInt8.toInt8) = [n.toUInt8, 0] := by
  decide +kernel

/-- The string descriptors of the program are made by the constructor. -/
theorem stringDescriptorMake_eq {str : String} (hascii : ∀ c ∈ str.toList, c.toNat < 128)
    (le : str.toList.length ≤ 126) :
    Descriptor.stringDescriptorMake str = (StringDescriptorN.ofChars (charsOf str) le).bytes := by
  have hwords : (StringDescriptorN.ofChars (charsOf str) le).str.toList
      = str.toList.map fun c => wordOf c.toNat.toUInt8.toInt8 := by
    simp [StringDescriptorN.ofChars, charsOf]
  have hbytes : ∀ c ∈ str.toList,
      leBytes16 (wordOf c.toNat.toUInt8.toInt8) = [c.toNat.toUInt8, 0] :=
    fun c hc => leBytes16_wordOf_ascii _ (hascii c hc)
  rw [Descriptor.stringDescriptorMake, StringDescriptorN.bytes, hwords, List.flatMap_map,
    List.flatMap_congr hbytes]
  rfl

/-! ### Reading the texts of the device -/

theorem selectDescriptor_string {req : SetupRequest} {descs : ℕ → Ptr}
    (hdescs : info.stringDescs = some descs) (htype : req.descType = DescriptorType.string)
    (hidx : req.descIdx.toNat < info.stringDescsCount) :
    selectDescriptor info req
      = .ok (some (descs req.descIdx.toNat), descLenString (descs req.descIdx.toNat)) := by
  have htype' : ((req.wValue &&& 0xFF00) >>> 8).toUInt8 = DescriptorType.string := htype
  rw [selectDescriptor, htype', if_neg (by decide), if_neg (by decide), if_pos rfl, hdescs]
  exact if_neg (Nat.not_le.mpr hidx)

/-- **The texts of the device are read back.**  A string descriptor of the device was made of a
text, and the host asks for it.  Whatever the threads do and whatever else the host asks for, the
reply that the host reads is successful, and `asciiString` gives the text, or the beginning of it
for which the host has left room (`stringDescriptor` has room for all of it). -/
theorem text_read_back (hmsgs : ∀ m ∈ msgs, m.WellFormed)
    (hnd : (msgs.map fun m => m.toCmd.seqnum).Nodup) (h : (threads info).Run is s evs)
    (hstream : receivedBytes evs <+: msgs.flatMap HostMsg.encode) {descs : ℕ → Ptr}
    (hdescs : info.stringDescs = some descs) {descIdx : UInt8}
    (hidx : descIdx.toNat < info.stringDescsCount) {N : ℕ} {text : Vector Int8 N} {le : N ≤ 126}
    (htext : (descs descIdx.toNat).read (StringDescriptorN.size N)
      = (StringDescriptorN.ofChars text le).bytes)
    {len : UInt16} (hlen : 2 ≤ len.toNat) {m : HostMsg} (hm : m ∈ msgs)
    (hasks : m.AsksFor DescriptorType.string descIdx len) {r : HostRep} (hr : r ∈ heard evs)
    (hseq : r.seqnum = m.toCmd.seqnum) :
    r.status = 0 ∧ ∃ n : Int32, r.actualLength = some n ∧
      (stringDescriptor n r.payload).bind StringDescriptorMax.asciiString
        = some (text.toList.take ((len.toNat - 2) / 2)) := by
  obtain ⟨hget, htype, hindex, hlength⟩ := hasks.request
  obtain ⟨p, n, hsel, hrep⟩ := heard_getDescriptor hmsgs hnd h hstream hm hget hr hseq
  -- the length that the descriptor states is its size
  have hbyte : (descs descIdx.toNat) 0 = (StringDescriptorN.size N).toUInt8 := by
    have hhead := congrArg (fun l => l.getD 0 0) htext
    rwa [StringDescriptorN.size, Nat.add_comm, Ptr.read, List.range_succ_eq_map] at hhead
  have hsize : descLenString (descs descIdx.toNat) = StringDescriptorN.size N := by
    rw [descLenString, hbyte, Nat.toUInt8_eq, UInt8.toNat_ofNat', Nat.mod_eq_of_lt]
    rw [StringDescriptorN.size]
    omega
  rw [selectDescriptor_string hdescs htype (by rwa [hindex]), hindex, hsize] at hsel
  obtain ⟨rfl, rfl⟩ : some (descs descIdx.toNat) = p ∧ StringDescriptorN.size N = n := by
    simpa using hsel
  rw [hlength] at hrep
  have hmin : min (StringDescriptorN.size N) len.toNat ≤ StringDescriptorN.size N :=
    Nat.min_le_left _ _
  have hpayload : (descs descIdx.toNat).read (min (StringDescriptorN.size N) len.toNat)
      = (StringDescriptorN.ofChars text le).bytes.take
          (min (StringDescriptorN.size N) len.toNat) := by
    rw [← htext, Ptr.read, Ptr.read, ← List.map_take, List.take_range, Nat.min_eq_left hmin]
  refine ⟨by rw [hrep]; rfl, _, by rw [hrep]; rfl, ?_⟩
  rw [hrep]
  show (stringDescriptor _ ((descs descIdx.toNat).read _)).bind _ = _
  rw [hpayload, asciiString_take text le (by rw [StringDescriptorN.size]; omega) hmin]
  -- the whole text, or what the host has left room for
  rcases Nat.le_total (StringDescriptorN.size N) len.toNat with hall | hsome
  · rw [Nat.min_eq_left hall, List.take_of_length_le (by simp [StringDescriptorN.size]),
      List.take_of_length_le]
    rw [StringDescriptorN.size] at hall
    simp only [Vector.length_toList]
    omega
  · rw [Nat.min_eq_right hsome]

/-- The host asks for the text with number 2. -/
def productMsg : HostMsg :=
  .submit 1 0 usbipDirIn 0 ⟨0x200, 254, 0, 0, 0, getDescriptorSetup DescriptorType.string 2 254⟩ []

/-- The program answers the request. -/
def productRun : List Action :=
  [.call 0 .start, .start 0 (.started 3 4), .reader, .writer, .recv (.some productMsg.encode),
    .reader, .call 0 (.read .zero), .client 0, .writer, .send (.some 48), .send (.some 28)]

theorem productRun_isSome : ((threads deviceInfo).exec productRun).isSome = true := by
  decide +kernel

/-- The reply that the host reads in this run. -/
def productReply : HostRep :=
  productMsg.ticket.transferred 28 (Descriptor.stringDescriptorMake "ProductString")

/-- The host reads the product name. -/
theorem text_read_back_productRun :
    productReply.status = 0 ∧ ∃ n : Int32, productReply.actualLength = some n ∧
      (stringDescriptor n productReply.payload).bind StringDescriptorMax.asciiString
        = some (charsOf "ProductString").toList := by
  have hmsgs : ∀ m ∈ [productMsg], m.WellFormed := by decide +kernel
  have hdesc : ((fun i => ptrOf (Descriptor.strings.getD i [])) (2 : UInt8).toNat).read
      (StringDescriptorN.size 13)
      = (StringDescriptorN.ofChars (charsOf "ProductString") (by decide)).bytes := by decide +kernel
  exact text_read_back hmsgs (by decide +kernel) (run_exec_get productRun_isSome)
    (by decide +kernel) (show deviceInfo.stringDescs = some _ from rfl) (by decide) hdesc
    (by decide) (List.mem_singleton_self _) ⟨1, 0, _, [], rfl, rfl⟩ (by decide +kernel)
    (by decide +kernel)

end VirtualUSB
