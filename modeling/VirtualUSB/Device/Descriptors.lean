import VirtualUSB.Base.Tracked
import VirtualUSB.Device.Handlers

/-!
# What GetDescriptor reads

`readDescriptor` is GetDescriptor once more, with every entry of a descriptor table and every byte
of a descriptor that it reads on record.  `requested` says which descriptor a request asks for; it
does not come from the code.
-/

namespace VirtualUSB

open Endian

/-! ### Descriptors -/

/-- The descriptors of an `Info`. -/
inductive Desc
  | device
  | deviceQualifier
  | configuration (i : ℕ)
  | string (i : ℕ)
  deriving DecidableEq, Repr

namespace Desc

/-- The pointer to the descriptor. -/
def ptr (info : Info) : Desc → Ptr
  | device => info.deviceDesc
  | deviceQualifier => info.deviceQualifierDesc.getD fun _ => 0
  | configuration i => info.configDescs i
  | string i => info.stringDescs.getD (fun _ _ => 0) i

/-- The length that the descriptor itself states. -/
def len (info : Info) (x : Desc) : ℕ :=
  match x with
  | device => descLenDevice (x.ptr info)
  | deviceQualifier => descLenDeviceQualifier (x.ptr info)
  | configuration _ => descLenConfiguration (x.ptr info)
  | string _ => descLenString (x.ptr info)

/-- The offset behind the field that states the length. -/
def lenFieldEnd : Desc → ℕ
  | configuration _ => 4
  | _ => 1

/-- The `Info` has the descriptor. -/
def Present (info : Info) : Desc → Prop
  | device => True
  | deviceQualifier => info.deviceQualifierDesc.isSome = true
  | configuration i => i < info.configDescsCount
  | string i => info.stringDescs.isSome = true ∧ i < info.stringDescsCount

end Desc

/-- Every descriptor occupies the bytes its own length field states; so this field is one of
them. -/
def Info.Sized (info : Info) : Prop :=
  ∀ x : Desc, x.Present info → x.lenFieldEnd ≤ x.len info

/-! ### Reading descriptors -/

/-- A read of memory: an entry of a descriptor table or a byte of a descriptor. -/
inductive Access
  | configDescs (i : ℕ)
  | stringDescs (i : ℕ)
  | byte (x : Desc) (k : ℕ)
  deriving DecidableEq, Repr

/-- A pointer that knows what it points to. -/
structure DescPtr where
  desc : Desc
  ptr : Ptr

namespace DescPtr

/-- The byte at an offset. -/
def byte (p : DescPtr) (k : ℕ) : Tracked Access UInt8 :=
  .load (.byte p.desc k) (p.ptr k)

/-- `memcpy` from the pointer. -/
def copy (p : DescPtr) (n : ℕ) : Tracked Access (List UInt8) :=
  .loads ((List.range n).map (.byte p.desc)) (p.ptr.read n)

/-- `_DescLen` of a configuration. -/
def wTotalLength (p : DescPtr) : Tracked Access ℕ := do
  let lo ← p.byte 2
  let hi ← p.byte 3
  pure (hflU16 (leWord16 lo hi)).toNat

/-- `_DescLen` of a string or a device qualifier. -/
def bLength (p : DescPtr) : Tracked Access ℕ := do
  let b ← p.byte 0
  pure b.toNat

end DescPtr

/-- `_info.configDescs[i]` -/
def configEntry (info : Info) (i : ℕ) : Tracked Access DescPtr :=
  .load (.configDescs i) ⟨.configuration i, info.configDescs i⟩

/-- `_info.stringDescs[i]` -/
def stringEntry (descs : ℕ → Ptr) (i : ℕ) : Tracked Access DescPtr :=
  .load (.stringDescs i) ⟨.string i, descs i⟩

/-- The high byte of `wValue`. -/
abbrev SetupRequest.descType (req : SetupRequest) : UInt8 :=
  ((req.wValue &&& 0xFF00) >>> 8).toUInt8

/-- The low byte of `wValue`. -/
abbrev SetupRequest.descIdx (req : SetupRequest) : UInt8 :=
  (req.wValue &&& 0x00FF).toUInt8

/-- `selectDescriptor` with its reads. -/
def readSelected (info : Info) (req : SetupRequest) :
    Tracked Access (Except Err (Option DescPtr × ℕ)) :=
  if req.descType = DescriptorType.device then do
    let p ← configEntry info req.descIdx.toNat
    let n ← p.wTotalLength
    pure (.ok (some ⟨.device, info.deviceDesc⟩, n))
  else if req.descType = DescriptorType.configuration then
    if req.descIdx.toNat ≥ info.configDescsCount then
      pure (.error (.runtime ("invalid Configuration descriptor index: " ++ toString req.descIdx)))
    else do
      let data ← configEntry info req.descIdx.toNat
      let p ← configEntry info req.descIdx.toNat
      let n ← p.wTotalLength
      pure (.ok (some data, n))
  else if req.descType = DescriptorType.string then
    match info.stringDescs with
    | none => pure (.ok (none, 0))
    | some descs =>
      if req.descIdx.toNat ≥ info.stringDescsCount then
        pure (.error (.runtime ("invalid String descriptor index: " ++ toString req.descIdx)))
      else do
        let data ← stringEntry descs req.descIdx.toNat
        let p ← stringEntry descs req.descIdx.toNat
        let n ← p.bLength
        pure (.ok (some data, n))
  else if req.descType = DescriptorType.deviceQualifier then
    match info.deviceQualifierDesc with
    | none => pure (.ok (none, 0))
    | some desc => do
      let p : DescPtr := ⟨.deviceQualifier, desc⟩
      let n ← p.bLength
      pure (.ok (some p, n))
  else
    pure (.ok (none, 0))

/-- GetDescriptor with its reads: the payload of the reply. -/
def readDescriptor (info : Info) (req : SetupRequest) :
    Tracked Access (Except Err (List UInt8)) := do
  match ← readSelected info req with
  | .error e => pure (.error e)
  | .ok (none, _) => pure (.ok [])
  | .ok (some p, n) => do
    let bytes ← p.copy (min n req.wLength.toNat)
    pure (.ok bytes)

/-! ### What is asked for -/

/-- What a GetDescriptor request asks for. -/
inductive Requested
  | descriptor (x : Desc)
  /-- An entry that the table does not have. -/
  | invalid
  /-- A descriptor the device does not have, or one of an unsupported type. -/
  | absent
  deriving DecidableEq, Repr

/-- The descriptor that a request asks for by its type and index. -/
def requested (info : Info) (descType descIdx : UInt8) : Requested :=
  if descType = DescriptorType.device then .descriptor .device
  else if descType = DescriptorType.configuration then
    if descIdx.toNat < info.configDescsCount then .descriptor (.configuration descIdx.toNat)
    else .invalid
  else if descType = DescriptorType.string then
    if info.stringDescs.isNone then .absent
    else if descIdx.toNat < info.stringDescsCount then .descriptor (.string descIdx.toNat)
    else .invalid
  else if descType = DescriptorType.deviceQualifier then
    if info.deviceQualifierDesc.isNone then .absent else .descriptor .deviceQualifier
  else .absent

/-- A read that a request gives a reason for: an entry of a table below its count, or a byte of the
requested descriptor. -/
def Access.Allowed (info : Info) (want : Requested) : Access → Prop
  | configDescs i => i < info.configDescsCount
  | stringDescs i => i < info.stringDescsCount
  | byte x k => want = .descriptor x ∧ k < x.len info

end VirtualUSB
