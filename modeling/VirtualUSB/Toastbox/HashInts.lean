import VirtualUSB.USB

/-!
# The hash of a buffer (`HashInts.h`, `HashInts.cpp`)
-/

namespace VirtualUSB

namespace HashInts

def prime : UInt64 := 0x100000001b3

/-- The body of the loop. -/
def step (res : UInt64) (byte : UInt8) : UInt64 :=
  (res ^^^ byte.toUInt64) * prime

end HashInts

/-- `hash_ints` -/
def hashInts (bytes : Ptr) (len : Int32) : UInt64 :=
  (bytes.read len.toInt.toNat).foldl HashInts.step 0xcbf29ce484222325

end VirtualUSB
