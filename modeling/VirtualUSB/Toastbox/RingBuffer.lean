import VirtualUSB.Base.Cyclic
import VirtualUSB.Base.LabelledSystem

/-!
# The ring buffer (`RingBuffer.h`)

`RingBuffer` holds up to `cap` elements in an array.  `_roff` is where the next element is read,
`_woff` where the next one is written; `_full` tells a full buffer from an empty one.

`_buf` is the memory from the address of the array on, so that an access outside of the array would
be visible.  A call of `abort()` has no result (`none`).

`ringBuffer cap mem` is a ring buffer that is used, `boundedQueue cap` is what it is for.
-/

namespace VirtualUSB

open Cyclic

variable {T : Type*}

/-- `RingBuffer` -/
structure RingBuffer (T : Type*) where
  roff : ℕ := 0
  woff : ℕ := 0
  full : Bool := false
  buf : ℕ → T

namespace RingBuffer

variable (cap : ℕ)

/-- `len()` -/
def len (r : RingBuffer T) : ℕ :=
  if r.woff > r.roff then r.woff - r.roff
  else if r.woff < r.roff then (cap - r.roff) + r.woff
  else if r.full then cap
  else 0

/-- `space()` -/
def space (r : RingBuffer T) : ℕ :=
  cap - r.len cap

/-- An offset moves on; behind the last element it is 0. -/
def advance (off n : ℕ) : ℕ :=
  if off + n = cap then 0 else off + n

/-- `read(data, len)`: the elements read, and the buffer afterwards. -/
def read (r : RingBuffer T) (n : ℕ) : Option (List T × RingBuffer T) :=
  if n > r.len cap then none
  else
    -- segment 1: `_roff` to end
    let len1 := min n (cap - r.roff)
    let seg1 := segment r.buf r.roff len1
    let rem := n - len1
    let roff := advance cap r.roff len1
    -- segment 2: 0 to `_woff`
    let len2 := min rem r.woff
    let seg2 := if rem ≠ 0 then segment r.buf 0 len2 else []
    let roff := if rem ≠ 0 then advance cap roff len2 else roff
    some (seg1 ++ seg2, { r with roff := roff, full := if n ≠ 0 then false else r.full })

/-- The two segments of `write`. -/
def writeSegments (r : RingBuffer T) (data : List T) : RingBuffer T :=
  -- segment 1: `_woff` to end
  let len1 := min data.length (cap - r.woff)
  let buf := copyTo r.buf r.woff (data.take len1)
  let rem := data.length - len1
  let woff := advance cap r.woff len1
  -- segment 2: 0 to `_roff`
  let len2 := min rem r.roff
  let buf := if rem ≠ 0 then copyTo buf 0 ((data.drop len1).take len2) else buf
  let woff := if rem ≠ 0 then advance cap woff len2 else woff
  { r with
    buf := buf
    woff := woff
    full := if data.length ≠ 0 ∧ woff = r.roff then true else r.full }

/-- `write(data, len)` -/
def write (r : RingBuffer T) (data : List T) : Option (RingBuffer T) :=
  if data.length > r.space cap then none else some (r.writeSegments cap data)

/-- `_roff` after `overflow` elements were given up. -/
def overwritten (r : RingBuffer T) (overflow : ℕ) : ℕ :=
  if overflow < cap - r.roff then r.roff + overflow else overflow - (cap - r.roff)

/-- `writeOver(data, len)` -/
def writeOver (r : RingBuffer T) (data : List T) : RingBuffer T :=
  let data := if data.length > cap then data.drop (data.length - cap) else data
  let avail := r.space cap
  let roff := if data.length > avail then r.overwritten cap (data.length - avail) else r.roff
  ({ r with roff := roff } : RingBuffer T).writeSegments cap data

end RingBuffer

/-! ### Using a ring buffer -/

/-- The calls that read and write. -/
inductive RingOp (T : Type*)
  | read (n : ℕ)
  | write (data : List T)
  | writeOver (data : List T)

/-- The effect of a call, with the elements that it has read. -/
def RingBuffer.step (cap : ℕ) (r : RingBuffer T) :
    RingOp T → Option (RingBuffer T × List (List T))
  | .read n => (r.read cap n).map fun p => (p.2, [p.1])
  | .write data => (r.write cap data).map fun r' => (r', [])
  | .writeOver data => some (r.writeOver cap data, [])

/-- A ring buffer that is used, with any contents of the memory at the beginning. -/
def ringBuffer (cap : ℕ) (mem : ℕ → T) : LabelledSystem (RingBuffer T) (RingOp T) (List T) where
  init := { buf := mem }
  step := RingBuffer.step cap

/-! ### What a ring buffer is for -/

/-- A call of a queue that holds at most `cap` elements: reading takes the elements that have been
there longest, writing too many is refused, and writing over gives up those that have been there
longest. -/
def queueStep (cap : ℕ) (q : List T) : RingOp T → Option (List T × List (List T))
  | .read n => if n ≤ q.length then some (q.drop n, [q.take n]) else none
  | .write data => if q.length + data.length ≤ cap then some (q ++ data, []) else none
  | .writeOver data => some ((q ++ data).drop ((q ++ data).length - cap), [])

/-- The queue of at most `cap` elements. -/
def boundedQueue (T : Type*) (cap : ℕ) : LabelledSystem (List T) (RingOp T) (List T) where
  init := []
  step := queueStep cap

end VirtualUSB
