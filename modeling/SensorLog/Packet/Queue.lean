import SensorLog.Packet.Order
import SensorLog.System.Memory

/-!
# The packet queue

Packets wait in a bounded queue, oldest first. Readers see one byte stream: the packets joined in
the order in which they are read. Looking ahead changes nothing; consuming bytes under an order
first rearranges the packets for good, so that what is read next continues the stream that was
looked at.
-/

namespace SensorLog

/-- Waiting packets, oldest first. -/
structure PacketQueue where
  capacity : Nat
  packets : List Bytes := []
  /-- The number of waiting bytes. Every operation keeps count; nothing ever adds it up again. -/
  size : Nat := 0
deriving DecidableEq, Repr

namespace PacketQueue

/-- The capacity of a queue unless told otherwise. -/
def defaultCapacity : Nat := 128

/-- The bytes of the place that a waiting packet takes. -/
def slotSize : Nat := 32

/-- Sets aside the places of a queue, which is done before the first packet comes. -/
def reserve (memory : Memory) (capacity : Nat) : Except MemoryFault Unit :=
  memory.reserve (slotSize * capacity)

/-- Whether no byte waits. -/
def isEmpty (q : PacketQueue) : Bool :=
  q.size == 0

/-- The packets in the order in which they are read; without an order, as they arrived. -/
def sequence (q : PacketQueue) (order? : Option PacketOrder) : List Bytes :=
  match order? with
  | some o => o.arrange q.packets
  | none => q.packets

/-- Adds a packet at the end. An empty packet is dropped, even by a full queue. -/
def write (q : PacketQueue) (packet : Bytes) : Except FrameError PacketQueue :=
  if packet.isEmpty then .ok q
  else if q.capacity ≤ q.packets.length then .error (.bufferFull q.capacity)
  else .ok { q with packets := q.packets ++ [packet], size := q.size + packet.length }

/-- The first `n` bytes of packets, or all when there are fewer. The packet that completes them is
    the last one looked at. -/
def takeBytes : Nat → List Bytes → Bytes
  | _, [] => []
  | n, packet :: rest =>
    if n ≤ packet.length then packet.take n
    else packet ++ takeBytes (n - packet.length) rest

/-- The next `n` bytes under an order, or all when there are fewer. -/
def peek (q : PacketQueue) (n : Nat) (order? : Option PacketOrder) : Bytes :=
  takeBytes n (q.sequence order?)

/-- The first byte, and the queue without it. A packet that is used up goes. -/
def getByte (q : PacketQueue) : Except FrameError (UInt8 × PacketQueue) :=
  match q.packets with
  | [] => .error (.endOfBuffer 1 0)
  | [] :: _ => .error (.endOfBuffer 1 0)
  | [b] :: rest => .ok (b, { q with packets := rest, size := q.size - 1 })
  | (b :: packet) :: rest => .ok (b, { q with packets := packet :: rest, size := q.size - 1 })

/-- The queue with its packets moved into the places that an order gives them. -/
def rearrange (q : PacketQueue) (o : PacketOrder) : PacketQueue :=
  { q with packets := o.arrange q.packets }

/-- The queue on which reading under an order goes on. Arrival order, spelled out or not, moves
    nothing. -/
def commit (q : PacketQueue) (order? : Option PacketOrder) : PacketQueue :=
  match order? with
  | some o => if o.isNatural then q else q.rearrange o
  | none => q

/-- Packets without their first `n` bytes; a packet that is used up goes. -/
def dropBytes : Nat → List Bytes → List Bytes
  | 0, packets => packets
  | _ + 1, [] => []
  | n + 1, packet :: rest =>
    if packet.length ≤ n + 1 then dropBytes (n + 1 - packet.length) rest
    else packet.drop (n + 1) :: rest

/-- The queue without its next `n` bytes under an order. -/
def consume (q : PacketQueue) (n : Nat) (order? : Option PacketOrder) : PacketQueue :=
  let q := q.commit order?
  { q with packets := dropBytes n q.packets, size := q.size - n }

/-- The queue after its next `n` bytes under an order were consumed, if it has as many. -/
def seek (q : PacketQueue) (n : Nat) (order? : Option PacketOrder) :
    Except FrameError PacketQueue :=
  if q.size < n then .error (.endOfBuffer n q.size) else .ok (q.consume n order?)

/-- Removes the packet at an index, with all its bytes. -/
def dropPacket (q : PacketQueue) (index : Nat) : Option (Bytes × PacketQueue) :=
  q.packets[index]?.map fun packet =>
    (packet, { q with packets := q.packets.eraseIdx index, size := q.size - packet.length })

/-- Removes all packets. -/
def clear (q : PacketQueue) : PacketQueue :=
  { q with packets := [], size := 0 }

theorem sequence_perm (q : PacketQueue) (order? : Option PacketOrder) :
    (q.sequence order?).Perm q.packets := by
  cases order? with
  | none => exact .refl _
  | some o => exact o.arrange_perm _

/-- Looking ahead shows the start of the stream. -/
theorem takeBytes_eq_take (n : Nat) (packets : List Bytes) :
    takeBytes n packets = packets.flatten.take n := by
  fun_induction takeBytes n packets with
  | case1 => simp
  | case2 n packet rest h => rw [List.flatten_cons, List.take_append_of_le_length h]
  | case3 n packet rest h ih =>
    have whole : packet.take n = packet := List.take_of_length_le (by omega)
    rw [ih, List.flatten_cons, List.take_append, whole]

/-- Dropping bytes from packets drops them from the stream. -/
theorem flatten_dropBytes (n : Nat) (packets : List Bytes) :
    (dropBytes n packets).flatten = packets.flatten.drop n := by
  fun_induction dropBytes n packets with
  | case1 => simp
  | case2 => simp
  | case3 n packet rest h ih =>
    rw [ih, List.flatten_cons, List.drop_append, List.drop_of_length_le h, List.nil_append]
  | case4 n packet rest h =>
    rw [List.flatten_cons, List.flatten_cons, List.drop_append_of_le_length (by omega)]

theorem seek_eq_ok_iff {q q' : PacketQueue} {n : Nat} {order? : Option PacketOrder} :
    q.seek n order? = .ok q' ↔ n ≤ q.size ∧ q.consume n order? = q' := by
  unfold seek
  split
  · rename_i short
    simp only [reduceCtorEq, false_iff, not_and]
    omega
  · rename_i enough
    simp only [Except.ok.injEq, iff_and_self]
    omega

@[simp] theorem size_commit (q : PacketQueue) (order? : Option PacketOrder) :
    (q.commit order?).size = q.size := by
  unfold commit
  split
  · split <;> rfl
  · rfl

/-- Consuming takes exactly that many bytes. -/
theorem size_seek {q q' : PacketQueue} {n : Nat} {order? : Option PacketOrder}
    (h : q.seek n order? = .ok q') : q'.size = q.size - n := by
  rw [← (seek_eq_ok_iff.1 h).2, consume, size_commit]

theorem size_getByte {q q' : PacketQueue} {b : UInt8} (h : q.getByte = .ok (b, q')) :
    q'.size = q.size - 1 := by
  unfold getByte at h
  split at h
  · cases h
  · cases h
  · simp only [Except.ok.injEq, Prod.mk.injEq] at h
    rw [← h.2]
  · simp only [Except.ok.injEq, Prod.mk.injEq] at h
    rw [← h.2]

end PacketQueue

end SensorLog
