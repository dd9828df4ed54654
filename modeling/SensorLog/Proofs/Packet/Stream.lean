import Mathlib
import SensorLog.Packet.Queue

/-!
# The packet queue as one byte stream

`PacketQueue.stream` joins the waiting packets. `Sound` says what every operation keeps: the count
of bytes is right, no stored packet is empty, and the packets fit the queue. Under it each operation
is a plain operation on the stream, so that nothing after this module opens one of them again.
-/

namespace SensorLog.PacketQueue

/-- The waiting bytes in arrival order. -/
def stream (q : PacketQueue) : Bytes :=
  q.packets.flatten

/-- What every operation keeps. -/
structure Sound (q : PacketQueue) : Prop where
  count : q.size = q.stream.length
  inhabited : ∀ packet ∈ q.packets, packet ≠ []
  room : q.packets.length ≤ q.capacity

theorem Sound.empty (capacity : Nat) : Sound { capacity } :=
  ⟨rfl, by simp, Nat.zero_le _⟩

theorem isEmpty_iff {q : PacketQueue} (sound : q.Sound) : q.isEmpty = true ↔ q.stream = [] := by
  rw [isEmpty, beq_iff_eq, sound.count, List.length_eq_zero_iff]

/-- Each packet holds a byte, so there are no more packets than bytes. -/
theorem length_le_length_flatten {packets : List Bytes} (inhabited : ∀ packet ∈ packets, packet ≠ []) :
    packets.length ≤ packets.flatten.length := by
  induction packets with
  | nil => exact Nat.le_refl _
  | cons packet rest ih =>
      obtain ⟨some, later⟩ := List.forall_mem_cons.1 inhabited
      have head : 0 < packet.length := List.length_pos_iff.2 some
      have tail := ih later
      simp only [List.length_cons, List.flatten_cons, List.length_append]
      omega

theorem Sound.length_packets_le {q : PacketQueue} (sound : q.Sound) :
    q.packets.length ≤ q.stream.length :=
  length_le_length_flatten sound.inhabited

/-! ## Reading under an order -/

/-- Natural orders are left alone and all others are carried out, so the packets stand as read. -/
theorem packets_commit (q : PacketQueue) (order? : Option PacketOrder) :
    (q.commit order?).packets = q.sequence order? := by
  cases order? with
  | none => rfl
  | some o =>
      simp only [commit, sequence]
      split
      · rename_i natural
        exact (PacketOrder.arrange_of_isNatural natural _).symm
      · rfl

theorem capacity_commit (q : PacketQueue) (order? : Option PacketOrder) :
    (q.commit order?).capacity = q.capacity := by
  unfold commit
  split
  · split <;> rfl
  · rfl

theorem commit_some (q : PacketQueue) (o : PacketOrder) : q.commit (some o) = q.rearrange o := by
  have packets : (q.commit (some o)).packets = (q.rearrange o).packets := packets_commit q (some o)
  cases hq : q.commit (some o) with
  | mk capacity stored size =>
      have hc := capacity_commit q (some o)
      have hs := size_commit q (some o)
      rw [hq] at packets hc hs
      simp only [rearrange] at packets hc hs ⊢
      rw [packets, hc, hs]

theorem length_flatten_sequence (q : PacketQueue) (order? : Option PacketOrder) :
    (q.sequence order?).flatten.length = q.stream.length := by
  rw [stream, List.length_flatten, List.length_flatten]
  exact ((q.sequence_perm order?).map _).sum_nat

theorem peek_eq_take (q : PacketQueue) (n : Nat) (order? : Option PacketOrder) :
    q.peek n order? = (q.sequence order?).flatten.take n :=
  takeBytes_eq_take n _

theorem peek_none (q : PacketQueue) (n : Nat) : q.peek n none = q.stream.take n :=
  peek_eq_take q n none

theorem length_peek {q : PacketQueue} (sound : q.Sound) (n : Nat) (order? : Option PacketOrder) :
    (q.peek n order?).length = min n q.size := by
  rw [peek_eq_take, List.length_take, length_flatten_sequence, sound.count]

theorem stream_consume (q : PacketQueue) (n : Nat) (order? : Option PacketOrder) :
    (q.consume n order?).stream = (q.sequence order?).flatten.drop n := by
  simp only [consume, stream, flatten_dropBytes, packets_commit]

theorem stream_consume_none (q : PacketQueue) (n : Nat) :
    (q.consume n none).stream = q.stream.drop n :=
  stream_consume q n none

/-! ## Every operation keeps the queue sound -/

theorem inhabited_dropBytes {n : Nat} {packets : List Bytes}
    (inhabited : ∀ packet ∈ packets, packet ≠ []) : ∀ packet ∈ dropBytes n packets, packet ≠ [] := by
  fun_induction dropBytes n packets with
  | case1 => exact inhabited
  | case2 => exact inhabited
  | case3 n packet rest used ih =>
      obtain ⟨-, later⟩ := List.forall_mem_cons.1 inhabited
      exact ih later
  | case4 n packet rest kept =>
      obtain ⟨-, later⟩ := List.forall_mem_cons.1 inhabited
      rw [List.forall_mem_cons]
      constructor
      · intro nothing
        have dropped := List.drop_eq_nil_iff.1 nothing
        omega
      · exact later

theorem length_dropBytes_le (n : Nat) (packets : List Bytes) :
    (dropBytes n packets).length ≤ packets.length := by
  fun_induction dropBytes n packets with
  | case1 => exact Nat.le_refl _
  | case2 => exact Nat.le_refl _
  | case3 n packet rest used ih => exact Nat.le_trans ih (Nat.le_succ _)
  | case4 => simp only [List.length_cons]; exact Nat.le_refl _

theorem Sound.rearrange {q : PacketQueue} (sound : q.Sound) (o : PacketOrder) :
    (q.rearrange o).Sound where
  count := (sound.count.trans (length_flatten_sequence q (some o)).symm)
  inhabited := fun packet member => sound.inhabited packet ((o.arrange_perm _).mem_iff.1 member)
  room := Nat.le_trans (Nat.le_of_eq (o.arrange_perm _).length_eq) sound.room

theorem Sound.commit {q : PacketQueue} (sound : q.Sound) (order? : Option PacketOrder) :
    (q.commit order?).Sound := by
  cases order? with
  | none => exact sound
  | some o => rw [commit_some]; exact sound.rearrange o

theorem Sound.consume {q : PacketQueue} (sound : q.Sound) (n : Nat) (order? : Option PacketOrder) :
    (q.consume n order?).Sound := by
  have committed := sound.commit order?
  refine ⟨?_, inhabited_dropBytes committed.inhabited, ?_⟩
  · rw [stream_consume, ← packets_commit, List.length_drop]
    exact congrArg (· - n) committed.count
  · exact Nat.le_trans (length_dropBytes_le _ _) committed.room

theorem stream_append (q : PacketQueue) (packet : Bytes) (size : Nat) :
    stream { q with packets := q.packets ++ [packet], size } = q.stream ++ packet := by
  simp only [stream, List.flatten_append, List.flatten_singleton]

theorem Sound.append {q : PacketQueue} (sound : q.Sound) {packet : Bytes} (some : packet ≠ [])
    (room : q.packets.length < q.capacity) :
    Sound { q with packets := q.packets ++ [packet], size := q.size + packet.length } where
  count := by
    rw [stream_append, List.length_append, sound.count]
  inhabited := by
    intro p member
    rcases List.mem_append.1 member with old | new
    · exact sound.inhabited p old
    · rwa [List.mem_singleton.1 new]
  room := by
    simp only [List.length_append, List.length_cons, List.length_nil]
    omega

/-- A write adds its bytes at the end, unless it overfills the queue. -/
theorem write_cases {q : PacketQueue} (sound : q.Sound) (packet : Bytes) :
    (∃ q', q.write packet = .ok q' ∧ q'.Sound ∧ q'.stream = q.stream ++ packet ∧ q'.capacity = q.capacity) ∨
      (q.write packet = .error (.bufferFull q.capacity) ∧ packet ≠ [] ∧ q.capacity = q.packets.length) := by
  unfold write
  split
  · rename_i none
    rw [List.isEmpty_iff] at none
    exact .inl ⟨q, rfl, sound, by rw [none, List.append_nil], rfl⟩
  · rename_i some
    rw [List.isEmpty_iff] at some
    split
    · rename_i full
      exact .inr ⟨rfl, some, Nat.le_antisymm full sound.room⟩
    · rename_i room
      exact .inl ⟨_, rfl, sound.append some (Nat.not_le.1 room), stream_append _ _ _, rfl⟩

/-- With room to spare a packet goes behind the others as it is. -/
theorem write_of_room {q : PacketQueue} {packet : Bytes} (some : packet ≠ [])
    (room : q.packets.length < q.capacity) :
    q.write packet = .ok { q with packets := q.packets ++ [packet], size := q.size + packet.length } := by
  have full : ¬ q.capacity ≤ q.packets.length := by omega
  rw [write, List.isEmpty_eq_false_iff.2 some, if_neg Bool.false_ne_true, if_neg full]

/-- The first byte of the stream is the one that is taken. -/
theorem getByte_of_stream {q : PacketQueue} (sound : q.Sound) {b : UInt8} {rest : Bytes}
    (head : q.stream = b :: rest) :
    ∃ q', q.getByte = .ok (b, q') ∧ q'.Sound ∧ q'.stream = rest ∧ q'.capacity = q.capacity := by
  have count : q.size - 1 = rest.length := by rw [sound.count, head, List.length_cons]; omega
  have room := sound.room
  cases packets : q.packets with
  | nil => simp [stream, packets] at head
  | cons packet later =>
      have stored := sound.inhabited
      rw [packets] at room stored
      obtain ⟨some, inhabited⟩ := List.forall_mem_cons.1 stored
      cases packet with
      | nil => exact absurd rfl some
      | cons c more =>
          simp only [stream, packets, List.flatten_cons, List.cons_append, List.cons.injEq] at head
          obtain ⟨rfl, rfl⟩ := head
          cases more with
          | nil =>
              simp only [getByte, packets]
              refine ⟨_, rfl, ⟨count, inhabited, Nat.le_trans (Nat.le_succ _) room⟩, rfl, rfl⟩
          | cons d more =>
              simp only [getByte, packets]
              refine ⟨_, rfl, ⟨count, ?_, room⟩, rfl, rfl⟩
              rw [List.forall_mem_cons]
              constructor
              · exact List.cons_ne_nil _ _
              · exact inhabited

/-- A packet that holds more than its first byte stays in its place. -/
theorem getByte_of_packet {q : PacketQueue} {b : UInt8} {packet : Bytes} {later : List Bytes}
    (more : packet ≠ []) (packets : q.packets = (b :: packet) :: later) :
    q.getByte = .ok (b, { q with packets := packet :: later, size := q.size - 1 }) := by
  cases packet with
  | nil => exact absurd rfl more
  | cons c rest => simp only [getByte, packets]

theorem getByte_of_empty {q : PacketQueue} (empty : q.stream = []) (sound : q.Sound) :
    q.getByte = .error (.endOfBuffer 1 0) := by
  have none : q.packets = [] := List.eq_nil_of_length_eq_zero (by
    have := sound.length_packets_le
    rw [empty, List.length_nil] at this
    omega)
  simp only [getByte, none]

theorem Sound.getByte {q q' : PacketQueue} {b : UInt8} (sound : q.Sound)
    (taken : q.getByte = .ok (b, q')) : q'.Sound ∧ q.stream = b :: q'.stream := by
  cases head : q.stream with
  | nil => rw [getByte_of_empty head sound] at taken; cases taken
  | cons c rest =>
      obtain ⟨q₁, found, sound₁, stream₁, -⟩ := getByte_of_stream sound head
      rw [found] at taken
      cases taken
      exact ⟨sound₁, by rw [stream₁]⟩

theorem capacity_getByte {q q' : PacketQueue} {b : UInt8} (taken : q.getByte = .ok (b, q')) :
    q'.capacity = q.capacity := by
  unfold getByte at taken
  split at taken <;> cases taken <;> rfl

@[simp] theorem capacity_consume (q : PacketQueue) (n : Nat) (order? : Option PacketOrder) :
    (q.consume n order?).capacity = q.capacity :=
  capacity_commit q order?

theorem Sound.seek {q q' : PacketQueue} {n : Nat} {order? : Option PacketOrder} (sound : q.Sound)
    (done : q.seek n order? = .ok q') : q'.Sound := by
  obtain ⟨-, rfl⟩ := seek_eq_ok_iff.1 done
  exact sound.consume n order?

theorem length_flatten_eraseIdx {packets : List Bytes} {index : Nat} {packet : Bytes}
    (found : packets[index]? = some packet) :
    (packets.eraseIdx index).flatten.length + packet.length = packets.flatten.length := by
  induction packets generalizing index with
  | nil => simp at found
  | cons first rest ih =>
      cases index with
      | zero =>
          simp only [List.getElem?_cons_zero, Option.some.injEq] at found
          subst found
          simp only [List.eraseIdx_zero, List.tail_cons, List.flatten_cons, List.length_append]
          omega
      | succ index =>
          rw [List.getElem?_cons_succ] at found
          have later := ih found
          simp only [List.eraseIdx_cons_succ, List.flatten_cons, List.length_append]
          omega

theorem Sound.dropPacket {q q' : PacketQueue} {index : Nat} {packet : Bytes} (sound : q.Sound)
    (dropped : q.dropPacket index = some (packet, q')) : q'.Sound := by
  obtain ⟨p, found, same⟩ := Option.map_eq_some_iff.1 dropped
  simp only [Prod.mk.injEq] at same
  obtain ⟨rfl, rfl⟩ := same
  have count := sound.count
  have rest := length_flatten_eraseIdx found
  refine ⟨?_, fun p member => sound.inhabited p (List.mem_of_mem_eraseIdx member), ?_⟩
  · simp only [stream] at count ⊢
    omega
  · exact Nat.le_trans (List.length_eraseIdx_le _ _) sound.room

theorem Sound.clear (q : PacketQueue) : q.clear.Sound :=
  ⟨rfl, by simp [PacketQueue.clear], Nat.zero_le _⟩

end SensorLog.PacketQueue
