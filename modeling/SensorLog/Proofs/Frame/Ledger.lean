import SensorLog.Proofs.Frame.Front
import SensorLog.Schema.Builtin

/-!
# No byte is lost and none is read twice

A `Ledger` follows a reader through calls and keeps two accounts: the bytes of the packets that were
taken in, and the bytes that were used up, which are the length byte and the payload of each decoded
frame and a length byte of zero. Between any two calls the bytes taken in are those used up and
those still unread (`balanced_after`), in the same order as long as every frame is read in arrival
order (`inOrder_after`). A step that decodes no frame takes at most the length byte.
-/

namespace SensorLog

namespace PacketQueue

/-- What a reader sees under an order and what it leaves behind make up the packets in that order. -/
theorem peek_append_consume (q : PacketQueue) (n : Nat) (order? : Option PacketOrder) :
    q.peek n order? ++ (q.consume n order?).stream = (q.sequence order?).flatten := by
  rw [peek_eq_take, stream_consume, List.take_append_drop]

theorem flatten_sequence_perm (q : PacketQueue) (order? : Option PacketOrder) :
    (q.sequence order?).flatten.Perm q.stream :=
  (q.sequence_perm order?).flatten

end PacketQueue

/-- A call on a reader. -/
inductive ReaderCall
  | write (packet : Bytes)
  | next (order? : Option PacketOrder)

/-- A reader with the bytes that it took in and those that it used up, first byte first. -/
structure Ledger where
  reader : FrameReader
  accepted : Bytes := []
  consumed : Bytes := []

namespace FrameReader

variable {r reader : FrameReader} {codec : RecordCodec} {order? : Option PacketOrder}
  {outcome : Except FrameError Outcome}

/-- The frame that a step looks at: its length byte, and its payload as it is read under an order. -/
def window (r : FrameReader) (order? : Option PacketOrder) : Bytes :=
  match r.pending with
  | some size => UInt8.ofNat size :: r.queue.peek size order?
  | none =>
    match r.queue.getByte with
    | .ok (b, queue) => b :: queue.peek b.toNat order?
    | .error _ => []

/-- The bytes that a step uses up: a frame that it decodes, or a length byte of zero. -/
def spent (r : FrameReader) (order? : Option PacketOrder) : Except FrameError Outcome → Bytes
  | .ok (.frame _) => r.window order?
  | .ok .endOfLog => r.window order?
  | .error .zeroLengthFrame => [0]
  | _ => []

/-- The packets wait as before, or all that has gone is the length byte, which is held back. -/
def TookAtMostLength (before after : FrameReader) : Prop :=
  (after.queue = before.queue ∧ after.pending = before.pending) ∨
    ∃ b, before.pending = none ∧ before.queue.getByte = .ok (b, after.queue) ∧
      after.pending = some b.toNat

/-- What a step uses up, by its outcome: a frame whose payload decodes to the record that is given out, a
    length byte of zero, or nothing, and then it takes at most the length byte. There is no other outcome. -/
def Accounts (codec : RecordCodec) (before after : FrameReader) (spent : Bytes) :
    Except FrameError Outcome → Prop
  | .ok (.frame record) =>
    ∃ payload, spent = UInt8.ofNat payload.length :: payload ∧ payload.length ≤ 255 ∧
      codec.decode payload = .ok record ∧ record.isEndOfLog = false
  | .ok .endOfLog =>
    ∃ payload record, spent = UInt8.ofNat payload.length :: payload ∧ payload.length ≤ 255 ∧
      codec.decode payload = .ok record ∧ record.isEndOfLog = true
  | .error .zeroLengthFrame => spent = [0]
  | .ok .needMore | .ok (.corrupt _) | .error (.schema _) => spent = [] ∧ before.TookAtMostLength after
  | .error _ => False

/-! ## What one step does to the accounts -/

theorem Begins.window_eq {size : Nat} {begun : FrameReader} (begins : r.Begins size begun) :
    r.window order? = UInt8.ofNat size :: begun.queue.peek size order? := by
  cases begins with
  | awaited _ held => simp only [window, held]
  | taken b queue fresh nonzero head => simp only [window, fresh, head, UInt8.ofNat_toNat]

theorem Begins.tookAtMostLength {size : Nat} {begun : FrameReader} (begins : r.Begins size begun) :
    r.TookAtMostLength begun := by
  cases begins with
  | awaited => exact .inl ⟨rfl, rfl⟩
  | taken b queue fresh nonzero head => exact .inr ⟨b, fresh, head, rfl⟩

/-- A decoded frame and the bytes left behind it are the bytes that were there, in the order of reading. -/
theorem Begins.window_append {size : Nat} {begun : FrameReader} (begins : r.Begins size begun) :
    r.window order? ++ (begun.queue.consume size order?).stream
      = UInt8.ofNat size :: (begun.queue.sequence order?).flatten := by
  rw [begins.window_eq, List.cons_append, PacketQueue.peek_append_consume]

/-- The unread bytes are those that a step uses up and those that it leaves, where a decoded frame is seen
    with its packets in the order of reading. -/
theorem Reading.spent_append (read : r.Reading codec order? outcome reader) (sound : r.Sound) :
    r.unread = r.spent order? outcome ++ reader.unread ∨
      ∃ size begun, r.Begins size begun ∧
        r.spent order? outcome ++ reader.unread
          = UInt8.ofNat size :: (begun.queue.sequence order?).flatten := by
  cases read with
  | idle => exact .inl rfl
  | zero queue fresh head =>
      have left : ({ r with queue } : FrameReader).unread = queue.stream := unread_of_fresh fresh
      rw [unread_of_fresh fresh, (sound.queue.getByte head).2, left]
      exact .inl rfl
  | payload begins read =>
      have same := begins.unread_begun sound
      cases read with
      | short => exact .inl same.symm
      | frame => exact .inr ⟨_, _, begins, begins.window_append⟩
      | endOfLog => exact .inr ⟨_, _, begins, begins.window_append⟩
      | mismatch => exact .inl same.symm
      | corrupt => exact .inl same.symm

theorem Reading.unread_perm (read : r.Reading codec order? outcome reader) (sound : r.Sound) :
    r.unread.Perm (r.spent order? outcome ++ reader.unread) := by
  rcases read.spent_append sound with same | ⟨size, begun, begins, arranged⟩
  · exact .of_eq same
  · rw [arranged, begins.unread_eq sound]
    exact ((begun.queue.flatten_sequence_perm order?).cons _).symm

/-- In arrival order nothing changes its place. -/
theorem Reading.unread_eq (read : r.Reading codec none outcome reader) (sound : r.Sound) :
    r.unread = r.spent none outcome ++ reader.unread := by
  rcases read.spent_append sound with same | ⟨size, begun, begins, arranged⟩
  · exact same
  · rw [arranged, begins.unread_eq sound]
    rfl

/-- The window of a frame that waits in full is a length and a payload of that length. -/
theorem Begins.window_of_enough {size : Nat} {begun : FrameReader} (begins : r.Begins size begun)
    (sound : r.Sound) (enough : size ≤ begun.queue.size) (order? : Option PacketOrder) :
    r.window order? = UInt8.ofNat (begun.queue.peek size order?).length :: begun.queue.peek size order? ∧
      (begun.queue.peek size order?).length ≤ 255 := by
  have length : (begun.queue.peek size order?).length = size := by
    rw [PacketQueue.length_peek (begins.sound sound).queue, Nat.min_eq_left enough]
  obtain ⟨-, bounded⟩ := begins.bounds sound
  rw [length]
  exact ⟨begins.window_eq, bounded⟩

theorem Reading.accounts (read : r.Reading codec order? outcome reader) (sound : r.Sound) :
    r.Accounts codec reader (r.spent order? outcome) outcome := by
  cases read with
  | idle => exact ⟨rfl, .inl ⟨rfl, rfl⟩⟩
  | zero => rfl
  | payload begins read =>
      have kept := begins.tookAtMostLength
      cases read with
      | short => exact ⟨rfl, kept⟩
      | frame record enough decoded more =>
          obtain ⟨window, bounded⟩ := begins.window_of_enough sound enough order?
          exact ⟨_, window, bounded, decoded, more⟩
      | endOfLog record enough decoded last =>
          obtain ⟨window, bounded⟩ := begins.window_of_enough sound enough order?
          exact ⟨_, record, window, bounded, decoded, last⟩
      | mismatch => exact ⟨rfl, kept⟩
      | corrupt => exact ⟨rfl, kept⟩

/-! ## The load -/

/-- The work that is left is the number of unread bytes. -/
theorem Sound.load_eq (sound : r.Sound) : r.load = r.unread.length := by
  rw [load, unread, sound.queue.count, List.length_append, Nat.add_comm]
  cases r.pending <;> rfl

theorem Reading.load_eq (read : r.Reading codec order? outcome reader) (sound : r.Sound) :
    r.load = (r.spent order? outcome).length + reader.load := by
  rw [sound.load_eq, (read.sound sound).load_eq, (read.unread_perm sound).length_eq, List.length_append]

theorem Reading.load_le (read : r.Reading codec order? outcome reader) (sound : r.Sound) :
    reader.load ≤ r.load := by
  rw [read.load_eq sound]
  exact Nat.le_add_left _ _

/-- The end of the log is a frame as well. -/
theorem Reading.load_lt_of_endOfLog (read : r.Reading codec order? (.ok .endOfLog) reader)
    (sound : r.Sound) : reader.load < r.load := by
  obtain ⟨payload, -, spent, -⟩ := read.accounts sound
  rw [read.load_eq sound, spent, List.length_cons]
  omega

end FrameReader

/-! ## Ledgers -/

namespace Ledger

open FrameReader

variable {l : Ledger} {codec : RecordCodec}

/-- The ledger of a reader that has taken nothing in. -/
def new (capacity limit : Nat) : Ledger :=
  { reader := .new capacity limit }

/-- The ledger after a call. A packet that is refused leaves it as it is. -/
def call (codec : RecordCodec) (l : Ledger) : ReaderCall → Ledger
  | .write packet =>
    match l.reader.write packet with
    | .ok reader => { l with reader, accepted := l.accepted ++ packet }
    | .error _ => l
  | .next order? =>
    let step := l.reader.next codec order?
    { l with reader := step.reader, consumed := l.consumed ++ l.reader.spent order? step.outcome }

/-- The ledger after calls, first call first. -/
def after (codec : RecordCodec) (l : Ledger) (calls : List ReaderCall) : Ledger :=
  calls.foldl (call codec) l

/-- What was taken in is what was used up and what is unread. -/
structure Balanced (l : Ledger) : Prop where
  sound : l.reader.Sound
  bytes : l.accepted.Perm (l.consumed ++ l.reader.unread)

/-- It is so byte for byte. -/
structure InOrder (l : Ledger) : Prop where
  sound : l.reader.Sound
  bytes : l.accepted = l.consumed ++ l.reader.unread

theorem InOrder.new (capacity limit : Nat) : InOrder (new capacity limit) :=
  ⟨.new capacity limit, rfl⟩

theorem InOrder.balanced (inOrder : l.InOrder) : l.Balanced :=
  ⟨inOrder.sound, .of_eq inOrder.bytes⟩

/-- A packet is added to what was taken in and to what is unread, or to neither. -/
theorem call_write (codec : RecordCodec) (sound : l.reader.Sound) (packet : Bytes) :
    (l.call codec (.write packet)).reader.Sound ∧
      ∃ added, (l.call codec (.write packet)).accepted = l.accepted ++ added ∧
        (l.call codec (.write packet)).consumed = l.consumed ∧
        (l.call codec (.write packet)).reader.unread = l.reader.unread ++ added := by
  rcases FrameReader.write_cases sound packet with ⟨queue, accepted, queued, stream, -⟩ | ⟨full, -, -⟩
  · have same : l.call codec (.write packet)
        = { l with reader := { l.reader with queue }, accepted := l.accepted ++ packet } := by
      simp only [call, accepted]
    rw [same]
    refine ⟨sound.write accepted, packet, rfl, rfl, ?_⟩
    simp only [unread, stream, List.append_assoc]
  · have same : l.call codec (.write packet) = l := by simp only [call, full]
    rw [same]
    exact ⟨sound, [], (List.append_nil _).symm, rfl, (List.append_nil _).symm⟩

theorem Balanced.call (balanced : l.Balanced) (c : ReaderCall) : (l.call codec c).Balanced := by
  cases c with
  | write packet =>
      obtain ⟨sound, added, accepted, consumed, unread⟩ := call_write codec balanced.sound packet
      refine ⟨sound, ?_⟩
      rw [accepted, consumed, unread, ← List.append_assoc]
      exact balanced.bytes.append_right added
  | next order? =>
      have read := next_reading balanced.sound codec order?
      refine ⟨read.sound balanced.sound, balanced.bytes.trans ?_⟩
      simp only [Ledger.call, List.append_assoc]
      exact (read.unread_perm balanced.sound).append_left _

theorem InOrder.call (inOrder : l.InOrder) {c : ReaderCall} (plain : ∀ o, c ≠ .next (some o)) :
    (l.call codec c).InOrder := by
  cases c with
  | write packet =>
      obtain ⟨sound, added, accepted, consumed, unread⟩ := call_write codec inOrder.sound packet
      refine ⟨sound, ?_⟩
      rw [accepted, consumed, unread, ← List.append_assoc, inOrder.bytes]
  | next order? =>
      cases order? with
      | some o => exact absurd rfl (plain o)
      | none =>
          have read := next_reading inOrder.sound codec none
          refine ⟨read.sound inOrder.sound, inOrder.bytes.trans ?_⟩
          simp only [Ledger.call, List.append_assoc]
          exact congrArg (l.consumed ++ ·) (read.unread_eq inOrder.sound)

theorem balanced_after (balanced : l.Balanced) (calls : List ReaderCall) : (l.after codec calls).Balanced := by
  induction calls generalizing l with
  | nil => exact balanced
  | cons c rest ih => exact ih (balanced.call c)

theorem inOrder_after (inOrder : l.InOrder) {calls : List ReaderCall}
    (plain : ∀ o, .next (some o) ∉ calls) : (l.after codec calls).InOrder := by
  induction calls generalizing l with
  | nil => exact inOrder
  | cons c rest ih =>
      have here : ∀ o, c ≠ .next (some o) := by
        intro o same
        exact plain o (same ▸ List.mem_cons_self)
      have later : ∀ o, .next (some o) ∉ rest := by
        intro o member
        exact plain o (List.mem_cons_of_mem _ member)
      exact ih (inOrder.call here) later

/-- Whatever packets a fresh reader is given and under whatever orders it is read, the bytes it took in are
    those it used up and those it still holds, a length byte held back among them; without packet orders
    they are the same byte string. Each next step uses up a frame that decodes, or a length byte of zero, or
    nothing beyond a length byte that is held back. -/
theorem new_after_balances (codec : RecordCodec) (capacity limit : Nat) (calls : List ReaderCall) :
    let l := (new capacity limit).after codec calls
    l.accepted.Perm
        (l.consumed ++ (l.reader.pending.map UInt8.ofNat).toList ++ l.reader.queue.packets.flatten) ∧
      ((∀ o, .next (some o) ∉ calls) →
        l.accepted
          = l.consumed ++ (l.reader.pending.map UInt8.ofNat).toList ++ l.reader.queue.packets.flatten) ∧
      ∀ order?, let step := l.reader.next codec order?
        l.reader.Accounts codec step.reader (l.reader.spent order? step.outcome) step.outcome := by
  intro l
  have opened := InOrder.new capacity limit
  have balanced : l.Balanced := balanced_after opened.balanced calls
  refine ⟨?_, ?_, ?_⟩
  · rw [List.append_assoc]
    exact balanced.bytes
  · intro plain
    rw [List.append_assoc]
    exact (inOrder_after opened plain).bytes
  · intro order?
    exact (next_reading balanced.sound codec order?).accounts balanced.sound

/-- Two packets that came in the wrong order: the frame is used up in the order of reading, and the next
    length byte is left. -/
example :
    let l := (new 128 32).after Registry.builtin.codec
      [.write [4, 8], .next none, .write [16, 100, 2], .write [1], .next none,
        .next (some ⟨[0, 2, 1], by decide⟩)]
    l.accepted = [4, 8, 16, 100, 2, 1] ∧ l.consumed = [4, 8, 1, 16, 100] ∧ l.reader.unread = [2] := by
  decide +kernel

end Ledger

end SensorLog
