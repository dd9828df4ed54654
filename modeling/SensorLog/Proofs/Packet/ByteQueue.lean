import SensorLog.Proofs.Packet.InPlace

/-!
# One byte stream under every order

An order arranges the packets and thereby the bytes in them (`bytesIn`). Looking ahead shows these bytes and seeking
drops them, so a look ahead may be cut anywhere into a seek and a shorter look. Without an order the packets do
not show at all: the answers to calls are those of a first-in-first-out queue of bytes (`fifo_after`).
-/

namespace SensorLog

/-- A call that reads packets as they arrived and takes none out whole. -/
def QueueCall.Plain : QueueCall → Prop
  | .seek _ order? => order? = none
  | .dropPacket _ => False
  | _ => True

/-- How a first-in-first-out queue of bytes answers a call, and the bytes before and after it. Packets are made of
    at least one byte each, so none is refused before there are as many bytes as there is room for packets. -/
inductive FifoStep (capacity : Nat) : Bytes → QueueCall → Except FrameError QueueAnswer → Bytes → Prop
  | appended (s packet : Bytes) : FifoStep capacity s (.write packet) (.ok .done) (s ++ packet)
  | refused (s packet : Bytes) (some : packet ≠ []) (filled : capacity ≤ s.length) :
      FifoStep capacity s (.write packet) (.error (.bufferFull capacity)) s
  | taken (b : UInt8) (s : Bytes) : FifoStep capacity (b :: s) .getByte (.ok (.byte b)) s
  | empty : FifoStep capacity [] .getByte (.error (.endOfBuffer 1 0)) []
  | passed (s : Bytes) (n : Nat) (enough : n ≤ s.length) :
      FifoStep capacity s (.seek n none) (.ok .done) (s.drop n)
  | short (s : Bytes) (n : Nat) (few : s.length < n) :
      FifoStep capacity s (.seek n none) (.error (.endOfBuffer n s.length)) s
  | cleared (s : Bytes) : FifoStep capacity s .clear (.ok .done) []

/-- Its answers to calls, first call first. -/
inductive FifoRun (capacity : Nat) : Bytes → List QueueCall → List (Except FrameError QueueAnswer) → Bytes → Prop
  | nil (s : Bytes) : FifoRun capacity s [] [] s
  | cons {s s' t : Bytes} {c : QueueCall} {rest : List QueueCall} {answer : Except FrameError QueueAnswer}
      {answers : List (Except FrameError QueueAnswer)} (head : FifoStep capacity s c answer s')
      (tail : FifoRun capacity s' rest answers t) : FifoRun capacity s (c :: rest) (answer :: answers) t

namespace PacketQueue

variable {q : PacketQueue}

/-- The places of the packets in the order in which they are read. -/
def indices (q : PacketQueue) : Option PacketOrder → List Nat
  | some o => o.resolve q.packets.length
  | none => List.range q.packets.length

/-- The bytes of the packets in the order in which they are read. -/
def bytesIn (q : PacketQueue) (order? : Option PacketOrder) : Bytes :=
  (q.indices order?).flatMap fun i => q.packets[i]?.getD []

/-- The answers to calls, first call first. -/
def answers (q : PacketQueue) : List QueueCall → List (Except FrameError QueueAnswer)
  | [] => []
  | c :: rest => (q.call c).answer :: (q.call c).queue.answers rest

/-! ## Looking ahead and seeking -/

theorem flatten_filterMap {α β : Type} (f : α → Option (List β)) (items : List α) :
    (items.filterMap f).flatten = items.flatMap fun a => (f a).getD [] := by
  induction items with
  | nil => rfl
  | cons a rest ih =>
      rw [List.flatMap_cons, ← ih]
      cases found : f a with
      | none => rw [List.filterMap_cons_none found]; rfl
      | some b => rw [List.filterMap_cons_some found]; rfl

theorem flatten_sequence (q : PacketQueue) (order? : Option PacketOrder) :
    (q.sequence order?).flatten = q.bytesIn order? := by
  rw [bytesIn, ← flatten_filterMap]
  cases order? with
  | some o => rfl
  | none => rw [indices, PacketOrder.filterMap_getElem?_range]; rfl

theorem length_bytesIn (sound : q.Sound) (order? : Option PacketOrder) :
    (q.bytesIn order?).length = q.size := by
  rw [← flatten_sequence, length_flatten_sequence, sound.count]

theorem peek_eq_take_bytesIn (sound : q.Sound) (k : Nat) (order? : Option PacketOrder) :
    q.peek k order? = (q.bytesIn order?).take (min k q.size) := by
  rw [peek_eq_take, flatten_sequence, ← length_bytesIn sound order?, List.take_eq_take_min]

theorem stream_consume_eq_drop (q : PacketQueue) (n : Nat) (order? : Option PacketOrder) :
    (q.consume n order?).stream = (q.bytesIn order?).drop n := by
  rw [stream_consume, flatten_sequence]

/-- A look ahead is a shorter look and a look from where a seek by its length leads. -/
theorem peek_add (q : PacketQueue) (m n : Nat) (order? : Option PacketOrder) :
    q.peek (m + n) order? = q.peek m order? ++ (q.consume m order?).peek n none := by
  rw [peek_eq_take, peek_eq_take, peek_none, stream_consume, List.take_add]

/-! ## Bytes in the order of arrival -/

/-- A plain call is answered as the bytes alone say. -/
theorem fifo_call (sound : q.Sound) {c : QueueCall} (plain : c.Plain) :
    FifoStep q.capacity q.stream c (q.call c).answer (q.call c).queue.stream := by
  have called := sound.called c
  generalize q.call c = reply at called ⊢
  cases called with
  | nothing =>
      have same : FifoStep q.capacity q.stream (.write []) (.ok .done) (q.stream ++ []) := .appended _ _
      rwa [List.append_nil] at same
  | written some room =>
      rw [stream_append]
      exact .appended _ _
  | full some full => exact .refused _ _ some (full ▸ sound.length_packets_le)
  | taken taken =>
      rw [(sound.getByte taken).2]
      exact .taken _ _
  | empty empty =>
      rw [empty]
      exact .empty
  | passed enough =>
      cases plain
      rw [stream_consume_none]
      exact .passed _ _ (sound.count ▸ enough)
  | short few =>
      cases plain
      rw [sound.count] at few ⊢
      exact .short _ _ few
  | dropped | missed => cases plain
  | cleared => exact .cleared _

theorem fifo_after (sound : q.Sound) {calls : List QueueCall} (plain : ∀ c ∈ calls, c.Plain) :
    FifoRun q.capacity q.stream calls (q.answers calls) (q.after calls).stream := by
  induction calls generalizing q with
  | nil => exact .nil _
  | cons c rest ih =>
      rw [List.forall_mem_cons] at plain
      obtain ⟨called, room⟩ := sound.call c
      have later := ih called plain.2
      rw [room] at later
      exact .cons (fifo_call sound plain.1) later

/-- Whatever was called on a fresh queue before: under every packet order, looking ahead shows the first of the
    bytes that the order makes of the packets, a seek by as many bytes as there are takes them off the front, and
    a look that goes further goes on after the seek in the order of arrival. Calls without an order are answered
    as by a first-in-first-out queue of bytes. -/
theorem new_after_one_stream (capacity : Nat) (calls : List QueueCall) :
    let q := ({ capacity } : PacketQueue).after calls
    (∀ order?, (q.bytesIn order?).length = q.size ∧
      ∀ k, q.peek k order? = (q.bytesIn order?).take (min k q.size)) ∧
      (∀ order? m n, m + n ≤ q.size → ∃ q', q.seek m order? = .ok q' ∧
        q.peek (m + n) order? = q.peek m order? ++ q'.peek n none ∧
        q'.packets.flatten = (q.bytesIn order?).drop m ∧ q'.size + m = q.size) ∧
      ∀ more, (∀ c ∈ more, c.Plain) →
        FifoRun capacity q.packets.flatten more (q.answers more) (q.after more).packets.flatten := by
  intro q
  obtain ⟨sound, room⟩ : q.Sound ∧ q.capacity = capacity := (Sound.empty capacity).after calls
  refine ⟨?_, ?_, ?_⟩
  · exact fun order? => ⟨length_bytesIn sound order?, fun k => peek_eq_take_bytesIn sound k order?⟩
  · intro order? m n enough
    have sought : q.seek m order? = .ok (q.consume m order?) := seek_eq_ok_iff.2 ⟨by omega, rfl⟩
    refine ⟨_, sought, peek_add q m n order?, stream_consume_eq_drop q m order?, ?_⟩
    rw [size_seek sought]
    omega
  · intro more plain
    rw [← room]
    exact fifo_after sound plain

/-- A seek over nothing moves the packets all the same, also under an order that is longer than the queue. -/
example :
    let q := ({ capacity := 4 } : PacketQueue).after [.write [1], .write [2, 3]]
    (q.call (.seek 0 (some ⟨[2, 1, 0], by decide⟩))).queue.packets = [[2, 3], [1]] := by
  decide

end PacketQueue

end SensorLog
