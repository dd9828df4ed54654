import SensorLog.Proofs.Packet.Stream

/-!
# Calls on one queue

Callers share one queue and change it in place, so a call that fails may leave half of its work behind. `InPlace`
spells the operations out as changes of a queue, in the order in which they are made. Each of them answers as the
operation on values does, and a failing one has changed nothing (`run_inPlace`). `Called` lists all that a call can
come to on a sound queue, from which the rest follows: the queue stays sound after any calls, failing ones among
them (`new_after_sound_and_atomic`).
-/

namespace SensorLog

/-- A call on a queue. -/
inductive QueueCall
  | write (packet : Bytes)
  | getByte
  | seek (n : Nat) (order? : Option PacketOrder)
  | dropPacket (index : Nat)
  | clear

/-- What a call gives when it does not fail. -/
inductive QueueAnswer
  | done
  | byte (b : UInt8)
  | packet (packet : Bytes)
  /-- There is no packet at the index. -/
  | absent
deriving DecidableEq, Repr

/-- An answer, or an error, and the queue as it was left. -/
structure QueueReply where
  answer : Except FrameError QueueAnswer
  queue : PacketQueue

/-- An operation that changes a queue in place. An error keeps the changes that were made before it. -/
abbrev InPlace := EStateM FrameError PacketQueue

namespace InPlace

def write (packet : Bytes) : InPlace QueueAnswer := do
  if packet.isEmpty then return .done
  let q ← get
  if q.capacity ≤ q.packets.length then throw (.bufferFull q.capacity)
  modify fun q => { q with size := q.size + packet.length }
  modify fun q => { q with packets := q.packets ++ [packet] }
  return .done

def getByte : InPlace QueueAnswer := do
  match (← get).packets with
  | (b :: packet) :: rest =>
    modify fun q => { q with packets := packet :: rest }
    if packet.isEmpty then modify fun q => { q with packets := rest }
    modify fun q => { q with size := q.size - 1 }
    return .byte b
  | _ => throw (.endOfBuffer 1 0)

def seek (n : Nat) (order? : Option PacketOrder) : InPlace QueueAnswer := do
  let q ← get
  if q.size < n then throw (.endOfBuffer n q.size)
  modify (·.commit order?)
  modify fun q => { q with packets := PacketQueue.dropBytes n q.packets }
  modify fun q => { q with size := q.size - n }
  return .done

def dropPacket (index : Nat) : InPlace QueueAnswer := do
  match (← get).packets[index]? with
  | none => return .absent
  | some packet =>
    modify fun q => { q with packets := q.packets.eraseIdx index }
    modify fun q => { q with size := q.size - packet.length }
    return .packet packet

def clear : InPlace QueueAnswer := do
  modify fun q => { q with packets := [] }
  modify fun q => { q with size := 0 }
  return .done

end InPlace

namespace QueueCall

/-- A call as a change of a queue. -/
def inPlace : QueueCall → InPlace QueueAnswer
  | .write packet => InPlace.write packet
  | .getByte => InPlace.getByte
  | .seek n order? => InPlace.seek n order?
  | .dropPacket index => InPlace.dropPacket index
  | .clear => InPlace.clear

/-- A call as a function on queues, which gives the answer and another queue, or an error and no queue. -/
def onValue (q : PacketQueue) : QueueCall → Except FrameError (QueueAnswer × PacketQueue)
  | .write packet => match q.write packet with
    | .ok q' => .ok (.done, q')
    | .error e => .error e
  | .getByte => match q.getByte with
    | .ok (b, q') => .ok (.byte b, q')
    | .error e => .error e
  | .seek n order? => match q.seek n order? with
    | .ok q' => .ok (.done, q')
    | .error e => .error e
  | .dropPacket index => match q.dropPacket index with
    | some (packet, q') => .ok (.packet packet, q')
    | none => .ok (.absent, q)
  | .clear => .ok (.done, q.clear)

end QueueCall

namespace InPlace

variable (q : PacketQueue)

/-! ## The operations in place are the operations on values -/

theorem run_write (packet : Bytes) : (write packet).run q = match q.write packet with
    | .ok q' => .ok .done q'
    | .error e => .error e q := by
  unfold write PacketQueue.write
  split
  · rfl
  · change EStateM.run (if q.capacity ≤ q.packets.length then _ else _) q = _
    split <;> rfl

theorem run_getByte : getByte.run q = match q.getByte with
    | .ok (b, q') => .ok (.byte b) q'
    | .error e => .error e q := by
  obtain ⟨capacity, packets, size⟩ := q
  match packets with
  | [] => rfl
  | [] :: _ => rfl
  | [_] :: _ => rfl
  | (_ :: _ :: _) :: _ => rfl

theorem run_seek (n : Nat) (order? : Option PacketOrder) : (seek n order?).run q = match q.seek n order? with
    | .ok q' => .ok .done q'
    | .error e => .error e q := by
  unfold PacketQueue.seek
  change EStateM.run (if q.size < n then _ else _) q = _
  split <;> rfl

theorem run_dropPacket (index : Nat) : (dropPacket index).run q = match q.dropPacket index with
    | some (packet, q') => .ok (.packet packet) q'
    | none => .ok .absent q := by
  unfold PacketQueue.dropPacket
  change EStateM.run (match q.packets[index]? with | none => _ | some _ => _) q = _
  cases q.packets[index]? <;> rfl

/-- Each call in place answers as it does on values, and an error leaves the queue that the call began with. -/
theorem run_inPlace (c : QueueCall) : c.inPlace.run q = match c.onValue q with
    | .ok (answer, q') => .ok answer q'
    | .error e => .error e q := by
  cases c with
  | write packet =>
      rw [QueueCall.inPlace, run_write, QueueCall.onValue]
      cases q.write packet <;> rfl
  | getByte =>
      rw [QueueCall.inPlace, run_getByte, QueueCall.onValue]
      cases q.getByte <;> rfl
  | seek n order? =>
      rw [QueueCall.inPlace, run_seek, QueueCall.onValue]
      cases q.seek n order? <;> rfl
  | dropPacket index =>
      rw [QueueCall.inPlace, run_dropPacket, QueueCall.onValue]
      cases q.dropPacket index <;> rfl
  | clear => rfl

end InPlace

namespace PacketQueue

variable {q : PacketQueue} {c : QueueCall}

/-- A call, answered. -/
def call (q : PacketQueue) (c : QueueCall) : QueueReply :=
  match c.inPlace.run q with
  | .ok answer q' => ⟨.ok answer, q'⟩
  | .error e q' => ⟨.error e, q'⟩

/-- The queue after calls, first call first, whether they fail or not. -/
def after (q : PacketQueue) (calls : List QueueCall) : PacketQueue :=
  calls.foldl (fun q c => (q.call c).queue) q

/-- The call ends with an error. -/
def Fails (q : PacketQueue) (c : QueueCall) : Prop :=
  ∃ e, (q.call c).answer = .error e

/-- All that a call can come to on a sound queue: the answer, and the queue as it is left. -/
inductive Called (q : PacketQueue) : QueueCall → QueueReply → Prop
  | nothing : Called q (.write []) ⟨.ok .done, q⟩
  | written {packet : Bytes} (some : packet ≠ []) (room : q.packets.length < q.capacity) :
      Called q (.write packet)
        ⟨.ok .done, { q with packets := q.packets ++ [packet], size := q.size + packet.length }⟩
  | full {packet : Bytes} (some : packet ≠ []) (full : q.packets.length = q.capacity) :
      Called q (.write packet) ⟨.error (.bufferFull q.capacity), q⟩
  | taken {b : UInt8} {q' : PacketQueue} (taken : q.getByte = .ok (b, q')) : Called q .getByte ⟨.ok (.byte b), q'⟩
  | empty (empty : q.stream = []) : Called q .getByte ⟨.error (.endOfBuffer 1 0), q⟩
  | passed {n : Nat} {order? : Option PacketOrder} (enough : n ≤ q.size) :
      Called q (.seek n order?) ⟨.ok .done, q.consume n order?⟩
  | short {n : Nat} {order? : Option PacketOrder} (few : q.size < n) :
      Called q (.seek n order?) ⟨.error (.endOfBuffer n q.size), q⟩
  | dropped {index : Nat} {packet : Bytes} {q' : PacketQueue} (inside : index < q.packets.length)
      (dropped : q.dropPacket index = some (packet, q')) : Called q (.dropPacket index) ⟨.ok (.packet packet), q'⟩
  | missed {index : Nat} (outside : q.packets.length ≤ index) : Called q (.dropPacket index) ⟨.ok .absent, q⟩
  | cleared : Called q .clear ⟨.ok .done, q.clear⟩

theorem Sound.called (sound : q.Sound) (c : QueueCall) : q.Called c (q.call c) := by
  rw [PacketQueue.call, InPlace.run_inPlace]
  cases c with
  | write packet =>
      by_cases empty : packet = []
      · subst empty
        exact .nothing
      · by_cases room : q.packets.length < q.capacity
        · rw [QueueCall.onValue, write_of_room empty room]
          exact .written empty room
        · have full : q.packets.length = q.capacity := Nat.le_antisymm sound.room (Nat.not_lt.1 room)
          have refused : q.write packet = .error (.bufferFull q.capacity) := by simp [write, empty, full]
          rw [QueueCall.onValue, refused]
          exact .full empty full
  | getByte =>
      cases stream : q.stream with
      | nil =>
          rw [QueueCall.onValue, getByte_of_empty stream sound]
          exact .empty stream
      | cons b rest =>
          obtain ⟨q', taken, -⟩ := getByte_of_stream sound stream
          rw [QueueCall.onValue, taken]
          exact .taken taken
  | seek n order? =>
      by_cases few : q.size < n
      · rw [QueueCall.onValue, PacketQueue.seek, if_pos few]
        exact .short few
      · rw [QueueCall.onValue, PacketQueue.seek, if_neg few]
        exact .passed (Nat.not_lt.1 few)
  | dropPacket index =>
      rw [QueueCall.onValue]
      by_cases outside : q.packets.length ≤ index
      · have missed : q.dropPacket index = none := by simp [PacketQueue.dropPacket, outside]
        rw [missed]
        exact .missed outside
      · obtain ⟨⟨packet, q'⟩, dropped⟩ : ∃ found, q.dropPacket index = some found := by
          simp [PacketQueue.dropPacket, Nat.not_le.1 outside]
        rw [dropped]
        exact .dropped (Nat.not_le.1 outside) dropped
  | clear => exact .cleared

/-! ## What a call keeps -/

theorem Sound.call (sound : q.Sound) (c : QueueCall) :
    (q.call c).queue.Sound ∧ (q.call c).queue.capacity = q.capacity := by
  have called := sound.called c
  generalize q.call c = reply at called ⊢
  cases called with
  | nothing | full | empty | short | missed => exact ⟨sound, rfl⟩
  | written some room => exact ⟨sound.append some room, rfl⟩
  | taken taken => exact ⟨(sound.getByte taken).1, capacity_getByte taken⟩
  | passed => exact ⟨sound.consume _ _, capacity_consume _ _ _⟩
  | dropped _ dropped =>
      obtain ⟨packet, -, same⟩ := Option.map_eq_some_iff.1 dropped
      cases same
      exact ⟨sound.dropPacket dropped, rfl⟩
  | cleared => exact ⟨.clear q, rfl⟩

theorem Sound.after (sound : q.Sound) (calls : List QueueCall) :
    (q.after calls).Sound ∧ (q.after calls).capacity = q.capacity := by
  induction calls generalizing q with
  | nil => exact ⟨sound, rfl⟩
  | cons c rest ih =>
      obtain ⟨called, room⟩ := sound.call c
      rw [← room]
      exact ih called

/-! ## When a call fails -/

theorem Sound.size_eq_zero_iff (sound : q.Sound) : q.size = 0 ↔ q.packets = [] := by
  rw [sound.count, List.length_eq_zero_iff]
  constructor
  · intro empty
    have few := sound.length_packets_le
    rw [empty] at few
    exact List.eq_nil_of_length_eq_zero (Nat.le_zero.1 few)
  · intro none
    rw [stream, none, List.flatten_nil]

theorem fails_write_iff (sound : q.Sound) (packet : Bytes) :
    q.Fails (.write packet) ↔ packet ≠ [] ∧ q.packets.length = q.capacity := by
  have called := sound.called (.write packet)
  unfold Fails
  generalize q.call (.write packet) = reply at called ⊢
  cases called with
  | nothing => simp
  | written some room => simp [Nat.ne_of_lt room]
  | full some full => simp [some, full]

theorem fails_getByte_iff (sound : q.Sound) : q.Fails .getByte ↔ q.size = 0 := by
  have called := sound.called .getByte
  unfold Fails
  generalize q.call .getByte = reply at called ⊢
  rw [sound.count]
  cases called with
  | taken taken => simp [(sound.getByte taken).2]
  | empty empty => simp [empty]

theorem fails_seek_iff (sound : q.Sound) (n : Nat) (order? : Option PacketOrder) :
    q.Fails (.seek n order?) ↔ q.size < n := by
  have called := sound.called (.seek n order?)
  unfold Fails
  generalize q.call (.seek n order?) = reply at called ⊢
  cases called with
  | passed enough => simp [enough]
  | short few => simp [few]

theorem not_fails_dropPacket (sound : q.Sound) (index : Nat) : ¬q.Fails (.dropPacket index) := by
  have called := sound.called (.dropPacket index)
  unfold Fails
  generalize q.call (.dropPacket index) = reply at called ⊢
  cases called <;> exact nofun

theorem absent_iff (sound : q.Sound) (index : Nat) :
    (q.call (.dropPacket index)).answer = .ok .absent ↔ q.packets.length ≤ index := by
  have called := sound.called (.dropPacket index)
  generalize q.call (.dropPacket index) = reply at called ⊢
  cases called with
  | dropped inside => simp [inside]
  | missed outside => simp [outside]

/-- A call that fails, or that finds no packet to drop, leaves the queue as it is. -/
theorem queue_call_of_refused (sound : q.Sound) (refused : q.Fails c ∨ (q.call c).answer = .ok .absent) :
    (q.call c).queue = q := by
  have called := sound.called c
  unfold Fails at refused
  generalize q.call c = reply at called refused ⊢
  cases called with
  | nothing | full | empty | short | missed => rfl
  | written | taken | passed | dropped | cleared => simp at refused

/-- Whatever was called on a fresh queue, in any order and with calls that failed in between: the count is the
    number of bytes in the stored packets, none of which is empty, and there are no more of them than the queue
    has room for. A write fails on a packet with a byte in it when the queue is full, a byte cannot be taken when
    none is there, a seek fails past the end, and nothing else fails; then the queue is the very same as before,
    with its packets in their places. -/
theorem new_after_sound_and_atomic (capacity : Nat) (calls : List QueueCall) :
    let q := ({ capacity } : PacketQueue).after calls
    q.size = (q.packets.map List.length).sum ∧ (∀ packet ∈ q.packets, packet ≠ []) ∧
      q.packets.length ≤ capacity ∧ (q.size = 0 ↔ q.packets = []) ∧
      (∀ packet, q.Fails (.write packet) ↔ packet ≠ [] ∧ q.packets.length = capacity) ∧
      (q.Fails .getByte ↔ q.size = 0) ∧
      (∀ n order?, q.Fails (.seek n order?) ↔ q.size < n) ∧
      (∀ index, ¬q.Fails (.dropPacket index) ∧
        ((q.call (.dropPacket index)).answer = .ok .absent ↔ q.packets.length ≤ index)) ∧
      ¬q.Fails .clear ∧
      ∀ c, q.Fails c ∨ (q.call c).answer = .ok .absent → (q.call c).queue = q := by
  intro q
  obtain ⟨sound, room⟩ : q.Sound ∧ q.capacity = capacity := (Sound.empty capacity).after calls
  refine ⟨?_, sound.inhabited, room ▸ sound.room, sound.size_eq_zero_iff, ?_, fails_getByte_iff sound,
    fails_seek_iff sound, ?_, ?_, fun c => queue_call_of_refused sound⟩
  · rw [sound.count, stream, List.length_flatten]
  · intro packet
    rw [fails_write_iff sound, room]
  · exact fun index => ⟨not_fails_dropPacket sound index, absent_iff sound index⟩
  · rintro ⟨e, failed⟩
    cases failed

/-- The third packet finds no room, and a seek past the end does not even move the two others. -/
example :
    let q := ({ capacity := 2 } : PacketQueue).after [.write [1], .write [2, 3], .write [4]]
    (q.packets, q.size) = ([[1], [2, 3]], 3) ∧
      (q.call (.seek 4 (some ⟨[1, 0], by decide⟩))).queue = q := by
  decide

end PacketQueue

end SensorLog
