import SensorLog.Proofs.Frame.Ledger
import SensorLog.Proofs.Frame.StepErrors

/-!
# The attempt log ends the list of all runs of the codec

A `Journal` follows a reader through calls and keeps every run of its codec, the log of the reader only the
latest ones. They agree: the log is the end of the list of all runs, as long as its limit allows, and each
attempt carries the number of frames that were decoded before it (`new_after_keeps_latest`). So the numbers of
the log never fall, those of the decoded frames have no gaps, and a failed attempt has the number of the frame
that is read again (`Numbered`).
-/

namespace SensorLog

/-- A run of the codec on a payload that waits in full. -/
structure CodecRun where
  /-- The packets behind the length byte. -/
  queue : PacketQueue
  /-- The announced length. -/
  size : Nat
  order? : Option PacketOrder
  /-- What the codec gave. -/
  result : Except SchemaError Record

namespace CodecRun

/-- The payload as it is read under the order. -/
def window (run : CodecRun) : Bytes :=
  run.queue.peek run.size run.order?

/-- Whether the payload was decoded. -/
def decoded (run : CodecRun) : Bool :=
  run.result.isOk

/-- The wording of the error, if there is one. -/
def error? (run : CodecRun) : Option String :=
  match run.result with
  | .ok _ => none
  | .error cause => some cause.message

/-- What a log remembers of a run, with the number of frames that were decoded before. -/
def attempt (run : CodecRun) (frames : Nat) : Attempt :=
  ⟨frames, run.size, run.window, run.error?⟩

/-- The outcome of a step that makes the run. -/
def outcome (run : CodecRun) : Except FrameError Outcome :=
  match run.result with
  | .ok record => if record.isEndOfLog then .ok .endOfLog else .ok (.frame record)
  | .error cause => if cause.isMismatch then .error (.schema cause) else .ok (.corrupt cause)

theorem isNone_error? (run : CodecRun) : run.error?.isNone = run.decoded := by
  unfold error? decoded
  cases run.result <;> rfl

theorem outcome_ne_needMore (run : CodecRun) : run.outcome ≠ .ok .needMore := by
  unfold outcome
  cases run.result with
  | ok record =>
      dsimp only
      split <;> exact nofun
  | error cause =>
      dsimp only
      split <;> exact nofun

theorem decoded_of_frame {run : CodecRun} {record : Record} (frame : run.outcome = .ok (.frame record)) :
    run.decoded = true := by
  unfold outcome at frame
  unfold decoded
  cases result : run.result with
  | ok record' => rfl
  | error cause =>
      simp only [result] at frame
      split at frame <;> cases frame

theorem result_of_corrupt {run : CodecRun} {cause : SchemaError} (corrupt : run.outcome = .ok (.corrupt cause)) :
    run.result = .error cause ∧ cause.isMismatch = false := by
  unfold outcome at corrupt
  cases result : run.result with
  | ok record =>
      simp only [result] at corrupt
      split at corrupt <;> cases corrupt
  | error cause' =>
      simp only [result] at corrupt
      split at corrupt
      · cases corrupt
      · rename_i mendable
        cases corrupt
        exact ⟨rfl, Bool.eq_false_of_not_eq_true mendable⟩

end CodecRun

/-- The runs of a list as attempts: each is numbered by the runs before it that decoded their payload. -/
def numbered (runs : List CodecRun) : List Attempt :=
  runs.mapIdx fun i run => run.attempt ((runs.take i).countP CodecRun.decoded)

/-- The numbers of attempts are in order, up to a count of frames. -/
structure Numbered (attempts : List Attempt) (frames : Nat) : Prop where
  /-- They never fall. -/
  ascending : attempts.Pairwise fun a b => a.seq ≤ b.seq
  /-- Those of the decoded frames follow one another up to the count. -/
  consecutive : ∃ first, first + attempts.countP (·.error?.isNone) = frames ∧
    (attempts.filter (·.error?.isNone)).map (·.seq) = List.range' first (attempts.countP (·.error?.isNone))
  /-- An attempt has the number of the one before it if that failed, else the next number. Behind the last one
      the count is due. -/
  due : ∀ i a, attempts[i]? = some a →
    (attempts[i + 1]?.map (·.seq)).getD frames = if a.error?.isNone then a.seq + 1 else a.seq

/-! ## Numbers of runs -/

section Numbers

variable {runs : List CodecRun} {run : CodecRun}

theorem length_numbered (runs : List CodecRun) : (numbered runs).length = runs.length :=
  List.length_mapIdx

theorem numbered_append (first second : List CodecRun) :
    numbered (first ++ second) = numbered first ++ second.mapIdx fun i run =>
      run.attempt (first.countP CodecRun.decoded + (second.take i).countP CodecRun.decoded) := by
  rw [numbered, List.mapIdx_append]
  congr 1
  · apply List.ext_getElem (by simp [numbered])
    intro i bound _
    have inside : i ≤ first.length := Nat.le_of_lt (by simpa using bound)
    simp only [numbered, List.getElem_mapIdx, List.take_append_of_le_length inside]
  · congr 1
    funext i run
    rw [Nat.add_comm i, List.take_length_add_append, List.countP_append]

theorem numbered_concat (runs : List CodecRun) (run : CodecRun) :
    numbered (runs ++ [run]) = numbered runs ++ [run.attempt (runs.countP CodecRun.decoded)] :=
  numbered_append runs [run]

theorem countP_concat (runs : List CodecRun) (run : CodecRun) :
    (runs ++ [run]).countP CodecRun.decoded =
      runs.countP CodecRun.decoded + if run.decoded then 1 else 0 := by
  rw [List.countP_append, List.countP_singleton]

theorem seq_le_of_mem {a : Attempt} (member : a ∈ numbered runs) : a.seq ≤ runs.countP CodecRun.decoded := by
  obtain ⟨i, bound, rfl⟩ := List.mem_mapIdx.1 member
  exact (List.take_sublist i runs).countP_le

theorem ascending_numbered (runs : List CodecRun) : (numbered runs).Pairwise fun a b => a.seq ≤ b.seq := by
  induction runs using List.reverseRecOn with
  | nil => exact .nil
  | append_singleton runs run ih =>
      rw [numbered_concat, List.pairwise_append]
      refine ⟨ih, List.pairwise_singleton _ _, ?_⟩
      intro a earlier b last
      rw [List.mem_singleton.1 last]
      exact seq_le_of_mem earlier

/-- Every frame is decoded once, and in the order of the numbers. -/
theorem decoded_numbered (runs : List CodecRun) :
    ((numbered runs).filter (·.error?.isNone)).map (·.seq) = List.range (runs.countP CodecRun.decoded) := by
  induction runs using List.reverseRecOn with
  | nil => rfl
  | append_singleton runs run ih =>
      rw [numbered_concat, List.filter_append, List.map_append, ih, countP_concat]
      have last : (run.attempt (runs.countP CodecRun.decoded)).error?.isNone = run.decoded := run.isNone_error?
      cases decoded : run.decoded with
      | true =>
          rw [List.filter_singleton, last, decoded, if_pos rfl, List.range_succ]
          rfl
      | false =>
          rw [List.filter_singleton, last, decoded]
          exact List.append_nil _

theorem due_numbered {i : Nat} {a : Attempt} (found : (numbered runs)[i]? = some a) :
    ((numbered runs)[i + 1]?.map (·.seq)).getD (runs.countP CodecRun.decoded) =
      if a.error?.isNone then a.seq + 1 else a.seq := by
  obtain ⟨run, here, rfl⟩ := Option.map_eq_some_iff.1 (List.getElem?_mapIdx.symm.trans found)
  -- Both sides count the runs up to this one that decoded their payload.
  have counted : (runs.take (i + 1)).countP CodecRun.decoded =
      if run.decoded then (runs.take i).countP CodecRun.decoded + 1
      else (runs.take i).countP CodecRun.decoded := by
    rw [List.take_add_one, here, Option.toList_some, countP_concat]
    split <;> rfl
  have next : ((numbered runs)[i + 1]?.map (·.seq)).getD (runs.countP CodecRun.decoded) =
      (runs.take (i + 1)).countP CodecRun.decoded := by
    rw [numbered, List.getElem?_mapIdx]
    cases behind : runs[i + 1]? with
    | some after => rfl
    | none =>
        rw [List.take_of_length_le (List.getElem?_eq_none_iff.1 behind)]
        rfl
  rw [next, counted]
  show _ = if run.error?.isNone then _ else _
  rw [run.isNone_error?]
  rfl

/-- The end of a range of numbers is one as well. -/
theorem exists_range'_of_suffix {numbers : List Nat} {n : Nat} (suffix : numbers <:+ List.range n) :
    ∃ first, first + numbers.length = n ∧ numbers = List.range' first numbers.length := by
  obtain ⟨before, split⟩ := suffix
  rw [List.range_eq_range'] at split
  obtain ⟨first, within, -, rest⟩ := List.range'_eq_append_iff.1 split.symm
  have length : numbers.length = n - first := by rw [rest, List.length_range']
  rw [Nat.zero_add, Nat.mul_one] at rest
  exact ⟨first, by omega, by rw [length]; exact rest⟩

/-- The end of a list of runs is numbered in order. -/
theorem numbered_drop (runs : List CodecRun) (n : Nat) :
    Numbered ((numbered runs).drop n) (runs.countP CodecRun.decoded) where
  ascending := (ascending_numbered runs).sublist (List.drop_sublist n _)
  consecutive := by
    have suffix := ((List.drop_suffix n (numbered runs)).filter (·.error?.isNone)).map (·.seq)
    rw [decoded_numbered] at suffix
    have range := exists_range'_of_suffix suffix
    rwa [List.length_map, ← List.countP_eq_length_filter] at range
  due := by
    intro i a found
    rw [List.getElem?_drop] at found ⊢
    exact due_numbered found

end Numbers

/-! ## The run of a step -/

namespace FrameReader

variable {r begun reader : FrameReader} {codec : RecordCodec} {order? : Option PacketOrder} {size : Nat}
  {outcome : Except FrameError Outcome}

/-- The announced length of the next frame and the packets behind the length byte. -/
def announced? (r : FrameReader) : Option (Nat × PacketQueue) :=
  match r.pending with
  | some size => some (size, r.queue)
  | none =>
    match r.queue.getByte with
    | .ok (b, queue) => if b = 0 then none else some (b.toNat, queue)
    | .error _ => none

/-- The run of the codec that a step makes. There is none unless the payload waits in full. -/
def codecRun? (r : FrameReader) (codec : RecordCodec) (order? : Option PacketOrder) : Option CodecRun :=
  r.announced?.bind fun (size, queue) =>
    if queue.stream.length < size then none
    else some { queue, size, order?, result := codec.decode (queue.peek size order?) }

theorem Begins.announced?_eq (begins : r.Begins size begun) : r.announced? = some (size, begun.queue) := by
  cases begins with
  | awaited _ held => simp only [announced?, held]
  | taken b queue fresh nonzero head => simp only [announced?, fresh, head, if_neg nonzero]

theorem Begins.codecRun?_of_short (begins : r.Begins size begun) (sound : r.Sound)
    (few : begun.queue.size < size) : r.codecRun? codec order? = none := by
  rw [(begins.sound sound).queue.count] at few
  simp only [codecRun?, begins.announced?_eq, Option.bind_some, if_pos few]

theorem Begins.codecRun?_of_enough (begins : r.Begins size begun) (sound : r.Sound)
    (enough : size ≤ begun.queue.size) :
    r.codecRun? codec order? =
      some { queue := begun.queue, size, order?, result := codec.decode (begun.queue.peek size order?) } := by
  rw [(begins.sound sound).queue.count] at enough
  simp only [codecRun?, begins.announced?_eq, Option.bind_some, if_neg (Nat.not_lt.2 enough)]

/-- A step that does not get as far as the codec. -/
structure Idled (r : FrameReader) (outcome : Except FrameError Outcome) (reader : FrameReader) : Prop where
  outcome : outcome = .ok .needMore ∨ outcome = .error .zeroLengthFrame
  log : reader.log = r.log
  frames : reader.frames = r.frames

/-- A step that makes a run of the codec: the run decides the outcome and is remembered, a decoded frame is
    counted, and a payload that failed stays where it is. -/
structure Ran (r : FrameReader) (codec : RecordCodec) (order? : Option PacketOrder) (run : CodecRun)
    (outcome : Except FrameError Outcome) (reader : FrameReader) : Prop where
  begins : ∃ begun, r.Begins run.size begun ∧ begun.queue = run.queue
  order : run.order? = order?
  result : run.result = codec.decode run.window
  whole : run.window.length = run.size
  outcome : outcome = run.outcome
  log : reader.log = r.log.record (run.attempt r.frames)
  frames : reader.frames = r.frames + if run.decoded then 1 else 0
  left : run.decoded = false → reader.queue = run.queue ∧ reader.pending = some run.size

theorem PayloadReading.ran (read : begun.PayloadReading codec order? size outcome reader)
    (begins : r.Begins size begun) (sound : r.Sound) (enough : size ≤ begun.queue.size) :
    r.Ran codec order? ⟨begun.queue, size, order?, codec.decode (begun.queue.peek size order?)⟩ outcome
      reader := by
  have length := PacketQueue.length_peek (begins.sound sound).queue size order?
  rw [Nat.min_eq_left enough] at length
  have log := begins.log_eq
  have frames := begins.frames_eq
  have held := begins.pending_eq
  cases read with
  | short few => omega
  | frame record _ decoded more =>
      rw [decoded]
      refine ⟨⟨begun, begins, rfl⟩, rfl, decoded.symm, length, ?_, ?_, ?_, nofun⟩
      · simp only [CodecRun.outcome, more, Bool.false_eq_true, if_false]
      · rw [← log, ← frames]
        rfl
      · rw [← frames]
        rfl
  | endOfLog record _ decoded last =>
      rw [decoded]
      refine ⟨⟨begun, begins, rfl⟩, rfl, decoded.symm, length, ?_, ?_, ?_, nofun⟩
      · simp only [CodecRun.outcome, last, if_true]
      · rw [← log, ← frames]
        rfl
      · rw [← frames]
        rfl
  | mismatch cause _ failed final =>
      rw [failed]
      refine ⟨⟨begun, begins, rfl⟩, rfl, failed.symm, length, ?_, ?_, frames, fun _ => ⟨rfl, held⟩⟩
      · simp only [CodecRun.outcome, final, if_true]
      · rw [← log, ← frames]
        rfl
  | corrupt cause _ failed mendable =>
      rw [failed]
      refine ⟨⟨begun, begins, rfl⟩, rfl, failed.symm, length, ?_, ?_, frames, fun _ => ⟨rfl, held⟩⟩
      · simp only [CodecRun.outcome, mendable, Bool.false_eq_true, if_false]
      · rw [← log, ← frames]
        rfl

/-- A frame whose length is held back is read from all packets that wait. -/
theorem Ran.of_pending {run : CodecRun} (ran : r.Ran codec order? run outcome reader) (held : r.pending = some size) :
    run.size = size ∧ run.queue = r.queue := by
  obtain ⟨begun, begins, queue⟩ := ran.begins
  generalize run.size = announced at begins
  cases begins with
  | awaited _ held' =>
      rw [held] at held'
      exact ⟨(Option.some.inj held').symm, queue.symm⟩
  | taken b queue fresh =>
      rw [fresh] at held
      cases held

/-- A step makes a run of the codec exactly if the payload waits in full. -/
theorem Reading.ran_or_idled (read : r.Reading codec order? outcome reader) (sound : r.Sound) :
    match r.codecRun? codec order? with
    | none => r.Idled outcome reader
    | some run => r.Ran codec order? run outcome reader := by
  cases read with
  | idle fresh empty =>
      simp only [codecRun?, announced?, fresh, PacketQueue.getByte_of_empty empty sound.queue, Option.bind_none]
      exact ⟨.inl rfl, rfl, rfl⟩
  | zero queue fresh head =>
      simp only [codecRun?, announced?, fresh, head, if_true, Option.bind_none]
      exact ⟨.inr rfl, rfl, rfl⟩
  | @payload size begun _ _ begins read =>
      by_cases enough : size ≤ begun.queue.size
      · rw [begins.codecRun?_of_enough sound enough]
        exact read.ran begins sound enough
      · rw [begins.codecRun?_of_short sound (Nat.not_le.1 enough)]
        cases read with
        | short => exact ⟨.inl rfl, begins.log_eq, begins.frames_eq⟩
        | frame _ whole => exact absurd whole enough
        | endOfLog _ whole => exact absurd whole enough
        | mismatch _ whole => exact absurd whole enough
        | corrupt _ whole => exact absurd whole enough

end FrameReader

/-! ## Journals -/

theorem AttemptLog.limit_record (log : AttemptLog) (a : Attempt) : (log.record a).limit = log.limit := by
  unfold record
  split
  · rfl
  · split <;> rfl

/-- A log that is the end of a list, as long as its limit allows, is so after one more attempt. -/
theorem AttemptLog.attempts_record_of_tail {log : AttemptLog} {all : List Attempt}
    (tail : log.attempts = all.drop (all.length - log.limit)) (a : Attempt) :
    (log.record a).attempts = (all ++ [a]).drop ((all ++ [a]).length - log.limit) := by
  have length : log.attempts.length = all.length - (all.length - log.limit) := by
    rw [tail, List.length_drop]
  rw [attempts_record (by omega), length, tail, ← List.drop_append_of_le_length (Nat.sub_le _ _),
    List.drop_drop, List.length_append, List.length_singleton]
  congr 1
  omega

/-- A reader with all runs of its codec, first run first. -/
structure Journal where
  reader : FrameReader
  runs : List CodecRun := []

namespace Journal

open FrameReader

variable {j : Journal} {codec : RecordCodec} {limit : Nat}

/-- The journal of a reader that has taken nothing in. -/
def new (capacity limit : Nat) : Journal :=
  { reader := .new capacity limit }

/-- The journal after a call. -/
def call (codec : RecordCodec) (j : Journal) : ReaderCall → Journal
  | .write packet => { j with reader := j.reader.use codec (.write packet) }
  | .next order? =>
    { reader := j.reader.use codec (.next order?)
      runs := j.runs ++ (j.reader.codecRun? codec order?).toList }

/-- The journal after calls, first call first. -/
def after (codec : RecordCodec) (j : Journal) (calls : List ReaderCall) : Journal :=
  calls.foldl (call codec) j

/-- What every call keeps: the log is the end of all runs, and the count of frames is that of the runs that
    decoded their payload. -/
structure Kept (codec : RecordCodec) (limit : Nat) (j : Journal) : Prop where
  sound : j.reader.Sound
  limit_eq : j.reader.log.limit = limit
  log : j.reader.log.attempts = (numbered j.runs).drop ((numbered j.runs).length - j.reader.log.limit)
  frames : j.reader.frames = j.runs.countP CodecRun.decoded
  whole : ∀ run ∈ j.runs, run.window.length = run.size ∧ run.result = codec.decode run.window

theorem Kept.new (codec : RecordCodec) (capacity limit : Nat) : Kept codec limit (new capacity limit) :=
  ⟨.new capacity limit, rfl, List.drop_nil.symm, rfl, nofun⟩

/-- A packet changes the queue alone. -/
theorem Kept.write (kept : Kept codec limit j) (packet : Bytes) :
    Kept codec limit (j.call codec (.write packet)) := by
  have sound : (j.reader.use codec (.write packet)).Sound := kept.sound.use (.write packet)
  simp only [call, FrameReader.use] at sound ⊢
  rcases FrameReader.write_cases kept.sound packet with ⟨queue, accepted, -⟩ | ⟨full, -⟩
  · simp only [accepted] at sound ⊢
    exact ⟨sound, kept.limit_eq, kept.log, kept.frames, kept.whole⟩
  · simp only [full] at sound ⊢
    exact kept

theorem Kept.next (kept : Kept codec limit j) (order? : Option PacketOrder) :
    Kept codec limit (j.call codec (.next order?)) := by
  have sound := kept.sound.next codec order?
  have ran := (next_reading kept.sound codec order?).ran_or_idled kept.sound
  simp only [call, FrameReader.use]
  cases made : j.reader.codecRun? codec order? with
  | none =>
      rw [made] at ran
      obtain ⟨-, log, frames⟩ := ran
      rw [Option.toList_none, List.append_nil]
      refine ⟨sound, ?_, ?_, ?_, kept.whole⟩
      · rw [log, kept.limit_eq]
      · rw [log, kept.log]
      · rw [frames, kept.frames]
  | some run =>
      rw [made] at ran
      obtain ⟨-, -, result, whole, -, log, frames, -⟩ := ran
      rw [Option.toList_some]
      refine ⟨sound, ?_, ?_, ?_, ?_⟩
      · rw [log, AttemptLog.limit_record, kept.limit_eq]
      · rw [log, AttemptLog.limit_record, AttemptLog.attempts_record_of_tail kept.log, numbered_concat,
          kept.frames]
      · rw [frames, kept.frames, countP_concat]
      · rw [List.forall_mem_append, List.forall_mem_singleton]
        exact ⟨kept.whole, whole, result⟩

theorem Kept.after (kept : Kept codec limit j) (calls : List ReaderCall) :
    Kept codec limit (j.after codec calls) := by
  induction calls generalizing j with
  | nil => exact kept
  | cons c rest ih =>
      cases c with
      | write packet => exact ih (kept.write packet)
      | next order? => exact ih (kept.next order?)

/-- Whatever packets a fresh reader is given and under whatever orders it is read, its log is the end of the
    list of all runs of its codec, as long as the limit allows. Each run was on as many bytes as were announced,
    read under the order of its call, and what the codec gave decides the outcome of the step; without a run a
    step asks for more or finds a length byte of zero. The count of frames is that of the runs that decoded their
    payload, and the attempts are numbered by it. -/
theorem new_after_keeps_latest (codec : RecordCodec) (capacity limit : Nat) (calls : List ReaderCall) :
    let j := (new capacity limit).after codec calls
    j.reader.log.attempts = (numbered j.runs).drop (j.runs.length - limit) ∧
      j.reader.log.attempts.length = min limit j.runs.length ∧
      j.reader.frames = j.runs.countP CodecRun.decoded ∧
      (∀ run ∈ j.runs, run.window.length = run.size ∧ run.result = codec.decode run.window) ∧
      Numbered j.reader.log.attempts j.reader.frames ∧
      ∀ order?, let step := j.reader.next codec order?
        match j.reader.codecRun? codec order? with
        | some run => run.order? = order? ∧ step.outcome = run.outcome
        | none => step.outcome = .ok .needMore ∨ step.outcome = .error .zeroLengthFrame := by
  intro j
  have kept : Kept codec limit j := (Kept.new codec capacity limit).after calls
  have log := kept.log
  rw [length_numbered, kept.limit_eq] at log
  refine ⟨log, ?_, kept.frames, kept.whole, ?_, ?_⟩
  · rw [log, List.length_drop, length_numbered]
    omega
  · rw [log, kept.frames]
    exact numbered_drop _ _
  · intro order?
    have ran := (next_reading kept.sound codec order?).ran_or_idled kept.sound
    dsimp only
    cases made : j.reader.codecRun? codec order? with
    | none =>
        rw [made] at ran
        exact ran.outcome
    | some run =>
        rw [made] at ran
        exact ⟨ran.order, ran.outcome⟩

/-- Two packets that came in the wrong order: both attempts have the number of the frame that is read again. A
    log with room for one of them has the one that decoded. -/
example :
    let calls : List ReaderCall := [.write [4, 8], .next none, .write [16, 100, 2], .write [1], .next none,
      .next (some ⟨[0, 2, 1], by decide⟩)]
    let attempts (limit : Nat) := ((new 128 limit).after Registry.builtin.codec calls).reader.log.attempts
    (attempts 32).map (fun a => (a.seq, a.raw, a.error?.isNone)) =
        [(0, [8, 16, 100, 2], false), (0, [8, 1, 16, 100], true)] ∧
      (attempts 1).map (·.raw) = [[8, 1, 16, 100]] ∧ attempts 0 = [] := by
  decide +kernel

end Journal

end SensorLog
