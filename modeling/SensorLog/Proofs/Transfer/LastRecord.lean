import SensorLog.Proofs.Frame.StepErrors
import SensorLog.Proofs.Transfer.EndOfLog

/-!
# The last record is a timestamp

A record with a single column ends the log, whichever column that is, and a warning is given if it is not that of the
timestamp. No record of a registry's codec comes to that: its first cell is the timestamp in the column that the codec
names, and each other field of the entry adds a cell (`stamped_of_decode`). What a reader tells in the events of a
call is what its steps tell, pass by pass (`told_replies`), so no call gives the warning (`codec_ends_evenly`).
-/

namespace SensorLog

/-! ## Entries with nothing but a timestamp -/

namespace LogEntry

variable {e e' : LogEntry} {stamp : UInt32}

theorem eq_of_words (same : ∀ f, e.words f = e'.words f) : e = e' := by
  rw [← foldl_absorb_all e, ← foldl_absorb_all e']
  simp only [same]

theorem values_eq_nil_iff {f : EntryField} : e.values f = [] ↔ e.words f = [] := by
  rw [← List.length_eq_zero_iff, length_values, List.length_eq_zero_iff]

theorem present_eq_timestamp_iff (stamped : e.timestamp = some stamp) :
    e.present = [.timestamp] ↔ ∀ f ∈ EntryField.all.tail, e.words f = [] := by
  have first : (!(e.words .timestamp).isEmpty) = true := by
    rw [words, stamped]
    rfl
  have split : e.present = .timestamp :: EntryField.all.tail.filter fun f => !(e.words f).isEmpty := by
    rw [present_eq_filter]
    exact List.filter_cons_of_pos first
  rw [split, List.cons.injEq, List.filter_eq_nil_iff]
  simp only [true_and, Bool.not_eq_true, Bool.not_eq_false', List.isEmpty_iff]

/-- An entry with nothing but a timestamp is the one that a device sends last. -/
theorem eq_endOfLog (stamped : e.timestamp = some stamp) (only : e.present = [.timestamp]) :
    e = .endOfLog stamp := by
  have absent := (present_eq_timestamp_iff stamped).1 only
  apply eq_of_words
  intro f
  cases f with
  | timestamp => rw [words, stamped, words, endOfLog]
  | _ => exact absent _ (by decide)

/-- The cells of all fields behind the timestamp, in their places. -/
def othersIn (e : LogEntry) (owner : EntryField → Field) : List (String × Int) :=
  EntryField.all.tail.flatMap fun f => (owner f).columns.zip (e.values f)

/-- The timestamp has one cell, and it comes first. -/
theorem cellsIn_of_stamped (stamped : e.timestamp = some stamp) (owner : EntryField → Field) :
    e.cellsIn owner = ((owner .timestamp).firstColumn, Int.ofNat stamp.toNat) :: e.othersIn owner := by
  obtain ⟨others, columns⟩ := List.head?_eq_some_iff.1 (owner .timestamp).head?_columns
  have all : EntryField.all = .timestamp :: EntryField.all.tail := rfl
  rw [cellsIn, all, List.flatMap_cons, values_timestamp stamped, columns, List.zip_cons_cons, List.zip_nil_right]
  rfl

/-- Each other field that is present has a cell. -/
theorem othersIn_eq_nil_iff {r : Registry} {owner : EntryField → Field} (stamped : e.timestamp = some stamp)
    (placed : ∀ f, e.values f ≠ [] → e.Placed r.fields f (owner f)) :
    e.othersIn owner = [] ↔ e.present = [.timestamp] := by
  rw [othersIn, List.flatMap_eq_nil_iff, present_eq_timestamp_iff stamped]
  refine forall_congr' fun f => forall_congr' fun _ => ?_
  rw [← values_eq_nil_iff]
  constructor
  · intro none
    by_contra present
    have room := (placed f present).length_le
    have length := congrArg List.length none
    have some := List.length_pos_iff.2 present
    rw [List.length_zip, List.length_nil] at length
    omega
  · intro absent
    rw [absent, List.zip_nil_right]

end LogEntry

namespace Registry

open LogEntry

variable {r : Registry} {record : Record}

/-- The codec names the column in which the field with the name of the timestamp has its first value. -/
theorem timestampColumn_codec {field : Field} (member : field ∈ r.fields) (named : field.name = timestampName) :
    r.codec.timestampColumn = field.firstColumn := by
  have found := find?_of_key r.nodup_names member
  rw [named] at found
  simp only [codec, timestampColumn?, found, Option.map_some, Option.getD_some]

theorem isEndOfLog_iff {cell : String × Int} {more : List (String × Int)} (cells : record.cells = cell :: more) :
    record.isEndOfLog = true ↔ more = [] := by
  rw [Record.isEndOfLog, Record.size, cells, List.length_cons, beq_iff_eq, Nat.add_eq_right,
    List.length_eq_zero_iff]

/-- The record of a payload is that of a stamped entry: its first cell is the timestamp in the column that the codec
    names, and there is no other cell exactly if the entry has no other field. -/
theorem stamped_of_decode {payload : Bytes} (decoded : r.codec.decode payload = .ok record) :
    ∃ e stamp field more, LogEntry.decode payload = .ok e ∧ e.timestamp = some stamp ∧
      field ∈ r.fields ∧ field.name = timestampName ∧ r.codec.timestampColumn = field.firstColumn ∧
      record.cells = (r.codec.timestampColumn, Int.ofNat stamp.toNat) :: more ∧
      (record.isEndOfLog = true ↔ e.present = [.timestamp]) := by
  obtain ⟨e, entry, columnized⟩ := decode_eq_ok_iff.1 decoded
  obtain ⟨stamped, owner, placed, same⟩ := columnize_eq_ok_iff.1 columnized
  obtain ⟨member, named, -⟩ := placed .timestamp (values_timestamp_ne_nil_iff.2 stamped)
  obtain ⟨stamp, stamped⟩ := Option.ne_none_iff_exists'.1 stamped
  have column := timestampColumn_codec member named
  have cells : record.cells = (r.codec.timestampColumn, Int.ofNat stamp.toNat) :: e.othersIn owner := by
    rw [same, column]
    exact cellsIn_of_stamped stamped owner
  refine ⟨e, stamp, owner .timestamp, e.othersIn owner, entry, stamped, member, named, column, cells, ?_⟩
  rw [← othersIn_eq_nil_iff stamped placed, isEndOfLog_iff cells]

/-- A single column is that of the timestamp. -/
theorem isOddEnd_of_decode {payload : Bytes} (decoded : r.codec.decode payload = .ok record) :
    record.isOddEnd r.codec.timestampColumn = false := by
  obtain ⟨-, stamp, -, more, -, -, -, -, -, cells, -⟩ := stamped_of_decode decoded
  rw [Record.isOddEnd, Bool.and_eq_false_imp, bne_eq_false_iff_eq]
  intro last
  rw [Record.columns, cells, (isEndOfLog_iff cells).1 last]
  rfl

end Registry

/-! ## What a step tells -/

/-- Whether an event is told by the reader. -/
def Event.isOfReader : Event → Bool
  | .partialFrame .. => true
  | .frameFailed .. => true
  | .oddEnd _ => true
  | .endOfLog _ => true
  | _ => false

/-- The events of the reader among others. -/
def toldIn (events : List Event) : List Event :=
  events.filter Event.isOfReader

theorem toldIn_append (first second : List Event) : toldIn (first ++ second) = toldIn first ++ toldIn second :=
  List.filter_append ..

namespace FrameReader

variable {r : FrameReader} {codec : RecordCodec} {order? : Option PacketOrder} {size : Nat}

theorem toldIn_readPayload (r : FrameReader) (codec : RecordCodec) (order? : Option PacketOrder) (size : Nat) :
    toldIn (r.readPayload codec order? size).events = (r.readPayload codec order? size).events := by
  unfold readPayload
  dsimp only
  split
  · rfl
  · split
    · split
      · rfl
      · split
        · dsimp only
          split <;> rfl
        · rfl
    · split <;> rfl

/-- All events of a step are told by the reader. -/
theorem toldIn_next (r : FrameReader) (codec : RecordCodec) (order? : Option PacketOrder) :
    toldIn (r.next codec order?).events = (r.next codec order?).events := by
  unfold next
  split
  · exact toldIn_readPayload _ _ _ _
  · split
    · rfl
    · split
      · rfl
      · split
        · rfl
        · exact toldIn_readPayload _ _ _ _

theorem oddEnd_of_readPayload {columns : List String}
    (member : .oddEnd columns ∈ (r.readPayload codec order? size).events) :
    ∃ payload record, codec.decode payload = .ok record ∧ record.isOddEnd codec.timestampColumn = true := by
  unfold readPayload at member
  dsimp only at member
  split at member
  · cases List.mem_singleton.1 member
  · split at member
    · rename_i record decoded
      split at member
      · cases member
      · split at member
        · rcases List.mem_append.1 member with warned | ended
          · split at warned
            · rename_i odd
              exact ⟨_, record, decoded, odd⟩
            · cases warned
          · cases List.mem_singleton.1 ended
        · cases member
    · split at member
      · cases member
      · cases List.mem_singleton.1 member

/-- The warning is given for a record of the codec that has one column, and not that of the timestamp. -/
theorem oddEnd_of_next {columns : List String} (member : .oddEnd columns ∈ (r.next codec order?).events) :
    ∃ payload record, codec.decode payload = .ok record ∧ record.isOddEnd codec.timestampColumn = true := by
  unfold next at member
  split at member
  · exact oddEnd_of_readPayload member
  · split at member
    · cases member
    · split at member
      · cases member
      · split at member
        · cases member
        · exact oddEnd_of_readPayload member

/-- The end of the log is a record of one column, made of the payload that the step looks at. -/
theorem Reading.last {reader : FrameReader} (read : r.Reading codec order? (.ok .endOfLog) reader)
    (sound : r.Sound) :
    ∃ payload record, r.Shows order? payload ∧ codec.decode payload = .ok record ∧ record.isEndOfLog = true := by
  cases read with
  | payload begins read =>
      cases read with
      | endOfLog record enough decoded last =>
          obtain ⟨window, -⟩ := begins.window_of_enough sound enough order?
          exact ⟨_, record, window, decoded, last⟩

/-- With the codec of a registry it is made of an entry with nothing but a timestamp. -/
theorem Reading.stamped {registry : Registry} {reader : FrameReader}
    (read : r.Reading registry.codec order? (.ok .endOfLog) reader) (sound : r.Sound) :
    ∃ payload stamp, r.Shows order? payload ∧ LogEntry.decode payload = .ok (.endOfLog stamp) := by
  obtain ⟨payload, record, shown, decoded, last⟩ := read.last sound
  obtain ⟨e, stamp, -, -, entry, stamped, -, -, -, -, only⟩ := Registry.stamped_of_decode decoded
  rw [LogEntry.eq_endOfLog stamped (only.1 last)] at entry
  exact ⟨payload, stamp, shown, entry⟩

theorem oddEnd_not_mem_next (r : FrameReader) (registry : Registry) (order? : Option PacketOrder)
    (columns : List String) : .oddEnd columns ∉ (r.next registry.codec order?).events := by
  intro member
  obtain ⟨payload, record, decoded, odd⟩ := oddEnd_of_next member
  rw [Registry.isOddEnd_of_decode decoded] at odd
  cases odd

end FrameReader

theorem Retries.toldIn_successEvents (r : Retries) : toldIn r.successEvents = [] := by
  unfold successEvents
  split <;> rfl

theorem Retries.toldIn_failEvents (r : Retries) : toldIn r.failEvents = [] := by
  unfold failEvents
  split <;> rfl

/-- The events of a pass. -/
def Turn.events {σ : Type} : Turn σ → List Event
  | .stop reply => reply.events
  | .again _ events => events

namespace Transfer

/-! ## What a call tells -/

variable {σ : Type} [RowSink σ]

omit [RowSink σ] in
/-- What the reader tells in a pass. -/
def told (t : Transfer σ) : List Event :=
  if t.limitReached then [] else t.step.events

theorem toldIn_finish (t : Transfer σ) : toldIn t.finish.events = [] := by
  unfold finish
  split <;> rfl

omit [RowSink σ] in
theorem toldIn_corrupt (t : Transfer σ) (cause : SchemaError) : toldIn (t.corrupt cause).events = [] := by
  unfold corrupt
  dsimp only
  split
  · exact t.retries.fail.toldIn_failEvents
  · rfl

theorem toldIn_emit (t : Transfer σ) (record : Record) : toldIn (t.emit record).events = [] := by
  have header (columns : List String) :
      toldIn (if t.headerChanged columns then [.newHeader columns] else []) = [] := by
    split <;> rfl
  unfold emit
  cases t.convertAll record.cells with
  | error cause => rfl
  | ok values =>
      have opened : RowSink.write t.sink
          { columns := record.columns, values, header := t.headerChanged record.columns }
            = RowSink.write t.sink (t.rowOf record values) := rfl
      simp only [opened]
      rcases RowSink.write t.sink (t.rowOf record values) with ⟨sink, cause | ⟨⟩⟩
      · show toldIn (_ ++ _) = []
        rw [toldIn_append, header]
        rfl
      · exact header _

/-- Among the events of a pass those of the reader are those of its step. -/
theorem toldIn_turn (t : Transfer σ) : toldIn t.turn.events = t.told := by
  have read : toldIn t.step.events = t.step.events := t.reader.toldIn_next t.codec t.retries.order?
  have recovered : toldIn (t.step.events ++ t.retries.successEvents) = t.step.events := by
    rw [toldIn_append, read, t.retries.toldIn_successEvents, List.append_nil]
  -- Whatever comes behind the events of the step is the transfer's own.
  have after {before own : List Event} (first : toldIn before = t.step.events) (none : toldIn own = []) :
      toldIn (before ++ own) = t.step.events := by
    rw [toldIn_append, first, none, List.append_nil]
  unfold turn told
  by_cases reached : t.limitReached = true
  · rw [if_pos reached, if_pos reached]
    show toldIn (_ ++ _) = []
    rw [toldIn_append, t.toldIn_finish]
    rfl
  · rw [if_neg reached, if_neg reached]
    dsimp only
    have opened : t.reader.next t.codec t.retries.order? = t.step := rfl
    have decoded : { t with reader := t.step.reader, retries := t.retries.reset } = t.decoded := rfl
    simp only [opened, decoded]
    rcases t.step.outcome with cause | ⟨_ | record | _ | cause⟩
    · exact after read rfl
    · exact read
    · dsimp only
      have own := t.decoded.toldIn_emit record
      cases row : t.decoded.emit record with
      | stop reply =>
          rw [row] at own
          exact after recovered own
      | again t' events =>
          rw [row] at own
          exact after recovered own
    · exact after recovered t.decoded.toldIn_finish
    · exact after read (toldIn_corrupt _ _)

theorem toldIn_advance (t : Transfer σ) : toldIn t.advance.events = t.passes.flatMap told := by
  induction t using advance_induction with
  | stop t reply turn =>
      have here := t.toldIn_turn
      rw [turn] at here
      rw [advance_of_stop turn, passes_of_stop turn, List.flatMap_singleton]
      exact here
  | again t t' events turn ih =>
      have here := t.toldIn_turn
      rw [turn] at here
      rw [advance_of_again turn, passes_of_again turn, List.flatMap_append, List.flatMap_singleton, ← ih, ← here]
      exact toldIn_append _ _

theorem toldIn_feed (t : Transfer σ) (packet : Bytes) :
    toldIn (t.feed packet).events = (t.passesOf packet).flatMap told := by
  cases phase : t.phase with
  | running =>
      rw [feed_of_running phase, passesOf_of_running phase]
      cases t.reader.write packet with
      | error error => rfl
      | ok reader => exact toldIn_advance _
  | complete =>
      have ended : t.phase ≠ .running := by rw [phase]; nofun
      rw [feed_of_complete phase, passesOf_of_ended ended]
      rfl
  | failed =>
      have ended : t.phase ≠ .running := by rw [phase]; nofun
      rw [feed_of_failed phase, passesOf_of_ended ended]
      rfl

theorem toldIn_retryPending (t : Transfer σ) :
    toldIn t.retryPending.events = (t.passesOver t.retryPackets).flatMap told := by
  -- The mark of a round is the transfer's own.
  have round (t : Transfer σ) :
      toldIn (.retryPending t.retries.failures :: (t.feed []).events) = (t.passesOf []).flatMap told :=
    t.toldIn_feed []
  induction t using retryPending_induction with
  | failed t error pending failed =>
      rw [retryPending_of_error pending failed, retryPackets_of_last pending (.inl ⟨error, failed⟩), passesOver,
        passesOver, List.append_nil]
      exact round t
  | round t progress pending answer lower ih =>
      rw [retryPending_of_round pending answer lower, retryPackets_of_round pending answer lower, passesOver,
        List.flatMap_append, ← ih, ← round t]
      exact toldIn_append _ _
  | stuck t progress pending answer stuck =>
      rw [retryPending_of_stuck pending answer stuck, retryPackets_of_last pending (.inr stuck), passesOver,
        passesOver, List.append_nil, ← round t]
      show toldIn (_ ++ _) = _
      rw [events_idle, List.append_nil]
  | quiet t quiet =>
      rw [retryPending_of_quiet quiet, retryPackets_of_quiet quiet, events_idle]
      rfl

/-- Over a run of calls the reader tells what its steps tell, pass by pass. -/
theorem told_replies (t : Transfer σ) (calls : List Call) :
    (t.replies calls).flatMap (fun reply => toldIn reply.events) =
      (t.passesOver (t.packetsOf calls)).flatMap told := by
  induction calls generalizing t with
  | nil => rfl
  | cons c rest ih =>
      rw [replies, List.flatMap_cons, ih]
      cases c with
      | feed packet =>
          rw [packetsOf, passesOver, List.flatMap_append, ← toldIn_feed]
          rfl
      | retryPending =>
          rw [packetsOf, passesOver_append, List.flatMap_append, ← toldIn_retryPending,
            ← (retryPending_eq_feeds t).1]
          rfl

/-- An event of the reader comes from the step of a pass. -/
theorem step_of_told {t : Transfer σ} {calls : List Call} {reply : Reply σ} {event : Event}
    (member : reply ∈ t.replies calls) (among : event ∈ reply.events) (ofReader : event.isOfReader = true) :
    ∃ p ∈ t.passesOver (t.packetsOf calls), event ∈ p.step.events := by
  have told : event ∈ (t.replies calls).flatMap fun reply => toldIn reply.events :=
    List.mem_flatMap.2 ⟨reply, member, List.mem_filter.2 ⟨among, ofReader⟩⟩
  rw [told_replies] at told
  obtain ⟨p, pass, told⟩ := List.mem_flatMap.1 told
  rw [Transfer.told] at told
  split at told
  · cases told
  · exact ⟨p, pass, told⟩

/-- With the codec of a registry that was built of a list of fields the log ends on a timestamp. A decoded record has
    the timestamp of the entry first, in the column that the codec names, which is that of a field of the list; it is
    the last record exactly if the entry has no other field. So a reader, however it was used, ends the log on an
    entry with nothing but a timestamp and never warns of another column, and neither does a transfer. -/
theorem codec_ends_evenly {fields : List Field} {r : Registry} (accepted : Registry.ofFields? fields = .ok r) :
    (∀ payload record, r.codec.decode payload = .ok record →
      ∃ e stamp field more, LogEntry.decode payload = .ok e ∧ e.timestamp = some stamp ∧
        field ∈ fields ∧ field.name = timestampName ∧ r.codec.timestampColumn = field.firstColumn ∧
        record.cells = (r.codec.timestampColumn, Int.ofNat stamp.toNat) :: more ∧
        (record.isEndOfLog = true ↔ e.present = [.timestamp]) ∧
        record.isOddEnd r.codec.timestampColumn = false) ∧
    (∀ capacity limit uses order?,
      let reader := (FrameReader.new capacity limit).used r.codec uses
      let step := reader.next r.codec order?
      (∀ columns, .oddEnd columns ∉ step.events) ∧
        (step.outcome = .ok .endOfLog →
          ∃ payload stamp, reader.Shows order? payload ∧ LogEntry.decode payload = .ok (.endOfLog stamp))) ∧
    ∀ (settings : Settings) (sink : σ) (calls : List Call),
      let t := Transfer.new settings r sink
      (∀ reply ∈ t.replies calls, ∀ columns, .oddEnd columns ∉ reply.events) ∧
        ∀ p ∈ t.passesOver (t.packetsOf calls), p.AtEnd → p.limitReached = true ∨
          ∃ payload stamp, p.reader.Shows p.retries.order? payload ∧
            LogEntry.decode payload = .ok (.endOfLog stamp) := by
  obtain rfl := Registry.ofFields?_eq_ok_iff.1 accepted
  refine ⟨?_, ?_, ?_⟩
  · intro payload record decoded
    obtain ⟨e, stamp, field, more, entry, stamped, member, named, column, cells, last⟩ :=
      Registry.stamped_of_decode decoded
    exact ⟨e, stamp, field, more, entry, stamped, member, named, column, cells, last,
      Registry.isOddEnd_of_decode decoded⟩
  · intro capacity limit uses order? reader step
    have sound : reader.Sound := (FrameReader.Sound.new capacity limit).used uses
    constructor
    · exact reader.oddEnd_not_mem_next r order?
    · intro ended
      have read := FrameReader.next_reading sound r.codec order?
      rw [show (reader.next r.codec order?).outcome = _ from ended] at read
      exact read.stamped sound
  · intro settings sink calls t
    have sound : Sound settings.plan t := .fresh settings r _ sink
    have passed := sound.passed_feeds rfl (t.packetsOf calls)
    have codec {p : Transfer σ} (pass : p ∈ t.passesOver (t.packetsOf calls)) : p.codec = r.codec :=
      congrArg Setup.codec (passed.kept p pass).2
    constructor
    · intro reply member columns warned
      obtain ⟨p, pass, told⟩ := step_of_told member warned rfl
      rw [step, codec pass] at told
      exact p.reader.oddEnd_not_mem_next r _ columns told
    · intro p pass ended
      refine ended.imp_right ?_
      intro last
      have sound' := (passed.kept p pass).1
      have read := sound'.reading
      rw [codec pass, last] at read
      exact read.stamped sound'.reader

/-- A timestamp with axes ends the log in the column of its first axis, and no call warns of that. -/
theorem codec_ends_evenly_axes :
    ∃ r, Registry.ofFields? [{ Field.timestamp with axes := ["s", "ms"] }, Field.pressure] = .ok r ∧
      r.codec.timestampColumn = "TS_s" ∧ r.codec.decode [0x08, 0x05] = .ok ⟨[("TS_s", 5)]⟩ ∧
      (Record.mk [("TS_s", 5)]).isOddEnd r.codec.timestampColumn = false ∧
      ((Transfer.new {} r ({} : RowList)).feed [0x02, 0x08, 0x05]).result = .ok (.complete 0) ∧
      ∀ columns, .oddEnd columns ∉ ((Transfer.new {} r ({} : RowList)).feed [0x02, 0x08, 0x05]).events := by
  let r : Registry :=
    ⟨[{ Field.timestamp with axes := ["s", "ms"] }, Field.pressure], by decide, by decide, by decide⟩
  have accepted : Registry.ofFields? r.fields = .ok r := Registry.ofFields?_eq_ok_iff.2 rfl
  have decoded : r.codec.decode [0x08, 0x05] = .ok ⟨[("TS_s", 5)]⟩ := by decide +kernel
  obtain ⟨records, -, transfers⟩ := @codec_ends_evenly RowList _ _ _ accepted
  obtain ⟨-, -, -, -, -, -, -, -, -, -, -, even⟩ := records _ _ decoded
  refine ⟨r, accepted, by decide +kernel, decoded, even, by decide +kernel, ?_⟩
  exact (transfers {} {} [.feed [0x02, 0x08, 0x05]]).1 _ (.head _)

end Transfer

end SensorLog
