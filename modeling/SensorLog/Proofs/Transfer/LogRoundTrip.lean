import SensorLog.Frame.Encode
import SensorLog.Proofs.Record.Columns
import SensorLog.Proofs.Transfer.Chunking

/-!
# A log comes through any fragmentation

The frames of entries and the end of the log, cut into packets anywhere, come out as the rows of the
entries, and the transfer is complete with the last byte (`feeds_log`). A pass over the whole log
gives the rows (`onePass_framed`); over any part of it that lacks bytes at its end it waits, with less
than one frame left over (`starved_of_prefix`), so that the default queue has room even for
single bytes.
-/

namespace SensorLog

/-- The frames of entries, and the frame that ends the log. -/
def logBytes (entries : List LogEntry) (stamp : UInt32) : Except FrameError Bytes := do
  let frames ← (entries.map LogEntry.encode).mapM encodeFrame
  let last ← encodeFrame (LogEntry.endOfLog stamp).encode
  return frames.flatten ++ last

/-- The row of an entry behind a row with the given columns. -/
def LogEntry.row (columns? : Option (List String)) (e : LogEntry) : Row :=
  { columns := e.columns, values := e.cells.map fun cell => .int cell.2
    header := columns? != some e.columns }

/-- The rows of entries behind a row with the given columns. -/
def rowsOf (columns? : Option (List String)) : List LogEntry → List Row
  | [] => []
  | e :: rest => e.row columns? :: rowsOf (some e.columns) rest

namespace LogRoundTrip

/-- The setup of raw readings under the built-in registry. -/
def rawSetup : Setup :=
  { settings := { raw := true }, registry := .builtin, codec := Registry.builtin.codec }

/-- The frame of a payload of at most 255 bytes. -/
def frameOf (payload : Bytes) : Bytes :=
  UInt8.ofNat payload.length :: payload

/-- The bytes of a log of sound entries. -/
def framed (entries : List LogEntry) (stamp : UInt32) : Bytes :=
  entries.flatMap (fun e => frameOf e.encode) ++ frameOf (LogEntry.endOfLog stamp).encode

theorem framed_ne_nil (entries : List LogEntry) (stamp : UInt32) : framed entries stamp ≠ [] := by
  simp [framed, frameOf]

theorem length_rowsOf (columns? : Option (List String)) (entries : List LogEntry) :
    (rowsOf columns? entries).length = entries.length := by
  induction entries generalizing columns? with
  | nil => rfl
  | cons e rest ih => rw [rowsOf, List.length_cons, List.length_cons, ih]

variable {e : LogEntry} {entries : List LogEntry} {stamp : UInt32} {columns? : Option (List String)}

/-! ## Payloads and frames -/

theorem size_of_stamped (stamped : e.timestamp.isSome = true) (fits : e.FitsAxes) :
    0 < e.encode.length ∧ e.encode.length ≤ 123 := by
  obtain ⟨stamp, present⟩ := Option.isSome_iff_exists.1 stamped
  constructor
  · apply List.length_pos_iff.2
    apply LogEntry.encode_ne_nil (f := .timestamp)
    simp [LogEntry.words, present]
  · exact LogEntry.length_encode_le fits

theorem size_endOfLog (stamp : UInt32) :
    0 < (LogEntry.endOfLog stamp).encode.length ∧ (LogEntry.endOfLog stamp).encode.length ≤ 123 :=
  size_of_stamped rfl (.endOfLog stamp)

theorem encodeFrame_of_size {payload : Bytes} (size : 0 < payload.length ∧ payload.length ≤ 123) :
    encodeFrame payload = .ok (frameOf payload) := by
  obtain ⟨positive, bounded⟩ := size
  exact encodeFrame_eq_ok_iff.2 ⟨List.length_pos_iff.1 positive, by omega, rfl⟩

theorem mapM_encodeFrame {payloads : List Bytes}
    (sizes : ∀ payload ∈ payloads, 0 < payload.length ∧ payload.length ≤ 123) :
    payloads.mapM encodeFrame = .ok (payloads.map frameOf) := by
  induction payloads with
  | nil => rfl
  | cons payload rest ih =>
      obtain ⟨size, later⟩ := List.forall_mem_cons.1 sizes
      rw [List.mapM_cons, encodeFrame_of_size size, ih later]
      rfl

theorem logBytes_eq (logged : ∀ e ∈ entries, e.IsLogged) (stamp : UInt32) :
    logBytes entries stamp = .ok (framed entries stamp) := by
  have sizes : ∀ payload ∈ entries.map LogEntry.encode, 0 < payload.length ∧ payload.length ≤ 123 := by
    intro payload member
    obtain ⟨e, among, rfl⟩ := List.mem_map.1 member
    exact size_of_stamped (logged e among).stamped (logged e among).fits
  simp only [logBytes, mapM_encodeFrame sizes, encodeFrame_of_size (size_endOfLog stamp)]
  simp only [bind, Except.bind, pure, Except.pure, framed, List.map_map, List.flatMap_def]
  rfl

/-! ## The pass over a log -/

theorem row_encode (logged : e.IsLogged) (columns? : Option (List String)) :
    rawSetup.row columns? e.encode = .ok (e.row columns?) := by
  have decoded : rawSetup.codec.decode e.encode = .ok ⟨e.cells⟩ :=
    LogEntry.decode_encode_builtin logged.fits logged.stamped
  have values : e.cells.mapM rawSetup.value = .ok (e.cells.map fun cell => .int cell.2) :=
    Setup.mapM_value_of_raw rfl _
  simp only [Setup.row, decoded, logged.isEndOfLog_eq, values]
  rfl

theorem row_endOfLog (stamp : UInt32) (columns? : Option (List String)) :
    rawSetup.row columns? (LogEntry.endOfLog stamp).encode = .error .endOfLog := by
  have decoded : rawSetup.codec.decode (LogEntry.endOfLog stamp).encode
      = .ok ⟨(LogEntry.endOfLog stamp).cells⟩ :=
    LogEntry.decode_encode_builtin (.endOfLog stamp) rfl
  simp only [Setup.row, decoded]
  rfl

/-- Behind the frame of an entry the pass has its row. -/
theorem onePass_frame (logged : e.IsLogged) (columns? : Option (List String)) (n : Nat) (rest : Bytes) :
    rawSetup.onePass columns? n (frameOf e.encode ++ rest)
      = (rawSetup.onePass (some e.columns) (n + 1) rest).behind [e.row columns?] := by
  obtain ⟨positive, bounded⟩ := size_of_stamped logged.stamped logged.fits
  have front := frontOf_frame positive (by omega) rest
  rw [Setup.onePass_of_below rfl, frameOf, List.cons_append, front]
  simp only [Setup.passFrom, row_encode logged]
  rfl

theorem onePass_framed (logged : ∀ e ∈ entries, e.IsLogged) (stamp : UInt32)
    (columns? : Option (List String)) (n : Nat) :
    rawSetup.onePass columns? n (framed entries stamp) = ⟨rowsOf columns? entries, .noRow .endOfLog⟩ := by
  induction entries generalizing columns? n with
  | nil =>
      obtain ⟨positive, bounded⟩ := size_endOfLog stamp
      have front := frontOf_frame positive (by omega) []
      rw [List.append_nil] at front
      rw [Setup.onePass_of_below rfl, framed, List.flatMap_nil, List.nil_append, frameOf, front]
      simp only [Setup.passFrom, row_endOfLog]
      rfl
  | cons e rest ih =>
      obtain ⟨entry, loggedRest⟩ := List.forall_mem_cons.1 logged
      have later := ih loggedRest (some e.columns) (n + 1)
      rw [framed] at later
      rw [framed, List.flatMap_cons, List.append_assoc, onePass_frame entry, later]
      rfl

/-- A part of a frame is less than 124 bytes that wait for more. -/
theorem starved_of_frame_prefix {payload before after : Bytes}
    (size : 0 < payload.length ∧ payload.length ≤ 123) (cut : before ++ after = frameOf payload)
    (lacking : after ≠ []) (columns? : Option (List String)) (n : Nat) :
    ∃ left, (rawSetup.onePass columns? n before).halt = .starved left ∧ left.length ≤ 123 := by
  obtain ⟨positive, bounded⟩ := size
  refine ⟨before, ?_, ?_⟩
  · rw [Setup.onePass_of_below rfl, frontOf_of_prefix positive (by omega) cut lacking]
    rfl
  · have length := congrArg List.length cut
    have missing : 0 < after.length := List.length_pos_iff.2 lacking
    rw [frameOf, List.length_append, List.length_cons] at length
    omega

/-- Wherever a log is cut short, less than a frame is left over. -/
theorem starved_of_prefix (logged : ∀ e ∈ entries, e.IsLogged) {before after : Bytes}
    (cut : before ++ after = framed entries stamp) (lacking : after ≠ [])
    (columns? : Option (List String)) (n : Nat) :
    ∃ left, (rawSetup.onePass columns? n before).halt = .starved left ∧ left.length ≤ 123 := by
  induction entries generalizing before after columns? n with
  | nil => exact starved_of_frame_prefix (size_endOfLog stamp) cut lacking columns? n
  | cons e rest ih =>
      obtain ⟨entry, later⟩ := List.forall_mem_cons.1 logged
      rw [framed, List.flatMap_cons, List.append_assoc, ← framed] at cut
      rcases List.append_eq_append_iff.1 cut with ⟨cutFrame, first, -⟩ | ⟨begun, rfl, joined⟩
      · by_cases whole : cutFrame = []
        · -- The cut lies behind the frame, with nothing of the next one before it.
          rw [whole, List.append_nil] at first
          have none := ih later (List.nil_append _) (framed_ne_nil rest stamp) (some e.columns) (n + 1)
          rw [← first, ← List.append_nil (frameOf e.encode), onePass_frame entry]
          exact none
        · exact starved_of_frame_prefix (size_of_stamped entry.stamped entry.fits) first.symm whole columns? n
      · rw [onePass_frame entry]
        exact ih later joined.symm lacking (some e.columns) (n + 1)

/-! ## Feeding a log -/

section Feeding

variable {σ : Type}

/-- A transfer of raw readings that has taken nothing in yet. -/
def fresh (sink : σ) : Transfer σ :=
  .new { raw := true } .builtin sink

theorem passOver_fresh (sink : σ) (input : Bytes) :
    (fresh sink).passOver input = rawSetup.onePass none 0 input := rfl

theorem ready_fresh (sink : σ) : (fresh sink).Ready :=
  .fresh ..

theorem noRetry_framed (logged : ∀ e ∈ entries, e.IsLogged) (stamp : UInt32) (sink : σ) :
    (fresh sink).NoRetry ((fresh sink).passOver (framed entries stamp)) := by
  rw [passOver_fresh, onePass_framed logged]
  exact .inr nofun

variable [RowSink σ]

/-- Each waiting packet holds a byte of a frame that is not whole, so 123 places would do. -/
theorem room_framed (logged : ∀ e ∈ entries, e.IsLogged) {sink : σ} (faithful : RowSink.NeverFails sink)
    {packets : List Bytes} (joined : packets.flatten = framed entries stamp) :
    ∀ result ∈ ((fresh sink).feeds packets).results, ¬ NoRoom result := by
  have single : (fresh sink).NoRetry ((fresh sink).passOver packets.flatten) := by
    rw [joined]
    exact noRetry_framed logged stamp sink
  apply Transfer.room_of_space (ready_fresh sink) faithful packets single (Nat.zero_lt_succ 127)
  intro before after left cut starved
  rw [joined] at cut
  by_cases whole : after = []
  · rw [whole, List.append_nil] at cut
    rw [cut, passOver_fresh, onePass_framed logged] at starved
    cases starved
  · obtain ⟨left', starved', few⟩ := starved_of_prefix logged cut whole none 0
    rw [passOver_fresh, starved'] at starved
    cases starved
    show left.length < 128
    omega

theorem results_framed (logged : ∀ e ∈ entries, e.IsLogged) {sink : σ} (faithful : RowSink.NeverFails sink)
    {packet : Bytes} {rest : List Bytes} (inhabited : ∀ p ∈ rest, p ≠ [])
    (joined : packet ++ rest.flatten = framed entries stamp) :
    ((fresh sink).feeds (packet :: rest)).results
      = List.replicate rest.length (.ok .more) ++ [.ok (.complete entries.length)] := by
  have results := Transfer.results_of_starved (ready_fresh sink) faithful packet rest inhabited
    (room_framed logged faithful joined) (joined ▸ noRetry_framed logged stamp sink) ?_
  · rw [joined, passOver_fresh, onePass_framed logged] at results
    rw [← length_rowsOf none entries, ← Nat.zero_add (rowsOf none entries).length]
    exact results
  · intro before after cut lacking
    obtain ⟨left, starved, -⟩ := starved_of_prefix logged (cut.trans joined) lacking none 0
    exact ⟨left, starved⟩

theorem sink_framed (logged : ∀ e ∈ entries, e.IsLogged) {sink : σ} (faithful : RowSink.NeverFails sink)
    {packet : Bytes} {rest : List Bytes} (joined : packet ++ rest.flatten = framed entries stamp) :
    ((fresh sink).feeds (packet :: rest)).transfer.sink
      = RowSink.after sink ((rowsOf none entries).map .write ++ [.flush]) := by
  obtain ⟨mirrors, -⟩ := Transfer.feeds_mirrors (ready_fresh sink) faithful packet rest
    (room_framed logged faithful joined) (joined ▸ noRetry_framed logged stamp sink)
  rw [joined, passOver_fresh, onePass_framed logged] at mirrors
  exact mirrors.sink

end Feeding

end LogRoundTrip

open LogRoundTrip

/-- Every entry that a logger sends fits a frame, and the frames of any entries and the end of the
    log, cut into packets that all hold bytes, give the rows of the entries: each packet but the last
    is answered with "more", the last one completes the transfer, and the sink has taken the rows, in
    order, and one flush. -/
theorem Transfer.feeds_log (entries : List LogEntry) (logged : ∀ e ∈ entries, e.IsLogged) (stamp : UInt32)
    {σ : Type} [RowSink σ] (sink : σ) (faithful : RowSink.NeverFails sink) :
    (∀ e ∈ LogEntry.endOfLog stamp :: entries, 1 ≤ e.encode.length ∧ e.encode.length ≤ 123) ∧
      ∃ wire, logBytes entries stamp = .ok wire ∧
        ∀ packets : List Bytes, (∀ packet ∈ packets, packet ≠ []) → packets.flatten = wire →
          let run := (Transfer.new { raw := true } .builtin ({ sink } : Noted σ)).feeds packets
          run.results = List.replicate (packets.length - 1) (.ok .more)
              ++ [.ok (.complete entries.length)] ∧
            run.transfer.sink.notes = (rowsOf none entries).map (fun row => (.write row, .ok ()))
              ++ [(.flush, .ok ())] := by
  refine ⟨?_, framed entries stamp, logBytes_eq logged stamp, ?_⟩
  · intro e member
    rcases List.mem_cons.1 member with rfl | among
    · exact size_endOfLog stamp
    · exact size_of_stamped (logged e among).stamped (logged e among).fits
  · intro packets inhabited joined run
    have noted : RowSink.NeverFails ({ sink } : Noted σ) := Noted.neverFails faithful
    cases packets with
    | nil => exact absurd joined.symm (framed_ne_nil entries stamp)
    | cons packet rest =>
        rw [List.flatten_cons] at joined
        obtain ⟨-, nonempty⟩ := List.forall_mem_cons.1 inhabited
        constructor
        · exact results_framed logged noted nonempty joined
        · have taken := congrArg Noted.notes (sink_framed logged noted joined)
          rw [Noted.notes_after faithful, List.map_append, List.map_map] at taken
          exact taken

/-- Two entries in single bytes. -/
theorem Transfer.feeds_log_byte_by_byte :
    let entries : List LogEntry :=
      [{ timestamp := some 1, pressure := some 100 }, { timestamp := some 2, compass := [-1, 0, 300] }]
    let wire : Bytes := [4, 8, 1, 16, 100, 8, 8, 2, 42, 4, 1, 0, 216, 4, 2, 8, 3]
    logBytes entries 3 = .ok wire ∧
      let run := (Transfer.new { raw := true } .builtin
        ({ sink := { rows := #[] } } : Noted RowList)).feeds (wire.map fun b => [b])
      run.results = List.replicate 16 (.ok .more) ++ [.ok (.complete 2)] ∧
        run.transfer.sink.notes =
          [(.write ⟨["TS", "p"], [.int 1, .int 100], true⟩, .ok ()),
           (.write ⟨["TS", "m_x", "m_y", "m_z"], [.int 2, .int (-1), .int 0, .int 300], true⟩, .ok ()),
           (.flush, .ok ())] := by
  intro entries wire
  have logged : ∀ e ∈ entries, e.IsLogged := by
    intro e member
    rcases List.mem_cons.1 member with rfl | member
    · exact ⟨rfl, ⟨.pressure, by decide, by decide⟩, ⟨by decide, by decide, by decide⟩⟩
    · rw [List.mem_singleton.1 member]
      exact ⟨rfl, ⟨.compass, by decide, by decide⟩, ⟨by decide, by decide, by decide⟩⟩
  obtain ⟨-, wire', bytes, rows⟩ :=
    Transfer.feeds_log entries logged 3 ({ rows := #[] } : RowList) (RowSink.neverFails_rowList _)
  have known : logBytes entries 3 = .ok wire := by cbv
  rw [known] at bytes
  cases bytes
  refine ⟨known, ?_⟩
  obtain ⟨results, notes⟩ := rows (wire.map fun b => [b]) (by simp) (by decide)
  exact ⟨results, notes⟩

end SensorLog
