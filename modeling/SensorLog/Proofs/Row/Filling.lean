import SensorLog.Proofs.Row.Pieces

/-!
# Writers on a place that fills up

A writer without a limit puts out some text for a list of rows. A writer with a limit delivers the beginning of that
text, as much as fits, and grants a row exactly if the text fits up to its end (`RowWriter.filling_exact`). The
invariant is `Delivers`: the two writers may differ in the mark for the blank line only once the place is full, and
then nothing is put out any more, since no row is empty.
-/

namespace SensorLog

namespace TextSink

variable {s : TextSink} {limit : Nat}

/-- A sink that has had room for everything so far. -/
theorem write_of_room (limited : s.limit? = some limit) (room : s.bytes.size ≤ limit) (text : String) :
    s.write text = ({ s with bytes := (s.bytes ++ text.toUTF8).extract 0 limit },
      if (s.bytes ++ text.toUTF8).size ≤ limit then .ok () else .error full) := by
  have fits : (s.bytes ++ text.toUTF8).size ≤ limit ↔ text.toUTF8.size ≤ limit - s.bytes.size := by
    rw [ByteArray.size_append]
    omega
  rw [write_of_limited limited, ByteArray.extract_append, extract_of_size_le room, Nat.zero_sub]
  simp only [fits]

/-- A sink that is full. -/
theorem write_of_full (limited : s.limit? = some limit) (noRoom : limit ≤ s.bytes.size) {text : String}
    (some : 0 < text.toUTF8.size) : s.write text = (s, .error full) := by
  have none : limit - s.bytes.size = 0 := Nat.sub_eq_zero_of_le noRoom
  rw [write_of_limited limited, none, ByteArray.extract_same, ByteArray.append_empty,
    if_neg (Nat.not_le.2 some)]

end TextSink

/-- The sink after rows, first row first. -/
def RowSink.afterRows {σ : Type} [RowSink σ] (sink : σ) (rows : List Row) : σ :=
  RowSink.after sink (rows.map .write)

theorem RowSink.afterRows_append {σ : Type} [RowSink σ] (sink : σ) (first second : List Row) :
    RowSink.afterRows sink (first ++ second) = RowSink.afterRows (RowSink.afterRows sink first) second := by
  rw [afterRows, List.map_append, RowSink.after_append]
  rfl

theorem RowSink.afterRows_concat {σ : Type} [RowSink σ] (sink : σ) (rows : List Row) (row : Row) :
    RowSink.afterRows sink (rows ++ [row]) = (RowSink.write (RowSink.afterRows sink rows) row).1 :=
  afterRows_append sink rows [row]

namespace RowWriter

open RowSink (afterRows)

/-- All that a writer puts out for its next row. -/
def nextText (w : RowWriter) (row : Row) : String :=
  (if w.format = .text ∧ row.header = true ∧ w.separated = false then "\n" else "") ++ w.format.row w.registry row

/-- No row is empty: its line of values has an end. -/
theorem size_nextText_pos (w : RowWriter) (row : Row) : 0 < (w.nextText row).toUTF8.size := by
  have ended : ∃ text, w.format.body w.registry row.columns row.values = text ++ "\n" := by
    cases w.format <;> exact ⟨_, rfl⟩
  obtain ⟨text, ended⟩ := ended
  have lineEnd : "\n".toByteArray.size = 1 := rfl
  simp only [nextText, RowFormat.row, ended, String.toUTF8_eq_toByteArray, String.toByteArray_append,
    ByteArray.size_append, lineEnd]
  omega

/-- A row is put out as one text; when it was granted, the mark for the blank line is set if it has a header. -/
theorem write_eq (w : RowWriter) (row : Row) :
    ∃ separated, w.write row =
        ({ w with sink := (w.sink.write (w.nextText row)).1, separated }, (w.sink.write (w.nextText row)).2) ∧
      ((w.sink.write (w.nextText row)).2 = .ok () →
        separated = (w.separated || decide (w.format = .text ∧ row.header = true))) := by
  by_cases first : w.format = .text ∧ row.header = true ∧ w.separated = false
  · have set : (w.separated || decide (w.format = .text ∧ row.header = true)) = true := by simp [first.1, first.2.1]
    rw [write, nextText, if_pos first, if_pos first, TextSink.write_append, set]
    rcases w.sink.write "\n" with ⟨sink, e | ⟨⟩⟩
    · refine ⟨w.separated, rfl, ?_⟩
      intro granted
      cases granted
    · exact ⟨true, rfl, fun _ => rfl⟩
  · have kept : (w.separated || decide (w.format = .text ∧ row.header = true)) = w.separated := by
      cases set : w.separated with
      | true => rfl
      | false => simpa [set] using first
    rw [write, nextText, if_neg first, if_neg first, String.empty_append, kept]
    exact ⟨w.separated, rfl, fun _ => rfl⟩

/-- Once the place is full no row is granted and nothing is added. -/
theorem write_of_full {w : RowWriter} {limit : Nat} (limited : w.sink.limit? = some limit)
    (noRoom : limit ≤ w.sink.bytes.size) (row : Row) :
    (w.write row).1.sink = w.sink ∧ (w.write row).2 = .error TextSink.full := by
  obtain ⟨separated, written, -⟩ := w.write_eq row
  rw [written, TextSink.write_of_full limited noRoom (w.size_nextText_pos row)]
  exact ⟨rfl, rfl⟩

theorem sink_afterRows_of_full {w : RowWriter} {limit : Nat} (limited : w.sink.limit? = some limit)
    (noRoom : limit ≤ w.sink.bytes.size) (rows : List Row) : (afterRows w rows).sink = w.sink := by
  induction rows generalizing w with
  | nil => rfl
  | cons row rest ih =>
      have same : (w.write row).1.sink = w.sink := (write_of_full limited noRoom row).1
      exact (ih (same ▸ limited) (same ▸ noRoom)).trans same

/-- A writer with a limit beside one that has none: it delivers what fits of the other's text. -/
structure Delivers (limit : Nat) (free w : RowWriter) : Prop where
  format : w.format = free.format
  registry : w.registry = free.registry
  unlimited : free.sink.limit? = none
  limited : w.sink.limit? = some limit
  bytes : w.sink.bytes = free.sink.bytes.extract 0 limit
  /-- Until the place is full the two are in step. -/
  separated : free.sink.bytes.size ≤ limit → w.separated = free.separated

/-- Once the text no longer fits the place is full. -/
theorem Delivers.full {limit : Nat} {free w : RowWriter} (beside : Delivers limit free w)
    (tooLong : ¬free.sink.bytes.size ≤ limit) : limit ≤ w.sink.bytes.size := by
  rw [beside.bytes, ByteArray.size_extract]
  omega

/-- One row keeps the two beside each other, and is granted exactly if all of the text fits. -/
theorem Delivers.write {limit : Nat} {free w : RowWriter} (beside : Delivers limit free w) (row : Row) :
    Delivers limit (free.write row).1 (w.write row).1 ∧
      (w.write row).2 = if (free.write row).1.sink.bytes.size ≤ limit then .ok () else .error TextSink.full := by
  obtain ⟨separated, written, marked⟩ := free.write_eq row
  obtain ⟨separated', written', marked'⟩ := w.write_eq row
  have granted := TextSink.write_of_unlimited beside.unlimited (free.nextText row)
  rw [granted] at written marked
  by_cases room : free.sink.bytes.size ≤ limit
  · have same : w.nextText row = free.nextText row := by
      rw [nextText, nextText, beside.format, beside.registry, beside.separated room]
    have bytes : w.sink.bytes = free.sink.bytes := by rw [beside.bytes, TextSink.extract_of_size_le room]
    have taken := TextSink.write_of_room beside.limited (bytes ▸ room) (w.nextText row)
    rw [same, bytes] at taken
    rw [same, taken] at written' marked'
    rw [written, written']
    refine ⟨⟨beside.format, beside.registry, beside.unlimited, beside.limited, rfl, ?_⟩, rfl⟩
    intro fits
    show separated' = separated
    rw [marked rfl, marked' (if_pos fits), beside.separated room, beside.format]
  · obtain ⟨kept, refused⟩ := write_of_full beside.limited (beside.full room) row
    have tooLong : ¬(free.sink.bytes ++ (free.nextText row).toUTF8).size ≤ limit := by
      rw [ByteArray.size_append]
      omega
    have cut : (free.sink.bytes ++ (free.nextText row).toUTF8).extract 0 limit = free.sink.bytes.extract 0 limit := by
      have none : limit - free.sink.bytes.size = 0 := by omega
      rw [ByteArray.extract_append, none, Nat.zero_sub, ByteArray.extract_same, ByteArray.append_empty]
    rw [written, written'] at *
    refine ⟨⟨beside.format, beside.registry, beside.unlimited, ?_, ?_, fun fits => absurd fits tooLong⟩, ?_⟩
    · exact (congrArg TextSink.limit? kept).trans beside.limited
    · exact (congrArg TextSink.bytes kept).trans (beside.bytes.trans cut.symm)
    · exact refused.trans (if_neg tooLong).symm

theorem Delivers.afterRows {limit : Nat} {free w : RowWriter} (beside : Delivers limit free w) (rows : List Row) :
    Delivers limit (afterRows free rows) (afterRows w rows) := by
  induction rows generalizing free w with
  | nil => exact beside
  | cons row rest ih => exact ih (beside.write row).1

/-- A writer that has written nothing yet. -/
def start (format : RowFormat) (r : Registry) (limit? : Option Nat) : RowWriter :=
  { format, registry := r, sink := { limit? } }

/-- What a writer without a limit puts out for rows. -/
def textOf (format : RowFormat) (r : Registry) (rows : List Row) : ByteArray :=
  (afterRows (start format r none) rows).sink.bytes

theorem textOf_eq (format : RowFormat) (r : Registry) (rows : List Row) :
    textOf format r rows = (format.render r rows).toUTF8 := by
  have kept (s : RowList) : (afterRows s rows).rows.toList = s.rows.toList ++ rows := by
    induction rows generalizing s with
    | nil => exact (List.append_nil _).symm
    | cons row rest ih =>
        refine (ih ⟨s.rows.push row⟩).trans ?_
        rw [Array.toList_push, List.append_assoc, List.singleton_append]
  have written := (RowList.respects_written format r).after {} (rows.map .write)
  rw [RowList.written_empty] at written
  rw [textOf, start, RowSink.afterRows, written]
  show (format.render r (afterRows ({} : RowList) rows).rows.toList).toUTF8 = _
  rw [kept, List.nil_append]

/-- For every format, registry and limit: what is delivered is the beginning of the text without a limit, a row is
    granted exactly if that text fits up to its end, and behind a row that was not granted nothing is added and
    nothing granted. Aligned text has one blank line, right ahead of the names in its first header, and none without
    a header. None of this depends on the pieces that the text is written in. -/
theorem filling_exact (format : RowFormat) (r : Registry) (limit : Nat) :
    (∀ rows, (afterRows (start format r (some limit)) rows).sink.bytes = (textOf format r rows).extract 0 limit) ∧
    (∀ earlier row, (write (afterRows (start format r (some limit)) earlier) row).2 =
      if (textOf format r (earlier ++ [row])).size ≤ limit then .ok () else .error TextSink.full) ∧
    (∀ earlier row, (write (afterRows (start format r (some limit)) earlier) row).2 ≠ .ok () → ∀ later,
      (afterRows (start format r (some limit)) (earlier ++ row :: later)).sink =
        (write (afterRows (start format r (some limit)) earlier) row).1.sink ∧
      ∀ next, (write (afterRows (start format r (some limit)) (earlier ++ row :: later)) next).2 =
        .error TextSink.full) ∧
    (∀ before first later, (∀ row ∈ before, row.header = false) → first.header = true →
      textOf .text r (before ++ first :: later) =
        (String.join (before.map fun row => RowFormat.text.body r row.columns row.values) ++
          ("\n" ++
            (RowFormat.line (String.join (first.columns.map RowFormat.pad)) ++
              RowFormat.line (String.join (first.columns.map fun c => RowFormat.pad (RowFormat.unitText r c))) ++
              RowFormat.text.body r first.columns first.values ++
            String.join (later.map (RowFormat.text.row r))))).toUTF8) ∧
    (∀ rows, (∀ row ∈ rows, row.header = false) → textOf .text r rows =
      (String.join (rows.map fun row => RowFormat.text.body r row.columns row.values)).toUTF8) ∧
    ∀ cutting limit? rows,
      let inPieces : PieceWriter := { format, registry := r, cutting, sink := { limit? } }
      (afterRows inPieces rows).sink = (afterRows (start format r limit?) rows).sink ∧
      ∀ row, (RowSink.write (afterRows inPieces rows) row).2 = (write (afterRows (start format r limit?) rows) row).2
    := by
  have begun : Delivers limit (start format r none) (start format r (some limit)) :=
    ⟨rfl, rfl, rfl, rfl, (TextSink.extract_of_size_le (Nat.zero_le _)).symm, fun _ => rfl⟩
  have beside (rows : List Row) := begun.afterRows rows
  have answer (earlier : List Row) (row : Row) :
      (write (afterRows (start format r (some limit)) earlier) row).2 =
        if (textOf format r (earlier ++ [row])).size ≤ limit then .ok () else .error TextSink.full := by
    rw [textOf, RowSink.afterRows_concat]
    exact ((beside earlier).write row).2
  refine ⟨fun rows => (beside rows).bytes, answer, ?_, ?_, ?_, ?_⟩
  · intro earlier row refused later
    obtain ⟨last, granted⟩ := (beside earlier).write row
    have tooLong := fun fits => refused (granted.trans (if_pos fits))
    have rest := RowSink.afterRows_append (start format r (some limit)) (earlier ++ [row]) later
    rw [List.append_assoc, List.singleton_append, RowSink.afterRows_concat] at rest
    have kept := sink_afterRows_of_full last.limited (last.full tooLong) later
    rw [rest]
    have limited := (congrArg TextSink.limit? kept).trans last.limited
    have noRoom := (last.full tooLong).trans_eq (congrArg (fun sink => sink.bytes.size) kept).symm
    exact ⟨kept, fun next => (write_of_full limited noRoom next).2⟩
  · intro before first later unmarked marked
    rw [textOf_eq, RowFormat.render_of_first _ _ unmarked marked, if_pos rfl, List.map_cons, String.join_cons,
      RowFormat.row, if_pos marked]
    rfl
  · intro rows unmarked
    rw [textOf_eq, RowFormat.render_of_unmarked _ _ unmarked]
  · intro cutting limit? rows inPieces
    have same : (afterRows inPieces rows).toRowWriter = afterRows (start format r limit?) rows := by
      have begun : inPieces.toRowWriter = start format r limit? := by
        simp [PieceWriter.toRowWriter, start, inPieces]
      rw [← begun]
      exact (PieceWriter.respects_toRowWriter.after inPieces _).symm
    constructor
    · rw [← same]
      rfl
    · intro row
      have respected := PieceWriter.respects_toRowWriter (afterRows inPieces rows) (.write row)
      rw [same] at respected
      exact (congrArg Prod.snd respected).symm

end RowWriter

end SensorLog
