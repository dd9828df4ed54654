import SensorLog.Proofs.Row.Rendering

/-!
# Rows that are written in pieces

A row reaches the place it is written to in many small writes: the blank line, the words of each line and its end,
and every one of them may be cut again by whoever puts the text together. `Writing` spells the writes out in their
order, with a count of the headers; the first write that is refused ends the row, and what was written before it
stays. A text sink takes pieces as it takes the joined text (`TextSink.writeAll_eq`), so however the text is cut, a
`PieceWriter` is known by the `RowWriter` that it amounts to (`PieceWriter.respects_toRowWriter`).
-/

namespace SensorLog

namespace TextSink

variable {s : TextSink}

theorem extract_of_size_le {b : ByteArray} {n : Nat} (all : b.size ≤ n) : b.extract 0 n = b := by
  rw [← Nat.max_eq_left all, ByteArray.extract_zero_max_size]

/-- A sink with a limit keeps what fits and answers whether that was all. -/
theorem write_of_limited {limit : Nat} (limited : s.limit? = some limit) (text : String) :
    s.write text = ({ s with bytes := s.bytes ++ text.toUTF8.extract 0 (limit - s.bytes.size) },
      if text.toUTF8.size ≤ limit - s.bytes.size then .ok () else .error full) := by
  unfold write
  rw [limited]
  dsimp only
  split
  · rename_i fits
    rw [extract_of_size_le fits]
  · rfl

theorem write_empty (s : TextSink) : s.write "" = (s, .ok ()) := by
  have nothing : s.bytes ++ "".toUTF8 = s.bytes := ByteArray.append_empty
  cases limited : s.limit? with
  | none => rw [write_of_unlimited limited, nothing]
  | some limit =>
      have fits : "".toUTF8.size ≤ limit - s.bytes.size := Nat.zero_le _
      rw [write_of_limited limited, extract_of_size_le fits, nothing, if_pos fits]

/-- A text may be written in two parts; the second is not written if the first did not fit. -/
theorem write_append (s : TextSink) (first second : String) :
    s.write (first ++ second) = match s.write first with
      | (s', .ok ()) => s'.write second
      | (s', .error e) => (s', .error e) := by
  have bytes : (first ++ second).toUTF8 = first.toUTF8 ++ second.toUTF8 := String.toByteArray_append
  cases limited : s.limit? with
  | none =>
      rw [write_of_unlimited limited, write_of_unlimited limited, bytes, ← ByteArray.append_assoc]
      exact (write_of_unlimited (s := { s with bytes := s.bytes ++ first.toUTF8 }) limited second).symm
  | some limit =>
      rw [write_of_limited limited, write_of_limited limited, bytes]
      by_cases fits : first.toUTF8.size ≤ limit - s.bytes.size
      · have next := write_of_limited
          (show ({ s with bytes := s.bytes ++ first.toUTF8 } : TextSink).limit? = some limit from limited) second
        have left : limit - (s.bytes ++ first.toUTF8).size = limit - s.bytes.size - first.toUTF8.size := by
          rw [ByteArray.size_append]
          omega
        have room : (first.toUTF8 ++ second.toUTF8).size ≤ limit - s.bytes.size ↔
            second.toUTF8.size ≤ limit - s.bytes.size - first.toUTF8.size := by
          rw [ByteArray.size_append]
          omega
        rw [if_pos fits, extract_of_size_le fits]
        dsimp only
        rw [next]
        simp only [left, room, ByteArray.extract_append, extract_of_size_le fits, Nat.zero_sub,
          ByteArray.append_assoc]
      · have tooLong : ¬(first.toUTF8 ++ second.toUTF8).size ≤ limit - s.bytes.size := by
          rw [ByteArray.size_append]
          omega
        have noRoom : limit - s.bytes.size - first.toUTF8.size = 0 := by omega
        rw [if_neg fits, if_neg tooLong, ByteArray.extract_append, noRoom, Nat.zero_sub, ByteArray.extract_same,
          ByteArray.append_empty]

/-- Writes texts one after another, up to the first that is refused. -/
def writeAll (s : TextSink) : List String → TextSink × Except IoError Unit
  | [] => (s, .ok ())
  | text :: rest =>
    match s.write text with
    | (s', .ok ()) => s'.writeAll rest
    | (s', .error e) => (s', .error e)

theorem writeAll_eq (s : TextSink) (texts : List String) : s.writeAll texts = s.write (String.join texts) := by
  induction texts generalizing s with
  | nil => exact (write_empty s).symm
  | cons text rest ih =>
      rw [writeAll, String.join_cons, write_append]
      rcases s.write text with ⟨s', e | ⟨⟩⟩
      · rfl
      · exact ih s'

end TextSink

/-- A way of cutting texts into pieces. -/
structure Cutting where
  cut : String → List String
  join_cut : ∀ text, String.join (cut text) = text

/-- A sink that writes rows in a format, piece by piece. -/
structure PieceWriter where
  format : RowFormat
  registry : Registry
  cutting : Cutting
  sink : TextSink
  /-- How many headers of aligned text were begun. -/
  headers : Nat := 0

/-- Writes that end with the first one that is refused; what was written before it stays. -/
abbrev Writing := EStateM IoError PieceWriter

namespace Writing

/-- Writes the pieces of a text. -/
def pieces (text : String) : Writing Unit := fun w =>
  match w.sink.writeAll (w.cutting.cut text) with
  | (sink, .ok ()) => .ok () { w with sink }
  | (sink, .error e) => .error e { w with sink }

/-- Writes one line, its end apart. -/
def line (text : String) : Writing Unit := do
  pieces text
  pieces "\n"

/-- Begins a header: aligned text has a blank line ahead of its first. -/
def opening : Writing Unit := do
  let w ← get
  if w.format = .text then
    if w.headers = 0 then pieces "\n"
    modify fun w => { w with headers := w.headers + 1 }

/-- Writes the header lines for columns. -/
def header (columns : List String) : Writing Unit := do
  let w ← get
  match w.format with
  | .text =>
    line (String.join (columns.map RowFormat.pad))
    line (String.join (columns.map fun c => RowFormat.pad (RowFormat.unitText w.registry c)))
  | .csv => line (String.intercalate "," columns)
  | .json => line (Json.ofTexts columns).render

/-- Writes the line of values. -/
def body (columns : List String) (values : List Value) : Writing Unit := do
  let w ← get
  match w.format with
  | .text =>
    line (String.join ((columns.zip values).map fun (c, v) => RowFormat.pad (RowFormat.cellText w.registry c v)))
  | .csv => line (String.intercalate "," (values.map (·.text)))
  | .json => line (Json.array (values.map (·.toJson))).render

/-- Writes a row and its header. -/
def row (row : Row) : Writing Unit := do
  if row.header then
    opening
    header row.columns
  body row.columns row.values

/-- Writes a text at once. -/
def whole (text : String) : Writing Unit := fun w =>
  match w.sink.write text with
  | (sink, .ok ()) => .ok () { w with sink }
  | (sink, .error e) => .error e { w with sink }

theorem pieces_eq (text : String) : pieces text = whole text := by
  funext w
  rw [pieces, TextSink.writeAll_eq, w.cutting.join_cut]
  rfl

theorem whole_append (first second : String) :
    whole (first ++ second) = (do whole first; whole second) := by
  funext w
  show _ = EStateM.bind (whole first) (fun _ => whole second) w
  unfold whole EStateM.bind
  rw [TextSink.write_append]
  rcases written : w.sink.write first with ⟨sink, e | ⟨⟩⟩ <;> simp only [written]

theorem line_eq (text : String) : line text = whole (RowFormat.line text) := by
  rw [line, pieces_eq, pieces_eq, RowFormat.line, whole_append]

theorem run_whole (text : String) (w : PieceWriter) :
    (whole text).run w = match w.sink.write text with
      | (sink, .ok ()) => .ok () { w with sink }
      | (sink, .error e) => .error e { w with sink } := rfl

theorem run_body (columns : List String) (values : List Value) (w : PieceWriter) :
    (body columns values).run w = (whole (w.format.body w.registry columns values)).run w := by
  show EStateM.run (match w.format with | .text => _ | .csv => _ | .json => _) w = _
  cases w.format <;> simp only [line_eq, RowFormat.body]

theorem run_header (columns : List String) (w : PieceWriter) :
    (header columns).run w = (whole (w.format.header w.registry columns)).run w := by
  show EStateM.run (match w.format with | .text => _ | .csv => _ | .json => _) w = _
  cases w.format <;> simp only [line_eq, RowFormat.header, whole_append]

theorem run_row_of_unmarked {row : Row} (w : PieceWriter) (unmarked : row.header = false) :
    (Writing.row row).run w = (whole (w.format.row w.registry row)).run w := by
  simp only [Writing.row, RowFormat.row, unmarked, Bool.false_eq_true, if_false, String.empty_append]
  exact run_body _ _ _

/-- A row that has a header is written at once behind the opening. -/
theorem run_row_of_marked {row : Row} (w : PieceWriter) (marked : row.header = true) :
    (Writing.row row).run w = match opening.run w with
      | .ok () w' => (whole (w'.format.row w'.registry row)).run w'
      | .error e w' => .error e w' := by
  have lines (w : PieceWriter) :
      EStateM.run (do header row.columns; body row.columns row.values) w =
        (whole (w.format.row w.registry row)).run w := by
    rw [RowFormat.row, if_pos marked, whole_append, EStateM.run_bind, EStateM.run_bind, run_header, run_whole]
    rcases w.sink.write (w.format.header w.registry row.columns) with ⟨sink, e | ⟨⟩⟩
    · rfl
    · exact run_body _ _ _
  have apart : Writing.row row = (do opening; (do header row.columns; body row.columns row.values)) := by
    rw [Writing.row, marked]
    rfl
  rw [apart, EStateM.run_bind]
  cases opening.run w with
  | error e w => dsimp only
  | ok _ w => exact lines w

theorem run_opening_of_first {w : PieceWriter} (aligned : w.format = .text) (first : w.headers = 0) :
    opening.run w = match w.sink.write "\n" with
      | (sink, .ok ()) => .ok () { w with sink, headers := 1 }
      | (sink, .error e) => .error e { w with sink } := by
  simp only [opening, EStateM.run_bind, EStateM.run_get, aligned, first, if_true, pieces_eq, run_whole]
  rcases w.sink.write "\n" with ⟨sink, e | ⟨⟩⟩
  · rfl
  · simp only [EStateM.run_modify]

theorem run_opening_of_later {w : PieceWriter} (aligned : w.format = .text) (later : w.headers ≠ 0) :
    opening.run w = .ok () { w with headers := w.headers + 1 } := by
  simp only [opening, EStateM.run_bind, EStateM.run_get, aligned, later, if_true, if_false, EStateM.run_modify]

theorem run_opening_of_other {w : PieceWriter} (other : w.format ≠ .text) : opening.run w = .ok () w := by
  simp only [opening, EStateM.run_bind, EStateM.run_get, other, if_false, EStateM.run_pure]

end Writing

namespace PieceWriter

/-- The writer that writes each row at once. -/
def toRowWriter (w : PieceWriter) : RowWriter where
  format := w.format
  registry := w.registry
  sink := w.sink
  separated := decide (w.format = .text ∧ 0 < w.headers)

/-- Where writes have led to, and how they went. -/
def ended : EStateM.Result IoError PieceWriter Unit → PieceWriter × Except IoError Unit
  | .ok () w => (w, .ok ())
  | .error e w => (w, .error e)

instance : RowSink PieceWriter where
  write w row := ended ((Writing.row row).run w)
  flush w :=
    let (sink, result) := w.sink.flush
    ({ w with sink }, result)

theorem ended_whole (text : String) (w : PieceWriter) :
    ended ((Writing.whole text).run w) = ({ w with sink := (w.sink.write text).1 }, (w.sink.write text).2) := by
  rw [Writing.run_whole]
  rcases w.sink.write text with ⟨sink, e | ⟨⟩⟩ <;> rfl

theorem ended_lines (w : PieceWriter) (row : Row) :
    (toRowWriter (ended ((Writing.whole (w.format.row w.registry row)).run w)).1,
      (ended ((Writing.whole (w.format.row w.registry row)).run w)).2) = w.toRowWriter.writeLines row := by
  rw [ended_whole]
  rfl

/-- A writer in pieces leaves what the writer of whole rows leaves, and gets the same answers. -/
theorem respects_toRowWriter : RowSink.Respects toRowWriter := by
  intro w c
  cases c with
  | flush => rfl
  | write row =>
      show w.toRowWriter.write row =
        (toRowWriter (ended ((Writing.row row).run w)).1, (ended ((Writing.row row).run w)).2)
      have direct (other : ¬(w.format = .text ∧ row.header = true ∧ w.toRowWriter.separated = false)) :
          w.toRowWriter.write row = w.toRowWriter.writeLines row := if_neg other
      cases marked : row.header with
      | false =>
          rw [Writing.run_row_of_unmarked w marked, ended_lines, direct (by simp [marked])]
      | true =>
          rw [Writing.run_row_of_marked w marked]
          by_cases aligned : w.format = .text
          · by_cases first : w.headers = 0
            · have blank : w.toRowWriter.format = .text ∧ row.header = true ∧ w.toRowWriter.separated = false :=
                ⟨aligned, marked, by simp [toRowWriter, first]⟩
              have below : w.toRowWriter.sink = w.sink := rfl
              rw [Writing.run_opening_of_first aligned first, RowWriter.write, if_pos blank, below]
              rcases w.sink.write "\n" with ⟨sink, e | ⟨⟩⟩
              · rfl
              · have counted : ({ w with sink, headers := 1 } : PieceWriter).toRowWriter =
                    { w.toRowWriter with sink, separated := true } := by simp [toRowWriter, aligned]
                dsimp only
                rw [← counted]
                exact (ended_lines _ row).symm
            · have positive : 0 < w.headers := Nat.pos_of_ne_zero first
              have counted : ({ w with headers := w.headers + 1 } : PieceWriter).toRowWriter = w.toRowWriter := by
                simp [toRowWriter, positive]
              rw [Writing.run_opening_of_later aligned first, direct (by simp [toRowWriter, aligned, positive]),
                ← counted]
              exact (ended_lines _ row).symm
          · rw [Writing.run_opening_of_other aligned, direct (fun first => aligned first.1)]
            exact (ended_lines w row).symm

end PieceWriter

end SensorLog
