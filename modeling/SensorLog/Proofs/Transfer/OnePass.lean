import SensorLog.Proofs.Frame.Front
import SensorLog.Proofs.Row.Calls
import SensorLog.Transfer.Basic

/-!
# Reading a byte string in one pass

`onePass` reads a whole byte string from front to back, with no packets, no pending state and no
retries: stop at the entry limit; read a length; refuse zero; take as many bytes or stop; decode;
stop at the end of the log, at a payload that does not decode and at a column without a field;
otherwise give a row and go on. It is what a transfer is measured against. `onePass_append` says how
a pass goes on when bytes are added at the end.
-/

namespace SensorLog

/-- Why a payload gives no row. -/
inductive NoRow
  | endOfLog
  | corrupt (cause : SchemaError)
  | mismatch (cause : SchemaError)
  | unknownColumn (cause : SchemaError)
deriving DecidableEq, Repr

/-- Why a pass goes no further. -/
inductive Halt
  /-- The bytes end before a frame does; these are left. -/
  | starved (rest : Bytes)
  | limit
  | zeroLength
  | noRow (reason : NoRow)
deriving DecidableEq, Repr

/-- What a pass comes to. -/
structure OnePass where
  rows : List Row
  halt : Halt

/-- The pass with rows before its rows. -/
def OnePass.behind (rows : List Row) (pass : OnePass) : OnePass :=
  { pass with rows := rows ++ pass.rows }

/-- What decides how bytes are read. -/
structure Setup where
  settings : Settings
  registry : Registry
  codec : RecordCodec

namespace Setup

/-- Whether a number of entries is enough. -/
def enough (setup : Setup) (entries : Nat) : Bool :=
  setup.settings.maxEntries?.any (· ≤ entries)

/-- The value of a reading: itself, or the quantity in the unit of its column. -/
def value (setup : Setup) (cell : String × Int) : Except SchemaError Value :=
  if setup.settings.raw then .ok (.int cell.2)
  else (setup.registry.toUnit cell.1 (floatOfReading cell.2)).map .real

/-- Raw readings need no unit, so every record has its values. -/
theorem mapM_value_of_raw {setup : Setup} (raw : setup.settings.raw = true) (cells : List (String × Int)) :
    cells.mapM setup.value = .ok (cells.map fun cell => .int cell.2) := by
  induction cells with
  | nil => rfl
  | cons cell rest ih =>
      have first : setup.value cell = .ok (.int cell.2) := if_pos raw
      rw [List.mapM_cons, ih, first]
      rfl

/-- The row of a payload behind a row with the given columns. -/
def row (setup : Setup) (columns? : Option (List String)) (payload : Bytes) : Except NoRow Row :=
  match setup.codec.decode payload with
  | .error cause => .error (if cause.isMismatch then .mismatch cause else .corrupt cause)
  | .ok record =>
    if record.isEndOfLog then .error .endOfLog
    else
      match record.cells.mapM setup.value with
      | .error cause => .error (.unknownColumn cause)
      | .ok values =>
        .ok { columns := record.columns, values, header := columns? != some record.columns }

/-- A pass over a byte string, behind a row with the given columns and a number of entries. -/
def onePass (setup : Setup) (columns? : Option (List String)) (entries : Nat) (input : Bytes) : OnePass :=
  if setup.enough entries then ⟨[], .limit⟩
  else
    match front : frontOf input with
    | .starved => ⟨[], .starved input⟩
    | .zeroLength => ⟨[], .zeroLength⟩
    | .payload window rest =>
      match setup.row columns? window with
      | .error reason => ⟨[], .noRow reason⟩
      | .ok row =>
        have := length_rest_lt front
        (setup.onePass (some row.columns) (entries + 1) rest).behind [row]
termination_by input.length

variable {setup : Setup} {columns? : Option (List String)} {entries : Nat} {input : Bytes}

theorem onePass_of_enough (enough : setup.enough entries = true) :
    setup.onePass columns? entries input = ⟨[], .limit⟩ := by
  rw [onePass, if_pos enough]

/-- How a pass goes on from the front of its bytes. -/
def passFrom (setup : Setup) (columns? : Option (List String)) (entries : Nat) (input : Bytes) :
    Front → OnePass
  | .starved => ⟨[], .starved input⟩
  | .zeroLength => ⟨[], .zeroLength⟩
  | .payload window rest =>
    match setup.row columns? window with
    | .error reason => ⟨[], .noRow reason⟩
    | .ok row => (setup.onePass (some row.columns) (entries + 1) rest).behind [row]

theorem onePass_of_below (below : setup.enough entries = false) :
    setup.onePass columns? entries input = setup.passFrom columns? entries input (frontOf input) := by
  rw [onePass, if_neg (by simp [below])]
  split
  · rename_i front; rw [front]; rfl
  · rename_i front; rw [front]; rfl
  · rename_i front; simp only [front]; rfl

/-- The columns of the last of some rows; those before them if there is none. -/
def lastColumns (columns? : Option (List String)) (rows : List Row) : Option (List String) :=
  rows.foldl (fun _ row => some row.columns) columns?

/-- The pass over more bytes than a pass was given. -/
def extend (setup : Setup) (columns? : Option (List String)) (entries : Nat) (more : Bytes)
    (pass : OnePass) : OnePass :=
  match pass.halt with
  | .starved rest =>
    (setup.onePass (lastColumns columns? pass.rows) (entries + pass.rows.length) (rest ++ more)).behind
      pass.rows
  | _ => pass

theorem extend_behind (row : Row) (more : Bytes) (pass : OnePass) :
    setup.extend columns? entries more (pass.behind [row])
      = (setup.extend (some row.columns) (entries + 1) more pass).behind [row] := by
  obtain ⟨rows, halt⟩ := pass
  cases halt with
  | starved rest =>
      simp only [extend, OnePass.behind, lastColumns, List.cons_append, List.nil_append,
        List.foldl_cons, List.length_cons]
      rw [show entries + (rows.length + 1) = entries + 1 + rows.length by omega]
  | limit => rfl
  | zeroLength => rfl
  | noRow reason => rfl

/-- A pass that ran out of bytes goes on from what it left when there are more; any other pass has
    come to its end. -/
theorem onePass_append (setup : Setup) (columns? : Option (List String)) (entries : Nat)
    (input more : Bytes) :
    setup.onePass columns? entries (input ++ more)
      = setup.extend columns? entries more (setup.onePass columns? entries input) := by
  induction length : input.length using Nat.strongRecOn generalizing columns? entries input with
  | ind n ih =>
      cases enough : setup.enough entries with
      | true => rw [onePass_of_enough enough, onePass_of_enough enough]; rfl
      | false =>
          rw [show setup.onePass columns? entries input = _ from onePass_of_below enough]
          cases front : frontOf input with
          | starved => rfl
          | zeroLength => rw [onePass_of_below enough, frontOf_append_of_zeroLength more front]; rfl
          | payload window rest =>
              rw [onePass_of_below enough, frontOf_append_of_payload more front]
              simp only [passFrom]
              cases setup.row columns? window with
              | error reason => rfl
              | ok row =>
                  have shorter := ih rest.length (length ▸ length_rest_lt front)
                    (some row.columns) (entries + 1) rest rfl
                  simp only [shorter, extend_behind]

/-- What a pass leaves over is the end of its bytes. -/
theorem suffix_of_starved {left : Bytes} (starved : (setup.onePass columns? entries input).halt = .starved left) :
    left <:+ input := by
  induction length : input.length using Nat.strongRecOn generalizing columns? entries input with
  | ind n ih =>
      cases enough : setup.enough entries with
      | true =>
          rw [onePass_of_enough enough] at starved
          cases starved
      | false =>
          rw [onePass_of_below enough] at starved
          cases front : frontOf input with
          | starved =>
              rw [front] at starved
              cases starved
              exact List.suffix_refl _
          | zeroLength =>
              rw [front] at starved
              cases starved
          | payload window rest =>
              rw [front, passFrom] at starved
              cases row : setup.row columns? window with
              | error reason =>
                  rw [row] at starved
                  cases starved
              | ok row' =>
                  rw [row] at starved
                  have later := ih rest.length (length ▸ length_rest_lt front) starved rfl
                  exact later.trans (suffix_of_payload front)

end Setup

end SensorLog
