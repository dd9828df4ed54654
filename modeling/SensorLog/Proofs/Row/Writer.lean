import SensorLog.Proofs.Row.Calls
import SensorLog.Row.Writer

/-!
# Writers without a limit

A `RowWriter` fails only if the place that it writes to is full or cannot be flushed.
-/

namespace SensorLog

namespace RowWriter

/-- The place that is written to has no limit and can be flushed. -/
def Unlimited (w : RowWriter) : Prop :=
  w.sink.limit? = none ∧ w.sink.flushFails = false

theorem Unlimited.writeLines {w : RowWriter} (unlimited : w.Unlimited) (row : Row) :
    (w.writeLines row).2 = .ok () ∧ (w.writeLines row).1.Unlimited := by
  have written := TextSink.write_of_unlimited unlimited.1
  unfold RowWriter.writeLines
  rw [written]
  exact ⟨rfl, unlimited⟩

theorem Unlimited.write {w : RowWriter} (unlimited : w.Unlimited) (row : Row) :
    (w.write row).2 = .ok () ∧ (w.write row).1.Unlimited := by
  have written := TextSink.write_of_unlimited unlimited.1
  unfold RowWriter.write
  split
  · simp only [written]
    apply Unlimited.writeLines
    exact unlimited
  · exact unlimited.writeLines row

/-- A writer without a limit takes all rows. -/
theorem Unlimited.neverFails {w : RowWriter} (unlimited : w.Unlimited) : RowSink.NeverFails w := by
  refine RowSink.neverFails_of_kept unlimited ?_
  intro w c unlimited
  cases c with
  | write row => exact unlimited.write row
  | flush =>
      constructor
      · show (if w.sink.flushFails then _ else _) = _
        rw [unlimited.2]
        rfl
      · exact unlimited

end RowWriter

end SensorLog
