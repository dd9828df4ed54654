import SensorLog.Bytes.Hex

/-!
# The attempt log

Each run of the codec on a whole payload is an `Attempt`. An `AttemptLog` keeps the latest ones, up
to a limit; with a limit of zero it keeps none.
-/

namespace SensorLog

/-- One run of the codec. -/
structure Attempt where
  /-- Frames decoded before it. -/
  seq : Nat
  /-- Announced payload length. -/
  size : Nat
  /-- The payload as it was read. -/
  raw : Bytes
  /-- The error, if it failed. -/
  error? : Option String
deriving DecidableEq, Repr

/-- The latest attempts, oldest first. -/
structure AttemptLog where
  limit : Nat
  attempts : List Attempt := []
deriving DecidableEq, Repr

namespace AttemptLog

/-- The limit of a log unless told otherwise. -/
def defaultLimit : Nat := 32

/-- The log after one more attempt; a full log loses its oldest. -/
def record (log : AttemptLog) (a : Attempt) : AttemptLog :=
  if log.limit = 0 then log
  else if log.attempts.length = log.limit then { log with attempts := log.attempts.drop 1 ++ [a] }
  else { log with attempts := log.attempts ++ [a] }

/-- The latest attempt. -/
def last? (log : AttemptLog) : Option Attempt :=
  log.attempts.getLast?

/-- The log keeps the tail of all attempts. -/
theorem attempts_record {log : AttemptLog} (h : log.attempts.length ≤ log.limit) (a : Attempt) :
    (log.record a).attempts
      = (log.attempts ++ [a]).drop (log.attempts.length + 1 - log.limit) := by
  unfold record
  split
  · rename_i hzero
    have hnil : log.attempts = [] := List.eq_nil_of_length_eq_zero (by omega)
    simp [hnil, hzero]
  · rename_i hpos
    split
    · rename_i hfull
      have hone : log.attempts.length + 1 - log.limit = 1 := by omega
      rw [hone, List.drop_append_of_le_length (by omega)]
    · rename_i hroom
      have hnone : log.attempts.length + 1 - log.limit = 0 := by omega
      rw [hnone, List.drop_zero]

theorem length_record_le {log : AttemptLog} (h : log.attempts.length ≤ log.limit) (a : Attempt) :
    (log.record a).attempts.length ≤ (log.record a).limit := by
  unfold record
  split
  · exact h
  · split
    · simp only [List.length_append, List.length_drop, List.length_cons, List.length_nil]
      omega
    · simp only [List.length_append, List.length_cons, List.length_nil]
      omega

end AttemptLog

end SensorLog
