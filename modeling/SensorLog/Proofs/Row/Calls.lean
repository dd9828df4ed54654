import Mathlib
import SensorLog.Row.Basic

/-!
# Calls to a sink

A sink is known by the calls that reach it. `Noted` wraps any sink and keeps the calls with their
results, so that a statement about the calls of a transfer is one about its noted sink.
-/

namespace SensorLog

/-- A call to a sink. -/
inductive SinkCall
  | write (row : Row)
  | flush

namespace RowSink

variable {σ : Type} [RowSink σ]

/-- The sink after a call, and how the call went. -/
def call (sink : σ) : SinkCall → σ × Except IoError Unit
  | .write row => write sink row
  | .flush => flush sink

/-- The sink after calls, first call first. -/
def after (sink : σ) (calls : List SinkCall) : σ :=
  calls.foldl (fun sink c => (call sink c).1) sink

/-- No call fails, whatever was called before it. -/
def NeverFails (sink : σ) : Prop :=
  ∀ earlier next, (call (after sink earlier) next).2 = .ok ()

@[simp] theorem after_nil (sink : σ) : after sink [] = sink := rfl

@[simp] theorem after_cons (sink : σ) (c : SinkCall) (calls : List SinkCall) :
    after sink (c :: calls) = after (call sink c).1 calls := rfl

theorem after_append (sink : σ) (first second : List SinkCall) :
    after sink (first ++ second) = after (after sink first) second :=
  List.foldl_append

theorem NeverFails.after {sink : σ} (faithful : NeverFails sink) (calls : List SinkCall) :
    NeverFails (RowSink.after sink calls) := by
  intro earlier next
  rw [← after_append]
  exact faithful _ next

theorem NeverFails.call {sink : σ} (faithful : NeverFails sink) (next : SinkCall) :
    RowSink.call sink next = (RowSink.after sink [next], .ok ()) :=
  Prod.ext rfl (faithful [] next)

/-- A sink never fails as long as something holds of it that makes each call succeed and is kept. -/
theorem neverFails_of_kept {P : σ → Prop} {sink : σ} (begun : P sink)
    (kept : ∀ s c, P s → (call s c).2 = .ok () ∧ P (call s c).1) : NeverFails sink := by
  have later (earlier : List SinkCall) : P (RowSink.after sink earlier) := by
    induction earlier generalizing sink with
    | nil => exact begun
    | cons c rest ih => exact ih (kept sink c begun).2
  intro earlier next
  exact (kept _ next (later earlier)).1

theorem neverFails_rowList (sink : RowList) : NeverFails sink := by
  intro earlier next
  cases next <;> rfl

end RowSink

/-- A sink that notes every call and its result and hands the call on. -/
structure Noted (σ : Type) where
  sink : σ
  notes : List (SinkCall × Except IoError Unit) := []

namespace Noted

variable {σ : Type} [RowSink σ]

/-- The sink after a call that was noted. -/
def call (s : Noted σ) (c : SinkCall) : Noted σ × Except IoError Unit :=
  let (sink, result) := RowSink.call s.sink c
  ({ sink, notes := s.notes ++ [(c, result)] }, result)

instance : RowSink (Noted σ) where
  write s row := s.call (.write row)
  flush s := s.call .flush

theorem call_eq (s : Noted σ) (c : SinkCall) : RowSink.call s c = s.call c := by
  cases c <;> rfl

theorem sink_after (s : Noted σ) (calls : List SinkCall) :
    (RowSink.after s calls).sink = RowSink.after s.sink calls := by
  induction calls generalizing s with
  | nil => rfl
  | cons c calls ih => rw [RowSink.after_cons, call_eq, ih]; rfl

/-- Noting lets no call fail. -/
theorem neverFails {s : Noted σ} (faithful : RowSink.NeverFails s.sink) : RowSink.NeverFails s := by
  intro earlier next
  rw [call_eq]
  exact (congrArg (fun sink => (RowSink.call sink next).2) (sink_after s earlier)).trans
    (faithful earlier next)

/-- On a sink that never fails the notes are the calls. -/
theorem notes_after {s : Noted σ} (faithful : RowSink.NeverFails s.sink) (calls : List SinkCall) :
    (RowSink.after s calls).notes = s.notes ++ calls.map fun c => (c, .ok ()) := by
  induction calls generalizing s with
  | nil => simp
  | cons c calls ih =>
      have granted := faithful.call c
      rw [RowSink.after_cons, call_eq, ih]
      · simp only [call, granted, List.map_cons, List.append_assoc, List.singleton_append]
      · simp only [call, granted]
        exact faithful.after [c]

end Noted

end SensorLog
