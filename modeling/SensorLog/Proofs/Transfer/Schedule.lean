import SensorLog.Proofs.Transfer.Driving
import SensorLog.Transfer.Schedule

/-!
# What a driver sees of a source over time

The steps of a schedule fall into two parts. Those in front only send, and none of them comes later than the limit
allows (`Passed`); what stands behind them ends the source (`Stops`). The two parts determine what a driver sees
(`play_eq_iff`), so that an early end of a driver can be found in the schedule (`drive_play`). If a source is
cancelled earlier, a driver sees what can be seen of it at that moment (`Seen`).
-/

namespace SensorLog

variable {σ : Type} {final ending : Ending} {sent seenPackets : List Bytes}

theorem Seen.append (packets : List Bytes) (seen : Seen final sent seenPackets ending) :
    Seen final (packets ++ sent) (packets ++ seenPackets) ending := by
  induction packets with
  | nil => exact seen
  | cons packet rest ih => exact .packet packet ih

namespace Schedule

variable {limit? : Option Nat} {hold : Bool} {quiet still : Nat} {step : SourceStep} {packets : List Bytes}
  {before after : List SourceStep}

/-! ## One step -/

/-- A source whose last packet is so many milliseconds old has not been quiet for too long. -/
def Within (limit? : Option Nat) (quiet : Nat) : Prop :=
  ∀ limit, limit? = some limit → quiet ≤ limit

/-- How old the last packet is once these were sent. -/
def ageAfter (packets : List Bytes) (quiet : Nat) : Nat :=
  if packets.isEmpty then quiet else 0

theorem within_or_late (limit? : Option Nat) (quiet : Nat) :
    Within limit? quiet ∨ ∃ limit, limit? = some limit ∧ limit < quiet := by
  cases limit? with
  | none => exact .inl nofun
  | some limit =>
      by_cases late : limit < quiet
      · exact .inr ⟨limit, rfl, late⟩
      · apply Or.inl
        intro limit' same
        cases same
        omega

theorem playFrom_of_late {limit : Nat} (step : SourceStep) (late : limit < quiet + step.wait)
    (rest : List SourceStep) :
    playFrom (some limit) hold quiet (step :: rest) = ([], .quiet (.ofMillis limit)) := by
  have exceeded : (some limit).any (· < quiet + step.wait) = true := by simpa using late
  rw [playFrom, if_pos exceeded]
  rfl

/-- A step in time does what its action says. -/
theorem playFrom_of_within (step : SourceStep) (within : Within limit? (quiet + step.wait))
    (rest : List SourceStep) :
    playFrom limit? hold quiet (step :: rest) = match step.action with
      | .cancel => ([], .cancelled)
      | .close => ([], .closed)
      | .send packets =>
        let later := playFrom limit? hold (ageAfter packets (quiet + step.wait)) rest
        (packets ++ later.1, later.2) := by
  have under : ¬ limit?.any (· < quiet + step.wait) = true := by
    cases limit? with
    | none => simp
    | some limit =>
        have bound := within limit rfl
        simpa using bound
  rw [playFrom, if_neg under]
  rfl

/-! ## The two parts of a schedule -/

/-- Steps that only send, each in time: the packets they send, and how old the last packet is behind them. -/
inductive Passed (limit? : Option Nat) : Nat → List SourceStep → List Bytes → Nat → Prop
  | nil (quiet : Nat) : Passed limit? quiet [] [] quiet
  | send {quiet wait still : Nat} {packets later : List Bytes} {rest : List SourceStep}
      (within : Within limit? (quiet + wait))
      (passed : Passed limit? (ageAfter packets (quiet + wait)) rest later still) :
      Passed limit? quiet (⟨wait, .send packets⟩ :: rest) (packets ++ later) still

/-- What ends a source whose last packet is so old. -/
inductive Stops (limit? : Option Nat) (hold : Bool) (still : Nat) : List SourceStep → Ending → Prop
  | cancelled {wait : Nat} {rest : List SourceStep} (within : Within limit? (still + wait)) :
      Stops limit? hold still (⟨wait, .cancel⟩ :: rest) .cancelled
  | closed {wait : Nat} {rest : List SourceStep} (within : Within limit? (still + wait)) :
      Stops limit? hold still (⟨wait, .close⟩ :: rest) .closed
  | late {limit : Nat} {step : SourceStep} {rest : List SourceStep} (limited : limit? = some limit)
      (late : limit < still + step.wait) : Stops limit? hold still (step :: rest) (.quiet (.ofMillis limit))
  | held {limit : Nat} (limited : limit? = some limit) (held : hold = true) :
      Stops limit? hold still [] (.quiet (.ofMillis limit))
  | released (unwatched : hold = false ∨ limit? = none) : Stops limit? hold still [] .closed

theorem playFrom_of_passed (passed : Passed limit? quiet before packets still) (hold : Bool)
    (after : List SourceStep) :
    playFrom limit? hold quiet (before ++ after)
      = (packets ++ (playFrom limit? hold still after).1, (playFrom limit? hold still after).2) := by
  induction passed with
  | nil quiet => rfl
  | send within passed ih =>
      rw [List.cons_append, playFrom_of_within ⟨_, .send _⟩ within]
      dsimp only
      rw [ih, List.append_assoc]

theorem playFrom_of_stops (stops : Stops limit? hold still after ending) :
    playFrom limit? hold still after = ([], ending) := by
  cases stops with
  | cancelled within => rw [playFrom_of_within ⟨_, .cancel⟩ within]
  | closed within => rw [playFrom_of_within ⟨_, .close⟩ within]
  | late limited late =>
      rw [limited]
      exact playFrom_of_late _ late _
  | held limited held =>
      rw [limited, held]
      rfl
  | released unwatched =>
      cases limit? with
      | none => rfl
      | some limit =>
          rcases unwatched with shut | unlimited
          · rw [shut]
            rfl
          · cases unlimited

theorem exists_parts (limit? : Option Nat) (hold : Bool) (quiet : Nat) (steps : List SourceStep) :
    ∃ before after packets still ending, steps = before ++ after ∧ Passed limit? quiet before packets still ∧
      Stops limit? hold still after ending := by
  induction steps generalizing quiet with
  | nil =>
      cases limit? with
      | none => exact ⟨[], [], [], quiet, _, rfl, .nil quiet, .released (.inr rfl)⟩
      | some limit =>
          cases hold with
          | false => exact ⟨[], [], [], quiet, _, rfl, .nil quiet, .released (.inl rfl)⟩
          | true => exact ⟨[], [], [], quiet, _, rfl, .nil quiet, .held rfl rfl⟩
  | cons step rest ih =>
      rcases within_or_late limit? (quiet + step.wait) with within | ⟨limit, limited, late⟩
      · obtain ⟨wait, action⟩ := step
        cases action with
        | send sending =>
            obtain ⟨before, after, packets, still, ending, split, passed, stops⟩ :=
              ih (ageAfter sending (quiet + wait))
            exact ⟨⟨wait, .send sending⟩ :: before, after, sending ++ packets, still, ending, by rw [split]; rfl,
              .send within passed, stops⟩
        | cancel => exact ⟨[], _, [], quiet, _, rfl, .nil quiet, .cancelled within⟩
        | close => exact ⟨[], _, [], quiet, _, rfl, .nil quiet, .closed within⟩
      · exact ⟨[], _, [], quiet, _, rfl, .nil quiet, .late limited late⟩

/-- What a driver sees is settled by the two parts: the packets by the one in front, the ending by the other. -/
theorem play_eq_iff (s : Schedule) (packets : List Bytes) (ending : Ending) :
    s.play = (packets, ending) ↔ ∃ before after still, s.steps = before ++ after ∧
      Passed s.idleLimit? 0 before packets still ∧ Stops s.idleLimit? s.hold still after ending := by
  have played {before after : List SourceStep} {packets : List Bytes} {still : Nat} {ending : Ending}
      (split : s.steps = before ++ after) (passed : Passed s.idleLimit? 0 before packets still)
      (stops : Stops s.idleLimit? s.hold still after ending) : s.play = (packets, ending) := by
    rw [play, split, playFrom_of_passed passed, playFrom_of_stops stops, List.append_nil]
  constructor
  · intro same
    obtain ⟨before, after, packets', still, ending', split, passed, stops⟩ :=
      exists_parts s.idleLimit? s.hold 0 s.steps
    have other := played split passed stops
    rw [same] at other
    cases other
    exact ⟨before, after, still, split, passed, stops⟩
  · rintro ⟨before, after, still, split, passed, stops⟩
    exact played split passed stops

/-- The clock starts anew at each packet: eight milliseconds and another eight are not too long, but the eleven
    that follow are, and the last packet is not seen. -/
example :
    let steps : List SourceStep := [⟨8, .send [[1]]⟩, ⟨8, .send [[2], [3]]⟩, ⟨11, .send [[4]]⟩]
    ({ steps, idleLimit? := some 10 } : Schedule).play = ([[1], [2], [3]], .quiet (.ofMillis 10)) := by
  decide

/-! ## Cancelling earlier -/

theorem seen_playFrom_cancelled {wait : Nat} (sooner : wait ≤ step.wait) (limit? : Option Nat) (hold : Bool)
    (quiet : Nat) (before after later : List SourceStep) :
    let whole := playFrom limit? hold quiet (before ++ step :: after)
    let cut := playFrom limit? hold quiet (before ++ ⟨wait, .cancel⟩ :: later)
    Seen whole.2 whole.1 cut.1 cut.2 := by
  induction before generalizing quiet with
  | nil =>
      rcases within_or_late limit? (quiet + wait) with within | ⟨limit, rfl, late⟩
      · rw [List.nil_append, List.nil_append, playFrom_of_within ⟨wait, .cancel⟩ within]
        exact .cancelled _
      · -- Too late for the cancellation is too late for the step that it precedes.
        have later' : limit < quiet + step.wait := by omega
        rw [List.nil_append, List.nil_append, playFrom_of_late step later',
          playFrom_of_late ⟨wait, .cancel⟩ late]
        exact .ended
  | cons first rest ih =>
      rcases within_or_late limit? (quiet + first.wait) with within | ⟨limit, rfl, late⟩
      · rw [List.cons_append, List.cons_append, playFrom_of_within first within,
          playFrom_of_within first within]
        cases first.action with
        | send packets => exact .append packets (ih _)
        | cancel => exact .ended
        | close => exact .ended
      · rw [List.cons_append, List.cons_append, playFrom_of_late first late, playFrom_of_late first late]
        exact .ended

/-- A source that is cancelled before one of its steps shows a driver what can be seen of it at that moment. -/
theorem seen_play_cancelled (s : Schedule) {wait : Nat} (split : s.steps = before ++ step :: after)
    (sooner : wait ≤ step.wait) (later : List SourceStep) :
    let cut : Schedule := { s with steps := before ++ ⟨wait, .cancel⟩ :: later }
    Seen s.play.2 s.play.1 cut.play.1 cut.play.2 := by
  have seen := seen_playFrom_cancelled sooner s.idleLimit? s.hold 0 before after later
  rw [← split] at seen
  exact seen

end Schedule

/-! ## Drivers -/

namespace Transfer

variable [RowSink σ] {t : Transfer σ} {settings : Settings} {registry : Registry} {codec : RecordCodec}

/-- Where the early end of a driver stands in the schedule, with the last packet `still` milliseconds old and these
    steps to come. A cancellation is the next of them, and all packets in front of it were fed; a timeout has the
    limit of the schedule, which runs out before the next step or while the source is held open; otherwise the
    source is closed. Only a cancellation leaves something to retry. -/
structure EndsAt (t : Transfer σ) (s : Schedule) (still : Nat) (after : List SourceStep) (d : Drive σ) : Prop where
  cancelled : d.result = .error .cancelled →
    (∃ wait rest, after = ⟨wait, .cancel⟩ :: rest) ∧ d.transfer = (t.feeds s.play.1).transfer
  timeout : ∀ limit, d.result = .error (.timeout limit) → d.transfer.retries.failures = 0 ∧
    ∃ millis, s.idleLimit? = some millis ∧ limit = .ofMillis millis ∧
      ((∃ step rest, after = step :: rest ∧ millis < still + step.wait) ∨ after = [] ∧ s.hold = true)
  disconnected : d.result = .error .disconnected → d.transfer.retries.failures = 0 ∧
    ((∃ wait rest, after = ⟨wait, .close⟩ :: rest) ∨ after = [] ∧ (s.hold = false ∨ s.idleLimit? = none))

theorem EndsEarly.endsAt {s : Schedule} {d : Drive σ} {still : Nat} {after : List SourceStep}
    (early : EndsEarly t s.play.1 s.play.2 d)
    (stops : Schedule.Stops s.idleLimit? s.hold still after s.play.2) : EndsAt t s still after d := by
  generalize ended : s.play.2 = ending at early stops
  refine ⟨?cancelled, ?timeout, ?disconnected⟩
  case cancelled =>
    intro failed
    obtain ⟨rfl, unchanged⟩ := early.cancelled failed
    cases stops with
    | cancelled within => exact ⟨⟨_, _, rfl⟩, unchanged⟩
  case timeout =>
    intro limit failed
    obtain ⟨quiet, none⟩ := early.timeout limit failed
    cases stops with
    | cancelled within => cases quiet
    | closed within => cases quiet
    | released unwatched => cases quiet
    | late limited late =>
        cases quiet
        exact ⟨none, _, limited, rfl, .inl ⟨_, _, rfl, late⟩⟩
    | held limited held =>
        cases quiet
        exact ⟨none, _, limited, rfl, .inr ⟨rfl, held⟩⟩
  case disconnected =>
    intro failed
    obtain ⟨rfl, none⟩ := early.disconnected failed
    cases stops with
    | closed within => exact ⟨none, .inl ⟨_, _, rfl⟩⟩
    | released unwatched => exact ⟨none, .inr ⟨rfl, unwatched⟩⟩

/-- A driver of a scheduled source: its result tells the phase, and an early end is found in the schedule behind
    the steps that passed. -/
theorem drive_play (reached : Reached settings registry codec t) (running : t.phase = .running) (s : Schedule) :
    let d := t.drive s.play.1 s.play.2
    d.Tells ∧ ∃ before after still, s.steps = before ++ after ∧
      Schedule.Passed s.idleLimit? 0 before s.play.1 still ∧ EndsAt t s still after d := by
  intro d
  obtain ⟨taken, left, -, driven⟩ := driven_drive running s.play.1 s.play.2
  obtain ⟨tells, early⟩ := driven.tells reached.sound running
  obtain ⟨before, after, still, split, passed, stops⟩ := (s.play_eq_iff s.play.1 s.play.2).1 rfl
  exact ⟨tells, before, after, still, split, passed, early.endsAt stops⟩

/-- Without a limit no driver times out. -/
theorem drive_play_of_unlimited (reached : Reached settings registry codec t) (running : t.phase = .running)
    {s : Schedule} (unlimited : s.idleLimit? = none) (limit : Duration) :
    (t.drive s.play.1 s.play.2).result ≠ .error (.timeout limit) := by
  intro failed
  obtain ⟨-, before, after, still, -, -, ends⟩ := drive_play reached running s
  obtain ⟨-, millis, limited, -⟩ := ends.timeout limit failed
  rw [unlimited] at limited
  cases limited

end Transfer

end SensorLog
