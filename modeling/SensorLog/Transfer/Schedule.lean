import SensorLog.Transfer.Drive

/-!
# Timed sources

A `Schedule` lists what happens to a source and when. `Schedule.play` works out which packets a
driver gets to see and how the source ends for it. The clock for quiet sources starts anew at each
packet, an empty one included; what happens at one instant is seen before time moves on.
-/

namespace SensorLog

/-- Something that happens to a source. -/
inductive SourceAction
  | send (packets : List Bytes)
  | cancel
  | close
deriving DecidableEq, Repr

/-- An action, some milliseconds after the one before it. -/
structure SourceStep where
  wait : Nat
  action : SourceAction
deriving DecidableEq, Repr

/-- A source over time. -/
structure Schedule where
  steps : List SourceStep
  /-- How many milliseconds without a packet are too many. -/
  idleLimit? : Option Nat := none
  /-- Whether the source stays open after its last step. -/
  hold : Bool := false
deriving DecidableEq, Repr

namespace Schedule

/-- The packets and the ending from a moment at which the last packet is `quiet` milliseconds old.
    A source that stays open for ever counts as closed: nothing else can come of it. -/
def playFrom (idleLimit? : Option Nat) (hold : Bool) (quiet : Nat) :
    List SourceStep → List Bytes × Ending
  | [] =>
    match idleLimit? with
    | some limit => ([], if hold then .quiet (.ofMillis limit) else .closed)
    | none => ([], .closed)
  | step :: rest =>
    let quiet := quiet + step.wait
    if idleLimit?.any (· < quiet) then
      ([], .quiet (.ofMillis (idleLimit?.getD 0)))
    else
      match step.action with
      | .cancel => ([], .cancelled)
      | .close => ([], .closed)
      | .send packets =>
        let quiet := if packets.isEmpty then quiet else 0
        let (more, ending) := playFrom idleLimit? hold quiet rest
        (packets ++ more, ending)

/-- The packets that a driver sees and how the source ends for it. -/
def play (s : Schedule) : List Bytes × Ending :=
  playFrom s.idleLimit? s.hold 0 s.steps

end Schedule

end SensorLog
