/-!
# Log entries

A `LogEntry` is one message of the logger: fifteen fields, each of which may be absent. `words`
gives the 32-bit words that a field has on the wire and `absorb` takes such words in; the rest of
the message format is built on these two. A signed value becomes a word by zigzag, so that small
magnitudes stay small.
-/

namespace SensorLog

/-- The word of a signed value: zero, minus one, one, minus two, … become 0, 1, 2, 3, …. -/
def zigzag (v : Int32) : UInt32 :=
  if 0 ≤ v.toInt then UInt32.ofNat (2 * v.toInt.toNat)
  else UInt32.ofNat (2 * (-v.toInt).toNat - 1)

/-- The signed value of a word. -/
def unzigzag (w : UInt32) : Int32 :=
  if w.toNat % 2 = 0 then Int32.ofInt (w.toNat / 2 : Nat)
  else Int32.ofInt (-(w.toNat / 2 : Nat) - 1)

theorem unzigzag_zigzag (v : Int32) : unzigzag (zigzag v) = v := by
  have hlo := v.le_toInt
  have hhi := v.toInt_lt
  apply Int32.toInt_inj.1
  by_cases h : 0 ≤ v.toInt
  · have hw : (zigzag v).toNat = 2 * v.toInt.toNat := by
      simp only [zigzag, if_pos h, UInt32.toNat_ofNat']
      omega
    rw [unzigzag, hw, if_pos (by omega), Int32.toInt_ofInt_of_le (by omega) (by omega)]
    omega
  · have hw : (zigzag v).toNat = 2 * (-v.toInt).toNat - 1 := by
      simp only [zigzag, if_neg h, UInt32.toNat_ofNat']
      omega
    rw [unzigzag, hw, if_neg (by omega), Int32.toInt_ofInt_of_le (by omega) (by omega)]
    omega

theorem zigzag_unzigzag (w : UInt32) : zigzag (unzigzag w) = w := by
  have hw := w.toNat_lt
  apply UInt32.toNat_inj.1
  by_cases h : w.toNat % 2 = 0
  · have hv : (unzigzag w).toInt = (w.toNat / 2 : Nat) := by
      rw [unzigzag, if_pos h, Int32.toInt_ofInt_of_le (by omega) (by omega)]
    rw [zigzag, hv, if_pos (by omega), UInt32.toNat_ofNat']
    omega
  · have hv : (unzigzag w).toInt = -(w.toNat / 2 : Nat) - 1 := by
      rw [unzigzag, if_neg h, Int32.toInt_ofInt_of_le (by omega) (by omega)]
    rw [zigzag, hv, if_neg (by omega), UInt32.toNat_ofNat']
    omega

/-- The fields of a log entry, in message order. -/
inductive EntryField
  | timestamp
  | pressure
  | rh
  | temperature
  | compass
  | accelerometer
  | gyro
  | lux
  | uvi
  | batteryMv
  | gpio0Mv
  | gpio1Mv
  | intGpio0
  | intGpio1
  | intAcc
deriving DecidableEq, Repr

namespace EntryField

/-- All fields, in message order. -/
def all : List EntryField :=
  [timestamp, pressure, rh, temperature, compass, accelerometer, gyro, lux, uvi, batteryMv,
   gpio0Mv, gpio1Mv, intGpio0, intGpio1, intAcc]

/-- The tag of a field on the wire. -/
def tag : EntryField → Nat
  | timestamp => 1
  | pressure => 2
  | rh => 3
  | temperature => 4
  | compass => 5
  | accelerometer => 6
  | gyro => 7
  | lux => 8
  | uvi => 9
  | batteryMv => 10
  | gpio0Mv => 11
  | gpio1Mv => 12
  | intGpio0 => 13
  | intGpio1 => 14
  | intAcc => 15

/-- The name of a field in the protocol. -/
def name : EntryField → String
  | timestamp => "timestamp"
  | pressure => "pressure"
  | rh => "rh"
  | temperature => "temperature"
  | compass => "compass"
  | accelerometer => "accelerometer"
  | gyro => "gyro"
  | lux => "lux"
  | uvi => "uvi"
  | batteryMv => "battery_mv"
  | gpio0Mv => "gpio0_mv"
  | gpio1Mv => "gpio1_mv"
  | intGpio0 => "int_gpio0"
  | intGpio1 => "int_gpio1"
  | intAcc => "int_acc"

/-- Whether a field holds one value per axis. -/
def isVector : EntryField → Bool
  | compass => true
  | accelerometer => true
  | gyro => true
  | _ => false

/-- The field with a tag, if there is one. -/
def ofTag? (n : Nat) : Option EntryField :=
  all.find? fun f => f.tag == n

theorem mem_all (f : EntryField) : f ∈ all := by
  cases f <;> decide

theorem nodup_all : all.Nodup := by
  decide

@[simp] theorem ofTag?_tag (f : EntryField) : ofTag? f.tag = some f := by
  cases f <;> rfl

theorem tag_pos (f : EntryField) : 0 < f.tag := by
  cases f <;> decide

theorem tag_le (f : EntryField) : f.tag ≤ 15 := by
  cases f <;> decide

end EntryField

/-- One log entry. A vector without values is an absent field. -/
structure LogEntry where
  timestamp : Option UInt32 := none
  pressure : Option UInt32 := none
  rh : Option UInt32 := none
  temperature : Option Int32 := none
  compass : List Int32 := []
  accelerometer : List Int32 := []
  gyro : List Int32 := []
  lux : Option UInt32 := none
  uvi : Option UInt32 := none
  batteryMv : Option UInt32 := none
  gpio0Mv : Option UInt32 := none
  gpio1Mv : Option UInt32 := none
  intGpio0 : Option UInt32 := none
  intGpio1 : Option UInt32 := none
  intAcc : Option UInt32 := none
deriving DecidableEq, Repr

/-- The reading of a present field. -/
inductive Reading
  | scalar (value : Int)
  | vector (values : List Int)
deriving DecidableEq, Repr

namespace LogEntry

/-- The entry without any field. -/
def empty : LogEntry := {}

/-- The entry that a device sends last: nothing but a timestamp. -/
def endOfLog (timestamp : UInt32) : LogEntry :=
  { timestamp := some timestamp }

/-- The words of a field; none when it is absent. -/
def words (e : LogEntry) : EntryField → List UInt32
  | .timestamp => e.timestamp.toList
  | .pressure => e.pressure.toList
  | .rh => e.rh.toList
  | .temperature => e.temperature.toList.map zigzag
  | .compass => e.compass.map zigzag
  | .accelerometer => e.accelerometer.map zigzag
  | .gyro => e.gyro.map zigzag
  | .lux => e.lux.toList
  | .uvi => e.uvi.toList
  | .batteryMv => e.batteryMv.toList
  | .gpio0Mv => e.gpio0Mv.toList
  | .gpio1Mv => e.gpio1Mv.toList
  | .intGpio0 => e.intGpio0.toList
  | .intGpio1 => e.intGpio1.toList
  | .intAcc => e.intAcc.toList

/-- The entry after words of a field were read: the last word replaces a single value, and a vector
    grows at its end. -/
def absorb (e : LogEntry) (f : EntryField) (ws : List UInt32) : LogEntry :=
  match f with
  | .timestamp => { e with timestamp := ws.getLast?.or e.timestamp }
  | .pressure => { e with pressure := ws.getLast?.or e.pressure }
  | .rh => { e with rh := ws.getLast?.or e.rh }
  | .temperature => { e with temperature := (ws.getLast?.map unzigzag).or e.temperature }
  | .compass => { e with compass := e.compass ++ ws.map unzigzag }
  | .accelerometer => { e with accelerometer := e.accelerometer ++ ws.map unzigzag }
  | .gyro => { e with gyro := e.gyro ++ ws.map unzigzag }
  | .lux => { e with lux := ws.getLast?.or e.lux }
  | .uvi => { e with uvi := ws.getLast?.or e.uvi }
  | .batteryMv => { e with batteryMv := ws.getLast?.or e.batteryMv }
  | .gpio0Mv => { e with gpio0Mv := ws.getLast?.or e.gpio0Mv }
  | .gpio1Mv => { e with gpio1Mv := ws.getLast?.or e.gpio1Mv }
  | .intGpio0 => { e with intGpio0 := ws.getLast?.or e.intGpio0 }
  | .intGpio1 => { e with intGpio1 := ws.getLast?.or e.intGpio1 }
  | .intAcc => { e with intAcc := ws.getLast?.or e.intAcc }

/-- The reading that the words of a field stand for; none when there are no words. -/
def readingOf (f : EntryField) (ws : List UInt32) : Option Reading :=
  if f.isVector then
    if ws.isEmpty then none else some (.vector (ws.map fun w => (unzigzag w).toInt))
  else
    ws.getLast?.map fun w =>
      .scalar (if f = .temperature then (unzigzag w).toInt else Int.ofNat w.toNat)

/-- The reading of a field, if it is present. -/
def reading? (e : LogEntry) (f : EntryField) : Option Reading :=
  readingOf f (e.words f)

/-- The present fields with their readings, in message order. -/
def readings (e : LogEntry) : List (EntryField × Reading) :=
  EntryField.all.filterMap fun f => (e.reading? f).map fun r => (f, r)

end LogEntry

end SensorLog
