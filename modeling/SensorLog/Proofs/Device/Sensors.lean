import Mathlib
import SensorLog.CommandLine.Run
import SensorLog.Proofs.Record.Lookup

/-!
# Switching sensors

`MaskChange.switchInPlace` changes the collected bits in place, and a call that fails has changed nothing
(`run_switchInPlace`). After any calls, failing ones among them, a bit is collected exactly if a sensor was switched
that has it (`bitOf_part_after`). So where the masks of the sensors share no bit, the changed word has those sensors
on that were switched on, and of the others those that were on and were not switched off (`apply_after_switches`).
-/

namespace SensorLog

/-! ## Bits of a word -/

/-- A bit of a word, the lowest first. -/
def bitOf (w : UInt32) (i : Nat) : Bool :=
  w.toBitVec.getLsbD i

@[simp] theorem bitOf_zero (i : Nat) : bitOf 0 i = false := by
  simp [bitOf]

@[simp] theorem bitOf_or (v w : UInt32) (i : Nat) : bitOf (v ||| w) i = (bitOf v i || bitOf w i) := by
  simp [bitOf]

@[simp] theorem bitOf_and (v w : UInt32) (i : Nat) : bitOf (v &&& w) i = (bitOf v i && bitOf w i) := by
  simp [bitOf]

theorem eq_of_bitOf {v w : UInt32} (same : ∀ i, bitOf v i = bitOf w i) : v = w :=
  UInt32.eq_of_toBitVec_eq (BitVec.eq_of_getLsbD_eq fun i _ => same i)

/-- The field can be switched by a bit. -/
def Field.HasBit (f : Field) (i : Nat) : Prop :=
  ∃ mask, f.mask? = some mask ∧ bitOf mask i = true

namespace MaskChange

/-! ## Calls on one change -/

/-- Switching a sensor as a step that changes the collected bits in place. An error keeps what was collected. -/
def switchInPlace (r : Registry) (sensor : String) (on : Bool) : EStateM SchemaError MaskChange Unit := do
  let field ← match r.sensor sensor with
    | .ok f => pure f
    | .error e => throw e
  let mask := field.mask?.getD 0
  if on then modify fun c => { c with set := c.set ||| mask }
  else modify fun c => { c with clear := c.clear ||| mask }

/-- A sensor and whether it is to be on. -/
abbrev Switch := String × Bool

/-- The change after a call, and how the call went. -/
def call (r : Registry) (c : MaskChange) (s : Switch) : MaskChange × Except SchemaError Unit :=
  match (switchInPlace r s.1 s.2).run c with
  | .ok () c' => (c', .ok ())
  | .error e c' => (c', .error e)

/-- The change after calls, first call first, whether they fail or not. -/
def after (r : Registry) (c : MaskChange) (calls : List Switch) : MaskChange :=
  calls.foldl (fun c s => (call r c s).1) c

variable {r : Registry} {c : MaskChange}

/-- The step in place collects what `switch` does, and an error leaves the change that it found. -/
theorem run_switchInPlace (sensor : String) (on : Bool) :
    (switchInPlace r sensor on).run c = match c.switch r sensor on with
      | .ok c' => .ok () c'
      | .error e => .error e c := by
  unfold switchInPlace switch
  cases r.sensor sensor with
  | error e => rfl
  | ok f => cases on <;> rfl

theorem call_eq (s : Switch) : call r c s = match c.switch r s.1 s.2 with
    | .ok c' => (c', .ok ())
    | .error e => (c, .error e) := by
  unfold call
  rw [run_switchInPlace]
  cases c.switch r s.1 s.2 <;> rfl

/-- A call fails exactly on a name that no sensor has, and then nothing was collected. -/
theorem call_of_error {s : Switch} {cause : SchemaError} :
    (call r c s).2 = .error cause ↔
      (∀ f ∈ r.fields, f.apiName = s.1 → f.isConfigurable = false) ∧ cause = .unknownSensor s.1 := by
  rw [← Registry.sensor_eq_error_iff, call_eq, switch]
  cases r.sensor s.1 with
  | error e => simp
  | ok f => cases s.2 <;> simp

/-- The bits collected for switching on, or for switching off. -/
def part (c : MaskChange) (on : Bool) : UInt32 :=
  if on then c.set else c.clear

/-- A sensor that has a bit was switched in this direction. -/
def Switched (r : Registry) (calls : List Switch) (on : Bool) (i : Nat) : Prop :=
  ∃ f ∈ r.fields, (f.apiName, on) ∈ calls ∧ f.HasBit i

theorem bitOf_part_call (s : Switch) (on : Bool) (i : Nat) :
    bitOf ((call r c s).1.part on) i = true ↔
      bitOf (c.part on) i = true ∨ ∃ f ∈ r.fields, (f.apiName, on) = s ∧ f.HasBit i := by
  obtain ⟨name, direction⟩ := s
  rw [call_eq, switch]
  cases found : r.sensor name with
  | error e =>
      have absent := (Registry.sensor_eq_error_iff.1 found).1
      refine ⟨.inl, fun collected => collected.resolve_right ?_⟩
      rintro ⟨f, member, same, mask, masked, -⟩
      cases same
      have fixed := absent f member rfl
      rw [Field.isConfigurable, masked] at fixed
      cases fixed
  | ok f =>
      obtain ⟨member, rfl, switched⟩ := Registry.sensor_eq_ok_iff.1 found
      obtain ⟨mask, masked⟩ := Option.isSome_iff_exists.1 switched
      have only : (∃ g ∈ r.fields, (g.apiName, on) = (f.apiName, direction) ∧ g.HasBit i) ↔
          on = direction ∧ bitOf mask i = true := by
        constructor
        · rintro ⟨g, among, same, mask', masked', bit⟩
          obtain ⟨named, rfl⟩ := Prod.mk.inj same
          rw [Registry.eq_of_key r.nodup_apiNames member among named, masked] at masked'
          cases masked'
          exact ⟨rfl, bit⟩
        · rintro ⟨rfl, bit⟩
          exact ⟨f, member, rfl, mask, masked, bit⟩
      rw [only]
      cases on <;> cases direction <;> simp [part, masked]

/-- Every sensor that was switched has its bits collected, and nothing else has. -/
theorem bitOf_part_after (calls : List Switch) (on : Bool) (i : Nat) :
    bitOf ((c.after r calls).part on) i = true ↔ bitOf (c.part on) i = true ∨ Switched r calls on i := by
  induction calls generalizing c with
  | nil => simp [after, Switched]
  | cons s rest ih =>
      have later := ih (c := (call r c s).1)
      rw [bitOf_part_call, or_assoc] at later
      refine later.trans (or_congr_right ?_)
      simp only [Switched, List.mem_cons, or_and_right, and_or_left, exists_or]

theorem bitOf_apply (c : MaskChange) (w : UInt32) (i : Nat) :
    bitOf (c.apply w) i = (bitOf w i && !bitOf c.clear i || bitOf c.set i) := by
  by_cases inside : i < 32
  · simp [apply, bitOf, inside]
  · have none (v : UInt32) : bitOf v i = false := BitVec.getLsbD_of_ge _ _ (Nat.not_lt.1 inside)
    simp only [none, Bool.false_and, Bool.or_self]

/-- What becomes of each bit of a word. -/
theorem bitOf_apply_after (calls : List Switch) (w : UInt32) (i : Nat) :
    bitOf ((({} : MaskChange).after r calls).apply w) i = true ↔
      Switched r calls true i ∨ bitOf w i = true ∧ ¬Switched r calls false i := by
  have set := bitOf_part_after (r := r) (c := {}) calls true i
  have clear := bitOf_part_after (r := r) (c := {}) calls false i
  simp only [part, bitOf_zero, Bool.false_eq_true, false_or, if_true, if_false] at set clear
  rw [bitOf_apply, Bool.or_eq_true, Bool.and_eq_true, Bool.not_eq_true', ← Bool.not_eq_true, set, clear, or_comm]

theorem eq_of_part {c c' : MaskChange} (same : ∀ on, c.part on = c'.part on) : c = c' := by
  obtain ⟨set, clear⟩ := c
  obtain ⟨set', clear'⟩ := c'
  obtain rfl : set = set' := same true
  obtain rfl : clear = clear' := same false
  rfl

/-- The order of the calls does not matter. -/
theorem after_perm {calls calls' : List Switch} (same : calls.Perm calls') : c.after r calls' = c.after r calls := by
  refine eq_of_part fun on => eq_of_bitOf fun i => Bool.eq_iff_iff.2 ?_
  simp only [bitOf_part_after, Switched, same.mem_iff]

/-- A word that was changed once is not changed again. -/
theorem apply_apply (c : MaskChange) (w : UInt32) : c.apply (c.apply w) = c.apply w := by
  refine eq_of_bitOf fun i => ?_
  simp only [bitOf_apply]
  cases bitOf w i <;> cases bitOf c.clear i <;> cases bitOf c.set i <;> rfl

/-- Bits that no switched sensor has are kept. -/
theorem apply_after_and {calls : List Switch} {bits : UInt32}
    (free : ∀ f ∈ r.fields, ∀ mask, f.mask? = some mask → (∃ on, (f.apiName, on) ∈ calls) → mask &&& bits = 0)
    (w : UInt32) : (({} : MaskChange).after r calls).apply w &&& bits = w &&& bits := by
  refine eq_of_bitOf fun i => Bool.eq_iff_iff.2 ?_
  rw [bitOf_and, bitOf_and, Bool.and_eq_true, Bool.and_eq_true, bitOf_apply_after]
  refine and_congr_left fun inside => ?_
  have unswitched (on : Bool) : ¬Switched r calls on i := by
    rintro ⟨f, member, called, mask, masked, bit⟩
    have none := congrArg (bitOf · i) (free f member mask masked ⟨on, called⟩)
    simp [bit, inside] at none
  simp only [unswitched, false_or, not_false_eq_true, and_true]

/-! ## Sensors with bits of their own -/

section Apart

variable (apart : (r.fields.filterMap (·.mask?)).Pairwise fun a b => a &&& b = 0)

include apart

/-- A bit belongs to one sensor only. -/
theorem eq_of_hasBit {f g : Field} {i : Nat} (first : f ∈ r.fields) (second : g ∈ r.fields) (bit : f.HasBit i)
    (bit' : g.HasBit i) : g = f := by
  obtain ⟨mask, masked, own⟩ := bit
  obtain ⟨mask', masked', own'⟩ := bit'
  by_contra other
  rw [List.pairwise_filterMap] at apart
  have symm : Std.Symm fun f g : Field => ∀ a, f.mask? = some a → ∀ b, g.mask? = some b → a &&& b = 0 :=
    ⟨fun f g none b here a there => (UInt32.and_comm b a).trans (none a there b here)⟩
  have none := congrArg (bitOf · i) (apart.forall second first other mask' masked' mask masked)
  simp [own, own'] at none

/-- The bits of one sensor after the change: all of them, none of them, or what they were. -/
theorem apply_after_and_mask {f : Field} {mask : UInt32} (member : f ∈ r.fields) (masked : f.mask? = some mask)
    (calls : List Switch) (w : UInt32) :
    (({} : MaskChange).after r calls).apply w &&& mask =
      if (f.apiName, true) ∈ calls then mask else if (f.apiName, false) ∈ calls then 0 else w &&& mask := by
  refine eq_of_bitOf fun i => Bool.eq_iff_iff.2 ?_
  rw [bitOf_and, Bool.and_eq_true, bitOf_apply_after]
  by_cases inside : bitOf mask i = true
  · have switched (on : Bool) : Switched r calls on i ↔ (f.apiName, on) ∈ calls := by
      constructor
      · rintro ⟨g, among, called, bit⟩
        rwa [eq_of_hasBit apart member among ⟨mask, masked, inside⟩ bit] at called
      · exact fun called => ⟨f, member, called, mask, masked, inside⟩
    simp only [switched, inside, and_true]
    split
    · rename_i called
      simp [called, inside]
    · rename_i uncalled
      split
      · rename_i off
        simp [uncalled, off]
      · rename_i kept
        simp [uncalled, kept, inside]
  · rw [Bool.not_eq_true] at inside
    split
    · simp [inside]
    · split <;> simp [inside]

end Apart

/-- Where the masks of the sensors are nonzero and share no bit, any calls have this effect on any word. A call fails
    exactly on a name that no sensor has, and leaves the change as it is. After the change a sensor is on if a call
    switched it on, else off if a call switched it off, else as it was. Every set of bits that no switched sensor has
    is kept. The calls may come in any order, and the change may be applied again. -/
theorem apply_after_switches {fields : List Field} {r : Registry} (accepted : Registry.ofFields? fields = .ok r)
    (nonzero : ∀ f ∈ fields, f.mask? ≠ some 0)
    (apart : (fields.filterMap (·.mask?)).Pairwise fun a b => a &&& b = 0) (current : UInt32)
    (calls : List (String × Bool)) :
    let change := ({} : MaskChange).after r calls
    (∀ c s cause, (call r c s).2 = .error cause ↔
      (∀ f ∈ fields, f.apiName = s.1 → f.mask?.isSome = false) ∧ cause = .unknownSensor s.1) ∧
    (∀ c s cause, (call r c s).2 = .error cause → (call r c s).1 = c) ∧
    r.sensorStates (change.apply current) = (r.sensorStates current).map (fun s => { s with enabled :=
      if (s.name, true) ∈ calls then true else if (s.name, false) ∈ calls then false else s.enabled }) ∧
    (∀ bits, (∀ f ∈ fields, ∀ mask, f.mask? = some mask → (∃ on, (f.apiName, on) ∈ calls) → mask &&& bits = 0) →
      change.apply current &&& bits = current &&& bits) ∧
    (∀ calls', calls.Perm calls' → ({} : MaskChange).after r calls' = change) ∧
    change.apply (change.apply current) = change.apply current := by
  obtain rfl := Registry.ofFields?_eq_ok_iff.1 accepted
  intro change
  refine ⟨fun c s cause => call_of_error, ?_, ?_, fun bits free => apply_after_and free current,
    fun calls' => after_perm, apply_apply change current⟩
  · intro c s cause failed
    rw [call_eq] at failed ⊢
    cases found : c.switch r s.1 s.2 with
    | error e => rfl
    | ok c' =>
        rw [found] at failed
        cases failed
  · unfold Registry.sensorStates
    rw [List.map_filterMap]
    refine List.filterMap_congr fun f member => ?_
    cases masked : f.mask? with
    | none => rfl
    | some mask =>
        have nonzero : (mask != 0) = true := bne_iff_ne.2 fun zero => nonzero f member (zero ▸ masked)
        simp only [Option.map_some, change, apply_after_and_mask apart member masked]
        split
        · rw [nonzero]
        · split <;> rfl

/-- The temperature is switched off and on again, the gyroscope off. A bit that no sensor has stays. -/
theorem apply_after_switches_temperature :
    let calls := [("temp", false), ("nothing", true), ("gyro", false), ("temp", true)]
    let change := ({} : MaskChange).after .builtin calls
    Registry.ofFields? Field.builtin = .ok .builtin ∧ (∀ f ∈ Field.builtin, f.mask? ≠ some 0) ∧
      ((Field.builtin.filterMap (·.mask?)).Pairwise fun a b => a &&& b = 0) ∧
      (Registry.builtin.sensorStates (change.apply 0x8027)).map (·.enabled) =
        [true, true, true, false, false, false, false, false, false] ∧
      change.apply 0x8027 &&& 0x8000 = 0x8000 := by
  intro calls change
  have accepted : Registry.ofFields? Field.builtin = .ok .builtin := Registry.ofFields?_eq_ok_iff.2 rfl
  have nonzero : ∀ f ∈ Field.builtin, f.mask? ≠ some 0 := by decide
  have apart : (Field.builtin.filterMap (·.mask?)).Pairwise fun a b => a &&& b = 0 := by decide
  obtain ⟨-, -, states, free, -⟩ := apply_after_switches accepted nonzero apart 0x8027 calls
  have unused : (Field.builtin.filterMap (·.mask?)).all (fun mask => mask &&& 0x8000 == 0) = true := by decide
  refine ⟨accepted, nonzero, apart, ?_, free 0x8000 ?_⟩
  · rw [states]
    decide +kernel
  · intro f member mask masked _
    exact beq_iff_eq.1 (List.all_eq_true.1 unused mask (List.mem_filterMap.2 ⟨f, member, masked⟩))

/-! ## The command that switches sensors -/

theorem switchAll_eq_ok {r : Registry} {c c' : MaskChange} {on : Bool} {names : List String}
    (switched : c.switchAll r on names = .ok c') : c' = c.after r (names.map fun name => (name, on)) := by
  induction names generalizing c with
  | nil =>
      cases switched
      rfl
  | cons name rest ih =>
      rw [switchAll] at switched
      cases first : c.switch r name on with
      | error e =>
          rw [first] at switched
          cases switched
      | ok next =>
          rw [first] at switched
          have step : (call r c (name, on)).1 = next := by rw [call_eq, first]
          rw [ih switched, ← step]
          rfl

end MaskChange

/-- The command answers with the change of all its names, those to switch off before those to switch on. -/
theorem Request.maskAnswer_eq_ok {current : UInt32} {enable disable : List String} {answer : Answer}
    (answered : maskAnswer current enable disable = .ok answer) :
    let change := ({} : MaskChange).after .builtin
      ((disable.map fun name => (name, false)) ++ enable.map fun name => (name, true))
    answer = .mask current (change.apply current) (Registry.builtin.sensorStates (change.apply current)) := by
  unfold maskAnswer at answered
  cases off : MaskChange.switchAll {} .builtin false disable with
  | error e =>
      rw [off] at answered
      cases answered
  | ok change =>
      rw [off] at answered
      dsimp only [within] at answered
      cases on : change.switchAll .builtin true enable with
      | error e =>
          rw [on] at answered
          cases answered
      | ok change' =>
          rw [on] at answered
          cases answered
          rw [MaskChange.switchAll_eq_ok on, MaskChange.switchAll_eq_ok off, MaskChange.after, MaskChange.after,
            MaskChange.after, List.foldl_append]

end SensorLog
