import SensorLog.Proofs.Entry.Truncation
import SensorLog.Proofs.Record.Placement
import SensorLog.Proofs.Wire.Grammar

/-!
# What a message carries stays

An occurrence carries a field when it has the tag of the field and is no empty run. A message that decodes gives
every field that one of its occurrences carries (`present_of_decode`), whatever else is in the message: nothing
that is passed over takes a byte of what follows, and no later occurrence empties a field. So a record has a
column for each of these fields (`size_of_decode`).
-/

namespace SensorLog

/-- An occurrence has the tag of a field and a value for it: it is no packed run without numbers. -/
def Wire.Occurrence.Carries (o : Wire.Occurrence) (f : EntryField) : Prop :=
  o.key.tag = f.tag ∧ ¬(f.isVector = true ∧ o.key.wire = .lengthDelimited ∧ o.content = [])

namespace EntryField

variable {f : EntryField} {ws : List UInt32} {rest out : Bytes}

theorem tag_of_ofTag? {n : Nat} (known : ofTag? n = some f) : f.tag = n := by
  have same := List.find?_some known
  exact beq_iff_eq.1 same

theorem tag_injective {f g : EntryField} (same : f.tag = g.tag) : f = g := by
  have found := ofTag?_tag f
  rw [same, ofTag?_tag] at found
  exact (Option.some.inj found).symm

/-- Reading a field takes the whole value, and only an empty run gives no words. -/
theorem read_value {wire : WireType} {content value : Bytes} (valued : Wire.Value wire content value)
    (read : f.read wire (value ++ rest) = .ok (ws, out)) :
    out = rest ∧ (ws = [] → f.isVector = true ∧ wire = .lengthDelimited ∧ content = []) := by
  rw [EntryField.read] at read
  split at read
  · rename_i vector
    obtain ⟨whole, none⟩ := Wire.readWords_value valued read
    exact ⟨whole, fun empty => ⟨vector, none empty⟩⟩
  · split at read
    · cases read
    · rename_i one
      cases read
      exact ⟨Wire.readWord_value valued one, fun empty => absurd empty (List.cons_ne_nil _ _)⟩

/-- No field is a group. -/
theorem read_startGroup (f : EntryField) (input : Bytes) :
    f.read .startGroup input = .error (.notVarint .startGroup) := by
  rw [EntryField.read]
  split <;> rfl

end EntryField

namespace LogEntry

variable {e e' : LogEntry} {f : EntryField} {ws : List UInt32}

/-! ## Nothing that was read is lost -/

theorem words_absorb_of_ne {g : EntryField} (other : g ≠ f) : (e.absorb f ws).words g = e.words g := by
  cases f <;> cases g <;> first | rfl | exact absurd rfl other

theorem words_absorb_eq_nil : (e.absorb f ws).words f = [] ↔ e.words f = [] ∧ ws = [] := by
  cases f <;> simp [absorb, words, and_comm]

/-- An entry after occurrences were read into it. -/
structure Took (e : LogEntry) (occurrences : List Wire.Occurrence) (e' : LogEntry) : Prop where
  kept : ∀ f, e.words f ≠ [] → e'.words f ≠ []
  carried : ∀ o ∈ occurrences, ∀ f, o.Carries f → e'.words f ≠ []

theorem Took.nil (e : LogEntry) : e.Took [] e :=
  ⟨fun _ present => present, nofun⟩

theorem Took.cons {o : Wire.Occurrence} {later : List Wire.Occurrence} {last : LogEntry} (first : e.Took [o] e')
    (rest : e'.Took later last) : e.Took (o :: later) last where
  kept f present := rest.kept f (first.kept f present)
  carried := List.forall_mem_cons.2
    ⟨fun f carries => rest.kept f (first.carried o (.head _) f carries), rest.carried⟩

/-- A field that is read is an unknown one and passed over, or one of the entry. -/
theorem readField_cases {key : Wire.Key} {opening input out : Bytes} (opens : key.Spells opening)
    (read : e.readField (opening ++ input) = .ok (e', out)) :
    (EntryField.ofTag? key.tag = none ∧ Wire.skip key input = .ok out ∧ e' = e) ∨
      ∃ f ws, EntryField.ofTag? key.tag = some f ∧ f.read key.wire input = .ok (ws, out) ∧
        e' = e.absorb f ws := by
  simp only [readField, Wire.readKey_of_spells opens] at read
  split at read
  · rename_i f known
    split at read
    · cases read
    · rename_i ws rest' words
      cases read
      exact .inr ⟨f, ws, known, words, rfl⟩
  · rename_i unknown
    split at read
    · cases read
    · rename_i rest' skipped
      cases read
      exact .inl ⟨unknown, skipped, rfl⟩

theorem Took.of_unknown {o : Wire.Occurrence} (unknown : EntryField.ofTag? o.key.tag = none) : e.Took [o] e where
  kept _ present := present
  carried := by
    intro o' member f carries
    rw [List.mem_singleton.1 member] at carries
    rw [carries.1, EntryField.ofTag?_tag] at unknown
    cases unknown

theorem Took.absorb {o : Wire.Occurrence} (known : EntryField.ofTag? o.key.tag = some f)
    (some : ws = [] → f.isVector = true ∧ o.key.wire = .lengthDelimited ∧ o.content = []) :
    e.Took [o] (e.absorb f ws) where
  kept g present := by
    by_cases same : g = f
    · subst same
      exact fun none => present (words_absorb_eq_nil.1 none).1
    · rwa [words_absorb_of_ne same]
  carried := by
    intro o' member g carries
    rw [List.mem_singleton.1 member] at carries
    have tag := carries.1
    rw [← EntryField.tag_of_ofTag? known] at tag
    cases EntryField.tag_injective tag
    exact fun none => carries.2 (some (words_absorb_eq_nil.1 none).2)

theorem readField_plain {key : Wire.Key} {content opening value rest out : Bytes} (opens : key.Spells opening)
    (valued : Wire.Value key.wire content value)
    (read : e.readField (opening ++ (value ++ rest)) = .ok (e', out)) :
    out = rest ∧ e.Took [⟨key, content⟩] e' := by
  rcases readField_cases opens read with ⟨unknown, skipped, rfl⟩ | ⟨f, ws, known, words, rfl⟩
  · rw [Wire.skip, if_neg valued.ne_startGroup, Wire.skipPlain_value valued] at skipped
    cases skipped
    exact ⟨rfl, .of_unknown unknown⟩
  · obtain ⟨whole, none⟩ := EntryField.read_value valued words
    exact ⟨whole, .absorb known none⟩

theorem readField_group {tag : Nat} {inner : List Wire.Occurrence} {content opening closing rest out : Bytes}
    (opens : Wire.Key.Spells ⟨tag, .startGroup⟩ opening) (inside : Wire.Message inner content)
    (closes : Wire.Key.Spells ⟨tag, .endGroup⟩ closing)
    (read : e.readField (opening ++ (content ++ (closing ++ rest))) = .ok (e', out)) :
    out = rest ∧ e.Took [⟨⟨tag, .startGroup⟩, content⟩] e' := by
  rcases readField_cases opens read with ⟨unknown, skipped, rfl⟩ | ⟨f, ws, known, words, rfl⟩
  · exact ⟨Wire.skip_group inside closes skipped, .of_unknown unknown⟩
  · rw [EntryField.read_startGroup] at words
    cases words

theorem decodeInto_of_ok {input : Bytes} {last : LogEntry} (some : input ≠ [])
    (decoded : e.decodeInto input = .ok last) :
    ∃ e' rest, e.readField input = .ok (e', rest) ∧ e'.decodeInto rest = .ok last := by
  rw [decodeInto_eq e some] at decoded
  split at decoded
  · cases decoded
  · rename_i e' rest read
    exact ⟨e', rest, read, decoded⟩

/-- A message that decodes has given all that its occurrences carry. -/
theorem decodeInto_message {occurrences : List Wire.Occurrence} {input : Bytes}
    (message : Wire.Message occurrences input) (decoded : e.decodeInto input = .ok e') :
    e.Took occurrences e' := by
  induction message generalizing e with
  | nil =>
      rw [decodeInto] at decoded
      cases decoded
      exact .nil _
  | plain opens valued follows ih =>
      obtain ⟨e₁, rest, read, onward⟩ :=
        decodeInto_of_ok (List.append_ne_nil_of_left_ne_nil opens.ne_nil _) decoded
      obtain ⟨rfl, took⟩ := readField_plain opens valued read
      exact took.cons (ih onward)
  | group opens inside closes follows _ ih =>
      obtain ⟨e₁, rest, read, onward⟩ :=
        decodeInto_of_ok (List.append_ne_nil_of_left_ne_nil opens.ne_nil _) decoded
      obtain ⟨rfl, took⟩ := readField_group opens inside closes read
      exact took.cons (ih onward)

/-- A present field has a number at least. -/
theorem length_present_le (e : LogEntry) : e.present.length ≤ (EntryField.all.flatMap e.values).length := by
  rw [present_eq_filter]
  induction EntryField.all with
  | nil => exact Nat.le_refl _
  | cons f fs ih =>
      rw [List.flatMap_cons, List.length_append]
      by_cases absent : e.words f = []
      · rw [List.filter_cons_of_neg (by simp [absent])]
        omega
      · have some : 0 < (e.values f).length := by
          rw [e.length_values]
          exact List.length_pos_iff.2 absent
        rw [List.filter_cons_of_pos (by simp [absent]), List.length_cons]
        omega

end LogEntry

namespace Registry

variable {r : Registry}

/-! ## Each field has a column -/

theorem size_of_columnize {e : LogEntry} {record : Record} (columnized : r.columnize e = .ok record) :
    e.words .timestamp ≠ [] ∧ e.present.length ≤ record.size := by
  obtain ⟨stamped, owner, placed, rfl⟩ := columnize_eq_ok_iff.1 columnized
  constructor
  · rw [← List.length_pos_iff, ← LogEntry.length_values, List.length_pos_iff]
    exact LogEntry.values_timestamp_ne_nil_iff.2 stamped
  · have values := congrArg List.length (values_cellsIn placed)
    rw [List.length_map] at values
    rw [Record.size, values]
    exact e.length_present_le

/-- A record of a message that carries another field than the timestamp has more than one column. -/
theorem size_of_decode {payload : Bytes} {occurrences : List Wire.Occurrence} {record : Record}
    {o : Wire.Occurrence} {f : EntryField} (message : Wire.Message occurrences payload)
    (member : o ∈ occurrences) (carries : o.Carries f) (other : f ≠ .timestamp)
    (decoded : r.codec.decode payload = .ok record) : 1 < record.size := by
  obtain ⟨e, entry, columnized⟩ := decode_eq_ok_iff.1 decoded
  have took := LogEntry.decodeInto_message message entry
  obtain ⟨stamped, size⟩ := size_of_columnize columnized
  have present {g : EntryField} (some : e.words g ≠ []) : g ∈ e.present := by
    rw [LogEntry.present_eq_filter, List.mem_filter]
    exact ⟨g.mem_all, by simp [some]⟩
  have both : [.timestamp, f] ⊆ e.present := by
    intro g among
    rcases List.mem_pair.1 among with rfl | rfl
    · exact present stamped
    · exact present (took.carried o member g carries)
  have distinct : [EntryField.timestamp, f].Nodup := by simp [other.symm]
  have two := (distinct.subperm both).length_le
  exact Nat.lt_of_lt_of_le Nat.one_lt_two (Nat.le_trans two size)

/-- The built-in registry knows all fields, so a payload that it refuses may be read again. -/
theorem isMismatch_builtin {payload : Bytes} {cause : SchemaError}
    (failed : builtin.codec.decode payload = .error cause) : cause.isMismatch = false := by
  rcases error_of_decode failed with ⟨error, rfl⟩ | rfl | ⟨e, f, misplaced⟩
  · rfl
  · rfl
  · cases misplaced with
    | unknown _ absent =>
        obtain ⟨member, named⟩ := field_eq_ok_iff.1 f.field_builtin
        exact absurd named (absent _ member)
    | crowded => rfl

end Registry

end SensorLog
