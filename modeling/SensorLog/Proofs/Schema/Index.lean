import Mathlib
import SensorLog.Proofs.Record.Lookup

/-!
# Fields are found through tables

A `FieldIndex` is a list of fields with three tables that lead from names to places in the list. The tables are
filled field by field and a name that is entered again takes the new place, so a repetition shows only in the size
of a table; which name it was is looked for afterwards. `FieldIndex.ofFields?` refuses the same lists with the same
errors as `Registry.ofFields?` (`FieldIndex.ofFields?_eq`), and what it accepts finds the same fields
(`Sound.findsAs`). What is refused and what is found is said once for both (`ofFields?_exact`).
-/

namespace SensorLog

/-! ## The first repetition -/

/-- `d` is the first name of a list that already stood before. -/
def FirstRepeated (names : List String) (d : String) : Prop :=
  ∃ before after, names = before ++ d :: after ∧ before.Nodup ∧ d ∈ before

theorem FirstRepeated.not_nodup {names : List String} {d : String} (repeated : FirstRepeated names d) :
    ¬names.Nodup := by
  obtain ⟨before, after, rfl, -, earlier⟩ := repeated
  intro unique
  exact (List.nodup_append.1 unique).2.2 d earlier d (List.mem_cons_self ..) rfl

theorem FirstRepeated.of_after {seen before rest : List String} {d : String}
    (same : ∀ t : String, t ∈ seen ↔ t ∈ before) (unique : before.Nodup)
    (found : firstRepeatAfter? seen rest = some d) : FirstRepeated (before ++ rest) d := by
  induction rest generalizing seen before with
  | nil => cases found
  | cons s rest ih =>
      rw [firstRepeatAfter?] at found
      split at found
      · rename_i here
        cases found
        exact ⟨before, rest, rfl, unique, (same d).1 here⟩
      · rename_i fresh
        have later : FirstRepeated ((before ++ [s]) ++ rest) d := by
          refine ih ?_ ?_ found
          · intro t
            rw [List.mem_cons, List.mem_append, List.mem_singleton, same, or_comm]
          · rw [← List.concat_eq_append]
            exact unique.concat (mt (same s).2 fresh)
        rwa [List.append_assoc] at later

/-- Two first repetitions stand at the same place: the names before it are all different. -/
theorem FirstRepeated.unique {names : List String} {d d' : String} (first : FirstRepeated names d)
    (second : FirstRepeated names d') : d = d' := by
  obtain ⟨before, after, rfl, apart, earlier⟩ := first
  obtain ⟨before', after', split, apart', earlier'⟩ := second
  rcases List.append_eq_append_iff.1 split with ⟨_ | ⟨s, more⟩, rfl, rest⟩ | ⟨_ | ⟨s, more⟩, rfl, rest⟩
  · exact (List.cons.inj rest).1
  · cases rest
    exact absurd rfl ((List.nodup_append.1 apart').2.2 d earlier d (List.mem_cons_self ..))
  · exact (List.cons.inj rest).1.symm
  · cases rest
    exact absurd rfl ((List.nodup_append.1 apart).2.2 d' earlier' d' (List.mem_cons_self ..))

theorem firstRepeated_of_repeated {names : List String} (repeated : ¬names.Nodup) :
    ∃ d, firstRepeat? names = some d ∧ FirstRepeated names d := by
  obtain ⟨d, found⟩ := Option.ne_none_iff_exists'.1 (mt firstRepeat?_eq_none_iff.1 repeated)
  exact ⟨d, found, .of_after (fun _ => Iff.rfl) .nil found⟩

theorem firstRepeat?_eq_some_iff {names : List String} {d : String} :
    firstRepeat? names = some d ↔ FirstRepeated names d := by
  constructor
  · exact fun found => .of_after (fun _ => Iff.rfl) .nil found
  · intro first
    obtain ⟨d', found, second⟩ := firstRepeated_of_repeated first.not_nodup
    rw [found, first.unique second]

/-- `d` is the first repetition in the first one of some lists that has any. -/
def FirstRepeatedIn : List (List String) → String → Prop
  | [], _ => False
  | names :: more, d => FirstRepeated names d ∨ names.Nodup ∧ FirstRepeatedIn more d

theorem FirstRepeatedIn.exists_not_nodup {lists : List (List String)} {d : String}
    (repeated : FirstRepeatedIn lists d) : ∃ names ∈ lists, ¬names.Nodup := by
  induction lists with
  | nil => exact repeated.elim
  | cons names more ih =>
      rcases repeated with here | ⟨-, later⟩
      · exact ⟨names, List.mem_cons_self .., here.not_nodup⟩
      · obtain ⟨names', member, repeats⟩ := ih later
        exact ⟨names', List.mem_cons_of_mem _ member, repeats⟩

theorem FirstRepeatedIn.unique {lists : List (List String)} {d d' : String} (first : FirstRepeatedIn lists d)
    (second : FirstRepeatedIn lists d') : d = d' := by
  induction lists with
  | nil => exact first.elim
  | cons names more ih =>
      rcases first with here | ⟨unique, later⟩ <;> rcases second with here' | ⟨unique', later'⟩
      · exact here.unique here'
      · exact absurd unique' here.not_nodup
      · exact absurd unique here'.not_nodup
      · exact ih later later'

/-! ## Tables -/

/-- A table that leads from names to places. -/
abbrev NameTable := Std.HashMap String Nat

namespace NameTable

variable {t : NameTable} {names : List String}

/-- The table with names entered for a place. A name that was there gets the new place. -/
def enter (t : NameTable) (names : List String) (place : Nat) : NameTable :=
  names.foldl (fun t name => t.insert name place) t

/-- The table holds the names of a list, each of them once. -/
structure Holds (t : NameTable) (names : List String) : Prop where
  mem : ∀ s, s ∈ t ↔ s ∈ names
  size : t.size = names.toFinset.card

theorem Holds.empty : Holds {} [] :=
  ⟨by simp, rfl⟩

theorem Holds.insert (holds : Holds t names) (name : String) (place : Nat) :
    Holds (t.insert name place) (names ++ [name]) where
  mem := by
    intro s
    rw [Std.HashMap.mem_insert, holds.mem, List.mem_append, List.mem_singleton, beq_iff_eq, or_comm, @eq_comm _ s]
  size := by
    have grown : (names ++ [name]).toFinset = Insert.insert name names.toFinset := by
      ext s
      simp
    rw [Std.HashMap.size_insert, grown, Finset.card_insert_eq_ite, holds.size]
    simp only [holds.mem, List.mem_toFinset]

theorem Holds.enter (holds : Holds t names) (more : List String) (place : Nat) :
    Holds (t.enter more place) (names ++ more) := by
  induction more generalizing t names with
  | nil => rwa [List.append_nil]
  | cons name more ih =>
      have later := ih (holds.insert name place)
      rwa [List.append_assoc, List.singleton_append] at later

/-- A table is smaller than the list of its names exactly if one of them was entered again. -/
theorem Holds.size_eq_iff (holds : Holds t names) : t.size = names.length ↔ names.Nodup := by
  rw [holds.size]
  exact Multiset.toFinset_card_eq_card_iff_nodup

/-- What an entered name leads to. -/
theorem getElem?_enter {s : String} {place i : Nat} (found : (t.enter names place)[s]? = some i) :
    s ∈ names ∧ i = place ∨ t[s]? = some i := by
  induction names generalizing t with
  | nil => exact .inr found
  | cons name more ih =>
      rcases ih found with ⟨member, same⟩ | earlier
      · exact .inl ⟨List.mem_cons_of_mem _ member, same⟩
      · rw [Std.HashMap.getElem?_insert] at earlier
        split at earlier
        · rename_i same
          cases earlier
          exact .inl ⟨List.mem_cons.2 (.inl (beq_iff_eq.1 same).symm), rfl⟩
        · exact .inr earlier

/-- A table of fields holds their names, and each name leads to a field that has it. -/
structure Finds (t : NameTable) (fields : List Field) (names : Field → List String) : Prop where
  holds : t.Holds (fields.flatMap names)
  leads : ∀ s i, t[s]? = some i → ∃ f, fields[i]? = some f ∧ s ∈ names f

theorem Finds.empty (names : Field → List String) : Finds {} [] names :=
  ⟨.empty, by simp⟩

theorem Finds.enter {fields : List Field} {names : Field → List String} (finds : t.Finds fields names) (f : Field) :
    (t.enter (names f) fields.length).Finds (fields ++ [f]) names where
  holds := by
    rw [List.flatMap_append, List.flatMap_singleton]
    exact finds.holds.enter _ _
  leads := by
    intro s i found
    rcases getElem?_enter found with ⟨member, rfl⟩ | earlier
    · exact ⟨f, List.getElem?_concat_length, member⟩
    · obtain ⟨g, here, member⟩ := finds.leads s i earlier
      exact ⟨g, by rw [List.getElem?_append_left (List.getElem?_eq_some_iff.1 here).1, here], member⟩

end NameTable

/-! ## The index of a list of fields -/

/-- Fields with the tables that find them. -/
structure FieldIndex where
  fields : List Field := []
  byName : NameTable := {}
  byColumn : NameTable := {}
  byApiName : NameTable := {}

namespace FieldIndex

/-- The index with one more field, to which its names lead from now on. -/
def enter (x : FieldIndex) (f : Field) : FieldIndex :=
  { fields := x.fields ++ [f]
    byName := x.byName.enter [f.name] x.fields.length
    byColumn := x.byColumn.enter f.columns x.fields.length
    byApiName := x.byApiName.enter [f.apiName] x.fields.length }

/-- The index of fields, with whatever names they have. -/
def build (fields : List Field) : FieldIndex :=
  fields.foldl enter {}

/-- The error for a table that has fewer entries than there are names: the name is looked for among these. -/
def duplicateAmong (names : List String) : SchemaError :=
  .duplicate ((firstRepeat? names).getD "")

/-- The index of fields whose names all found room in the tables. -/
def ofFields? (fields : List Field) : Except SchemaError FieldIndex :=
  let x := build fields
  if x.byName.size ≠ x.fields.length then .error (duplicateAmong (fields.map (·.name)))
  else if x.byColumn.size ≠ (x.fields.map (·.columns.length)).sum then
    .error (duplicateAmong (x.fields.flatMap (·.columns)))
  else if x.byApiName.size ≠ x.fields.length then .error (duplicateAmong (x.fields.map (·.apiName)))
  else .ok x

/-- The field that a table leads to. -/
def find? (x : FieldIndex) (t : NameTable) (s : String) : Option Field :=
  t[s]?.bind fun place => x.fields[place]?

/-- The field with a protocol name. -/
def field (x : FieldIndex) (name : String) : Except SchemaError Field :=
  match x.find? x.byName name with
  | some f => .ok f
  | none => .error (.unknownField name)

/-- The field that owns a column. -/
def fieldOfColumn (x : FieldIndex) (column : String) : Except SchemaError Field :=
  match x.find? x.byColumn column with
  | some f => .ok f
  | none => .error (.unknownColumn column)

/-- The field of a command line name, if it can be switched. -/
def sensor (x : FieldIndex) (apiName : String) : Except SchemaError Field :=
  match (x.find? x.byApiName apiName).filter (·.isConfigurable) with
  | some f => .ok f
  | none => .error (.unknownSensor apiName)

/-- The tables of an index find its fields. -/
structure Sound (x : FieldIndex) : Prop where
  byName : x.byName.Finds x.fields fun f => [f.name]
  byColumn : x.byColumn.Finds x.fields (·.columns)
  byApiName : x.byApiName.Finds x.fields fun f => [f.apiName]

variable {x : FieldIndex}

theorem Sound.enter (sound : x.Sound) (f : Field) : (x.enter f).Sound where
  byName := sound.byName.enter f
  byColumn := sound.byColumn.enter f
  byApiName := sound.byApiName.enter f

theorem Sound.foldl_enter (sound : x.Sound) (fields : List Field) :
    (fields.foldl FieldIndex.enter x).Sound ∧ (fields.foldl FieldIndex.enter x).fields = x.fields ++ fields := by
  induction fields generalizing x with
  | nil => exact ⟨sound, (List.append_nil _).symm⟩
  | cons f rest ih =>
      obtain ⟨later, order⟩ := ih (sound.enter f)
      refine ⟨later, order.trans ?_⟩
      rw [FieldIndex.enter, List.append_assoc, List.singleton_append]

theorem sound_build (fields : List Field) : (build fields).Sound ∧ (build fields).fields = fields :=
  Sound.foldl_enter ⟨.empty _, .empty _, .empty _⟩ fields

/-! ## What is refused -/

theorem size_byName (fields : List Field) :
    (build fields).byName.size = (build fields).fields.length ↔ (fields.map (·.name)).Nodup := by
  obtain ⟨sound, order⟩ := sound_build fields
  have size := sound.byName.holds.size_eq_iff
  rw [← List.map_eq_flatMap, List.length_map] at size
  rwa [order] at size ⊢

theorem size_byColumn (fields : List Field) :
    (build fields).byColumn.size = ((build fields).fields.map (·.columns.length)).sum ↔
      (fields.flatMap (·.columns)).Nodup := by
  obtain ⟨sound, order⟩ := sound_build fields
  have size := sound.byColumn.holds.size_eq_iff
  rw [List.length_flatMap] at size
  rwa [order] at size ⊢

theorem size_byApiName (fields : List Field) :
    (build fields).byApiName.size = (build fields).fields.length ↔ (fields.map (·.apiName)).Nodup := by
  obtain ⟨sound, order⟩ := sound_build fields
  have size := sound.byApiName.holds.size_eq_iff
  rw [← List.map_eq_flatMap, List.length_map] at size
  rwa [order] at size ⊢

end FieldIndex

namespace Registry

/-- The lists of names in which nothing may be repeated, in the order in which they are looked through. -/
def namesOf (fields : List Field) : List (List String) :=
  [fields.map (·.name), fields.flatMap (·.columns), fields.map (·.apiName)]

theorem nodup_namesOf (r : Registry) : ∀ names ∈ namesOf r.fields, names.Nodup := by
  simp only [namesOf, List.mem_cons, List.not_mem_nil, or_false, forall_eq_or_imp, forall_eq]
  exact ⟨r.nodup_names, r.nodup_columns, r.nodup_apiNames⟩

theorem ofFields?_eq_error_iff {fields : List Field} {cause : SchemaError} :
    ofFields? fields = .error cause ↔ ∃ d, FirstRepeatedIn (namesOf fields) d ∧ cause = .duplicate d := by
  have refused (cause : SchemaError) (failed : ofFields? fields = .error cause) :
      ∃ d, FirstRepeatedIn (namesOf fields) d ∧ cause = .duplicate d := by
    unfold ofFields? at failed
    split at failed
    · rename_i d found
      cases failed
      exact ⟨d, .inl (firstRepeat?_eq_some_iff.1 found), rfl⟩
    · rename_i names
      split at failed
      · rename_i d found
        cases failed
        exact ⟨d, .inr ⟨firstRepeat?_eq_none_iff.1 names, .inl (firstRepeat?_eq_some_iff.1 found)⟩, rfl⟩
      · rename_i columns
        split at failed
        · rename_i d found
          cases failed
          exact ⟨d, .inr ⟨firstRepeat?_eq_none_iff.1 names, .inr ⟨firstRepeat?_eq_none_iff.1 columns,
            .inl (firstRepeat?_eq_some_iff.1 found)⟩⟩, rfl⟩
        · cases failed
  constructor
  · exact refused cause
  · rintro ⟨d, repeated, rfl⟩
    cases built : ofFields? fields with
    | error cause =>
        obtain ⟨d', repeated', rfl⟩ := refused cause built
        rw [repeated.unique repeated']
    | ok r =>
        obtain rfl := ofFields?_eq_ok_iff.1 built
        obtain ⟨names, member, repeats⟩ := repeated.exists_not_nodup
        exact absurd (r.nodup_namesOf names member) repeats

end Registry

namespace FieldIndex

theorem duplicateAmong_of_first {names : List String} {d : String} (first : FirstRepeated names d) :
    duplicateAmong names = .duplicate d := by
  rw [duplicateAmong, firstRepeat?_eq_some_iff.2 first, Option.getD_some]

/-- The sizes of the tables refuse what the names refuse, for the same name. -/
theorem ofFields?_eq (fields : List Field) :
    ofFields? fields = (Registry.ofFields? fields).map fun _ => build fields := by
  have order : (build fields).fields = fields := (sound_build fields).2
  unfold ofFields?
  simp only [ne_eq, size_byName, size_byColumn, size_byApiName]
  cases built : Registry.ofFields? fields with
  | ok r =>
      obtain rfl := Registry.ofFields?_eq_ok_iff.1 built
      rw [if_neg (not_not.2 r.nodup_names), if_neg (not_not.2 r.nodup_columns), if_neg (not_not.2 r.nodup_apiNames)]
      rfl
  | error cause =>
      obtain ⟨d, repeated, rfl⟩ := Registry.ofFields?_eq_error_iff.1 built
      rcases repeated with here | ⟨names, here | ⟨columns, here | ⟨-, none⟩⟩⟩
      · rw [if_pos here.not_nodup, duplicateAmong_of_first here]
        rfl
      · rw [if_neg (not_not.2 names), if_pos here.not_nodup, order, duplicateAmong_of_first here]
        rfl
      · rw [if_neg (not_not.2 names), if_neg (not_not.2 columns), if_pos here.not_nodup, order,
          duplicateAmong_of_first here]
        rfl
      · exact none.elim

/-! ## What is found -/

variable {x : FieldIndex} {t : NameTable} {names : Field → List String} {s : String}

theorem find?_eq_none (finds : t.Finds x.fields names) (none : x.find? t s = none) :
    ∀ f ∈ x.fields, s ∉ names f := by
  intro f member own
  have held : s ∈ t := (finds.holds.mem s).2 (List.mem_flatMap.2 ⟨f, member, own⟩)
  obtain ⟨g, here, -⟩ := finds.leads s t[s] (Std.HashMap.getElem?_eq_some_getElem held)
  rw [find?, Std.HashMap.getElem?_eq_some_getElem held, Option.bind_some, here] at none
  cases none

theorem find?_eq_some {f : Field} (finds : t.Finds x.fields names) (found : x.find? t s = some f) :
    f ∈ x.fields ∧ s ∈ names f := by
  obtain ⟨place, leads, here⟩ := Option.bind_eq_some_iff.1 found
  obtain ⟨g, there, own⟩ := finds.leads s place leads
  rw [there] at here
  cases here
  exact ⟨List.mem_of_getElem? there, own⟩

/-- An index of the fields of a registry finds what the registry finds, and fails with the same error. -/
structure FindsAs (x : FieldIndex) (r : Registry) : Prop where
  fields : x.fields = r.fields
  field : ∀ name, x.field name = r.field name
  fieldOfColumn : ∀ column, x.fieldOfColumn column = r.fieldOfColumn column
  sensor : ∀ apiName, x.sensor apiName = r.sensor apiName

theorem Sound.findsAs {r : Registry} (sound : x.Sound) (order : x.fields = r.fields) : x.FindsAs r where
  fields := order
  field := by
    intro name
    unfold FieldIndex.field
    split
    · rename_i f found
      obtain ⟨member, named⟩ := find?_eq_some sound.byName found
      exact (Registry.field_eq_ok_iff.2 ⟨order ▸ member, (List.mem_singleton.1 named).symm⟩).symm
    · rename_i none
      have absent := find?_eq_none sound.byName none
      refine (Registry.field_eq_error_iff.2 ⟨?_, rfl⟩).symm
      rintro f member rfl
      exact absent f (order ▸ member) (List.mem_singleton_self _)
  fieldOfColumn := by
    intro column
    unfold FieldIndex.fieldOfColumn
    split
    · rename_i f found
      obtain ⟨member, owned⟩ := find?_eq_some sound.byColumn found
      exact (Registry.fieldOfColumn_eq_ok_iff.2 ⟨order ▸ member, owned⟩).symm
    · rename_i none
      have absent := find?_eq_none sound.byColumn none
      exact (Registry.fieldOfColumn_eq_error_iff.2 ⟨fun f member => absent f (order ▸ member), rfl⟩).symm
  sensor := by
    intro apiName
    unfold FieldIndex.sensor
    split
    · rename_i f found
      obtain ⟨found, switched⟩ := Option.filter_eq_some_iff.1 found
      obtain ⟨member, named⟩ := find?_eq_some sound.byApiName found
      exact (Registry.sensor_eq_ok_iff.2 ⟨order ▸ member, (List.mem_singleton.1 named).symm, switched⟩).symm
    · rename_i none
      refine (Registry.sensor_eq_error_iff.2 ⟨?_, rfl⟩).symm
      rintro f member rfl
      cases found : x.find? x.byApiName f.apiName with
      | none => exact absurd (List.mem_singleton_self _) (find?_eq_none sound.byApiName found f (order ▸ member))
      | some g =>
          -- The name leads to one field only, so the one that was passed over is `f`.
          obtain ⟨among, named⟩ := find?_eq_some sound.byApiName found
          have same : g = f :=
            Registry.eq_of_key r.nodup_apiNames member (order ▸ among) (List.mem_singleton.1 named).symm
          rw [found, same, Option.filter_eq_none_iff] at none
          exact Bool.eq_false_iff.2 (none f rfl)

end FieldIndex

namespace Registry

/-- Fields make a registry exactly if no protocol name, no column of any field and no command line name stands
    twice. Otherwise the first repetition is named, in the first of the three lists that has one. A registry keeps
    the order of its fields. A protocol name leads to the field of that name, a column to the field that owns it and
    a command line name to the field of that name with a mask; where there is no such field the error carries what
    was asked for. The tables decide and find the same, though only their sizes tell of a repetition. -/
theorem ofFields?_exact (fields : List Field) :
    ((∃ r, ofFields? fields = .ok r) ↔ (fields.map (·.name)).Nodup ∧ (fields.flatMap (·.columns)).Nodup ∧
      (fields.map (·.apiName)).Nodup) ∧
    (∀ cause, ofFields? fields = .error cause ↔ ∃ d,
      FirstRepeatedIn [fields.map (·.name), fields.flatMap (·.columns), fields.map (·.apiName)] d ∧
        cause = .duplicate d) ∧
    FieldIndex.ofFields? fields = (ofFields? fields).map (fun _ => .build fields) ∧
    ∀ r, ofFields? fields = .ok r → r.fields = fields ∧ (FieldIndex.build fields).FindsAs r ∧ ∀ s,
      (∀ f, r.field s = .ok f ↔ f ∈ fields ∧ f.name = s) ∧
      (∀ cause, r.field s = .error cause ↔ (∀ f ∈ fields, f.name ≠ s) ∧ cause = .unknownField s) ∧
      (∀ f, r.fieldOfColumn s = .ok f ↔ f ∈ fields ∧ s ∈ f.columns) ∧
      (∀ cause, r.fieldOfColumn s = .error cause ↔ (∀ f ∈ fields, s ∉ f.columns) ∧ cause = .unknownColumn s) ∧
      (∀ f, r.sensor s = .ok f ↔ f ∈ fields ∧ f.apiName = s ∧ f.mask?.isSome = true) ∧
      ∀ cause, r.sensor s = .error cause ↔
        (∀ f ∈ fields, f.apiName = s → f.mask?.isSome = false) ∧ cause = .unknownSensor s := by
  refine ⟨?_, ?_, FieldIndex.ofFields?_eq fields, ?_⟩
  · constructor
    · rintro ⟨r, built⟩
      obtain rfl := ofFields?_eq_ok_iff.1 built
      exact ⟨r.nodup_names, r.nodup_columns, r.nodup_apiNames⟩
    · rintro ⟨names, columns, apiNames⟩
      exact ⟨⟨fields, names, columns, apiNames⟩, ofFields?_eq_ok_iff.2 rfl⟩
  · exact fun cause => ofFields?_eq_error_iff
  · intro r built
    obtain rfl := ofFields?_eq_ok_iff.1 built
    obtain ⟨sound, order⟩ := FieldIndex.sound_build r.fields
    exact ⟨rfl, sound.findsAs order, fun s => ⟨fun f => field_eq_ok_iff, fun cause => field_eq_error_iff,
      fun f => fieldOfColumn_eq_ok_iff, fun cause => fieldOfColumn_eq_error_iff, fun f => sensor_eq_ok_iff,
      fun cause => sensor_eq_error_iff⟩⟩

/-- The columns of the axes meet another field's symbol, and only there is a name repeated. -/
example :
    ofFields? [{ name := "spin", symbol := "s", unit := "", axes := ["x", "y"] },
      { name := "slip", symbol := "s_y", unit := "", alias? := some "spins" }] = .error (.duplicate "s_y") := by
  rfl

end Registry

end SensorLog
