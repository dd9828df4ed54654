import SensorLog.Record.Codec

/-!
# Names and columns find their fields

In a registry every column has one owner, and the look-up of the column finds it (`fieldOfColumn_eq_ok_iff`).
So it is with protocol names (`field_eq_ok_iff`) and with the command line names of what can be switched
(`sensor_eq_ok_iff`), for a list of fields makes a registry only if no name and no column is repeated
(`ofFields?_eq_ok_iff`).
-/

namespace SensorLog

theorem Field.isVector_iff {f : Field} : f.isVector = true ↔ f.axes ≠ [] := by
  simp [Field.isVector]

theorem Field.firstColumn_mem (f : Field) : f.firstColumn ∈ f.columns :=
  List.mem_of_head? f.head?_columns

namespace Registry

variable {r : Registry}

/-! ## Look-up -/

/-- Fields that share no column are told apart by any column. -/
theorem find?_of_owner {fields : List Field} {f : Field} {column : String}
    (unique : (fields.flatMap (·.columns)).Nodup) (member : f ∈ fields) (owned : column ∈ f.columns) :
    fields.find? (·.columns.contains column) = some f := by
  induction fields with
  | nil => cases member
  | cons g rest ih =>
      rw [List.flatMap_cons, List.nodup_append] at unique
      obtain ⟨-, later, apart⟩ := unique
      rcases List.mem_cons.1 member with rfl | among
      · exact List.find?_cons_of_pos (List.contains_iff_mem.2 owned)
      · have other : column ∉ g.columns := by
          intro also
          exact apart column also column (List.mem_flatMap.2 ⟨f, among, owned⟩) rfl
        rw [List.find?_cons_of_neg]
        · exact ih later among
        · intro also
          exact other (List.contains_iff_mem.1 also)

/-- The look-up of a column finds its owner and nothing else. -/
theorem fieldOfColumn_eq_ok_iff {f : Field} {column : String} :
    r.fieldOfColumn column = .ok f ↔ f ∈ r.fields ∧ column ∈ f.columns := by
  unfold fieldOfColumn
  constructor
  · intro found
    split at found
    · rename_i g here
      cases found
      have owns : f.columns.contains column = true :=
        List.find?_some (p := fun g : Field => g.columns.contains column) here
      exact ⟨List.mem_of_find?_eq_some here, List.contains_iff_mem.1 owns⟩
    · cases found
  · rintro ⟨member, owned⟩
    rw [find?_of_owner r.nodup_columns member owned]

/-- Fields that share no key are told apart by it. -/
theorem find?_of_key {key : Field → String} {fields : List Field} {f : Field} (unique : (fields.map key).Nodup)
    (member : f ∈ fields) : fields.find? (key · == key f) = some f := by
  induction fields with
  | nil => cases member
  | cons g rest ih =>
      rw [List.map_cons, List.nodup_cons] at unique
      obtain ⟨apart, later⟩ := unique
      rcases List.mem_cons.1 member with rfl | among
      · exact List.find?_cons_of_pos (beq_self_eq_true _)
      · have other : key g ≠ key f := by
          intro same
          exact apart (same ▸ List.mem_map_of_mem among)
        rw [List.find?_cons_of_neg]
        · exact ih later among
        · exact fun same => other (beq_iff_eq.1 same)

theorem eq_of_key {key : Field → String} {fields : List Field} {f g : Field} (unique : (fields.map key).Nodup)
    (first : f ∈ fields) (second : g ∈ fields) (same : key g = key f) : g = f := by
  have found := find?_of_key unique second
  rw [same, find?_of_key unique first] at found
  exact (Option.some.inj found).symm

/-- The look-up of a protocol name finds the field of that name and nothing else. -/
theorem field_eq_ok_iff {f : Field} {name : String} :
    r.field name = .ok f ↔ f ∈ r.fields ∧ f.name = name := by
  unfold field
  constructor
  · intro found
    split at found
    · rename_i g here
      cases found
      have named : (f.name == name) = true := List.find?_some (p := fun g : Field => g.name == name) here
      exact ⟨List.mem_of_find?_eq_some here, beq_iff_eq.1 named⟩
    · cases found
  · rintro ⟨member, rfl⟩
    rw [find?_of_key r.nodup_names member]

/-- It fails on a name that no field has. -/
theorem field_eq_error_iff {cause : SchemaError} {name : String} :
    r.field name = .error cause ↔ (∀ f ∈ r.fields, f.name ≠ name) ∧ cause = .unknownField name := by
  cases found : r.field name with
  | ok f =>
      obtain ⟨member, named⟩ := field_eq_ok_iff.1 found
      simp only [reduceCtorEq, false_iff]
      exact fun absent => absent.1 f member named
  | error cause' =>
      unfold field at found
      split at found
      · cases found
      · rename_i none
        cases found
        have absent : ∀ f ∈ r.fields, f.name ≠ name := by simpa using none
        constructor
        · rintro ⟨⟩
          exact ⟨absent, rfl⟩
        · rintro ⟨-, rfl⟩
          rfl

/-- The look-up of a column fails on one that no field has. -/
theorem fieldOfColumn_eq_error_iff {cause : SchemaError} {column : String} :
    r.fieldOfColumn column = .error cause ↔
      (∀ f ∈ r.fields, column ∉ f.columns) ∧ cause = .unknownColumn column := by
  cases found : r.fieldOfColumn column with
  | ok f =>
      obtain ⟨member, owned⟩ := fieldOfColumn_eq_ok_iff.1 found
      simp only [reduceCtorEq, false_iff]
      exact fun absent => absent.1 f member owned
  | error cause' =>
      unfold fieldOfColumn at found
      split at found
      · cases found
      · rename_i none
        cases found
        have absent : ∀ f ∈ r.fields, column ∉ f.columns := by simpa using none
        constructor
        · rintro ⟨⟩
          exact ⟨absent, rfl⟩
        · rintro ⟨-, rfl⟩
          rfl

/-- The look-up of a command line name finds the field of that name if it can be switched, and nothing else. -/
theorem sensor_eq_ok_iff {f : Field} {apiName : String} :
    r.sensor apiName = .ok f ↔ f ∈ r.fields ∧ f.apiName = apiName ∧ f.isConfigurable = true := by
  unfold sensor
  constructor
  · intro found
    split at found
    · rename_i g here
      cases found
      have named : (f.apiName == apiName && f.isConfigurable) = true :=
        List.find?_some (p := fun g : Field => g.apiName == apiName && g.isConfigurable) here
      rw [Bool.and_eq_true, beq_iff_eq] at named
      exact ⟨List.mem_of_find?_eq_some here, named⟩
    · cases found
  · rintro ⟨member, rfl, switched⟩
    split
    · rename_i g here
      have named : (g.apiName == f.apiName && g.isConfigurable) = true :=
        List.find?_some (p := fun g : Field => g.apiName == f.apiName && g.isConfigurable) here
      rw [Bool.and_eq_true, beq_iff_eq] at named
      rw [eq_of_key r.nodup_apiNames member (List.mem_of_find?_eq_some here) named.1]
    · rename_i none
      exact absurd (List.find?_eq_none.1 none f member) (by simp [switched])

/-- It fails on a name that no field has that can be switched. -/
theorem sensor_eq_error_iff {cause : SchemaError} {apiName : String} :
    r.sensor apiName = .error cause ↔
      (∀ f ∈ r.fields, f.apiName = apiName → f.isConfigurable = false) ∧ cause = .unknownSensor apiName := by
  cases found : r.sensor apiName with
  | ok f =>
      obtain ⟨member, named, switched⟩ := sensor_eq_ok_iff.1 found
      simp only [reduceCtorEq, false_iff]
      rintro ⟨fixed, -⟩
      rw [fixed f member named] at switched
      cases switched
  | error cause' =>
      unfold sensor at found
      split at found
      · cases found
      · rename_i none
        cases found
        have fixed : ∀ f ∈ r.fields, f.apiName = apiName → f.isConfigurable = false := by simpa using none
        constructor
        · rintro ⟨⟩
          exact ⟨fixed, rfl⟩
        · rintro ⟨-, rfl⟩
          rfl

/-- A registry is built of a list of fields exactly when it is the registry with these fields. -/
theorem ofFields?_eq_ok_iff {fields : List Field} : ofFields? fields = .ok r ↔ r.fields = fields := by
  unfold ofFields?
  constructor
  · intro built
    split at built
    · cases built
    · split at built
      · cases built
      · split at built
        · cases built
        · cases built
          rfl
  · rintro rfl
    split
    · rename_i s repeated
      rw [firstRepeat?_eq_none_iff.2 r.nodup_names] at repeated
      cases repeated
    · split
      · rename_i s repeated
        rw [firstRepeat?_eq_none_iff.2 r.nodup_columns] at repeated
        cases repeated
      · split
        · rename_i s repeated
          rw [firstRepeat?_eq_none_iff.2 r.nodup_apiNames] at repeated
          cases repeated
        · rfl

theorem toUnit_of_owner {f : Field} {column : String} (found : r.fieldOfColumn column = .ok f) (raw : Float) :
    r.toUnit column raw = .ok (f.toUnit raw) := by
  rw [toUnit, found]

end Registry

end SensorLog
