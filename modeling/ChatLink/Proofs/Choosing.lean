import ChatLink.Proofs.Admission

namespace ChatLink

theorem Setting.name_injective : Function.Injective Setting.name := by
  intro setting other h
  have same := congrArg ofName? h
  simpa using same

namespace Settings

variable {given other first later : List (String × Value)} {settings : Settings}

def Known (given : List (String × Value)) : Prop :=
  ∀ pair ∈ given, ∃ setting : Setting, pair.1 = setting.name

def choice (given : List (String × Value)) (setting : Setting) : Value :=
  (Table.last? given setting.name).getD setting.default

def unknown? (given : List (String × Value)) : Option String :=
  (given.map Prod.fst).find? fun name => (Setting.ofName? name).isNone

theorem chosen_ofList (given : List (String × Value)) (setting : Setting) :
    chosen (Table.ofList given) setting = choice given setting := by
  rw [chosen, Table.lookup_ofList, choice]

theorem known_append : Known (first ++ later) ↔ Known first ∧ Known later :=
  List.forall_mem_append

theorem Known.reserved_notMem (known : Known given) : reservedName ∉ given.map Prod.fst := by
  intro reserved
  obtain ⟨pair, inside, same⟩ := List.mem_map.mp reserved
  obtain ⟨setting, named⟩ := known pair inside
  exact name_ne_reserved setting (named.symm.trans same)

theorem unknown?_eq_none_iff : unknown? given = none ↔ Known given := by
  rw [unknown?, List.find?_eq_none, List.forall_mem_map]
  refine forall₂_congr fun pair inside => ?_
  rw [Option.isNone_iff_eq_none, ← ne_eq, Option.ne_none_iff_exists]
  constructor
  · rintro ⟨setting, named⟩
    exact ⟨setting, (Setting.name_of_ofName? named.symm).symm⟩
  · rintro ⟨setting, named⟩
    exact ⟨setting, by rw [named, Setting.ofName?_name]⟩

theorem exists_unknown? (h : ¬Known given) : ∃ pair ∈ given,
    (∀ setting : Setting, pair.1 ≠ setting.name) ∧ unknown? given = some pair.1 := by
  cases found : unknown? given with
  | none => exact absurd (unknown?_eq_none_iff.mp found) h
  | some name =>
    obtain ⟨pair, inside, rfl⟩ := List.mem_map.mp (List.mem_of_find?_eq_some found)
    refine ⟨pair, inside, fun setting same => ?_, rfl⟩
    have unknown := List.find?_some found
    simp [same] at unknown

theorem unknown?_append (first later : List (String × Value)) :
    unknown? (first ++ later) = (unknown? first).or (unknown? later) := by
  rw [unknown?, List.map_append, List.find?_append, unknown?, unknown?]

theorem unknown?_ofList (given : List (String × Value)) :
    unknown? (Table.ofList given) = unknown? given :=
  Table.find?_keys_update _ [] given

theorem unknown?_filter (setting : Setting) (given : List (String × Value)) :
    unknown? (given.filter (·.1 != setting.name)) = unknown? given := by
  have kept : ∀ pair : String × Value, decide ((pair.1 != setting.name) = true ∧
      (Setting.ofName? pair.1).isNone = true) = (Setting.ofName? pair.1).isNone := by
    intro pair
    rw [Bool.eq_iff_iff, decide_eq_true_iff, and_iff_right_iff_imp]
    intro unknown
    refine bne_iff_ne.mpr fun same => ?_
    simp [same] at unknown
  simp only [unknown?, List.find?_map, List.find?_filter, Function.comp_def, kept]

section Making

variable [Machine]

/-- What two lists of values have in common if the same comes of both. -/
structure Equivalent (given other : List (String × Value)) : Prop where
  reserved : reservedName ∈ given.map Prod.fst ↔ reservedName ∈ other.map Prod.fst
  unknown : unknown? given = unknown? other
  values : ∀ setting : Setting,
    setting.validate (choice given setting) = setting.validate (choice other setting)

theorem make_eq (given : List (String × Value)) : make given =
    if reservedName ∈ given.map Prod.fst then .error (.reserved reservedName)
    else
      match unknown? given with
      | some name => .error (.unknown name)
      | none => fromValues (Table.ofList given) := by
  have reserved : given.any (·.1 == reservedName) = true ↔ reservedName ∈ given.map Prod.fst := by
    simp
  simp only [make, reserved, unknown?, List.find?_map, Function.comp_def]
  cases given.find? fun pair => (Setting.ofName? pair.1).isNone <;> rfl

theorem fromValues_congr {values other : Table} (h : ∀ setting : Setting,
    setting.validate (chosen values setting) = setting.validate (chosen other setting)) :
    fromValues values = fromValues other := by
  simp only [fromValues_eq, h]

theorem Equivalent.make_eq (h : Equivalent given other) : make given = make other := by
  have same : fromValues (Table.ofList given) = fromValues (Table.ofList other) := by
    apply fromValues_congr
    simpa only [chosen_ofList] using h.values
  simp only [Settings.make_eq, h.reserved, h.unknown, same]

theorem equivalent_ofList (first given : List (String × Value)) :
    Equivalent (first ++ Table.ofList given) (first ++ given) where
  reserved := by
    simp only [List.map_append, List.mem_append, Table.ofList, Table.mem_keys_update, List.map_nil,
      List.not_mem_nil, false_or]
  unknown := by rw [unknown?_append, unknown?_append, unknown?_ofList]
  values setting := by simp only [choice, Table.last?_append, Table.last?_ofList]

theorem make_eq_ok_iff : make given = .ok settings ↔ Known given ∧
    ∀ setting : Setting, setting.validate (choice given setting) = .ok (settings.get setting) := by
  simp only [← chosen_ofList]
  rw [make_eq]
  constructor
  · intro made
    split at made
    · cases made
    · split at made
      · cases made
      · rename_i found
        exact ⟨unknown?_eq_none_iff.mp found, validate_of_fromValues made⟩
  · rintro ⟨known, checked⟩
    rw [if_neg known.reserved_notMem, unknown?_eq_none_iff.mpr known]
    exact fromValues_of_validate checked

end Making

end Settings

end ChatLink
