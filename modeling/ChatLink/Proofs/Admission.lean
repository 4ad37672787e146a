import ChatLink.Proofs.Tables
import ChatLink.Proofs.Validity

namespace ChatLink

inductive SettingError.Kind
  | invalid
  | misuse
  | overflow
  | recursion
  deriving DecidableEq

def SettingError.kind : SettingError → Kind
  | .unknown _ => .invalid
  | .reserved _ => .misuse
  | .notInteger .. => .invalid
  | .overflow _ => .overflow
  | .tooDeep => .recursion
  | .tooLong => .invalid
  | .negative .. => .invalid
  | .portOutOfRange _ => .invalid
  | .hopsOutOfRange _ => .invalid
  | .mtuTooSmall _ => .invalid
  | .notLoopback _ => .invalid

def Value.HasText [Machine] (value : Value) : Prop := value.depth ≤ Setting.maxDepth ∧ value.hasLiteral

instance [Machine] (value : Value) : Decidable value.HasText := inferInstanceAs (Decidable (_ ∧ _))

namespace Value

theorem readNumeral_ne_infinite {shown : Value} {text : List Char} :
    shown.readNumeral text ≠ .error .infinite := by
  rw [readNumeral]
  split <;> nofun

theorem exists_of_toInt_infinite {value : Value} (h : value.toInt = .error .infinite) :
    ∃ negative, value = .real (.infinite negative) := by
  cases value with
  | real x =>
    cases x with
    | nan => cases h
    | infinite negative => exact ⟨negative, rfl⟩
    | finite => cases h
  | text => exact absurd h readNumeral_ne_infinite
  | bytes => exact absurd h readNumeral_ne_infinite
  | _ => cases h

end Value

namespace Setting

def InRange : Setting → Int → Prop
  | .backendPort, n => 0 ≤ n ∧ n ≤ 65535
  | .mtu, n => 11 ≤ n
  | .hops, n => 0 ≤ n ∧ n < 2 ^ 48
  | _, n => 0 ≤ n

/-- What can be given for a setting: something that converts to a number in its range, or text, which
has to be an address of this machine where an address is due. -/
def Accepts (setting : Setting) (value : Value) : Prop :=
  if setting.isNumber then ∃ n, value.toInt = .ok n ∧ setting.InRange n
  else setting = .backendAddress → (Value.text value.plain).isLoopback

variable {setting : Setting} {value checked : Value} {error : SettingError}

theorem name_of_ofName? {name : String} (h : ofName? name = some setting) : setting.name = name := by
  have named := List.find?_some h
  exact beq_iff_eq.mp named

section Checks

variable [Machine]

theorem unwritten?_eq_none_iff : unwritten? value = none ↔ value.HasText := by
  rw [unwritten?, Value.HasText, ← Nat.not_lt]
  split
  · rename_i deep
    exact iff_of_false nofun fun written => written.1 deep
  · rename_i shallow
    split
    · rename_i written
      exact iff_of_true rfl ⟨shallow, written⟩
    · rename_i long
      exact iff_of_false nofun fun written => long written.2

theorem kind_of_unwritten? (h : unwritten? value = some error) :
    error.kind = .invalid ∨ error.kind = .recursion ∧ maxDepth < value.depth := by
  rw [unwritten?] at h
  split at h
  · rename_i deep
    cases h
    exact .inr ⟨rfl, deep⟩
  · split at h
    · cases h
    · cases h
      exact .inl rfl

theorem kind_of_refuse {α : Type} {blamed : SettingError} (invalid : blamed.kind = .invalid)
    (h : (refuse value blamed : Except SettingError α) = .error error) :
    error.kind = .invalid ∨ error.kind = .recursion ∧ maxDepth < value.depth := by
  rw [refuse] at h
  cases found : unwritten? value with
  | none =>
    rw [found] at h
    cases h
    exact .inl invalid
  | some other =>
    rw [found] at h
    cases h
    exact kind_of_unwritten? found

theorem exists_refuse_int {p : Prop} {n : Int} {blamed : SettingError} (outside : p)
    (invalid : blamed.kind = .invalid) : ∃ error,
      (refuse (.int n) blamed : Except SettingError Unit) = .error error ∧ p ∧ error.kind = .invalid := by
  obtain ⟨error, found⟩ : ∃ error,
      (refuse (.int n) blamed : Except SettingError Unit) = .error error := ⟨_, rfl⟩
  obtain kind | ⟨-, deep⟩ := kind_of_refuse invalid found
  · exact ⟨error, found, outside, kind⟩
  · have shallow : ¬maxDepth < 1 := Nat.not_lt.mpr (Nat.succ_le_succ (Nat.zero_le _))
    exact absurd deep shallow

theorem checkNumber_cases (setting : Setting) (n : Int) :
    setting.checkNumber n = .ok () ∧ setting.InRange n ∨
      ∃ error, setting.checkNumber n = .error error ∧ ¬setting.InRange n ∧
        error.kind = .invalid := by
  have most : (Frame.maxTime : Int) = 2 ^ 48 - 1 := rfl
  have least : (Frame.headerSize : Int) = 11 := rfl
  unfold checkNumber
  by_cases negative : n < 0
  · rw [if_pos negative]
    refine .inr (exists_refuse_int ?_ rfl)
    cases setting <;> simp only [InRange] <;> omega
  · rw [if_neg negative]
    cases setting with
    | backendPort | hops | mtu =>
      dsimp only
      split
      · exact .inr (exists_refuse_int (by simp only [InRange]; omega) rfl)
      · exact .inl ⟨rfl, by simp only [InRange]; omega⟩
    | _ => exact .inl ⟨rfl, Int.not_lt.mp negative⟩

theorem checkNumber_eq_ok_iff {n : Int} : setting.checkNumber n = .ok () ↔ setting.InRange n := by
  obtain ⟨passed, inside⟩ | ⟨error, failed, outside, -⟩ := checkNumber_cases setting n
  · exact ⟨fun _ => inside, fun _ => passed⟩
  · rw [failed]
    exact ⟨nofun, fun inside => absurd inside outside⟩

theorem kind_of_toInt (h : setting.toInt value = .error error) : error.kind = .invalid ∨
    error.kind = .overflow ∧ (∃ negative, value = .real (.infinite negative)) ∨
    error.kind = .recursion ∧ maxDepth < value.depth := by
  rw [toInt] at h
  split at h
  · cases h
  · rename_i failed
    cases h
    exact .inr (.inl ⟨rfl, Value.exists_of_toInt_infinite failed⟩)
  · exact (kind_of_refuse rfl h).imp_right .inr

theorem toInt_eq_ok_iff {n : Int} : setting.toInt value = .ok n ↔ value.toInt = .ok n := by
  rw [toInt]
  split
  · rename_i converted
    rw [converted]
    exact ⟨fun h => by cases h; rfl, fun h => by cases h; rfl⟩
  · rename_i failed
    rw [failed]
    exact ⟨nofun, nofun⟩
  · rename_i failed
    rw [failed]
    exact ⟨nofun, nofun⟩

theorem validate_number (number : setting.isNumber) : setting.validate value =
    setting.toInt value >>= fun n => setting.checkNumber n >>= fun _ => .ok (.int n) := by
  rw [validate, if_pos number]
  rfl

theorem validate_text (text : setting.isNumber = false) (written : unwritten? value = none) :
    setting.validate value =
      if setting = .backendAddress ∧ !(Value.text value.plain).isLoopback then
        .error (.notLoopback (Value.text value.plain).literal)
      else .ok (.text value.plain) := by
  rw [validate, text, if_neg Bool.false_ne_true, written]

theorem accepts_iff (legible : setting.isNumber = false → value.HasText) :
    (∃ checked, setting.validate value = .ok checked) ↔ setting.Accepts value := by
  rw [Accepts]
  cases number : setting.isNumber with
  | true =>
    rw [if_pos rfl, validate_number number]
    constructor
    · rintro ⟨checked, passed⟩
      obtain ⟨n, converted, passed⟩ := exists_of_bind_eq_ok passed
      obtain ⟨_, inside, -⟩ := exists_of_bind_eq_ok passed
      exact ⟨n, toInt_eq_ok_iff.mp converted, checkNumber_eq_ok_iff.mp inside⟩
    · rintro ⟨n, converted, inside⟩
      rw [toInt_eq_ok_iff.mpr converted, ok_bind, checkNumber_eq_ok_iff.mpr inside]
      exact ⟨_, rfl⟩
  | false =>
    rw [if_neg Bool.false_ne_true, validate_text number (unwritten?_eq_none_iff.mpr (legible number))]
    by_cases near : (Value.text value.plain).isLoopback
    · rw [near, if_neg (by simp)]
      exact ⟨fun _ _ => rfl, fun _ => ⟨_, rfl⟩⟩
    · by_cases address : setting = .backendAddress
      · rw [if_pos (by simp [address, near])]
        exact ⟨nofun, fun accepted => absurd (accepted address) near⟩
      · rw [if_neg (by simp [address])]
        exact ⟨fun _ due => absurd due address, fun _ => ⟨_, rfl⟩⟩

theorem kind_of_validate (h : setting.validate value = .error error) : error.kind = .invalid ∨
    error.kind = .overflow ∧ setting.isNumber ∧
      (∃ negative, value = .real (.infinite negative)) ∨
    error.kind = .recursion ∧ maxDepth < value.depth := by
  cases number : setting.isNumber with
  | true =>
    rw [validate_number number] at h
    obtain failed | ⟨n, -, h⟩ := error_of_bind_eq_error h
    · exact (kind_of_toInt failed).imp_right (.imp_left (.imp_right (⟨rfl, ·⟩)))
    · obtain failed | ⟨_, -, h⟩ := error_of_bind_eq_error h
      · obtain ⟨passed, -⟩ | ⟨other, failed', -, invalid⟩ := checkNumber_cases setting n
        · rw [passed] at failed
          cases failed
        · rw [failed'] at failed
          cases failed
          exact .inl invalid
      · cases h
  | false =>
    cases written : unwritten? value with
    | some other =>
      rw [validate, number, if_neg Bool.false_ne_true, written] at h
      cases h
      exact (kind_of_unwritten? written).imp_right .inr
    | none =>
      rw [validate_text number written] at h
      split at h
      · cases h
        exact .inl rfl
      · cases h

theorem validate_default (setting : Setting) :
    setting.validate setting.default = .ok setting.default := by
  cases setting <;> rfl

theorem depth_text_le (s : String) : (Value.text s).depth ≤ maxDepth := by
  change 1 ≤ maxDepth
  exact Nat.succ_le_succ (Nat.zero_le _)

theorem unwritten?_text (s : String) : unwritten? (.text s) = none :=
  unwritten?_eq_none_iff.mpr ⟨depth_text_le s, rfl⟩

theorem validate_checked (h : setting.validate value = .ok checked) :
    setting.validate checked = .ok checked := by
  cases number : setting.isNumber with
  | true =>
    obtain ⟨n, rfl, inside⟩ := number_of_validate number h
    rw [validate_number number, toInt_eq_ok_iff.mpr (Value.toInt_int n), ok_bind, inside]
    rfl
  | false =>
    obtain ⟨written, rfl⟩ := text_of_validate number h
    rw [validate_text number written] at h
    rw [validate_text number (unwritten?_text value.plain)]
    exact h

end Checks

end Setting

namespace Settings

def Supplied (given : List (String × Value)) (setting : Setting) (value : Value) : Prop :=
  (Table.ofList given).lookup setting.name = some value

variable {given : List (String × Value)} {setting : Setting} {value : Value}
  {settings : Settings} {error : SettingError}

theorem Supplied.mem (h : Supplied given setting value) : (setting.name, value) ∈ given :=
  Table.mem_ofList (Table.mem_of_lookup h)

theorem chosen_eq (given : List (String × Value)) (setting : Setting) :
    Supplied given setting (chosen (Table.ofList given) setting) ∨
      chosen (Table.ofList given) setting = setting.default := by
  rw [Supplied, chosen]
  cases (Table.ofList given).lookup setting.name with
  | some value => exact .inl rfl
  | none => exact .inr rfl

theorem Supplied.chosen (h : Supplied given setting value) :
    chosen (Table.ofList given) setting = value := by
  rw [Settings.chosen, h]
  rfl

theorem name_ne_reserved (setting : Setting) : setting.name ≠ reservedName := by
  cases setting <;> decide

section Making

variable [Machine]

theorem make_reserved (h : ∃ pair ∈ given, pair.1 = reservedName) :
    make given = .error (.reserved reservedName) := by
  obtain ⟨pair, member, same⟩ := h
  have reserved : given.any (·.1 == reservedName) :=
    List.any_eq_true.mpr ⟨pair, member, beq_iff_eq.mpr same⟩
  rw [make, if_pos reserved]

theorem make_cases (given : List (String × Value)) :
    (∃ pair ∈ given, pair.1 = reservedName) ∧ make given = .error (.reserved reservedName) ∨
    (∃ pair ∈ given, (∀ setting : Setting, pair.1 ≠ setting.name) ∧
      make given = .error (.unknown pair.1)) ∨
    (∀ pair ∈ given, ∃ setting : Setting, pair.1 = setting.name) ∧
      make given = fromValues (Table.ofList given) := by
  by_cases reserved : ∃ pair ∈ given, pair.1 = reservedName
  · exact .inl ⟨reserved, make_reserved reserved⟩
  have unreserved : ¬given.any (·.1 == reservedName) := by
    rw [List.any_eq_true]
    rintro ⟨pair, member, same⟩
    exact reserved ⟨pair, member, beq_iff_eq.mp same⟩
  rw [make, if_neg unreserved]
  cases found : given.find? fun pair => (Setting.ofName? pair.1).isNone with
  | some pair =>
    refine .inr (.inl ⟨pair, List.mem_of_find?_eq_some found, ?_, rfl⟩)
    rintro setting same
    have unknown := List.find?_some found
    rw [same, Setting.ofName?_name] at unknown
    cases unknown
  | none =>
    refine .inr (.inr ⟨?_, rfl⟩)
    intro pair member
    have known := List.find?_eq_none.mp found pair member
    rw [Option.isNone_iff_eq_none, ← ne_eq, Option.ne_none_iff_exists] at known
    obtain ⟨setting, named⟩ := known
    exact ⟨setting, (Setting.name_of_ofName? named.symm).symm⟩

theorem exists_fromValues_iff {values : Table} : (∃ settings, fromValues values = .ok settings) ↔
    ∀ setting, ∃ checked, Setting.validate setting (chosen values setting) = .ok checked := by
  constructor
  · rintro ⟨settings, made⟩ setting
    exact ⟨_, validate_of_fromValues made setting⟩
  · intro passed
    choose get checked using passed
    exact ⟨⟨get⟩, fromValues_of_validate checked⟩

theorem exists_make_iff (legible : ∀ setting value, setting.isNumber = false →
    Supplied given setting value → value.HasText) :
    (∃ settings, make given = .ok settings) ↔
      (∀ pair ∈ given, ∃ setting : Setting, pair.1 = setting.name) ∧
        ∀ setting value, Supplied given setting value → setting.Accepts value := by
  obtain ⟨⟨pair, member, same⟩, failed⟩ | ⟨pair, member, unknown, failed⟩ | ⟨known, made⟩ :=
    make_cases given
  · rw [failed]
    refine ⟨nofun, fun ⟨known, _⟩ => ?_⟩
    obtain ⟨setting, named⟩ := known pair member
    exact absurd (named.symm.trans same) (name_ne_reserved setting)
  · rw [failed]
    refine ⟨nofun, fun ⟨known, _⟩ => ?_⟩
    obtain ⟨setting, named⟩ := known pair member
    exact absurd named (unknown setting)
  · rw [made, exists_fromValues_iff]
    constructor
    · intro passed
      refine ⟨known, fun setting value supplied => ?_⟩
      rw [← Setting.accepts_iff (legible setting value · supplied), ← supplied.chosen]
      exact passed setting
    · rintro ⟨-, accepted⟩ setting
      obtain supplied | unsupplied := chosen_eq given setting
      · exact (Setting.accepts_iff (legible setting _ · supplied)).mpr (accepted setting _ supplied)
      · rw [unsupplied]
        exact ⟨_, setting.validate_default⟩

theorem kind_of_make (h : make given = .error error) : error.kind = .invalid ∨
    error.kind = .misuse ∧ (∃ pair ∈ given, pair.1 = reservedName) ∨
    ∃ setting value, Supplied given setting value ∧
      (error.kind = .overflow ∧ setting.isNumber ∧
          (∃ negative, value = .real (.infinite negative)) ∨
        error.kind = .recursion ∧ Setting.maxDepth < value.depth) := by
  obtain ⟨reserved, failed⟩ | ⟨pair, -, -, failed⟩ | ⟨-, made⟩ := make_cases given
  · rw [failed] at h
    cases h
    exact .inr (.inl ⟨rfl, reserved⟩)
  · rw [failed] at h
    cases h
    exact .inl rfl
  · rw [made] at h
    obtain ⟨setting, refused⟩ := exists_of_fromValues_error h
    obtain supplied | unsupplied := chosen_eq given setting
    · exact (Setting.kind_of_validate refused).imp_right (.inr ⟨setting, _, supplied, ·⟩)
    · rw [unsupplied, setting.validate_default] at refused
      cases refused

/-- Settings are made exactly of known names and of values that their settings accept. All else is
reported as invalid, but for three things: the reserved name, a number that is infinite, and a
value in the place of a number that is nested too deep to be shown. -/
theorem admission (given : List (String × Value))
    (legible : ∀ setting value, setting.isNumber = false → Supplied given setting value →
      value.HasText) :
    ((∃ settings, make given = .ok settings) ↔
      (∀ pair ∈ given, ∃ setting : Setting, pair.1 = setting.name) ∧
        ∀ setting value, Supplied given setting value → setting.Accepts value) ∧
    ∀ error, make given = .error error → error.kind = .invalid ∨
      error.kind = .misuse ∧ (∃ pair ∈ given, pair.1 = reservedName) ∨
      ∃ setting value, setting.isNumber ∧ Supplied given setting value ∧
        (error.kind = .overflow ∧ (∃ negative, value = .real (.infinite negative)) ∨
          error.kind = .recursion ∧ Setting.maxDepth < value.depth) := by
  refine ⟨exists_make_iff legible, fun error failed => ?_⟩
  refine (kind_of_make failed).imp_right (.imp_right ?_)
  rintro ⟨setting, value, supplied, ⟨overflow, number, infinite⟩ | ⟨recursion, deep⟩⟩
  · exact ⟨setting, value, number, supplied, .inl ⟨overflow, infinite⟩⟩
  · cases number : setting.isNumber with
    | true => exact ⟨setting, value, number, supplied, .inr ⟨recursion, deep⟩⟩
    | false =>
      have shallow := (legible setting value number supplied).1
      exact absurd deep (Nat.not_lt.mpr shallow)

end Making

def loose : List (String × Value) :=
  [("mtu", .real (.ofDecimal false 119 (-1))), ("backend_address", .text "0::1"),
    ("hops", .text " ٤٢ "), ("greeting", .list [.null, .bool true])]

theorem admission_loose : ∃ _ : Machine,
    (∀ setting value, setting.isNumber = false → Supplied loose setting value →
      value.HasText) ∧
    (∃ settings, make loose = .ok settings) := by
  refine ⟨⟨1, 0, "/"⟩, ?_⟩
  have legible : ∀ setting value, setting.isNumber = false → Supplied loose setting value →
      @Value.HasText ⟨1, 0, "/"⟩ value := by
    intro setting value text supplied
    cases setting <;> cases text <;> cases supplied <;> decide
  obtain ⟨made_iff, -⟩ := @admission ⟨1, 0, "/"⟩ loose legible
  refine ⟨legible, made_iff.mpr ⟨?_, ?_⟩⟩
  · simp only [loose, List.forall_mem_cons]
    exact ⟨⟨.mtu, rfl⟩, ⟨.backendAddress, rfl⟩, ⟨.hops, rfl⟩, ⟨.greeting, rfl⟩, nofun⟩
  · intro setting value supplied
    cases setting <;> cases supplied
    · intro _
      decide
    · exact ⟨11, rfl, Int.le_refl 11⟩
    · nofun
    · exact ⟨42, rfl, (by decide : (0 : Int) ≤ 42 ∧ (42 : Int) < 2 ^ 48)⟩

/-- The check of a number takes note of what is no number at all, and not of what is too great. -/
theorem infinite_number_overflows : ∃ (_ : Machine) (error : SettingError),
    make [("hops", .real (.infinite false))] = .error error ∧ error.kind ≠ .invalid :=
  ⟨⟨0, 0, "/"⟩, .overflow .infinite, rfl, nofun⟩

end Settings

end ChatLink
