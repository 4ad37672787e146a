import ChatLink.Proofs.Choosing
import ChatLink.Proofs.Loading

namespace ChatLink

def Setting.variable? : Setting → Option String
  | .backendAddress => some "XCHAT_BACKEND_ADDRESS"
  | .backendPort => some "XCHAT_BACKEND_PORT"
  | _ => none

namespace Settings

variable {store : Store} {process given : Environment} {path : Option String}
  {pairs other : List (String × Value)} {setting : Setting} {settings : Settings}

def preset? (given : Environment) (setting : Setting) : Option String :=
  setting.variable?.bind fun name => given.lookup name

/-- The value that stands for a setting before the others. -/
def preferred (given : Environment) (pairs : List (String × Value)) (setting : Setting) : Value :=
  match preset? given setting, Table.last? pairs setting.name with
  | some text, _ => .text text
  | none, some value => value
  | none, none => setting.default

def presets (given : Environment) : List (String × Value) :=
  Setting.all.filterMap fun setting => (preset? given setting).map fun text => (setting.name, .text text)

theorem overridden_ofList (given : Environment) (pairs : List (String × Value)) :
    overridden given (Table.ofList pairs) = Table.ofList (pairs ++ presets given) := by
  rw [Table.ofList_append]
  cases address : given.lookup "XCHAT_BACKEND_ADDRESS" <;>
    cases port : given.lookup "XCHAT_BACKEND_PORT" <;>
    simp [overridden, override, presets, preset?, Setting.variable?, Setting.all, Table.update, address,
      port]

theorem last?_presets (given : Environment) (setting : Setting) :
    Table.last? (presets given) setting.name = (preset? given setting).map .text := by
  cases address : given.lookup "XCHAT_BACKEND_ADDRESS" <;>
    cases port : given.lookup "XCHAT_BACKEND_PORT" <;>
    cases setting <;>
    simp [presets, preset?, Setting.variable?, Setting.all, Setting.name, Table.last?, address, port]

theorem choice_presets (given : Environment) (pairs : List (String × Value)) (setting : Setting) :
    choice (pairs ++ presets given) setting = preferred given pairs setting := by
  rw [choice, Table.last?_append, last?_presets, preferred]
  cases preset? given setting <;> cases Table.last? pairs setting.name <;> rfl

theorem known_presets (given : Environment) : Known (presets given) := by
  intro pair inside
  obtain ⟨setting, -, put⟩ := List.mem_filterMap.mp inside
  obtain ⟨text, -, rfl⟩ := Option.map_eq_some_iff.mp put
  exact ⟨setting, rfl⟩

def SameByName (pairs other : List (String × Value)) : Prop :=
  ∀ name, other.filter (·.1 == name) = pairs.filter (·.1 == name)

theorem SameByName.mem_iff (h : SameByName pairs other) (pair : String × Value) :
    pair ∈ other ↔ pair ∈ pairs := by
  have same := congrArg (pair ∈ ·) (h pair.1)
  simpa using same

theorem SameByName.known_iff (h : SameByName pairs other) : Known other ↔ Known pairs := by
  simp only [Known, h.mem_iff]

theorem SameByName.preferred_eq (h : SameByName pairs other) (given : Environment)
    (setting : Setting) : preferred given other setting = preferred given pairs setting := by
  rw [preferred, preferred, Table.last?, h, ← Table.last?]

section Making

variable [Machine]

/-- The entries that loading finds in its file. A file that is not there gives none. -/
inductive Gives (store : Store) (process given : Environment) (path : Option String) :
    List (String × Value) → Prop
  | absent (h : store.read (path.getD (defaultPath process given)) = .error .missing) :
    Gives store process given path []
  | listed {content pairs} (h : store.read (path.getD (defaultPath process given)) = .ok content)
    (lists : Json.Lists content pairs) : Gives store process given path pairs

theorem fileValues_of_gives (gives : Gives store process given path pairs) :
    fileValues store (path.getD (defaultPath process given)) = .ok (Table.ofList pairs) := by
  cases gives with
  | absent h => simp [fileValues, h, Table.ofList, Table.update]
  | listed h lists => simp [fileValues, h, Json.read_eq_table_iff.mpr ⟨pairs, lists, rfl⟩]

theorem exists_gives_iff :
    (∃ values, fileValues store (path.getD (defaultPath process given)) = .ok values) ↔
      ∃ pairs, Gives store process given path pairs := by
  constructor
  · rintro ⟨values, h⟩
    rw [fileValues] at h
    split at h
    · rename_i missing
      exact ⟨[], .absent missing⟩
    · cases h
    · rename_i content read
      split at h
      · cases h
      · rename_i entries table
        obtain ⟨pairs, lists, -⟩ := Json.read_eq_table_iff.mp table
        exact ⟨pairs, .listed read lists⟩
      · cases h
  · rintro ⟨pairs, gives⟩
    exact ⟨_, fileValues_of_gives gives⟩

theorem load_eq (gives : Gives store process given path pairs) :
    load store process given path = (make (pairs ++ presets given)).mapError .setting := by
  have same := (equivalent_ofList [] (pairs ++ presets given)).make_eq
  rw [List.nil_append, List.nil_append, ← overridden_ofList] at same
  rw [← same, load, fileValues_of_gives gives]
  rfl

theorem load_eq_ok_iff (gives : Gives store process given path pairs) :
    load store process given path = .ok settings ↔ Known pairs ∧ ∀ setting : Setting,
      setting.validate (preferred given pairs setting) = .ok (settings.get setting) := by
  have made : load store process given path = .ok settings ↔
      make (pairs ++ presets given) = .ok settings := by
    rw [load_eq gives]
    cases make (pairs ++ presets given) <;> simp [Except.mapError]
  rw [made, make_eq_ok_iff, known_append]
  simp only [choice_presets, and_iff_left (known_presets given)]

theorem equivalent_filter (preset : (preset? given setting).isSome) (pairs : List (String × Value)) :
    Equivalent (pairs.filter (·.1 != setting.name) ++ presets given) (pairs ++ presets given) where
  reserved := by
    have other := (name_ne_reserved setting).symm
    simp [other]
  unknown := by rw [unknown?_append, unknown?_filter, unknown?_append]
  values other := by
    rw [choice_presets, choice_presets, preferred, preferred]
    by_cases same : other = setting
    · obtain ⟨text, held⟩ := Option.isSome_iff_exists.mp preset
      rw [same, held]
    · rw [Table.last?_filter_of_ne (Setting.name_injective.ne same)]

theorem SameByName.equivalent (h : SameByName pairs other) (known : Known pairs) :
    Equivalent (other ++ presets given) (pairs ++ presets given) where
  reserved := by simp [h.mem_iff]
  unknown := by
    rw [unknown?_append, unknown?_append, unknown?_eq_none_iff.mpr known,
      unknown?_eq_none_iff.mpr (h.known_iff.mpr known)]
  values setting := by rw [choice_presets, choice_presets, h.preferred_eq]

structure Layered (store : Store) (process given : Environment) (path : Option String)
    (pairs : List (String × Value)) : Prop where
  succeeds : (∃ settings, load store process given path = .ok settings) ↔ Known pairs ∧
    ∀ setting : Setting, ∃ checked, setting.validate (preferred given pairs setting) = .ok checked
  values : ∀ settings, load store process given path = .ok settings → ∀ setting : Setting,
    setting.validate (preferred given pairs setting) = .ok (settings.get setting)
  unknown : ¬Known pairs → ∃ pair ∈ pairs, (∀ setting : Setting, pair.1 ≠ setting.name) ∧
    load store process given path = .error (.setting (.unknown pair.1))
  /-- Another file, that differs only in what it gives for a setting whose variable is set. -/
  shadowed : ∀ setting, (preset? given setting).isSome → ∀ elsewhere host file other,
    Gives elsewhere host given file other →
      other.filter (·.1 != setting.name) = pairs.filter (·.1 != setting.name) →
        load elsewhere host given file = load store process given path
  /-- Another file, that differs only in the order of different names. -/
  unordered : ∀ elsewhere host file other, Gives elsewhere host given file other →
    SameByName pairs other →
      (∀ settings, load elsewhere host given file = .ok settings ↔
        load store process given path = .ok settings) ∧
      (Known pairs → load elsewhere host given file = load store process given path)

theorem load_unknown (gives : Gives store process given path pairs)
    (unreserved : ∀ pair ∈ pairs, pair.1 ≠ reservedName) (h : ¬Known pairs) :
    ∃ pair ∈ pairs, (∀ setting : Setting, pair.1 ≠ setting.name) ∧
      load store process given path = .error (.setting (.unknown pair.1)) := by
  have proper : reservedName ∉ (pairs ++ presets given).map Prod.fst := by
    rw [List.map_append, List.mem_append, not_or]
    refine ⟨fun reserved => ?_, (known_presets given).reserved_notMem⟩
    obtain ⟨pair, inside, same⟩ := List.mem_map.mp reserved
    exact unreserved pair inside same
  obtain ⟨pair, inside, unknown, found⟩ := exists_unknown? h
  refine ⟨pair, inside, unknown, ?_⟩
  rw [load_eq gives, make_eq, if_neg proper, unknown?_append, found]
  rfl

/-- With every file that is absent or holds a table, loading succeeds so long as all names in it are known
and the value that stands before the others for each setting passes its check; of these values, checked,
the settings are made. Nothing that stands behind them is looked at. -/
theorem layering (store : Store) (process given : Environment) (path : Option String) :
    ((∃ values, fileValues store (path.getD (defaultPath process given)) = .ok values) ↔
      ∃ pairs, Gives store process given path pairs) ∧
    ∀ pairs, Gives store process given path pairs → (∀ pair ∈ pairs, pair.1 ≠ reservedName) →
      Layered store process given path pairs := by
  refine ⟨exists_gives_iff, fun pairs gives unreserved => ?_⟩
  constructor
  case succeeds =>
    simp only [load_eq_ok_iff gives, exists_and_left]
    refine and_congr_right fun known => ⟨?_, ?_⟩
    · rintro ⟨settings, checked⟩ setting
      exact ⟨_, checked setting⟩
    · intro passed
      choose get checked using passed
      exact ⟨⟨get⟩, checked⟩
  case values =>
    intro settings loaded
    exact ((load_eq_ok_iff gives).mp loaded).2
  case unknown => exact load_unknown gives unreserved
  case shadowed =>
    intro setting preset elsewhere host file other gives' same
    have left := (equivalent_filter preset other).make_eq
    have right := (equivalent_filter preset pairs).make_eq
    rw [load_eq gives, load_eq gives', ← left, ← right, same]
  case unordered =>
    intro elsewhere host file other gives' same
    refine ⟨fun settings => ?_, fun known => ?_⟩
    · simp only [load_eq_ok_iff gives, load_eq_ok_iff gives', same.known_iff, same.preferred_eq]
    · rw [load_eq gives, load_eq gives', (same.equivalent known).make_eq]

end Making

def repeated : String := "\x7b\"hops\": -1, \"backend_port\": [], \"hops\": 3\x7d"

def repeatedMembers : List Json.Member :=
  [⟨"hops", [.scalar (.int (-1))], .int (-1)⟩, ⟨"backend_port", [.openList, .closeList], .list []⟩,
    ⟨"hops", [.scalar (.int 3)], .int 3⟩]

theorem lists_repeated :
    Json.Lists (Utf8.encode repeated) (repeatedMembers.map Json.Member.pair) := by
  refine ⟨repeated, repeatedMembers, Utf8.decode?_encode repeated, rfl, ?_, rfl⟩
  have empty : Json.Forms (Json.maxDepth - 1) [.openList, .closeList] (.list []) :=
    Json.Forms.list (List.forall_mem_nil _)
  simp only [repeatedMembers, List.forall_mem_cons]
  exact ⟨.scalar _ _, empty, .scalar _ _, List.forall_mem_nil _⟩

theorem layering_repeated : ∃ (_ : Machine) (pairs : List (String × Value)) (settings : Settings),
    Gives (lone repeated) [] [("XCHAT_BACKEND_PORT", "6667")] (some "socket.json") pairs ∧
    (∀ pair ∈ pairs, pair.1 ≠ reservedName) ∧
    load (lone repeated) [] [("XCHAT_BACKEND_PORT", "6667")] (some "socket.json") = .ok settings ∧
    settings.get .hops = .int 3 ∧ settings.get .backendPort = .int 6667 ∧
    settings.get .mtu = .int 12288 := by
  let machine : Machine := ⟨0, 0, "/"⟩
  let pairs := repeatedMembers.map Json.Member.pair
  have gives : Gives (lone repeated) [] [("XCHAT_BACKEND_PORT", "6667")] (some "socket.json") pairs :=
    .listed (by rw [Option.getD_some]; rfl) lists_repeated
  have unreserved : ∀ pair ∈ pairs, pair.1 ≠ reservedName := by
    rw [List.forall_mem_map]
    decide
  obtain ⟨-, layers⟩ :=
    layering (lone repeated) [] [("XCHAT_BACKEND_PORT", "6667")] (some "socket.json")
  have layered := layers pairs gives unreserved
  have known : Known pairs := by
    simp only [Known, pairs, repeatedMembers, List.map_cons, List.forall_mem_cons]
    exact ⟨⟨.hops, rfl⟩, ⟨.backendPort, rfl⟩, ⟨.hops, rfl⟩, List.forall_mem_nil _⟩
  have passed : ∀ setting : Setting, ∃ checked, setting.validate
      (preferred [("XCHAT_BACKEND_PORT", "6667")] pairs setting) = .ok checked := by
    intro setting
    cases setting with
    | backendPort => exact ⟨.int 6667, rfl⟩
    | hops => exact ⟨.int 3, rfl⟩
    | _ => exact ⟨_, Setting.validate_default _⟩
  obtain ⟨settings, loaded⟩ := layered.succeeds.mpr ⟨known, passed⟩
  have values := layered.values settings loaded
  exact ⟨machine, pairs, settings, gives, unreserved, loaded, (Except.ok.inj (values .hops)).symm,
    (Except.ok.inj (values .backendPort)).symm, (Except.ok.inj (values .mtu)).symm⟩

end Settings

end ChatLink
