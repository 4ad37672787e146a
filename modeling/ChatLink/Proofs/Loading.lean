import ChatLink.Proofs.Admission
import ChatLink.Proofs.Finiteness
import ChatLink.Proofs.Nesting
import ChatLink.Settings.Storage

namespace ChatLink

namespace Settings

variable {store : Store} {process given : Environment} {path : Option String} {content : Bytes}
  {entries : Table}

def LoadError.Invalid : LoadError → Prop
  | .unreadable _ => False
  | .malformed _ => True
  | .notTable _ => True
  | .setting error => error.kind = .invalid

def overridden (given : Environment) (entries : Table) : Table :=
  override given "XCHAT_BACKEND_PORT" .backendPort
    (override given "XCHAT_BACKEND_ADDRESS" .backendAddress entries)

theorem mem_override {entry : String × Value} {name : String} {setting : Setting}
    (h : entry ∈ override given name setting entries) :
    (∃ text, entry = (setting.name, .text text)) ∨ entry ∈ entries := by
  rw [override] at h
  split at h
  · exact (Table.mem_insert h).imp_left fun same => ⟨_, same⟩
  · exact .inr h

theorem mem_override_of_ne {entry : String × Value} {name : String} {setting : Setting}
    (h : entry.1 ≠ setting.name) (member : entry ∈ entries) :
    entry ∈ override given name setting entries := by
  rw [override]
  split
  · exact Table.mem_insert_of_ne h member
  · exact member

theorem mem_overridden {entry : String × Value} (h : entry ∈ overridden given entries) :
    (∃ (setting : Setting) (text : String), entry = (setting.name, .text text)) ∨
      entry ∈ entries := by
  obtain ⟨text, same⟩ | kept := mem_override h
  · exact .inl ⟨_, text, same⟩
  · obtain ⟨text, same⟩ | kept := mem_override kept
    · exact .inl ⟨_, text, same⟩
    · exact .inr kept

theorem reserved_overridden_iff : (∃ entry ∈ overridden given entries, entry.1 = reservedName) ↔
    ∃ entry ∈ entries, entry.1 = reservedName := by
  constructor
  · rintro ⟨entry, member, same⟩
    obtain ⟨setting, text, rfl⟩ | kept := mem_overridden member
    · exact absurd same (name_ne_reserved setting)
    · exact ⟨entry, kept, same⟩
  · rintro ⟨entry, member, same⟩
    have other : ∀ setting : Setting, entry.1 ≠ setting.name := fun setting taken =>
      name_ne_reserved setting (taken.symm.trans same)
    exact ⟨entry, mem_override_of_ne (other _) (mem_override_of_ne (other _) member), same⟩

theorem eq_of_recursion {error : SettingError} (h : error.kind = .recursion) : error = .tooDeep := by
  cases error <;> first | rfl | cases h

section Making

variable [Machine]

/-- What is made of a file's values fails for its contents, for the reserved name among its keys, or for
a value that is nested too deep. -/
theorem make_overridden_error (finite : Value.Finite (.table entries)) {error : SettingError}
    (h : make (overridden given entries) = .error error) : error.kind = .invalid ∨
    error = .reserved reservedName ∧ (∃ entry ∈ entries, entry.1 = reservedName) ∨
    error = .tooDeep ∧ ∃ entry ∈ entries, Setting.maxDepth < entry.2.depth := by
  obtain invalid | ⟨-, reserved⟩ | ⟨setting, value, supplied, found⟩ := kind_of_make h
  · exact .inl invalid
  · rw [make_reserved reserved] at h
    cases h
    exact .inr (.inl ⟨rfl, reserved_overridden_iff.mp reserved⟩)
  · obtain ⟨setting, text, same⟩ | member := mem_overridden supplied.mem
    · obtain rfl := (Prod.mk.inj same).2
      obtain ⟨-, -, negative, infinite⟩ | ⟨-, deep⟩ := found
      · cases infinite
      · exact absurd deep (Nat.not_lt.mpr (Setting.depth_text_le text))
    · obtain ⟨-, -, negative, infinite⟩ | ⟨recursion, deep⟩ := found
      · exact absurd infinite ((finite.entries _ member).ne_infinite negative)
      · exact .inr (.inr ⟨eq_of_recursion recursion, _, member, deep⟩)

theorem load_table (read : store.read (path.getD (defaultPath process given)) = .ok content)
    (h : Json.read content = some (.table entries)) :
    load store process given path = (make (overridden given entries)).mapError .setting := by
  rw [load, fileValues, read]
  dsimp only
  rw [h]
  rfl

theorem load_noTable (read : store.read (path.getD (defaultPath process given)) = .ok content)
    (h : ∀ entries, Json.read content ≠ some (.table entries)) :
    ∃ error, load store process given path = .error error ∧ error.Invalid := by
  rw [load, fileValues, read]
  dsimp only
  split
  · exact ⟨_, rfl, trivial⟩
  · rename_i table
    exact absurd table (h _)
  · exact ⟨_, rfl, trivial⟩

/-- A file that is there and can be read makes loading fail for what is wrong with it, but for two things
that a table can hold: the reserved name as a key, and a value that is nested too deep to be shown. -/
theorem rejection (read : store.read (path.getD (defaultPath process given)) = .ok content) :
    (load store process given path = .error (.setting (.reserved reservedName)) ↔
      ∃ entries, Json.read content = some (.table entries) ∧
        ∃ entry ∈ entries, entry.1 = reservedName) ∧
    ∀ error, load store process given path = .error error → error.Invalid ∨
      error = .setting (.reserved reservedName) ∨
      error = .setting .tooDeep ∧ ∃ entries, Json.read content = some (.table entries) ∧
        ∃ entry ∈ entries, Setting.maxDepth < entry.2.depth := by
  by_cases table : ∃ entries, Json.read content = some (.table entries)
  · obtain ⟨entries, table⟩ := table
    have finite := Json.finite_of_read table
    rw [load_table read table]
    refine ⟨⟨fun h => ?_, ?_⟩, fun error h => ?_⟩
    · obtain ⟨failed, made, same⟩ := error_of_mapError h
      cases same
      obtain invalid | ⟨-, reserved⟩ | ⟨same, -⟩ := make_overridden_error finite made
      · cases invalid
      · exact ⟨entries, table, reserved⟩
      · cases same
    · rintro ⟨same, table', reserved⟩
      rw [table] at table'
      cases table'
      rw [make_reserved (reserved_overridden_iff.mpr reserved)]
      rfl
    · obtain ⟨failed, made, rfl⟩ := error_of_mapError h
      obtain invalid | ⟨rfl, -⟩ | ⟨rfl, deep⟩ := make_overridden_error finite made
      · exact .inl invalid
      · exact .inr (.inl rfl)
      · exact .inr (.inr ⟨rfl, entries, table, deep⟩)
  · rw [not_exists] at table
    obtain ⟨failed, loaded, invalid⟩ := load_noTable read table
    rw [loaded]
    refine ⟨⟨fun h => ?_, fun ⟨entries, same, _⟩ => absurd same (table entries)⟩, fun error h => ?_⟩
    · cases h
      cases invalid
    · cases h
      exact .inl invalid

end Making

def lone (text : String) : Store :=
  { nodes := [("/socket.json", .file (Utf8.encode text))], here := "" }

def badPort : String := "\x7b\n  \"backend_port\": [],\n  \"greeting\": null\n\x7d"

theorem rejection_badPort : ∃ _ : Machine,
    (lone badPort).read ((some "socket.json").getD
      (defaultPath [] [("XCHAT_BACKEND_PORT", "70000")])) = .ok (Utf8.encode badPort) ∧
    ∃ error, load (lone badPort) [] [("XCHAT_BACKEND_PORT", "70000")] (some "socket.json") =
      .error error ∧ error.Invalid := by
  let machine : Machine := ⟨0, 0, "/"⟩
  have read : (lone badPort).read ((some "socket.json").getD
      (defaultPath [] [("XCHAT_BACKEND_PORT", "70000")])) = .ok (Utf8.encode badPort) := by
    rw [Option.getD_some]
    rfl
  have exact : Value.Exact (.table [("backend_port", .list []), ("greeting", .null)]) := by
    refine .table ?_ (by decide)
    rw [List.forall_mem_cons, List.forall_mem_singleton]
    exact ⟨.list (List.forall_mem_nil _), .null⟩
  have failed : load (lone badPort) [] [("XCHAT_BACKEND_PORT", "70000")] (some "socket.json") =
      .error (.setting (.portOutOfRange 70000)) := by
    have written : Setting.unwritten? (.int 70000) = none :=
      Setting.unwritten?_eq_none_iff.mpr (by decide +kernel)
    have refused : make (overridden [("XCHAT_BACKEND_PORT", "70000")]
        [("backend_port", .list []), ("greeting", .null)]) =
        .error ((Setting.unwritten? (.int 70000)).getD (.portOutOfRange 70000)) := rfl
    rw [load_table read (Json.read_write exact rfl), refused, written]
    rfl
  obtain ⟨-, errors⟩ := rejection read
  obtain invalid | reserved | ⟨deep, -⟩ := errors _ failed
  · exact ⟨machine, read, _, failed, invalid⟩
  · cases reserved
  · cases deep

def reservedKey : String := "\x7b\n  \"self\": 1\n\x7d"

/-- The names in a file are passed on as names of arguments, and one of these is taken. -/
theorem reserved_key_escapes : ∃ (_ : Machine) (content : Bytes) (error : LoadError),
    (lone reservedKey).read "socket.json" = .ok content ∧
      load (lone reservedKey) [] [] (some "socket.json") = .error error ∧ ¬error.Invalid := by
  let machine : Machine := ⟨0, 0, "/"⟩
  have read : (lone reservedKey).read ((some "socket.json").getD (defaultPath [] [])) =
      .ok (Utf8.encode reservedKey) := by
    rw [Option.getD_some]
    rfl
  have exact : Value.Exact (.table [("self", .int 1)]) := by
    refine .table ?_ (by decide)
    rw [List.forall_mem_singleton]
    exact .int 1
  refine ⟨machine, _, .setting (.reserved reservedName), read, ?_, ?_⟩
  · rw [load_table read (Json.read_write exact rfl)]
    rfl
  · intro invalid
    cases invalid

end Settings

end ChatLink
