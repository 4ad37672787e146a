import ChatLink.Proofs.Folders
import ChatLink.Proofs.Loading
import ChatLink.Proofs.Nesting
import ChatLink.Proofs.Origin

namespace ChatLink

namespace Json

variable {level : Nat}

theorem isSome_entryTexts?_iff {entries : List (String × Value)} :
    (entryTexts? level entries).isSome ↔ ∀ entry ∈ entries, (text? level entry.2).isSome := by
  induction entries with
  | nil => exact ⟨fun _ => List.forall_mem_nil _, fun _ => rfl⟩
  | cons entry entries ih =>
    rw [entryTexts?, List.forall_mem_cons, ← ih]
    cases text? level entry.2 <;> cases entryTexts? level entries <;> simp

theorem isSome_text?_int_iff {n : Int} :
    (text? level (.int n)).isSome ↔ -2 ^ 63 ≤ n ∧ n < 2 ^ 64 := by
  rw [text?]
  split
  · rename_i fits
    exact iff_of_true rfl fits
  · rename_i beyond
    exact iff_of_false Bool.false_ne_true beyond

theorem isSome_write_table_iff {entries : List (String × Value)} :
    (write (.table entries)).isSome ↔ ∀ entry ∈ entries, (text? 1 entry.2).isSome := by
  rw [write, text?, if_neg (by decide), Option.isSome_map]
  exact isSome_entryTexts?_iff

end Json

namespace Settings

variable {settings : Settings} {store later prepared : Store} {process given : Environment}
  {path : Option String} {values : Table} {name : String} {error : SaveError} {content : Bytes}

theorem chosen_toTable (settings : Settings) (setting : Setting) :
    chosen settings.toTable setting = settings.get setting := by
  cases setting <;> rfl

theorem nodup_toTable (settings : Settings) : (settings.toTable.map Prod.fst).Nodup := by
  change (Setting.all.map Setting.name).Nodup
  decide

theorem forall_mem_toTable {p : String × Value → Prop} :
    (∀ entry ∈ settings.toTable, p entry) ↔
      ∀ setting : Setting, p (setting.name, settings.get setting) := by
  rw [toTable, List.forall_mem_map]
  exact ⟨fun h setting => h setting (by cases setting <;> decide), fun h setting _ => h setting⟩

theorem overridden_of_unset (entries : Table) (address : given.lookup "XCHAT_BACKEND_ADDRESS" = none)
    (port : given.lookup "XCHAT_BACKEND_PORT" = none) : overridden given entries = entries := by
  rw [overridden, override, override, address, port]

section Saving

variable [Machine]

namespace Checked

theorem cases (h : Checked settings) (setting : Setting) :
    (∃ n, settings.get setting = .int n ∧ setting.isNumber ∧ setting.InRange n) ∨
      ∃ s, settings.get setting = .text s := by
  cases number : setting.isNumber with
  | true => exact .inl ((h.number setting number).imp fun n held => ⟨held.1, rfl, held.2⟩)
  | false => exact .inr (h.text setting number)

theorem make_toTable (h : Checked settings) : make settings.toTable = .ok settings := by
  obtain ⟨⟨entry, member, same⟩, -⟩ | ⟨entry, member, unknown, -⟩ | ⟨-, made⟩ :=
    make_cases settings.toTable
  · obtain ⟨setting, -, rfl⟩ := List.mem_map.mp member
    exact absurd same (name_ne_reserved setting)
  · obtain ⟨setting, -, rfl⟩ := List.mem_map.mp member
    exact absurd rfl (unknown setting)
  · rw [made, Table.ofList_of_nodup settings.nodup_toTable]
    refine fromValues_of_validate fun setting => ?_
    rw [chosen_toTable]
    exact h setting

theorem exact_toTable (h : Checked settings) : Value.Exact (.table settings.toTable) := by
  refine .table (forall_mem_toTable.mpr fun setting => ?_) settings.nodup_toTable
  obtain ⟨n, held, -⟩ | ⟨s, held⟩ := h.cases setting
  · rw [held]
    exact .int n
  · rw [held]
    exact .text s

theorem same_self (h : Checked settings) : settings.same settings := by
  have each : ∀ setting, (settings.get setting).same (settings.get setting) := by
    intro setting
    obtain ⟨n, held, -⟩ | ⟨s, held⟩ := h.cases setting
    · rw [held]
      exact beq_self_eq_true n
    · rw [held, Value.same]
      exact beq_self_eq_true s
  simp [Settings.same, toTable, Setting.all, Setting.name, Value.same, Value.sameEntries,
    List.lookup_cons, each]

/-- Of all numbers only the frame size has no end. -/
theorem isSome_write_iff (h : Checked settings) : (Json.write (.table settings.toTable)).isSome ↔
    ∃ mtu : Int, settings.get .mtu = .int mtu ∧ mtu < 2 ^ 64 := by
  rw [Json.isSome_write_table_iff, forall_mem_toTable]
  obtain ⟨mtu, held, inside⟩ := h.number .mtu rfl
  constructor
  · intro each
    have written := each .mtu
    rw [held] at written
    exact ⟨mtu, held, (Json.isSome_text?_int_iff.mp written).2⟩
  · rintro ⟨mtu', held', small⟩ setting
    obtain ⟨n, number, numeric, range⟩ | ⟨s, text⟩ := h.cases setting
    · rw [number, Json.isSome_text?_int_iff]
      cases setting with
      | mtu =>
        rw [held'] at number
        cases number
        have : 11 ≤ mtu' := range
        omega
      | backendPort =>
        have : 0 ≤ n ∧ n ≤ 65535 := range
        omega
      | hops =>
        have : 0 ≤ n ∧ n < 2 ^ 48 := range
        omega
      | _ => cases numeric
    · rw [text]
      rfl

theorem write_eq_none (h : Checked settings) {mtu : Int} (held : settings.get .mtu = .int mtu)
    (great : 2 ^ 64 ≤ mtu) : Json.write (.table settings.toTable) = none := by
  rw [← Option.isNone_iff_eq_none, ← Option.isSome_eq_false_iff, Bool.eq_false_iff]
  intro written
  obtain ⟨mtu', held', small⟩ := h.isSome_write_iff.mp written
  cases held.symm.trans held'
  exact absurd small (Int.not_lt.mpr great)

end Checked

theorem paved_prepareFolder (store : Store) (path : String) :
    Store.Paved (Path.parent path).toList store (prepareFolder store path).2 := by
  rw [prepareFolder]
  split
  · exact .refl _ store
  · exact store.paved_makeFolders (Path.parent path)

theorem prepareFolder_of_there
    (there : (Path.parent name).isEmpty ∨ store.contains (Path.parent name)) :
    prepareFolder store name = (.ok (), store) := by
  rw [prepareFolder, if_pos (by simpa using there)]

section Prepared

variable {text : String}

theorem saveTable_eq
    (ready : prepareFolder store (path.getD (defaultPath process process)) = (.ok (), prepared))
    (written : Json.write (.table values) = some text) :
    saveTable values store process path =
      ((prepared.write (path.getD (defaultPath process process)) (Utf8.encode text)).1.mapError
          SaveError.unwritable |>.map fun _ => path.getD (defaultPath process process),
        (prepared.write (path.getD (defaultPath process process)) (Utf8.encode text)).2) := by
  rw [saveTable]
  simp only [ready, written]
  generalize prepared.write (path.getD (defaultPath process process)) (Utf8.encode text) = outcome
  obtain ⟨_ | _, _⟩ := outcome <;> rfl

theorem saveTable_noText
    (ready : prepareFolder store (path.getD (defaultPath process process)) = (.ok (), prepared))
    (none : Json.write (.table values) = none) :
    saveTable values store process path = (.error .noText, prepared) := by
  rw [saveTable]
  simp only [ready, none]

theorem saveTable_ok (h : saveTable values store process path = (.ok name, later)) :
    name = path.getD (defaultPath process process) ∧ ∃ prepared text,
      prepareFolder store name = (.ok (), prepared) ∧ Json.write (.table values) = some text ∧
        prepared.write name (Utf8.encode text) = (.ok (), later) := by
  rw [saveTable] at h
  split at h
  · cases h
  rename_i ready
  split at h
  · cases h
  rename_i written
  split at h
  · rename_i put
    cases h
    exact ⟨rfl, _, _, ready, written, put⟩
  · cases h

theorem saveTable_error (h : saveTable values store process path = (.error error, later)) :
    later = (prepareFolder store (path.getD (defaultPath process process))).2 ∧
        (error = .noText → Json.write (.table values) = none) ∨
      error = .unwritable .noRoom ∧ ∃ prepared location node part,
        prepareFolder store (path.getD (defaultPath process process)) = (.ok (), prepared) ∧
          prepared.target (path.getD (defaultPath process process)) = .ok (location, node) ∧
            later = prepared.put location (.file part) := by
  rw [saveTable] at h
  split at h
  · rename_i ready
    cases h
    exact .inl ⟨by rw [ready], nofun⟩
  rename_i ready
  split at h
  · rename_i none
    cases h
    exact .inl ⟨by rw [ready], fun _ => none⟩
  split at h
  · cases h
  · rename_i failed
    cases h
    obtain rfl | ⟨rfl, location, node, opened, part, -, rfl⟩ := Store.write_error failed
    · exact .inl ⟨by rw [ready], nofun⟩
    · exact .inr ⟨rfl, _, location, node, part, ready, opened, rfl⟩

end Prepared

theorem load_of_find {location : Location} {text : String} (h : Checked settings)
    (written : Json.write (.table settings.toTable) = some text)
    (found : store.find name = .ok (location, .file (Utf8.encode text)))
    (readable : (store.access location).read)
    (address : given.lookup "XCHAT_BACKEND_ADDRESS" = none)
    (port : given.lookup "XCHAT_BACKEND_PORT" = none) :
    load store process given (some name) = .ok settings := by
  have read : store.read ((some name).getD (defaultPath process given)) = .ok (Utf8.encode text) :=
    Store.read_iff.mpr ⟨location, _, found, nofun, readable, rfl⟩
  have table := Json.read_write h.exact_toTable written
  rw [load_table read table, overridden_of_unset _ address port, h.make_toTable]
  rfl

/-- Settings of every origin have a text exactly if their frame size fits in 64 bits. When the folder for
their file is there or was made, they are saved exactly if they have a text for which the file opens and
has room. Once they are saved to what is no device and may be read, they are loaded as they were. If they
cannot be saved then at most folders above their file are new, unless there was room for part of the text
only, and then it is the file that has changed. -/
theorem saving (made : Made settings) (store : Store) (process : Environment)
    (path : Option String) :
    let file := path.getD (defaultPath process process)
    ((Json.write (.table settings.toTable)).isSome ↔
      ∃ mtu : Int, settings.get .mtu = .int mtu ∧ mtu < 2 ^ 64) ∧
    ((Path.parent file).isEmpty ∨ store.contains (Path.parent file) →
      prepareFolder store file = (.ok (), store)) ∧
    (∀ prepared, prepareFolder store file = (.ok (), prepared) →
      ((∃ name later, save settings store process path = (.ok name, later)) ↔
        ∃ text, Json.write (.table settings.toTable) = some text ∧
          prepared.Takes file (Utf8.encode text).length)) ∧
    (∀ name later, save settings store process path = (.ok name, later) →
      name = file ∧ ∃ location node, later.find name = .ok (location, node) ∧
        (node = .device → store.get? location = some .device) ∧
        (node ≠ .device → (store.access location).read →
          ∀ elsewhere given : Environment, given.lookup "XCHAT_BACKEND_ADDRESS" = none →
            given.lookup "XCHAT_BACKEND_PORT" = none →
              ∃ loaded, load later elsewhere given (some name) = .ok loaded ∧ loaded = settings ∧
                loaded.same settings)) ∧
    ∀ error later, save settings store process path = (.error error, later) →
      (error = .noText → ∃ mtu : Int, settings.get .mtu = .int mtu ∧ 2 ^ 64 ≤ mtu) ∧
      ((∀ other content, store.read other = .ok content → later.read other = .ok content) ∧
          Store.Paved (Path.parent file).toList store later ∨
        error = .unwritable .noRoom ∧ ∃ location part, later.find file = .ok (location, .file part) ∧
          ∀ other place node, store.find other = .ok (place, node) → place ≠ location →
            later.find other = .ok (place, node)) := by
  intro file
  have checked := made.checked
  have paved := paved_prepareFolder store file
  refine ⟨checked.isSome_write_iff, prepareFolder_of_there, ?_, ?_, ?_⟩
  · intro prepared ready
    constructor
    · rintro ⟨name, later, saved⟩
      obtain ⟨rfl, _, text, ready', written, put⟩ := saveTable_ok saved
      cases ready.symm.trans ready'
      exact ⟨text, written, Store.exists_write_iff.mp ⟨later, put⟩⟩
    · rintro ⟨text, written, takes⟩
      obtain ⟨later, put⟩ := Store.exists_write_iff.mpr takes
      rw [save, saveTable_eq ready written, put]
      exact ⟨file, later, rfl⟩
  · intro name later saved
    obtain ⟨rfl, _, text, ready, written, put⟩ := saveTable_ok saved
    rw [ready] at paved
    obtain ⟨access, location, found | ⟨found, device⟩⟩ := Store.find_of_write put
    · refine ⟨rfl, location, _, found, nofun, fun _ readable elsewhere given address port => ?_⟩
      rw [← paved.access, ← access] at readable
      exact ⟨settings, load_of_find checked written found readable address port, rfl,
        checked.same_self⟩
    · exact ⟨rfl, location, _, found, fun _ => paved.get?_device device,
        fun noDevice => absurd rfl noDevice⟩
  · intro error later failed
    obtain ⟨rfl, noText⟩ | ⟨rfl, prepared, location, node, part, ready, opened, rfl⟩ :=
      saveTable_error failed
    · refine ⟨fun same => ?_, .inl ⟨fun other content => paved.read, paved⟩⟩
      obtain ⟨mtu, held, -⟩ := checked.number .mtu rfl
      refine ⟨mtu, held, Int.not_lt.mp fun small => ?_⟩
      have written := checked.isSome_write_iff.mpr ⟨mtu, held, small⟩
      rw [noText same] at written
      cases written
    · rw [ready] at paved
      obtain ⟨away, checked, closed, leads, noFolder, -⟩ := Store.leads_of_target opened
      refine ⟨nofun, .inr ⟨rfl, location, part, ?_, fun other place node found elsewhere => ?_⟩⟩
      · exact Store.find_iff.mpr ⟨checked, leads.of_kept rfl rfl (Store.get?_put_folder noFolder),
          Store.get?_put_self prepared away _, .inr closed⟩
      · exact Store.find_put_of_ne noFolder (paved.find found) elsewhere

end Saving

def awkward : List (String × Value) :=
  [("greeting", .text "\"\\\x01\t\x7f/😀"), ("mtu", .int (2 ^ 64 - 1))]

def oversized : List (String × Value) := [("mtu", .int (2 ^ 64))]

def occupied : Store := (Store.within ["home"]).put "/home/x.json" (.file [7])

theorem get?_occupied (location : Location) : occupied.get? location ≠ some .device := by
  have nodes : occupied.nodes = [("/home/x.json", .file [7]), ("/home", .folder)] := rfl
  rw [Store.get?, nodes, List.lookup_cons, List.lookup_cons, List.lookup_nil]
  by_cases root : location = ""
  · simp [root]
  · cases location == "/home/x.json" <;> cases location == "/home" <;> simp [root]

theorem saving_awkward : ∃ (_ : Machine) (settings : Settings) (later : Store) (huge : Settings)
    (after : Store), make awkward = .ok settings ∧ Made settings ∧
    save settings occupied [] (some "new//x.json") = (.ok "new//x.json", later) ∧
    load later [] [] (some "new//x.json") = .ok settings ∧
    make oversized = .ok huge ∧ Made huge ∧
    save huge occupied [] (some "x.json") = (.error .noText, after) ∧
    after.read "x.json" = .ok [7] := by
  let machine : Machine := ⟨0, 1, "/"⟩
  obtain ⟨settings, made⟩ : ∃ settings, make awkward = .ok settings := ⟨_, rfl⟩
  obtain ⟨huge, made'⟩ : ∃ huge, make oversized = .ok huge := ⟨_, rfl⟩
  obtain ⟨hasText, -, saves, loads, -⟩ := saving (.new made) occupied [] (some "new//x.json")
  have greatest : settings.get .mtu = .int (2 ^ 64 - 1) := by
    cases made
    rfl
  obtain ⟨text, written⟩ :=
    Option.isSome_iff_exists.mp (hasText.mpr ⟨_, greatest, by decide⟩)
  obtain ⟨prepared, ready⟩ : ∃ prepared,
      prepareFolder occupied "new//x.json" = (.ok (), prepared) := ⟨_, rfl⟩
  have takes : prepared.Takes "new//x.json" (Utf8.encode text).length := by
    cases ready
    exact ⟨"/home/new", "x.json", ⟨rfl, rfl, nofun, rfl⟩, nofun⟩
  obtain ⟨name, later, saved⟩ := (saves prepared ready).mpr ⟨text, written, takes⟩
  obtain ⟨rfl, location, node, -, device, loads⟩ := loads name later saved
  have noDevice : node ≠ .device := fun same => get?_occupied location (device same)
  obtain ⟨loaded, back, rfl, -⟩ := loads noDevice rfl [] [] rfl rfl
  obtain ⟨-, -, -, -, keeps⟩ := saving (.new made') occupied [] (some "x.json")
  have tooGreat : huge.get .mtu = .int (2 ^ 64) := by
    cases made'
    rfl
  have none := (checked_of_make made').write_eq_none tooGreat (Int.le_refl _)
  have ready' : prepareFolder occupied ((some "x.json").getD (defaultPath [] [])) =
      (.ok (), occupied) := by
    rw [Option.getD_some]
    rfl
  have failed : save huge occupied [] (some "x.json") = (.error .noText, occupied) :=
    saveTable_noText ready' none
  obtain ⟨-, ⟨kept, -⟩ | ⟨noRoom, -⟩⟩ := keeps _ occupied failed
  · exact ⟨machine, loaded, later, huge, occupied, made, .new made, saved, back, made', .new made',
      failed, kept "x.json" [7] rfl⟩
  · cases noRoom

def withDevice : Store := (Store.within ["dev"]).put "/dev/null" .device

theorem device_keeps_nothing : ∃ (_ : Machine) (settings : Settings) (later : Store),
    Made settings ∧ save settings withDevice [] (some "/dev/null") = (.ok "/dev/null", later) ∧
      load later [] [] (some "/dev/null") = .error (.malformed "/dev/null") := by
  obtain ⟨machine⟩ : Nonempty Machine := ⟨⟨0, 0, "/"⟩⟩
  obtain ⟨settings, made⟩ : ∃ settings, make [] = .ok settings := ⟨_, rfl⟩
  have small : settings.get .mtu = .int 12288 := by
    cases made
    rfl
  obtain ⟨text, written⟩ := Option.isSome_iff_exists.mp
    ((Made.new made).checked.isSome_write_iff.mpr ⟨_, small, by decide⟩)
  have ready : prepareFolder withDevice ((some "/dev/null").getD (defaultPath [] [])) =
      (.ok (), withDevice) := by
    rw [Option.getD_some]
    rfl
  have opened : withDevice.target "/dev/null" = .ok ("/dev/null", some .device) := rfl
  have put : withDevice.write "/dev/null" (Utf8.encode text) = (.ok (), withDevice) := by
    rw [Store.write_of_target opened, if_pos rfl]
    exact congrArg (·, withDevice) (if_neg (Nat.lt_irrefl _))
  have read : withDevice.read ((some "/dev/null").getD (defaultPath [] [])) = .ok [] := by
    rw [Option.getD_some]
    rfl
  refine ⟨machine, settings, withDevice, .new made, ?_, ?_⟩
  · rw [save, saveTable_eq ready written, Option.getD_some, put]
    rfl
  · have blank : Json.read [] = none := by
      simp [Json.read, Utf8.decode?, Json.tokens?, Json.tokens?.go, Json.value?]
    rw [load, fileValues, read]
    simp only [blank]
    rfl

end Settings

end ChatLink
