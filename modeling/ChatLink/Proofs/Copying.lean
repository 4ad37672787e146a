import ChatLink.Proofs.Choosing
import ChatLink.Proofs.Saving

namespace ChatLink.Settings

variable {settings copied : Settings} {given : List (String × Value)} {setting : Setting}

section Held

theorem known_toTable (settings : Settings) : Known settings.toTable :=
  forall_mem_toTable.mpr fun setting => ⟨setting, rfl⟩

theorem unknown?_toTable (settings : Settings) : unknown? settings.toTable = none :=
  unknown?_eq_none_iff.mpr settings.known_toTable

theorem last?_toTable (settings : Settings) (setting : Setting) :
    Table.last? settings.toTable setting.name = some (settings.get setting) := by
  cases setting <;> rfl

theorem choice_toTable_append (settings : Settings) (given : List (String × Value)) (setting : Setting) :
    choice (settings.toTable ++ given) setting =
      (Table.last? given setting.name).getD (settings.get setting) := by
  rw [choice, Table.last?_append, last?_toTable]
  cases Table.last? given setting.name <;> rfl

end Held

section Making

variable [Machine]

theorem copy_eq (settings : Settings) (given : List (String × Value)) :
    copy settings given = make (settings.toTable ++ given) := by
  have whole : settings.toTable.update given = Table.ofList (settings.toTable ++ given) := by
    rw [Table.ofList_append, Table.ofList_of_nodup settings.nodup_toTable]
  rw [copy, whole]
  split
  · rename_i reserved
    obtain ⟨pair, inside, same⟩ := List.any_eq_true.mp reserved
    exact (make_reserved ⟨pair, List.mem_append_right _ inside, beq_iff_eq.mp same⟩).symm
  · exact (equivalent_ofList [] (settings.toTable ++ given)).make_eq

theorem copy_eq_ok_iff : copy settings given = .ok copied ↔ Known given ∧ ∀ setting : Setting,
    setting.validate ((Table.last? given setting.name).getD (settings.get setting)) =
      .ok (copied.get setting) := by
  rw [copy_eq, make_eq_ok_iff, known_append, and_iff_right settings.known_toTable]
  simp only [choice_toTable_append]

theorem Checked.copy_nil (h : Checked settings) : copy settings [] = .ok settings := by
  rw [copy_eq, List.append_nil, h.make_toTable]

theorem Checked.get_copy_of_ne (h : Checked settings) (copy : copy settings given = .ok copied)
    (other : ∀ pair ∈ given, pair.1 ≠ setting.name) : copied.get setting = settings.get setting := by
  have passed := (copy_eq_ok_iff.mp copy).2 setting
  rw [Table.last?_eq_none_iff.mpr other, Option.getD_none, h setting] at passed
  exact (Except.ok.inj passed).symm

theorem equivalent_of_copy (copy : copy settings given = .ok copied) (later : List (String × Value)) :
    Equivalent (copied.toTable ++ later) (settings.toTable ++ (given ++ later)) where
  reserved := by
    have known := (copy_eq_ok_iff.mp copy).1
    simp only [List.map_append, List.mem_append, known.reserved_notMem,
      settings.known_toTable.reserved_notMem, copied.known_toTable.reserved_notMem, false_or]
  unknown := by
    have known := (copy_eq_ok_iff.mp copy).1
    simp only [unknown?_append, unknown?_eq_none_iff.mpr known, unknown?_toTable, Option.none_or]
  values setting := by
    have passed := (copy_eq_ok_iff.mp copy).2 setting
    rw [choice_toTable_append, choice_toTable_append, Table.last?_append]
    cases Table.last? later setting.name with
    | some value => rfl
    | none => exact (Setting.validate_checked passed).trans passed.symm

theorem copy_copy (h : copy settings given = .ok copied) (later : List (String × Value)) :
    copy copied later = copy settings ((Table.ofList given).update later) := by
  calc
    copy copied later = make (copied.toTable ++ later) := copy_eq copied later
    _ = make (settings.toTable ++ (given ++ later)) := (equivalent_of_copy h later).make_eq
    _ = make (settings.toTable ++ Table.ofList (given ++ later)) :=
      (equivalent_ofList settings.toTable (given ++ later)).make_eq.symm
    _ = copy settings ((Table.ofList given).update later) := by rw [copy_eq, Table.ofList_append]

/-- A copy for which nothing is given is no other. What is given for a copy changes nothing but the
settings that it names, and copying the copy has the outcome of copying once with all that was given: the
same settings, or the same error. For a value that passed its check passes it again as it is. -/
theorem copying (made : Made settings) :
    (copy settings [] = .ok settings ∧ settings.same settings) ∧
    (∀ given copied, copy settings given = .ok copied →
      (∀ setting : Setting, (∀ pair ∈ given, pair.1 ≠ setting.name) →
        copied.get setting = settings.get setting) ∧
      ∀ later, copy copied later = copy settings ((Table.ofList given).update later) ∧
        ∀ again, copy copied later = .ok again → again.same again) ∧
    ∀ (setting : Setting) (value checked : Value), setting.validate value = .ok checked →
      setting.validate checked = .ok checked := by
  have checked := made.checked
  refine ⟨⟨checked.copy_nil, checked.same_self⟩, ?_, fun _ _ _ => Setting.validate_checked⟩
  intro given copied first
  refine ⟨fun setting => checked.get_copy_of_ne first, fun later => ⟨copy_copy first later, ?_⟩⟩
  intro again second
  exact (Made.copied (.copied made first) second).checked.same_self

end Making

def converted : List (String × Value) :=
  [("hops", .text " ٧ "), ("mtu", .real (.ofDecimal false 1199 (-2))), ("greeting", .list [.null])]

theorem copying_converted : ∃ (_ : Machine) (settings copied again : Settings),
    make edges = .ok settings ∧ Made settings ∧ copy settings converted = .ok copied ∧
    copied.get .hops = .int 7 ∧ copied.get .mtu = .int 11 ∧ copied.get .greeting = .text "[None]" ∧
    copied.get .backendPort = settings.get .backendPort ∧
    copy settings ((Table.ofList converted).update [("hops", .int 8)]) = .ok again ∧
    again.get .hops = .int 8 ∧ again.get .greeting = .text "[None]" ∧
    copy settings ((Table.ofList converted).update [("colour", .null)]) = .error (.unknown "colour") ∧
    Setting.mtu.validate (.int 11) = .ok (.int 11) := by
  let machine : Machine := ⟨1, 0, "/"⟩
  obtain ⟨settings, made⟩ : ∃ settings, make edges = .ok settings := ⟨_, rfl⟩
  obtain ⟨copied, first⟩ : ∃ copied, copy settings converted = .ok copied := by
    cases made
    exact ⟨_, rfl⟩
  obtain ⟨-, copies, idempotent⟩ := copying (.new made)
  obtain ⟨kept, twice⟩ := copies converted copied first
  have taken : ∀ (setting : Setting) (value checked : Value),
      Table.last? converted setting.name = some value → setting.validate value = .ok checked →
        copied.get setting = checked := by
    intro setting value checked given valid
    have passed := (copy_eq_ok_iff.mp first).2 setting
    rw [given, Option.getD_some, valid] at passed
    exact (Except.ok.inj passed).symm
  have digit : Setting.hops.validate (.text " ٧ ") = .ok (.int 7) := by
    have read : (Value.text " ٧ ").toInt = .ok 7 := by decide +kernel
    rw [Setting.validate_number rfl, Setting.toInt_eq_ok_iff.mpr read]
    rfl
  have whole : Setting.mtu.validate (.real (.ofDecimal false 1199 (-2))) = .ok (.int 11) := by
    have cut : (Value.real (.ofDecimal false 1199 (-2))).toInt = .ok 11 := by decide +kernel
    rw [Setting.validate_number rfl, Setting.toInt_eq_ok_iff.mpr cut]
    rfl
  have shown : (Value.list [.null]).plain = "[None]" := by decide
  have greeting : copied.get .greeting = .text "[None]" :=
    shown ▸ taken .greeting (.list [.null]) (.text (Value.list [.null]).plain) rfl rfl
  obtain ⟨again, second⟩ : ∃ again, copy copied [("hops", .int 8)] = .ok again := by
    refine ⟨copied.assign .hops (.int 8), copy_eq_ok_iff.mpr ⟨?_, fun setting => ?_⟩⟩
    · exact List.forall_mem_singleton.mpr ⟨.hops, rfl⟩
    · cases setting with
      | hops => rfl
      | _ => exact (Made.copied (.new made) first).checked _
  obtain ⟨-, later, -⟩ := copying (.copied (.new made) first)
  have failed : copy copied [("colour", .null)] = .error (.unknown "colour") := rfl
  have hops := (copy_eq_ok_iff.mp second).2 .hops
  refine ⟨machine, settings, copied, again, made, .new made, first, taken .hops _ _ rfl digit,
    taken .mtu _ _ rfl whole, greeting,
    kept .backendPort (by decide), (twice _).1.symm.trans second, (Except.ok.inj hops).symm, ?_,
    (twice _).1.symm.trans failed,
    idempotent .mtu _ _ whole⟩
  rw [(later _ again second).1 .greeting (by decide), greeting]

end ChatLink.Settings
