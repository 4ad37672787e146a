import ChatLink.Proofs.Written
import ChatLink.Settings.Basic

namespace ChatLink

variable [Machine]

namespace Setting

variable {setting : Setting} {given checked : Value}

theorem number_of_validate (number : setting.isNumber) (h : setting.validate given = .ok checked) :
    ∃ n, checked = .int n ∧ setting.checkNumber n = .ok () := by
  rw [validate, if_pos number] at h
  obtain ⟨n, -, h⟩ := exists_of_bind_eq_ok h
  obtain ⟨_, passed, h⟩ := exists_of_bind_eq_ok h
  cases h
  exact ⟨n, rfl, passed⟩

theorem text_of_validate (text : setting.isNumber = false)
    (h : setting.validate given = .ok checked) :
    unwritten? given = none ∧ checked = .text given.plain := by
  rw [validate, text, if_neg Bool.false_ne_true] at h
  split at h
  · cases h
  · rename_i written
    dsimp only at h
    split at h
    · cases h
    · cases h
      exact ⟨written, rfl⟩

theorem isLoopback_of_validate (h : backendAddress.validate given = .ok checked) :
    checked.isLoopback := by
  rw [validate, if_neg (by decide)] at h
  split at h
  · cases h
  dsimp only at h
  split at h
  · cases h
  · rename_i near
    cases h
    cases loopback : (Value.text given.plain).isLoopback with
    | true => rfl
    | false => exact absurd ⟨rfl, by rw [loopback]; rfl⟩ near

end Setting

namespace Settings

def chosen (values : Table) (setting : Setting) : Value :=
  (values.lookup setting.name).getD setting.default

theorem fromValues_eq (values : Table) : fromValues values = (do
    let backendAddress ← Setting.backendAddress.validate (chosen values .backendAddress)
    let backendPort ← Setting.backendPort.validate (chosen values .backendPort)
    let bindAddress ← Setting.bindAddress.validate (chosen values .bindAddress)
    let mtu ← Setting.mtu.validate (chosen values .mtu)
    let greeting ← Setting.greeting.validate (chosen values .greeting)
    let hops ← Setting.hops.validate (chosen values .hops)
    return ⟨fun
      | .backendAddress => backendAddress
      | .backendPort => backendPort
      | .bindAddress => bindAddress
      | .mtu => mtu
      | .greeting => greeting
      | .hops => hops⟩) := rfl

theorem fromValues_of_validate {values : Table} {settings : Settings}
    (h : ∀ setting, Setting.validate setting (chosen values setting) =
      .ok (settings.get setting)) : fromValues values = .ok settings := by
  obtain ⟨get⟩ := settings
  rw [fromValues_eq, h, h, h, h, h, h]
  refine congrArg (Except.ok ∘ Settings.mk) (funext fun setting => ?_)
  cases setting <;> rfl

theorem exists_of_fromValues_error {values : Table} {error : SettingError}
    (h : fromValues values = .error error) :
    ∃ setting, Setting.validate setting (chosen values setting) = .error error := by
  iterate 6
    obtain failed | ⟨_, -, h⟩ := error_of_bind_eq_error h
    · exact ⟨_, failed⟩
  cases h

theorem validate_of_fromValues {values : Table} {settings : Settings}
    (h : fromValues values = .ok settings) (setting : Setting) :
    setting.validate (chosen values setting) = .ok (settings.get setting) := by
  obtain ⟨backendAddress, h₁, h⟩ := exists_of_bind_eq_ok h
  obtain ⟨backendPort, h₂, h⟩ := exists_of_bind_eq_ok h
  obtain ⟨bindAddress, h₃, h⟩ := exists_of_bind_eq_ok h
  obtain ⟨mtu, h₄, h⟩ := exists_of_bind_eq_ok h
  obtain ⟨greeting, h₅, h⟩ := exists_of_bind_eq_ok h
  obtain ⟨hops, h₆, h⟩ := exists_of_bind_eq_ok h
  cases h
  cases setting with
  | backendAddress => exact h₁
  | backendPort => exact h₂
  | bindAddress => exact h₃
  | mtu => exact h₄
  | greeting => exact h₅
  | hops => exact h₆

variable {given : List (String × Value)} {settings : Settings}

theorem validated (h : make given = .ok settings) (setting : Setting) :
    ∃ value, setting.validate value = .ok (settings.get setting) := by
  rw [make] at h
  split at h
  · cases h
  split at h
  · cases h
  · exact ⟨_, validate_of_fromValues h setting⟩

theorem number_of_make (h : make given = .ok settings) (setting : Setting)
    (number : setting.isNumber) :
    ∃ n, settings.get setting = .int n ∧ setting.checkNumber n = .ok () := by
  obtain ⟨value, checked⟩ := validated h setting
  exact Setting.number_of_validate number checked

theorem isLoopback_of_make (h : make given = .ok settings) :
    (settings.get .backendAddress).isLoopback := by
  obtain ⟨value, checked⟩ := validated h .backendAddress
  exact Setting.isLoopback_of_validate checked

end Settings

end ChatLink
