import ChatLink.Proofs.Admission
import ChatLink.Settings.Storage

namespace ChatLink

namespace Settings

variable [Machine]

/-- Settings as they come about, so long as nothing is assigned to them. -/
inductive Made : Settings → Prop
  | new {given settings} (h : make given = .ok settings) : Made settings
  | copied {original given settings} (before : Made original)
    (h : copy original given = .ok settings) : Made settings
  | loaded {store process given path settings} (h : load store process given path = .ok settings) :
    Made settings

def Checked (settings : Settings) : Prop :=
  ∀ setting, Setting.validate setting (settings.get setting) = .ok (settings.get setting)

variable {settings : Settings}

theorem checked_of_make {given : List (String × Value)} (h : make given = .ok settings) :
    Checked settings := by
  intro setting
  obtain ⟨value, passed⟩ := validated h setting
  exact Setting.validate_checked passed

theorem Made.checked (h : Made settings) : Checked settings := by
  induction h with
  | new h => exact checked_of_make h
  | copied _ h =>
    rw [copy] at h
    split at h
    · cases h
    · exact checked_of_make h
  | loaded h =>
    obtain ⟨values, -, h⟩ := exists_of_bind_eq_ok h
    exact checked_of_make (eq_ok_of_mapError h)

namespace Checked

theorem number (h : Checked settings) (setting : Setting) (number : setting.isNumber) :
    ∃ n, settings.get setting = .int n ∧ setting.InRange n := by
  obtain ⟨n, held, inside⟩ := Setting.number_of_validate number (h setting)
  exact ⟨n, held, Setting.checkNumber_eq_ok_iff.mp inside⟩

theorem text (h : Checked settings) (setting : Setting) (text : setting.isNumber = false) :
    ∃ s, settings.get setting = .text s :=
  ⟨_, (Setting.text_of_validate text (h setting)).2⟩

theorem isLoopback (h : Checked settings) : (settings.get .backendAddress).isLoopback :=
  Setting.isLoopback_of_validate (h .backendAddress)

end Checked

def edges : List (String × Value) :=
  [("backend_port", .bool false), ("mtu", .text "１１"), ("backend_address", .text "::1"),
    ("hops", .real (.ofDecimal false 2814749767106555 (-1)))]

end Settings

end ChatLink
