import ChatLink.Address
import ChatLink.Frame.Layout
import ChatLink.Machine
import ChatLink.Value.Conversion

namespace ChatLink

inductive Setting
  | backendAddress
  | backendPort
  | bindAddress
  | mtu
  | greeting
  | hops
  deriving DecidableEq

namespace Setting

def all : List Setting := [.backendAddress, .backendPort, .bindAddress, .mtu, .greeting, .hops]

def name : Setting → String
  | .backendAddress => "backend_address"
  | .backendPort => "backend_port"
  | .bindAddress => "bind_address"
  | .mtu => "mtu"
  | .greeting => "greeting"
  | .hops => "hops"

def ofName? (name : String) : Option Setting := all.find? (·.name == name)

@[simp] theorem ofName?_name (setting : Setting) : ofName? setting.name = some setting := by
  cases setting <;> decide +kernel

def default : Setting → Value
  | .backendAddress => .text "127.0.0.1"
  | .backendPort => .int 41244
  | .bindAddress => .text ""
  | .mtu => .int 12288
  | .greeting => .text "hello world\n"
  | .hops => .int 6

def isNumber : Setting → Bool
  | .backendPort => true
  | .mtu => true
  | .hops => true
  | _ => false

end Setting

/-- Every rule that a setting can break. A value whose conversion overflows and one that cannot be
written down break none of them and are reported as they are. -/
inductive SettingError
  | unknown (name : String)
  | reserved (name : String)
  | notInteger (setting : Setting) (literal : String)
  | overflow (error : ConversionError)
  | tooDeep
  | tooLong
  | negative (setting : Setting) (n : Int)
  | portOutOfRange (n : Int)
  | hopsOutOfRange (n : Int)
  | mtuTooSmall (n : Int)
  | notLoopback (literal : String)
  deriving DecidableEq

def SettingError.message : SettingError → String
  | .unknown name => "unknown setting: " ++ Text.quoted name
  | .reserved name => "got multiple values for argument '" ++ name ++ "'"
  | .notInteger setting literal =>
    "setting " ++ setting.name ++ " must be an integer, not " ++ literal
  | .overflow error => error.message
  | .tooDeep => "maximum recursion depth exceeded while getting the repr of an object"
  | .tooLong =>
    "Exceeds the limit (4300 digits) for integer string conversion; "
      ++ "use sys.set_int_max_str_digits() to increase the limit"
  | .negative setting n => "setting " ++ setting.name ++ " cannot be negative: " ++ toString n
  | .portOutOfRange n => "backend_port out of range: " ++ toString n
  | .hopsOutOfRange n => "hops out of range: " ++ toString n
  | .mtuTooSmall n => "mtu too small to hold a frame: " ++ toString n
  | .notLoopback literal => "backend_address must be a loopback address, not " ++ literal

namespace Setting

variable [Machine]

def maxDepth : Nat := Machine.levels + 1

def unwritten? (v : Value) : Option SettingError :=
  if maxDepth < v.depth then some .tooDeep else if v.hasLiteral then none else some .tooLong

def refuse {α : Type} (shown : Value) (error : SettingError) : Except SettingError α :=
  .error ((unwritten? shown).getD error)

def toInt (setting : Setting) (v : Value) : Except SettingError Int :=
  match v.toInt with
  | .ok n => .ok n
  | .error .infinite => .error (.overflow .infinite)
  | .error _ => refuse v (.notInteger setting v.literal)

def checkNumber (setting : Setting) (n : Int) : Except SettingError Unit :=
  if n < 0 then refuse (.int n) (.negative setting n)
  else
    match setting with
    | .backendPort => if 65535 < n then refuse (.int n) (.portOutOfRange n) else .ok ()
    | .hops => if Frame.maxTime < n then refuse (.int n) (.hopsOutOfRange n) else .ok ()
    | .mtu => if n < Frame.headerSize then refuse (.int n) (.mtuTooSmall n) else .ok ()
    | _ => .ok ()

def validate (setting : Setting) (v : Value) : Except SettingError Value :=
  if setting.isNumber then do
    let n ← setting.toInt v
    setting.checkNumber n
    return .int n
  else
    match unwritten? v with
    | some error => .error error
    | none =>
      let text := Value.text v.plain
      if setting = .backendAddress ∧ !text.isLoopback then .error (.notLoopback text.literal)
      else .ok text

end Setting

/-- A value for each setting. Settings that were made by `make` have passed the checks; a setting
that was assigned has not. -/
structure Settings where
  get : Setting → Value

namespace Settings

def toTable (settings : Settings) : Table :=
  Setting.all.map fun setting => (setting.name, settings.get setting)

def reservedName : String := "self"

section Making

variable [Machine]

def fromValues (values : Table) : Except SettingError Settings := do
  let choose (setting : Setting) : Except SettingError Value :=
    setting.validate ((values.lookup setting.name).getD setting.default)
  let backendAddress ← choose .backendAddress
  let backendPort ← choose .backendPort
  let bindAddress ← choose .bindAddress
  let mtu ← choose .mtu
  let greeting ← choose .greeting
  let hops ← choose .hops
  return ⟨fun
    | .backendAddress => backendAddress
    | .backendPort => backendPort
    | .bindAddress => bindAddress
    | .mtu => mtu
    | .greeting => greeting
    | .hops => hops⟩

/-- Settings with the given values, and defaults for the rest. Names are checked before values, and
values in the order of the settings. -/
def make (given : List (String × Value)) : Except SettingError Settings :=
  if given.any (·.1 == reservedName) then .error (.reserved reservedName)
  else
    match given.find? fun pair => (Setting.ofName? pair.1).isNone with
    | some (name, _) => .error (.unknown name)
    | none => fromValues (Table.ofList given)

def copy (settings : Settings) (given : List (String × Value)) : Except SettingError Settings :=
  if given.any (·.1 == reservedName) then .error (.reserved reservedName)
  else make (settings.toTable.update given)

end Making

def assign (settings : Settings) (setting : Setting) (v : Value) : Settings :=
  ⟨fun s => if s = setting then v else settings.get s⟩

def same (a b : Settings) : Bool := (Value.table a.toTable).same (.table b.toTable)

def literal (settings : Settings) : String :=
  "Settings(" ++ (Value.table settings.toTable).literal ++ ")"

def greetingBytes (settings : Settings) : Bytes :=
  Utf8.encode (settings.get .greeting).plain

end Settings

end ChatLink
