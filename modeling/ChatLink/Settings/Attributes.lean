import ChatLink.Settings.Storage

/-!
Settings to which attributes are assigned by name, without any check. A name that is no setting is kept
as well. Some of these take the place of what settings offer: the list of names that are read back, the
reading itself, and the copying.
-/

namespace ChatLink.Settings

inductive AttributeError
  | missing (name : String)
  | readOnly (name : String)
  | notCallable (name : String)
  | noNames
  | notRead (name : String)
  | setting (error : SettingError)

structure Attributes where
  settings : Settings
  others : Table := []

namespace Attributes

def greetingBytesName : String := "greeting_bytes"

def namesName : String := "defaults"

def numbersName : String := "integers"

def readName : String := "to_dict"

def copyName : String := "copy"

def assign (attributes : Attributes) (name : String) (v : Value) :
    Except AttributeError Attributes :=
  if name = greetingBytesName then .error (.readOnly name)
  else
    match Setting.ofName? name with
    | some setting => .ok { attributes with settings := attributes.settings.assign setting v }
    | none => .ok { attributes with others := Table.insert name v attributes.others }

def get (attributes : Attributes) (name : String) : Except AttributeError Value :=
  if name = greetingBytesName then
    match attributes.settings.get .greeting with
    | .text greeting => .ok (.bytes (Utf8.encode greeting))
    | _ => .error (.missing name)
  else
    match Setting.ofName? name, attributes.others.lookup name with
    | some setting, _ => .ok (attributes.settings.get setting)
    | none, some v => .ok v
    | none, none =>
      if name = numbersName then
        .ok (.list ((Setting.all.filter Setting.isNumber).map fun setting => .text setting.name))
      else .error (.missing name)

def namesIn : Value → Except AttributeError (List Value)
  | .text s => .ok (s.toList.map fun c => .text (String.singleton c))
  | .bytes bs => .ok (bs.map fun b => .int b.toNat)
  | .list items => .ok items
  | .table entries => .ok (entries.map fun (name, _) => .text name)
  | _ => .error .noNames

def read (attributes : Attributes) : Except AttributeError Table :=
  match attributes.others.lookup readName, attributes.others.lookup namesName with
  | some _, _ => .error (.notCallable readName)
  | none, none => .ok attributes.settings.toTable
  | none, some names => do
    let entries ← (← namesIn names).mapM fun
      | .text name => do return (name, ← attributes.get name)
      | _ => throw .noNames
    return Table.ofList entries

@[simp] theorem read_plain (settings : Settings) : read { settings } = .ok settings.toTable := rfl

def readAt (attributes : Attributes) (name : String) : Except AttributeError Value := do
  match (← attributes.read).lookup name with
  | some v => return v
  | none => throw (.notRead name)

section Making

variable [Machine]

def copy (attributes : Attributes) (given : List (String × Value)) :
    Except AttributeError Settings := do
  if (attributes.others.lookup copyName).isSome then throw (.notCallable copyName)
  if given.any (·.1 == reservedName) then throw (.setting (.reserved reservedName))
  (make ((← attributes.read).update given)).mapError .setting

theorem copy_plain (settings : Settings) (given : List (String × Value)) :
    copy { settings } given = (settings.copy given).mapError .setting := by
  simp only [copy, Settings.copy, List.lookup_nil, Option.isSome_none, Bool.false_eq_true, if_false]
  split <;> rfl

end Making

def same (a b : Attributes) : Except AttributeError Bool := do
  return (Value.table (← a.read)).same (.table (← b.read))

theorem same_plain (a b : Settings) :
    same { settings := a } { settings := b } = .ok (a.same b) := rfl

section Saving

variable [Machine]

/-- Nothing is written where nothing can be read, but the folder is made. -/
def save (attributes : Attributes) (store : Store) (process : Environment) (path : Option String) :
    Except SaveError (Except AttributeError String) × Store :=
  match attributes.read with
  | .ok values =>
    let (result, store) := saveTable values store process path
    (result.map .ok, store)
  | .error e =>
    let (result, store) := prepareFolder store (path.getD (defaultPath process process))
    ((result.mapError .unwritable).map fun _ => .error e, store)

theorem save_plain (settings : Settings) (store : Store) (process : Environment)
    (path : Option String) :
    save { settings } store process path =
      ((settings.save store process path).1.map .ok, (settings.save store process path).2) := by
  simp only [save, read_plain, Settings.save]

end Saving

end Attributes

end ChatLink.Settings
