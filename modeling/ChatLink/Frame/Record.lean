import ChatLink.Notice

namespace ChatLink.Frame

structure Record where
  length : Value
  received : Value
  time : Value
  code : Value
  peer : Value
  texts : List Value

def toRecord (frame : Frame) : Record where
  length := .int frame.length
  received := .int frame.received
  time := .int frame.time
  code := .int frame.code
  peer := .ofText? frame.peer
  texts := frame.texts.map .text

namespace Record

inductive Error
  | noNumber (kind : String)
  | conversion (error : ConversionError)
  | noProduct
  deriving DecidableEq

def items? : Value → Option (List Value)
  | .list items => some items
  | .text s => some (s.toList.map fun c => .text (.singleton c))
  | .bytes bs => some (bs.map fun b => .int b.toNat)
  | .table entries => some (entries.map fun entry => .text entry.1)
  | _ => none

def whole (v : Value) : Except Error Int :=
  match v.number? with
  | none => .error (.noNumber v.kind)
  | some _ => v.toInt.mapError .conversion

def literal (r : Record) : Except Error String := do
  let length ← whole r.length
  let received ← whole r.received
  let time ← whole r.time
  let code ← whole r.code
  return "Frame(length=" ++ toString length ++ ", received=" ++ toString received ++ ", time="
    ++ toString time ++ ", code=" ++ toString code ++ ", peer=" ++ r.peer.literal ++ ", texts="
    ++ Value.literalTuple r.texts ++ ")"

/-- A code is known by its value alone, whatever kind of number it is. -/
def kind (r : Record) : Kind :=
  if r.code.same (.int 0) then .data
  else if r.code.same (.int 1) then .broadcast
  else if r.code.same (.int 2) then .key
  else if r.code.same (.int 3) then .secret
  else .unknown

def text (r : Record) : Value := r.texts.headD .null

def secrets (r : Record) : List Value := if r.kind = .key then r.texts else []

def event? (r : Record) : Except Error (Option Event) :=
  match r.kind with
  | .data => message false
  | .broadcast => message true
  | .key => .ok (some (.keyOffer r.peer))
  | .secret => .ok none
  | .unknown => .ok none
where
  message (broadcast : Bool) : Except Error (Option Event) :=
    match r.time.thousandfold? with
    | some timestamp => .ok (some (.message r.peer timestamp r.text (.bool broadcast)))
    | none => .error .noProduct

def eventNotice (r : Record) : Except Error Notice :=
  match r.kind with
  | .data => .ok (.messageFrom r.peer)
  | .broadcast => .ok (.messageFrom r.peer)
  | .key => .ok (.keyFrom r.peer)
  | .secret => .ok (.secretIgnored r.peer)
  | .unknown => (whole r.code).map .frameDropped

end Record

theorem toRecord_kind (frame : Frame) : frame.toRecord.kind = frame.kind := by
  obtain ⟨_, _, _, code, _, _⟩ := frame
  match code with
  | 0 | 1 | 2 | 3 => rfl
  | n + 4 =>
    have h0 : (n : Int) + 4 ≠ 0 := by omega
    have h1 : (n : Int) + 4 ≠ 1 := by omega
    have h2 : (n : Int) + 4 ≠ 2 := by omega
    have h3 : (n : Int) + 4 ≠ 3 := by omega
    simp [Record.kind, toRecord, kind, Kind.ofCode, Value.same, Value.number?, Value.Number.equal,
      h0, h1, h2, h3]

/-- A frame that was read and one that was filled in with the same fields make the same event. -/
theorem toRecord_event? (frame : Frame) : frame.toRecord.event? = .ok frame.event? := by
  have htext : frame.toRecord.text = .ofText? frame.text? := by
    obtain ⟨_, _, _, _, _, texts⟩ := frame
    cases texts <;> rfl
  simp only [Record.event?, toRecord_kind, event?, Record.event?.message, htext]
  cases frame.kind <;> rfl

end ChatLink.Frame
