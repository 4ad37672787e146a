import ChatLink.Frame.Layout
import ChatLink.Value.Conversion

namespace ChatLink

inductive EncodeError
  | conversion (error : ConversionError)
  | containsNul (literal : String)
  | outOfRange (n : Int) (size : Nat)
  | bufferTooSmall (count : Nat) (start : Int)
  | noPlace
  deriving DecidableEq

def EncodeError.message : EncodeError → String
  | .conversion error => error.message
  | .containsNul literal => "text fields cannot contain null bytes: " ++ literal
  | .outOfRange n size => toString n ++ " does not fit in " ++ toString size ++ " bytes"
  | .bufferTooSmall count start =>
    "buffer too small for " ++ toString count ++ " bytes at offset " ++ toString start
  | .noPlace => "bytearray index out of range"

namespace Frame

/-- Whether a value stands for one or more zero bytes, which no field can hold. -/
def isZeroes : Value → Bool
  | .bool b => b
  | .int n => 0 < n && n < Value.memorySize
  | _ => false

def fieldBytes (v : Value) : Except EncodeError Bytes :=
  if isZeroes v then .error (.containsNul v.literal)
  else do
    let bytes ← v.toBytes.mapError .conversion
    if bytes.contains 0 then throw (.containsNul v.literal) else return bytes

def writeNumber (size : Nat) (buffer : Bytes) (start : Int) (value : Value) :
    Except EncodeError (Bytes × Int) := do
  let n ← value.toInt.mapError .conversion
  if n < 0 ∨ 256 ^ size ≤ n then throw (.outOfRange n size)
  return (buffer.splice start (start + size) (.ofNat size n.toNat), start + size)

/-- Writes a text field and its zero byte, and gives the position behind them. Only the end is
checked against the buffer, so with a start before the buffer there may be no place left. -/
def writeText (buffer : Bytes) (start : Int) (text : Value) : Except EncodeError (Bytes × Int) := do
  let field ← fieldBytes text
  let stop := start + field.length
  if buffer.length < stop + 1 then throw (.bufferTooSmall (field.length + 1) start)
  match (buffer.splice start stop field).set? stop 0 with
  | some buffer => return (buffer, stop + 1)
  | none => throw .noPlace

def writeTexts (buffer : Bytes) (start : Int) : List Bytes → Except EncodeError Bytes
  | [] => return buffer
  | field :: rest => do
    let (buffer, next) ← writeText buffer start (.bytes field)
    writeTexts buffer next rest

def sizeOf (fields : List Bytes) : Nat :=
  fields.foldr (fun field size => field.length + 1 + size) headerSize

def build (code : UInt8) (time : Value) (fields : List Bytes) : Except EncodeError Bytes := do
  let size := sizeOf fields
  let (buffer, next) ← writeNumber lengthSize (List.replicate size 0) 0 (.int size)
  let (buffer, _) ← writeNumber timeSize buffer next time
  writeTexts (buffer.set codeOffset code) headerSize fields

def messageFields (peer text : Value) : Except EncodeError (List Bytes) :=
  [peer, text].mapM fieldBytes

def encodeMessage (fields : List Bytes) (broadcast : Bool) (time : Value) : Except EncodeError Bytes :=
  build (if broadcast then broadcastCode else dataCode) time fields

/-- An empty second secret is left out like an absent one. -/
def encodeKey (peer first second hops : Value) : Except EncodeError Bytes := do
  let fields ← ([peer, first] ++ if second.isTrue then [second] else []).mapM fieldBytes
  build keyCode hops fields

end Frame

end ChatLink
