import ChatLink.Number.Numeral
import ChatLink.Text.Utf8
import ChatLink.Value.Literal

namespace ChatLink

inductive ConversionError
  | notANumber
  | infinite
  | malformed (literal : String)
  | tooLong (digits : Nat)
  | noInteger (kind : String)
  | noBytes (kind : String)
  | noByte (kind : String)
  | byteOutOfRange
  | negativeCount
  | countTooLarge
  | bytesTooLarge
  | noMemory
  deriving DecidableEq

/-- At most this much of a numeral that cannot be read is shown, and of bytes no more than this many
are looked at for it. -/
def ConversionError.shown : Nat := 200

def ConversionError.message : ConversionError → String
  | .notANumber => "cannot convert float NaN to integer"
  | .infinite => "cannot convert float infinity to integer"
  | .malformed literal =>
    "invalid literal for int() with base 10: " ++ .ofList (literal.toList.take shown)
  | .tooLong digits =>
    "Exceeds the limit (4300 digits) for integer string conversion: value has " ++ toString digits
      ++ " digits; use sys.set_int_max_str_digits() to increase the limit"
  | .noInteger kind =>
    "int() argument must be a string, a bytes-like object or a real number, not '" ++ kind ++ "'"
  | .noBytes kind => "cannot convert '" ++ kind ++ "' object to bytes"
  | .noByte kind => "'" ++ kind ++ "' object cannot be interpreted as an integer"
  | .byteOutOfRange => "bytes must be in range(0, 256)"
  | .negativeCount => "negative count"
  | .countTooLarge => "cannot fit 'int' into an index-sized integer"
  | .bytesTooLarge => "byte string is too large"
  | .noMemory => ""

namespace Value

def readNumeral (shown : Value) (text : List Char) : Except ConversionError Int :=
  match Numeral.read text with
  | .ok n => .ok n
  | .error .malformed => .error (.malformed shown.literal)
  | .error (.tooLong digits) => .error (.tooLong digits)

def asciiChar (b : UInt8) : Char := if b < 0x80 then Char.ofNat b.toNat else '\uFFFD'

/-- Fractions are cut off toward zero; text and bytes are read as numerals, bytes in ASCII
only. -/
def toInt : Value → Except ConversionError Int
  | .bool b => .ok (if b then 1 else 0)
  | .int n => .ok n
  | .real .nan => .error .notANumber
  | .real (.infinite _) => .error .infinite
  | .real x => match x.truncate? with
    | some n => .ok n
    | none => .error .infinite
  | .text s => (Value.text s).readNumeral s.toList
  | .bytes bs => (Value.bytes (bs.take ConversionError.shown)).readNumeral (bs.map asciiChar)
  | v => .error (.noInteger v.kind)

def toByte : Value → Except ConversionError UInt8
  | .bool b => .ok (if b then 1 else 0)
  | .int n => if 0 ≤ n ∧ n < 256 then .ok (UInt8.ofNat n.toNat) else .error .byteOutOfRange
  | v => .error (.noByte v.kind)

/-- The greatest size of a byte string, of whose address space 33 bytes go to its header. -/
def maxBytes : Int := 2 ^ 63 - 1 - 33

/-- From this size on a byte string finds no memory. -/
def memorySize : Int := 2 ^ 36

def blankBytes (n : Int) : Except ConversionError Bytes :=
  if n < -2 ^ 63 ∨ 2 ^ 63 ≤ n then .error .countTooLarge
  else if n < 0 then .error .negativeCount
  else if maxBytes < n then .error .bytesTooLarge
  else if memorySize ≤ n then .error .noMemory
  else .ok (List.replicate n.toNat 0)

/-- Text is encoded, bytes are taken as they are, and a list names its bytes one by one. A table
stands for the list of its keys. -/
def toBytes : Value → Except ConversionError Bytes
  | .text s => .ok (Utf8.encode s)
  | .bytes bs => .ok bs
  | .bool b => blankBytes (if b then 1 else 0)
  | .int n => blankBytes n
  | .list items => items.mapM toByte
  | .table [] => .ok []
  | .table _ => .error (.noByte "str")
  | v => .error (.noBytes v.kind)

def thousandfold? : Value → Option Value
  | .bool b => some (.int (if b then 1000 else 0))
  | .int n => some (.int (n * 1000))
  | .real x => some (.real (x.scale 1000))
  | .text s => some (.text (String.join (List.replicate 1000 s)))
  | .bytes bs => some (.bytes (List.replicate 1000 bs).flatten)
  | .list items => some (.list (List.replicate 1000 items).flatten)
  | .null => none
  | .table _ => none

@[simp] theorem toInt_int (n : Int) : toInt (.int n) = .ok n := rfl

@[simp] theorem toBytes_text (s : String) : toBytes (.text s) = .ok (Utf8.encode s) := rfl

@[simp] theorem toBytes_bytes (bs : Bytes) : toBytes (.bytes bs) = .ok bs := rfl

end Value

end ChatLink
