import ChatLink.Number.Power

/-!
The layout of a frame: its length in four bytes, its time (or hop limit) in six, its code in one,
and after that text fields, each ended by a zero byte.
-/

namespace ChatLink.Frame

def lengthSize : Nat := 4
def timeSize : Nat := 6
def codeOffset : Nat := 10
def headerSize : Nat := 11

def maxTime : Nat := 2 ^ 48 - 1

/-- What a frame carries, as its code says. Secret frames are known but never delivered. -/
inductive Kind
  | data
  | broadcast
  | key
  | secret
  | unknown
  deriving DecidableEq

def Kind.ofCode : Nat → Kind
  | 0 => .data
  | 1 => .broadcast
  | 2 => .key
  | 3 => .secret
  | _ => .unknown

def dataCode : UInt8 := 0
def broadcastCode : UInt8 := 1
def keyCode : UInt8 := 2

@[simp] theorem ofCode_dataCode : Kind.ofCode dataCode.toNat = .data := rfl

@[simp] theorem ofCode_broadcastCode : Kind.ofCode broadcastCode.toNat = .broadcast := rfl

@[simp] theorem ofCode_keyCode : Kind.ofCode keyCode.toNat = .key := rfl

def Kind.limit : Kind → List String → List String
  | .data, texts => texts.take 1
  | .broadcast, texts => texts.take 1
  | .key, texts => texts.take 2
  | .secret, texts => texts
  | .unknown, texts => texts

def Kind.most? : Kind → Option Nat
  | .data => some 1
  | .broadcast => some 1
  | .key => some 2
  | .secret => none
  | .unknown => none

def Kind.hasRoom (kind : Kind) (texts : List String) : Bool :=
  kind.most?.all (texts.length < ·)

end ChatLink.Frame
