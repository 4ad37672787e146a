import ChatLink.Frame.Reading

namespace ChatLink

structure Frame where
  /-- The length that the header declares. -/
  length : Nat
  received : Nat
  /-- Seconds since the epoch, or the hop limit of a key frame. -/
  time : Nat
  code : Nat
  peer : Option String
  texts : List String
  deriving DecidableEq

namespace Frame

def kind (frame : Frame) : Kind := .ofCode frame.code

def parse (data : Bytes) (bound : Option Int) : Option Frame :=
  let received := clamp data.length bound
  if received < headerSize then none
  else
    let code := (data.getD codeOffset 0).toNat
    let texts := (fields ((data.take received).drop headerSize)).map Utf8.decode
    some {
      length := readNumber lengthSize data 0 (some received)
      received
      time := readNumber timeSize data lengthSize (some received)
      code
      peer := texts.head?
      texts := (Kind.ofCode code).limit texts.tail }

def scan (data : Bytes) (bound : Option Int) : Option Frame :=
  let received := clamp data.length bound
  if received < headerSize then none
  else
    let code := (data.getD codeOffset 0).toNat
    let (peer, next) := readText data headerSize (some received)
    some {
      length := readNumber lengthSize data 0 (some received)
      received
      time := readNumber timeSize data lengthSize (some received)
      code
      peer
      texts := readTexts data received (Kind.ofCode code) [] next }

def text? (frame : Frame) : Option String := frame.texts.head?

def secrets (frame : Frame) : List String :=
  if frame.kind = .key then frame.texts else []

theorem parse_eq_none_iff {data : Bytes} {bound : Option Int} :
    parse data bound = none ↔ clamp data.length bound < headerSize := by
  simp only [parse]
  split <;> simp_all

end Frame

end ChatLink
