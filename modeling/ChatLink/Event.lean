import ChatLink.Frame.Basic
import ChatLink.Value.Literal

namespace ChatLink

/-- Timestamps are in milliseconds. Attributes that a frame does not carry are null, and whoever
makes an event by hand may put anything in them. -/
inductive Event
  | plain (peer : Value)
  | message (peer timestamp text broadcast : Value)
  | keyOffer (peer : Value)

namespace Event

def peer : Event → Value
  | .plain peer => peer
  | .message peer .. => peer
  | .keyOffer peer => peer

def same : Event → Event → Bool
  | .plain p, .plain q => p.same q
  | .message p t x b, .message q u y c => p.same q && t.same u && x.same y && b.same c
  | .keyOffer p, .keyOffer q => p.same q
  | _, _ => false

def literal : Event → String
  | .plain peer => "Event(peer=" ++ peer.literal ++ ")"
  | .message peer timestamp text broadcast =>
    "IncomingMessage(peer=" ++ peer.literal ++ ", timestamp=" ++ timestamp.literal ++ ", text="
      ++ text.literal ++ ", broadcast=" ++ broadcast.literal ++ ")"
  | .keyOffer peer => "KeyOffer(peer=" ++ peer.literal ++ ")"

def hasLiteral : Event → Bool
  | .plain peer => peer.hasLiteral
  | .message peer timestamp text broadcast =>
    peer.hasLiteral && timestamp.hasLiteral && text.hasLiteral && broadcast.hasLiteral
  | .keyOffer peer => peer.hasLiteral

/-- Lists and tables may change, and an event that has one among its attributes cannot be looked
up. -/
def canBeKey : Event → Bool
  | .plain peer => peer.isFixed
  | .message peer timestamp text broadcast =>
    peer.isFixed && timestamp.isFixed && text.isFixed && broadcast.isFixed
  | .keyOffer peer => peer.isFixed

/-- Numbers the events so that each has the number of the first event equal to it, counted among
those that are the first of their kind. -/
def classes? (events : List Event) : Option (List Nat) :=
  let step := fun (seen : List Event × List Nat) (event : Event) =>
    match seen.1.findIdx? (·.same event) with
    | some i => (seen.1, seen.2 ++ [i])
    | none => (seen.1 ++ [event], seen.2 ++ [seen.1.length])
  if events.all canBeKey then some (events.foldl step ([], [])).2 else none

end Event

def Value.ofText? : Option String → Value
  | some s => .text s
  | none => .null

namespace Frame

/-- Secret frames and unknown codes make no event. -/
def event? (frame : Frame) : Option Event :=
  let peer := Value.ofText? frame.peer
  let message := Event.message peer (.int (frame.time * 1000)) (Value.ofText? frame.text?)
  match frame.kind with
  | .data => some (message (.bool false))
  | .broadcast => some (message (.bool true))
  | .key => some (.keyOffer peer)
  | .secret => none
  | .unknown => none

end Frame

end ChatLink
