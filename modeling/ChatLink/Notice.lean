import ChatLink.Event
import ChatLink.Frame.Writing

namespace ChatLink

structure Endpoint where
  address : Value
  port : Int

def Endpoint.literal (e : Endpoint) : String :=
  Value.literalTuple [e.address, .int e.port]

/-- Why a call on a socket failed: the system could not do it, or what it was to be done with was
refused before the system was asked. -/
inductive SocketError
  | system (cause : String)
  | refused (cause : String)
  deriving DecidableEq

def SocketError.message : SocketError → String
  | .system cause => cause
  | .refused cause => cause

inductive TransportError
  | cannotOpen (cause : String)
  | cannotBind (cause : String)
  | closedForSending
  | sendFailed (backend : Endpoint) (cause : String)
  | wakeFailed (cause : String)
  | closedForReceiving
  | receiveFailed (cause : String)

def TransportError.message : TransportError → String
  | .cannotOpen cause => "unable to open socket: " ++ cause
  | .cannotBind cause => "unable to bind socket: " ++ cause
  | .closedForSending => "channel is not open"
  | .sendFailed backend cause => "send to " ++ backend.literal ++ " failed: " ++ cause
  | .wakeFailed cause => "wake failed: " ++ cause
  | .closedForReceiving => "channel is not open"
  | .receiveFailed cause => "receive failed: " ++ cause

/-- What leaves an operation on a channel: what the channel says, or what its socket says. -/
inductive Breakdown
  | known (error : TransportError)
  | raw (error : SocketError)

def Breakdown.message : Breakdown → String
  | .known error => error.message
  | .raw error => error.message

inductive SendError
  | encoding (error : EncodeError)
  | socket (error : SocketError)
  deriving DecidableEq

def SendError.message : SendError → String
  | .encoding error => error.message
  | .socket error => error.message

inductive StopError
  | socket (error : SocketError)
  | threadNotBegun
  deriving DecidableEq

def StopError.message : StopError → String
  | .socket error => error.message
  | .threadNotBegun => "cannot join thread before it is started"

inductive Failure
  | raised (text : String)
  | sending (error : SendError)
  | stopping (error : StopError)

def Failure.message : Failure → String
  | .raised text => text
  | .sending error => error.message
  | .stopping error => error.message

inductive Level
  | debug
  | info
  | warning
  | error
  | critical
  deriving DecidableEq

inductive Source
  | codec
  | channel
  | dispatcher
  | startup
  deriving DecidableEq

inductive Notice
  | lengthMismatch (declared received : Nat)
  | unknownCode (code : Nat)
  | messageFrom (peer : Value)
  | keyFrom (peer : Value)
  | secretIgnored (peer : Value)
  | frameDropped (code : Int)
  | bound (near backend : Endpoint)
  | arrived (size : Nat) (origin : Endpoint)
  | foreignPort (port backendPort : Int)
  | foreignAddress (address : Value)
  | running (backend : Endpoint)
  | consumerFailed (event : Event) (failure : Failure)
  | callbackFailed (event : Event) (failure : Failure)
  | notSent (error : TransportError)
  | terminating (text : String)
  | notOpened (error : TransportError)

namespace Notice

def level : Notice → Level
  | .lengthMismatch .. => .warning
  | .unknownCode _ => .warning
  | .messageFrom _ => .info
  | .keyFrom _ => .info
  | .secretIgnored _ => .info
  | .frameDropped _ => .warning
  | .bound .. => .debug
  | .arrived .. => .debug
  | .foreignPort .. => .warning
  | .foreignAddress _ => .warning
  | .running _ => .info
  | .consumerFailed .. => .error
  | .callbackFailed .. => .error
  | .notSent _ => .error
  | .terminating _ => .critical
  | .notOpened _ => .critical

def source : Notice → Source
  | .lengthMismatch .. => .codec
  | .unknownCode _ => .codec
  | .messageFrom _ => .codec
  | .keyFrom _ => .codec
  | .secretIgnored _ => .codec
  | .frameDropped _ => .codec
  | .bound .. => .channel
  | .arrived .. => .channel
  | .foreignPort .. => .channel
  | .foreignAddress _ => .channel
  | .running _ => .dispatcher
  | .consumerFailed .. => .dispatcher
  | .callbackFailed .. => .dispatcher
  | .notSent _ => .dispatcher
  | .terminating _ => .dispatcher
  | .notOpened _ => .startup

def message : Notice → String
  | .lengthMismatch declared received =>
    "embedded length " ++ toString declared ++ ", received " ++ toString received
  | .unknownCode code => "unknown message code " ++ toString code
  | .messageFrom peer => "message from " ++ peer.literal
  | .keyFrom peer => "new key from " ++ peer.literal
  | .secretIgnored peer => "ignoring secret frame from " ++ peer.literal
  | .frameDropped code => "dropping frame with unknown code " ++ toString code
  | .bound near backend => "bound " ++ near.literal ++ ", backend at " ++ backend.literal
  | .arrived size origin => "received " ++ toString size ++ " bytes from " ++ origin.literal
  | .foreignPort port backendPort =>
    "packet from port " ++ toString port ++ ", only accepting from " ++ toString backendPort
  | .foreignAddress address =>
    "packet from address " ++ address.plain ++ ", only accepting from loopback address"
  | .running backend => "running xchat dispatcher, backend at " ++ backend.literal
  | .consumerFailed event _ => "consumer failed to handle " ++ event.literal
  | .callbackFailed event _ => "callback failed to handle " ++ event.literal
  | .notSent error => "send exception: " ++ error.message
  | .terminating text => text
  | .notOpened error => error.message

def failure? : Notice → Option Failure
  | .consumerFailed _ failure => some failure
  | .callbackFailed _ failure => some failure
  | _ => none

end Notice

namespace Frame

def readingNotices (frame : Frame) : List Notice :=
  (if frame.length ≠ frame.received then [.lengthMismatch frame.length frame.received] else [])
    ++ if frame.kind = .unknown then [.unknownCode frame.code] else []

def eventNotice (frame : Frame) : Notice :=
  let peer := Value.ofText? frame.peer
  match frame.kind with
  | .data => .messageFrom peer
  | .broadcast => .messageFrom peer
  | .key => .keyFrom peer
  | .secret => .secretIgnored peer
  | .unknown => .frameDropped frame.code

def decode (data : Bytes) (bound : Option Int) : Option Event × List Notice :=
  match parse data bound with
  | none => (none, [])
  | some frame => (frame.event?, frame.readingNotices ++ [frame.eventNotice])

end Frame

end ChatLink
