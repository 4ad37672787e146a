import ChatLink.Channel

namespace ChatLink

structure Consumer where
  messageReceived : (peer timestamp text : Value) → List Action
  contactCreated : (peer : Value) → List Action

/-- Something that is offered as a consumer and may lack one of the two methods. -/
structure Candidate where
  messageReceived : Option ((peer timestamp text : Value) → List Action)
  contactCreated : Option ((peer : Value) → List Action)

inductive FatalHandler
  | terminate
  | note
  deriving DecidableEq

inductive DispatcherError
  | noMethod (name : String)
  | conversion (error : ConversionError)
  | alreadyStarted
  | noThread (cause : String)
  | notCallable
  deriving DecidableEq

def DispatcherError.message : DispatcherError → String
  | .noMethod name => "consumer must implement " ++ name ++ "()"
  | .conversion error => error.message
  | .alreadyStarted => "dispatcher already started"
  | .noThread cause => cause
  | .notCallable => "callback must be callable"

def Candidate.check (candidate : Candidate) : Except DispatcherError Consumer :=
  match candidate.messageReceived, candidate.contactCreated with
  | some messageReceived, some contactCreated => .ok { messageReceived, contactCreated }
  | none, _ => .error (.noMethod "message_received")
  | some _, none => .error (.noMethod "contact_created")

inductive State
  | starting
  | running
  | stopped
  deriving DecidableEq

/-- The thread of a dispatcher. One that cannot be begun remains. -/
inductive Thread
  | absent
  | unbegun
  | begun
  deriving DecidableEq

structure Dispatcher where
  channel : Channel
  consumer : Option Consumer
  greeting : Bytes
  hops : Int
  fatal : FatalHandler
  callbacks : List Reference := []
  shutdown : Bool := false
  state : State := .starting
  thread : Thread := .absent

def Dispatcher.defaultGreeting : Bytes := Utf8.encode Setting.greeting.default.plain

def Dispatcher.make (channel : Channel) (consumer : Option Candidate) (greeting : Bytes)
    (hops : Value) (fatal : FatalHandler) : Except DispatcherError Dispatcher := do
  let consumer ← match consumer with
    | none => pure none
    | some candidate => some <$> candidate.check
  let hops ← hops.toInt.mapError .conversion
  return { channel, consumer, greeting, hops, fatal }

structure Session where
  dispatcher : Dispatcher
  host : Host

namespace Session

def record (s : Session) (entry : Entry) : Session := { s with host := s.host.record entry }

def report (s : Session) (notice : Notice) : Session := { s with host := s.host.report notice }

def setState (s : Session) (state : State) : Session :=
  { s with dispatcher := { s.dispatcher with state } }

/-- Asks a running loop to end, and waits for its thread. It does not matter whether the loop can be
woken, so long as the channel says so itself. -/
def halt (s : Session) : Except StopError Unit × Session :=
  let s := { s with dispatcher := { s.dispatcher with shutdown := true } }
  match s.dispatcher.channel.wake s.host with
  | (.error (.raw e), host) => (.error (.socket e), { s with host })
  | (_, host) =>
    if s.dispatcher.thread = .unbegun then (.error .threadNotBegun, { s with host })
    else (.ok (), { s with host })

def release (s : Session) : Session :=
  let (channel, host) := s.dispatcher.channel.close s.host
  { dispatcher := { s.dispatcher with channel, state := .stopped }, host }

def stop (s : Session) : Except StopError Unit × Session :=
  match s.halt with
  | (.error e, s) => (.error e, s)
  | (.ok _, s) => (.ok (), s.release)

def meanwhile {α : Type} (stop : Stop) (f : Session → α × Session) (s : Session) : α × Session :=
  match stop with
  | .never => f s
  | .atOnce => f s.stop.2
  | .patiently =>
    match s.halt with
    | (.error _, s) => f s
    | (.ok _, s) =>
      let (result, s) := f s
      (result, s.release)

/-- Whether the datagram was sent. What is refused is not reported. -/
def sendData (s : Session) (data : Bytes) : Except SocketError Bool × Session :=
  match s.dispatcher.channel.send data s.host with
  | (.ok _, host) => (.ok true, { s with host })
  | (.error (.known e), host) => (.ok false, { s with host := host.report (.notSent e) })
  | (.error (.raw e), host) => (.error e, { s with host })

def correlation (time : Value) : Except EncodeError Int :=
  match time.thousandfold? with
  | some v => v.toInt.mapError .conversion
  | none => .error (.conversion (.noInteger time.kind))

def sendMessage (s : Session) (peer text : Value) (broadcast : Bool) :
    Except SendError Int × Session :=
  match Frame.messageFields peer text with
  | .error e => (.error (.encoding e), s)
  | .ok fields =>
    let (time, host) := s.host.readClock
    match Frame.encodeMessage fields broadcast time with
    | .error e => (.error (.encoding e), { s with host })
    | .ok frame =>
      match { s with host }.sendData frame with
      | (.error e, s) => (.error (.socket e), s)
      | (.ok false, s) => (.ok (-1), s)
      | (.ok true, s) => ((correlation time).mapError .encoding, s)

def sendKeyRequest (s : Session) (peer first second hops : Value) :
    Except SendError Bool × Session :=
  let hops := match hops with
    | .null => .int s.dispatcher.hops
    | hops => hops
  match Frame.encodeKey peer first second hops with
  | .error e => (.error (.encoding e), s)
  | .ok frame =>
    let (sent, s) := s.sendData frame
    (sent.mapError .socket, s)

/-- Adds a callback, if there is still one of that name. -/
def register (s : Session) (name : String) : Session :=
  match s.host.named? name with
  | none => s
  | some callable =>
    let number := match callable with
      | .plain _ => 0
      | .method .. => Reference.fresh s.dispatcher.callbacks
    { s with dispatcher :=
        { s.dispatcher with callbacks := s.dispatcher.callbacks ++ [⟨callable, number⟩] } }

def perform (s : Session) : Action → Option Failure × Session
  | .fail text => (some (.raised text), s)
  | .stop =>
    match s.stop with
    | (.ok _, s) => (none, s)
    | (.error e, s) => (some (.stopping e), s)
  | .send peer text =>
    match s.sendMessage peer text false with
    | (.ok _, s) => (none, s)
    | (.error e, s) => (some (.sending e), s)
  | .register name => (none, s.register name)
  | .forget name => (none, { s with host := s.host.forget name })

def performAll (s : Session) : List Action → Option Failure × Session
  | [] => (none, s)
  | action :: rest =>
    match s.perform action with
    | (some failure, s) => (some failure, s)
    | (none, s) => s.performAll rest

def act (s : Session) (actions : List Action) (complaint : Failure → Notice) : Session :=
  match s.performAll actions with
  | (none, s) => s
  | (some failure, s) => s.report (complaint failure)

def tellConsumer (s : Session) (event : Event) : Session :=
  match s.dispatcher.consumer, event with
  | some consumer, .message peer timestamp text _ =>
    (s.record (.messageReceived peer timestamp text)).act
      (consumer.messageReceived peer timestamp text) (.consumerFailed event)
  | some consumer, .keyOffer peer =>
    (s.record (.contactCreated peer)).act (consumer.contactCreated peer) (.consumerFailed event)
  | _, _ => s

/-- Calls the callbacks from position `i` on, those that are registered meanwhile as well, and notes
which of them are dead. The callable that was called just before is held until the next is looked
up. -/
def tellCallbacks (event : Event) : (fuel i : Nat) → (held : Option Callable) →
    (dead : List Reference) → Session → Option Callable × List Reference × Session
  | 0, _, held, dead, s => (held, dead, s)
  | fuel + 1, i, held, dead, s =>
    match s.dispatcher.callbacks[i]? with
    | none => (held, dead, s)
    | some reference =>
      match s.host.listener? held reference with
      | none => tellCallbacks event fuel (i + 1) none (dead ++ [reference]) s
      | some listener =>
        tellCallbacks event fuel (i + 1) (some reference.callable) dead
          ((s.record (.callback listener.name event)).act (listener.reaction event)
            (.callbackFailed event))

/-- Removes the callbacks that were found dead, each by way of the first that is taken for it. -/
def clean (s : Session) (held : Option Callable) (dead : List Reference) : Session :=
  let remove (references : List Reference) (reference : Reference) : List Reference :=
    references.eraseP (s.host.mistakes held reference)
  { s with dispatcher :=
      { s.dispatcher with callbacks := dead.foldl remove s.dispatcher.callbacks } }

/-- How many turns are taken beyond those that are due: callbacks that register callbacks, and a
loop that receives what it sends, need not end by themselves. -/
def spareTurns : Nat := 10 ^ 18

def propagate (s : Session) (event : Event) : Session :=
  let s := s.tellConsumer event
  let told := tellCallbacks event (s.dispatcher.callbacks.length + spareTurns) 0 none [] s
  told.2.2.clean told.1 told.2.1

def dispatch (s : Session) (data : Bytes) (bound : Option Int) : Session :=
  let (event, notices) := Frame.decode data bound
  let s := { s with host := s.host.reportAll notices }
  match event with
  | none => s
  | some event => s.propagate event

def giveUp (s : Session) (text : String) : Session :=
  match s.dispatcher.fatal with
  | .note => s.record (.fatal text)
  | .terminate => ((s.report (.terminating text)).record .logShutdown).record (.exit 1)

def take (arrival : Arrival) (s : Session) : Except Breakdown Datagram × Session :=
  let (result, host) := s.dispatcher.channel.accept arrival s.host
  (result, { s with host })

/-- Receives the next datagram. Whoever stops the dispatcher meanwhile does so before the datagram
is taken. -/
def receive (s : Session) : Except Breakdown Datagram × Session :=
  match s.dispatcher.channel.await s.host with
  | (.error e, host) => (.error e, { s with host })
  | (.ok arrival, host) => { s with host }.meanwhile arrival.stops (take arrival)

/-- What the loop does not expect ends it as it stands. -/
def loop : (fuel : Nat) → Session → Except SocketError Unit × Session
  | 0, s => (.ok (), s)
  | fuel + 1, s =>
    match s.receive with
    | (.error (.raw e), s) => (.error e, s)
    | (.error (.known e), s) =>
      if s.dispatcher.shutdown then (.ok (), s.setState .stopped)
      else
        (.ok (), (s.setState .stopped).giveUp
          ("unable to receive messages, terminating: " ++ e.message))
    | (.ok datagram, s) =>
      if s.dispatcher.shutdown then (.ok (), s.setState .stopped)
      else
        let (trusted, host) := s.dispatcher.channel.trusts datagram.origin s.host
        let s := { s with host }
        if trusted then loop fuel (s.dispatch datagram.data none) else loop fuel s

def turns (s : Session) : Nat := s.host.inbox.length + 1 + spareTurns

def serve (s : Session) : Except SocketError Unit × Session :=
  match s.dispatcher.channel.send s.dispatcher.greeting s.host with
  | (.error (.raw e), host) => (.error e, { s with host })
  | (.error (.known e), host) =>
    (.ok (), ({ s with host }.setState .stopped).giveUp
      ("unable to send initial packet: " ++ e.message))
  | (.ok _, host) =>
    let s := { s with host }
    loop s.turns s

/-- The loop, which somebody may stop before it has sent its greeting. -/
def run (s : Session) (stops : Stop := .never) : Except SocketError Unit × Session :=
  ((s.report (.running s.dispatcher.channel.backend)).setState .running).meanwhile stops serve

/-- Runs the loop in a thread of its own, which can be done once. What leaves the loop there is told
to nobody. -/
def start (s : Session) (stops : Stop := .never) : Except DispatcherError Unit × Session :=
  match s.dispatcher.thread with
  | .absent =>
    match (s.host.faults s.host.calls).spawning with
    | some cause =>
      (.error (.noThread cause), { s with dispatcher := { s.dispatcher with thread := .unbegun } })
    | none =>
      (.ok (), ({ s with dispatcher := { s.dispatcher with thread := .begun } }.run stops).2)
  | _ => (.error .alreadyStarted, s)

end Session

end ChatLink
