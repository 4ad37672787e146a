import ChatLink.Notice

/-!
What surrounds a channel and a dispatcher: sockets that may fail, datagrams that wait to be
received, a clock, what is kept alive of what is called for events, and a journal of all that
happens.
-/

namespace ChatLink

/-- What a recipient does with an event. The first action that fails ends its turn. -/
inductive Action
  | fail (text : String)
  | stop
  | send (peer text : Value)
  | register (name : String)
  | forget (name : String)

/-- What is called for events: a thing by itself, or a method, which is an object and a function
that may outlive each other. -/
inductive Callable
  | plain (thing : Nat)
  | method (object function : Nat)
  deriving DecidableEq

def Callable.things : Callable → List Nat
  | .plain thing => [thing]
  | .method object function => [object, function]

structure Listener where
  name : String
  reaction : Event → List Action

/-- A reference that does not keep what it refers to alive. There is only one to a thing, but another
one whenever a method is referred to, and these are told apart by numbers. -/
structure Reference where
  callable : Callable
  number : Nat := 0
  deriving DecidableEq

def Reference.fresh (references : List Reference) : Nat :=
  (references.map (·.number)).foldr max 0 + 1

structure Datagram where
  data : Bytes
  origin : Endpoint

/-- Whether somebody else stops the dispatcher while something is done, and whether they close its
channel at once or wait for it to be done. -/
inductive Stop
  | never
  | atOnce
  | patiently
  deriving DecidableEq

structure Arrival where
  stops : Stop := .never
  content : Except String Datagram

structure Faults where
  opening : Option String := none
  binding : Option String := none
  naming : Option String := none
  sending : Option String := none
  closing : Option String := none
  spawning : Option String := none

/-- What calls on sockets say of the arguments that they refuse. -/
structure Refusals where
  address : Value → Option String := fun _ => none
  target : Endpoint → Option String := fun _ => none
  size : Int → Option String := fun _ => none

inductive Entry
  | notice (notice : Notice)
  | create
  | bind (socket : Nat) (address : Value) (port : Int)
  | name (socket : Nat)
  | sendTo (socket : Nat) (data : Bytes) (target : Endpoint)
  | receiveFrom (socket : Nat) (size : Int)
  | close (socket : Nat)
  | messageReceived (peer timestamp text : Value)
  | contactCreated (peer : Value)
  | callback (name : String) (event : Event)
  | fatal (text : String)
  | logShutdown
  | exit (status : Nat)

/-- Any call may fail in its own way: `faults` says how, by the number of socket calls that were
made before. `ownPort` is the port that a socket gets when it is bound, and `live` holds the sockets
that were created and on which no close was called. `listeners` says what every callable does, `kept`
which of them somebody keeps alive, and `equal` what things say when they are compared. -/
structure Host where
  faults : Nat → Faults := fun _ => {}
  refusals : Refusals := {}
  ownPort : Int := 40000
  calls : Nat := 0
  created : Nat := 0
  live : List Nat := []
  inbox : List Arrival := []
  clock : List Value := []
  listeners : Callable → Listener := fun _ => ⟨"", fun _ => []⟩
  kept : List (String × Callable) := []
  equal : Nat → Nat → Bool := (· == ·)
  journal : List Entry := []

namespace Host

def record (host : Host) (entry : Entry) : Host := { host with journal := host.journal ++ [entry] }

def report (host : Host) (notice : Notice) : Host := host.record (.notice notice)

def reportAll (host : Host) (notices : List Notice) : Host := notices.foldl report host

def readClock (host : Host) : Value × Host :=
  match host.clock with
  | [] => (.null, host)
  | [now] => (now, host)
  | now :: later => (now, { host with clock := later })

def call (host : Host) (entry : Entry) : Faults × Host :=
  (host.faults host.calls, { host.record entry with calls := host.calls + 1 })

/-- Arguments are looked at before the system is asked. -/
def error? (refusal cause : Option String) : Option SocketError :=
  match refusal with
  | some text => some (.refused text)
  | none => cause.map .system

def createSocket (host : Host) : Except String Nat × Host :=
  let (faults, host) := host.call .create
  match faults.opening with
  | some cause => (.error cause, host)
  | none =>
    (.ok host.created,
      { host with created := host.created + 1, live := host.live ++ [host.created] })

def bindSocket (host : Host) (socket : Nat) (address : Value) : Except SocketError Unit × Host :=
  let (faults, host) := host.call (.bind socket address 0)
  match error? (host.refusals.address address) faults.binding with
  | some error => (.error error, host)
  | none => (.ok (), host)

def nameOf (host : Host) (address : Value) : Endpoint :=
  ⟨if address.isTrue then address else .text "0.0.0.0", host.ownPort⟩

def nameSocket (host : Host) (socket : Nat) (address : Value) : Except String Endpoint × Host :=
  let (faults, host) := host.call (.name socket)
  match faults.naming with
  | some cause => (.error cause, host)
  | none => (.ok (host.nameOf address), host)

/-- A datagram to the own port comes back. -/
def sendTo (host : Host) (socket : Nat) (data : Bytes) (target : Endpoint) :
    Except SocketError Unit × Host :=
  let (faults, later) := host.call (.sendTo socket data target)
  match error? (host.refusals.target target) faults.sending with
  | some error => (.error error, later)
  | none =>
    if target.port = host.ownPort then
      (.ok (), { later with
        inbox := host.inbox ++ [{ content := .ok ⟨data, ⟨target.address, host.ownPort⟩⟩ }] })
    else (.ok (), later)

/-- Nothing to receive is an error, since nothing would end the wait. The error of the call itself is
that it refuses the size. -/
def receiveFrom (host : Host) (socket : Nat) (size : Int) : Except String Arrival × Host :=
  let (_, host) := host.call (.receiveFrom socket size)
  match host.refusals.size size, host.inbox with
  | some text, _ => (.error text, host)
  | none, [] => (.ok { content := .error "inbox empty" }, host)
  | none, arrival :: later => (.ok arrival, { host with inbox := later })

def closeSocket (host : Host) (socket : Nat) : Except String Unit × Host :=
  let (faults, host) := host.call (.close socket)
  let host := { host with live := host.live.erase socket }
  match faults.closing with
  | some cause => (.error cause, host)
  | none => (.ok (), host)

def isAlive (host : Host) (held : Option Callable) (thing : Nat) : Bool :=
  (held.toList ++ host.kept.map (·.2)).any (·.things.contains thing)

def listener? (host : Host) (held : Option Callable) (reference : Reference) : Option Listener :=
  if reference.callable.things.all (host.isAlive held) then
    some (host.listeners reference.callable)
  else none

/-- Whether a reference is taken for one that is dead: it is that, or it refers to a thing that says
to be equal to the object of a method of which only the function is gone. -/
def mistakes (host : Host) (held : Option Callable) (dead reference : Reference) : Bool :=
  reference == dead || match dead.callable, reference.callable with
    | .method object _, .plain thing =>
      host.equal thing object && host.isAlive held thing && host.isAlive held object
    | _, _ => false

def named? (host : Host) (name : String) : Option Callable :=
  (host.kept.find? (·.1 == name)).map (·.2)

def forget (host : Host) (name : String) : Host :=
  { host with kept := host.kept.filter (·.1 != name) }

def keep (host : Host) (name : String) (callable : Callable) (reaction : Event → List Action) :
    Host :=
  { host.forget name with
    listeners := fun other => if other = callable then ⟨name, reaction⟩ else host.listeners other
    kept := (host.forget name).kept ++ [(name, callable)] }

end Host

end ChatLink
