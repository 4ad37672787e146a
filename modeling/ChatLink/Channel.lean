import ChatLink.Host
import ChatLink.Settings.Basic

/-!
The one socket on which datagrams are exchanged with the daemon. Datagrams go to the backend, and
are trusted when they come from its port and from this machine.
-/

namespace ChatLink

/-- A channel is open while it holds a socket. -/
structure Channel where
  backend : Endpoint
  bindAddress : Value
  mtu : Int
  socket : Option Nat := none

inductive ChannelError
  | unknownOption (name : String)
  | notLoopback (literal : String)
  | conversion (error : ConversionError)
  deriving DecidableEq

def ChannelError.message : ChannelError → String
  | .unknownOption name => "got an unexpected keyword argument '" ++ name ++ "'"
  | .notLoopback literal => "backend address must be a loopback address, not " ++ literal
  | .conversion error => error.message

namespace Channel

def make (backendAddress backendPort bindAddress mtu : Value) : Except ChannelError Channel := do
  if !backendAddress.isLoopback then throw (.notLoopback backendAddress.literal)
  let port ← backendPort.toInt.mapError .conversion
  let mtu ← mtu.toInt.mapError .conversion
  return { backend := ⟨backendAddress, port⟩, bindAddress, mtu }

def options : List Setting := [.backendAddress, .backendPort, .bindAddress, .mtu]

/-- A channel from options by name, with the defaults of the settings for the rest. The options are
not checked like settings. -/
def ofOptions (given : List (String × Value)) : Except ChannelError Channel :=
  match given.find? fun option => !(options.map (·.name)).contains option.1 with
  | some (name, _) => .error (.unknownOption name)
  | none =>
    let choose (setting : Setting) : Value :=
      ((Table.ofList given).lookup setting.name).getD setting.default
    make (choose .backendAddress) (choose .backendPort) (choose .bindAddress) (choose .mtu)

def isOpen (channel : Channel) : Bool := channel.socket.isSome

def near? (channel : Channel) (host : Host) : Except String (Option Endpoint) × Host :=
  match channel.socket with
  | none => (.ok none, host)
  | some socket =>
    match host.nameSocket socket channel.bindAddress with
    | (.error cause, host) => (.error cause, host)
    | (.ok near, host) => (.ok (some near), host)

def literal (channel : Channel) (host : Host) : Except String String × Host :=
  match channel.near? host with
  | (.error cause, host) => (.error cause, host)
  | (.ok near, host) =>
    (.ok ("Channel(backend=" ++ channel.backend.literal ++ ", local="
      ++ near.elim Value.null.literal Endpoint.literal ++ ")"), host)

/-- The channel is open before the name of its socket is asked for, which is done for the log. -/
def connect (channel : Channel) (host : Host) : Except Breakdown Unit × Channel × Host :=
  match channel.socket with
  | some _ => (.ok (), channel, host)
  | none =>
    match host.createSocket with
    | (.error cause, host) => (.error (.known (.cannotOpen cause)), channel, host)
    | (.ok socket, host) =>
      match host.bindSocket socket channel.bindAddress with
      | (.error (.refused cause), host) => (.error (.raw (.refused cause)), channel, host)
      | (.error (.system cause), host) =>
        match host.closeSocket socket with
        | (.error cause, host) => (.error (.raw (.system cause)), channel, host)
        | (.ok _, host) => (.error (.known (.cannotBind cause)), channel, host)
      | (.ok _, host) =>
        let channel := { channel with socket := some socket }
        match host.nameSocket socket channel.bindAddress with
        | (.error cause, host) => (.error (.raw (.system cause)), channel, host)
        | (.ok near, host) => (.ok (), channel, host.report (.bound near channel.backend))

/-- A socket that cannot be closed is let go all the same. -/
def close (channel : Channel) (host : Host) : Channel × Host :=
  match channel.socket with
  | none => (channel, host)
  | some socket => ({ channel with socket := none }, (host.closeSocket socket).2)

@[simp] theorem isOpen_close (channel : Channel) (host : Host) :
    (channel.close host).1.isOpen = false := by
  obtain ⟨_, _, _, socket⟩ := channel
  cases socket <;> rfl

def send (channel : Channel) (data : Bytes) (host : Host) : Except Breakdown Unit × Host :=
  match channel.socket with
  | none => (.error (.known .closedForSending), host)
  | some socket =>
    match host.sendTo socket data channel.backend with
    | (.error (.refused cause), host) => (.error (.raw (.refused cause)), host)
    | (.error (.system cause), host) => (.error (.known (.sendFailed channel.backend cause)), host)
    | (.ok _, host) => (.ok (), host)

def await (channel : Channel) (host : Host) : Except Breakdown Arrival × Host :=
  match channel.socket with
  | none => (.error (.known .closedForReceiving), host)
  | some socket =>
    match host.receiveFrom socket channel.mtu with
    | (.error cause, host) => (.error (.raw (.refused cause)), host)
    | (.ok arrival, host) => (.ok arrival, host)

def accept (channel : Channel) (arrival : Arrival) (host : Host) :
    Except Breakdown Datagram × Host :=
  match arrival.content with
  | .error cause => (.error (.known (.receiveFailed cause)), host)
  | .ok datagram =>
    let data := datagram.data.slice 0 channel.mtu
    (.ok { datagram with data }, host.report (.arrived data.length datagram.origin))

def receive (channel : Channel) (host : Host) : Except Breakdown Datagram × Host :=
  match channel.await host with
  | (.error e, host) => (.error e, host)
  | (.ok arrival, host) => channel.accept arrival host

/-- Where a datagram to a socket of this name is sent; a socket that is bound to every address is
reached at this one. -/
def reach (near : Endpoint) : Endpoint :=
  if near.address.same (.text "") || near.address.same (.text "0.0.0.0") then
    { near with address := .text "127.0.0.1" }
  else near

/-- Sends an empty datagram to the channel itself, which ends a wait. -/
def wake (channel : Channel) (host : Host) : Except Breakdown Unit × Host :=
  match channel.socket with
  | none => (.ok (), host)
  | some socket =>
    match host.nameSocket socket channel.bindAddress with
    | (.error cause, host) => (.error (.raw (.system cause)), host)
    | (.ok near, host) =>
      match host.sendTo socket [] (reach near) with
      | (.error (.refused cause), host) => (.error (.raw (.refused cause)), host)
      | (.error (.system cause), host) => (.error (.known (.wakeFailed cause)), host)
      | (.ok _, host) => (.ok (), host)

def objection? (channel : Channel) (origin : Endpoint) : Option Notice :=
  if origin.port ≠ channel.backend.port then
    some (.foreignPort origin.port channel.backend.port)
  else if origin.address.isLoopback then none
  else some (.foreignAddress origin.address)

def trusts (channel : Channel) (origin : Endpoint) (host : Host) : Bool × Host :=
  match channel.objection? origin with
  | some notice => (false, host.report notice)
  | none => (true, host)

end Channel

end ChatLink
