import ChatLink.Dispatcher
import ChatLink.Settings.Storage

namespace ChatLink.Startup

inductive Error
  | settings (error : Settings.LoadError)
  | channel (error : ChannelError)
  | noSocket (status : Nat)
  | system (error : SocketError)
  | dispatcher (error : DispatcherError)

def Error.message : Error → String
  | .settings error => error.message
  | .channel error => error.message
  | .noSocket status => toString status
  | .system error => error.message
  | .dispatcher error => error.message

def makeChannel (settings : Settings) : Except ChannelError Channel :=
  Channel.make (settings.get .backendAddress) (settings.get .backendPort)
    (settings.get .bindAddress) (settings.get .mtu)

/-- Without the socket there is nothing to do, and the program ends with a status. -/
def start (consumer : Option Candidate) (settings : Settings) (fatal : FatalHandler) (host : Host) :
    Except (Error × Host) Session :=
  match makeChannel settings with
  | .error e => .error (.channel e, host)
  | .ok channel =>
    match channel.connect host with
    | (.error (.raw e), _, host) => .error (.system e, host)
    | (.error (.known e), _, host) => .error (.noSocket 1, host.report (.notOpened e))
    | (.ok _, channel, host) =>
      match Dispatcher.make channel consumer settings.greetingBytes (settings.get .hops) fatal with
      | .error e => .error (.dispatcher e, host)
      | .ok dispatcher =>
        match { dispatcher, host : Session }.start with
        | (.error e, s) => .error (.dispatcher e, s.host)
        | (.ok _, s) => .ok s

def startStored [Machine] (consumer : Option Candidate) (store : Store) (environment : Environment)
    (fatal : FatalHandler) (host : Host) : Except (Error × Host) Session :=
  match Settings.load store environment environment none with
  | .error e => .error (.settings e, host)
  | .ok settings => start consumer settings fatal host

end ChatLink.Startup
