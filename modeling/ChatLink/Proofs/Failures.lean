import ChatLink.Proofs.Socket
import ChatLink.Proofs.Validity
import ChatLink.Startup

/-!
How the operations of a channel fail, whatever calls fail under them, and what becomes of a program
that starts on such a channel. What the system cannot do gets through as it is when a socket can be
neither bound nor closed, and when it does not tell its name; what a socket refuses always does.
-/

namespace ChatLink

inductive TransportError.Kind
  | connection
  | sending
  | receiving
  deriving DecidableEq

def TransportError.kind : TransportError → Kind
  | .cannotOpen _ => .connection
  | .cannotBind _ => .connection
  | .closedForSending => .sending
  | .sendFailed .. => .sending
  | .wakeFailed _ => .sending
  | .closedForReceiving => .receiving
  | .receiveFailed _ => .receiving

/-- What the channel says of its failures is of one kind, and another error leaves it exactly where
`escape` says so. -/
structure FailsBy {α : Type} (kind : TransportError.Kind) (escape : Option SocketError)
    (result : Except Breakdown α) : Prop where
  known : ∀ error, result = .error (.known error) → error.kind = kind
  raw : ∀ error, result = .error (.raw error) ↔ escape = some error

/-- What becomes of the next socket: the system denies it, which includes that it is closed again
since it cannot be bound; or it is stranded, neither bound nor closed; or its address is rejected; or
it is nameless, bound and does not say to what; or it is granted. -/
inductive Prospect
  | denied
  | stranded
  | rejected
  | nameless
  | granted
  deriving DecidableEq

def Host.prospect (host : Host) (address : Value) : Prospect :=
  match (host.faults host.calls).opening, host.opened.bindError? address,
    (host.faults (host.calls + 2)).closing, (host.faults (host.calls + 2)).naming with
  | some _, _, _, _ => .denied
  | none, some (.refused _), _, _ => .rejected
  | none, some (.system _), none, _ => .denied
  | none, some (.system _), some _, _ => .stranded
  | none, none, _, some _ => .nameless
  | none, none, _, none => .granted

namespace Channel

variable {channel : Channel} {host : Host}

def Meets (channel : Channel) (host : Host) :
    Prospect → Except Breakdown Unit × Channel × Host → Prop
  | .denied, outcome => ∃ error later,
    outcome = (.error (.known error), channel, later) ∧ error.kind = .connection
  | .stranded, outcome => ∃ cause later, outcome = (.error (.raw (.system cause)), channel, later)
  | .rejected, outcome => ∃ cause,
    outcome = (.error (.raw (.refused cause)), channel, channel.bound host)
  | .nameless, outcome => ∃ cause, outcome =
    (.error (.raw (.system cause)), { channel with socket := some host.created },
      channel.named host)
  | .granted, outcome => ∃ notice, outcome =
    (.ok (), { channel with socket := some host.created }, (channel.named host).report notice)

theorem connect_prospect (closed : channel.socket = none) (host : Host) :
    channel.Meets host (host.prospect channel.bindAddress) (channel.connect host) := by
  rw [Host.prospect]
  cases creation : (host.faults host.calls).opening with
  | some cause => exact ⟨_, _, connect_uncreated closed creation, rfl⟩
  | none =>
    cases binding : host.opened.bindError? channel.bindAddress with
    | some error =>
      cases error with
      | refused cause => exact ⟨cause, connect_refused closed creation binding⟩
      | system cause =>
        have unbound := connect_unbound closed creation binding
        cases closing : (host.faults (host.calls + 2)).closing with
        | none =>
          rw [closing] at unbound
          exact ⟨_, _, unbound, rfl⟩
        | some cause =>
          rw [closing] at unbound
          exact ⟨_, _, unbound⟩
    | none =>
      cases naming : (host.faults (host.calls + 2)).naming with
      | some cause => exact ⟨cause, connect_unnamed closed creation binding naming⟩
      | none => exact ⟨_, connect_bound closed creation binding naming⟩

/-- What gets past a channel that is to send something: that its socket does not take the target. -/
def targetError? (channel : Channel) (host : Host) : Option SocketError :=
  channel.socket.bind fun _ => (host.refusals.target channel.backend).map .refused

def sizeError? (channel : Channel) (host : Host) : Option SocketError :=
  channel.socket.bind fun _ => (host.refusals.size channel.mtu).map .refused

theorem send_failsBy (channel : Channel) (data : Bytes) (host : Host) :
    FailsBy .sending (channel.targetError? host) (channel.send data host).1 := by
  rw [targetError?]
  cases closed : channel.socket with
  | none =>
    rw [send_none closed]
    exact ⟨by rintro _ ⟨⟩; rfl, by simp⟩
  | some socket =>
    rw [send_some closed, sendResult]
    cases failure : host.sendError? channel.backend with
    | none =>
      rw [(Host.error?_eq_none.mp failure).1]
      exact ⟨by rintro _ ⟨⟩, by simp⟩
    | some error =>
      cases error with
      | refused cause =>
        rw [Host.error?_eq_refused.mp failure]
        exact ⟨by rintro _ ⟨⟩, by simp⟩
      | system cause =>
        rw [(Host.error?_eq_system.mp failure).1]
        exact ⟨by rintro _ ⟨⟩; rfl, by simp⟩

theorem wake_failsBy (channel : Channel) (host : Host) :
    FailsBy .sending (channel.wakeError? host) (channel.wake host).1 := by
  refine ⟨fun error failed => ?_, fun error => wake_raw_iff⟩
  rw [wake] at failed
  split at failed
  · cases failed
  · split at failed
    · cases failed
    · split at failed
      all_goals
        cases failed
      rfl

theorem receive_failsBy (channel : Channel) (host : Host) :
    FailsBy .receiving (channel.sizeError? host) (channel.receive host).1 := by
  rw [sizeError?, receive, await]
  cases closed : channel.socket with
  | none => exact ⟨by rintro _ ⟨⟩; rfl, by simp⟩
  | some socket =>
    dsimp only
    cases refused : host.refusals.size channel.mtu with
    | some cause =>
      rw [Host.receiveFrom_refused refused]
      exact ⟨nofun, by simp⟩
    | none =>
      rw [Host.receiveFrom_ok refused]
      dsimp only
      rw [accept]
      cases host.next.content with
      | error cause => exact ⟨by rintro _ ⟨⟩; rfl, by simp⟩
      | ok datagram => exact ⟨nofun, by simp⟩

end Channel

namespace Startup

variable {consumer : Option Candidate}

theorem mapM_check (able : ∀ candidate ∈ consumer, ∃ consumer, candidate.check = .ok consumer) :
    ∃ checked, consumer.mapM Candidate.check = .ok checked := by
  cases consumer with
  | none => exact ⟨none, rfl⟩
  | some candidate =>
    obtain ⟨checked, passed⟩ := able candidate rfl
    have offered : (some candidate).mapM Candidate.check = some <$> candidate.check := rfl
    exact ⟨some checked, by rw [offered, passed]; rfl⟩

variable [Machine] {given : List (String × Value)} {settings : Settings}

theorem makeChannel_of_make (h : Settings.make given = .ok settings) :
    ∃ channel, makeChannel settings = .ok channel ∧ channel.socket = none ∧
      channel.backend.address = settings.get .backendAddress ∧
      settings.get .backendPort = .int channel.backend.port ∧
      channel.bindAddress = settings.get .bindAddress ∧ settings.get .mtu = .int channel.mtu := by
  obtain ⟨port, hport, -⟩ := Settings.number_of_make h .backendPort rfl
  obtain ⟨mtu, hmtu, -⟩ := Settings.number_of_make h .mtu rfl
  rw [makeChannel, Channel.make, Settings.isLoopback_of_make h, hport, hmtu]
  exact ⟨_, rfl, rfl, rfl, rfl, rfl, rfl⟩

theorem makeDispatcher_eq (h : Settings.make given = .ok settings) (consumer : Option Candidate)
    (channel : Channel) (greeting : Bytes) (fatal : FatalHandler) : ∃ hops,
      settings.get .hops = .int hops ∧
        Dispatcher.make channel consumer greeting (settings.get .hops) fatal =
          (consumer.mapM Candidate.check).map fun consumer =>
            { channel, consumer, greeting, hops, fatal } := by
  obtain ⟨hops, hhops, -⟩ := Settings.number_of_make h .hops rfl
  refine ⟨hops, hhops, ?_⟩
  rw [hhops]
  cases consumer with
  | none => rfl
  | some candidate =>
    have offered : (some candidate).mapM Candidate.check = some <$> candidate.check := rfl
    have checking : Dispatcher.make channel (some candidate) greeting (.int hops) fatal =
      (some <$> candidate.check >>= fun consumer =>
        .ok { channel, consumer, greeting, hops, fatal }) := rfl
    rw [checking, offered]
    cases candidate.check <;> rfl

/-- How a program ends that cannot open its channel. -/
def ending (host : Host) : Breakdown → Error × Host
  | .raw error => (.system error, host)
  | .known error => (.noSocket 1, host.report (.notOpened error))

/-- What is started once there are a channel and a consumer that will do. -/
def assembled (settings : Settings) (channel : Channel) (hops : Int) (fatal : FatalHandler)
    (host : Host) (consumer : Option Consumer) : Session where
  dispatcher := { channel, consumer, greeting := settings.greetingBytes, hops, fatal }
  host

section Start

variable {channel opened : Channel} {host later : Host}

omit [Machine] in
theorem start_failed (made : makeChannel settings = .ok channel) {breakdown : Breakdown}
    (failed : channel.connect host = (.error breakdown, opened, later))
    (consumer : Option Candidate) (fatal : FatalHandler) :
    start consumer settings fatal host = .error (ending later breakdown) := by
  rw [start, made]
  dsimp only
  rw [failed]
  cases breakdown <;> rfl

theorem start_opened (h : Settings.make given = .ok settings)
    (made : makeChannel settings = .ok channel)
    (done : channel.connect host = (.ok (), opened, later))
    (consumer : Option Candidate) (fatal : FatalHandler) : ∃ hops,
    settings.get .hops = .int hops ∧ start consumer settings fatal host =
      match consumer.mapM Candidate.check with
      | .error complaint => .error (.dispatcher complaint, later)
      | .ok consumer =>
        match (assembled settings opened hops fatal later consumer).start with
        | (.error error, s) => .error (.dispatcher error, s.host)
        | (.ok _, s) => .ok s := by
  obtain ⟨hops, limit, dispatcher⟩ :=
    makeDispatcher_eq h consumer opened settings.greetingBytes fatal
  refine ⟨hops, limit, ?_⟩
  rw [start, made]
  dsimp only
  rw [done]
  dsimp only
  rw [dispatcher]
  cases consumer.mapM Candidate.check <;> rfl

end Start

def Meets (spawning : Option String) : Prospect → Except (Error × Host) Session → Prop
  | .denied, outcome => ∃ later, outcome = .error (.noSocket 1, later)
  | .stranded, outcome => ∃ cause later, outcome = .error (.system (.system cause), later)
  | .rejected, outcome => ∃ cause later, outcome = .error (.system (.refused cause), later)
  | .nameless, outcome => ∃ cause later, outcome = .error (.system (.system cause), later)
  | .granted, outcome =>
    match spawning with
    | some cause => ∃ later, outcome = .error (.dispatcher (.noThread cause), later)
    | none => ∃ session, outcome = .ok session

theorem start_prospect (h : Settings.make given = .ok settings)
    (able : ∀ candidate ∈ consumer, ∃ consumer, candidate.check = .ok consumer)
    (fatal : FatalHandler) (host : Host) :
    Meets (host.faults (host.calls + 3)).spawning (host.prospect (settings.get .bindAddress))
      (start consumer settings fatal host) := by
  obtain ⟨channel, made, closed, -, -, address, -⟩ := makeChannel_of_make h
  have outcome := Channel.connect_prospect closed host
  rw [← address]
  cases prospect : host.prospect channel.bindAddress with
  | denied =>
    rw [prospect] at outcome
    obtain ⟨error, later, failed, -⟩ := outcome
    exact ⟨_, start_failed made failed consumer fatal⟩
  | stranded =>
    rw [prospect] at outcome
    obtain ⟨cause, later, failed⟩ := outcome
    exact ⟨_, _, start_failed made failed consumer fatal⟩
  | rejected =>
    rw [prospect] at outcome
    obtain ⟨cause, failed⟩ := outcome
    exact ⟨_, _, start_failed made failed consumer fatal⟩
  | nameless =>
    rw [prospect] at outcome
    obtain ⟨cause, failed⟩ := outcome
    exact ⟨_, _, start_failed made failed consumer fatal⟩
  | granted =>
    rw [prospect] at outcome
    obtain ⟨notice, done⟩ := outcome
    obtain ⟨checked, passed⟩ := mapM_check able
    obtain ⟨hops, -, started⟩ := start_opened h made done consumer fatal
    have spawning : ((channel.named host).faults (channel.named host).calls).spawning =
      (host.faults (host.calls + 3)).spawning := rfl
    rw [started, passed]
    dsimp only [Session.start, assembled]
    rw [← spawning, Host.report, Host.record]
    cases spawns : ((channel.named host).faults (channel.named host).calls).spawning with
    | some cause => exact ⟨_, rfl⟩
    | none => exact ⟨_, rfl⟩

end Startup

def refusingHost : Host where
  faults calls :=
    match calls with
    | 1 => { binding := some "in use" }
    | _ => {}

def strandingHost : Host where
  faults calls :=
    match calls with
    | 1 => { binding := some "in use" }
    | 2 => { closing := some "bad descriptor" }
    | _ => {}

end ChatLink
