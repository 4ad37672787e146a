import ChatLink.Proofs.Journal

namespace ChatLink

namespace Host

theorem error?_eq_none {refusal cause : Option String} :
    error? refusal cause = none ↔ refusal = none ∧ cause = none := by
  cases refusal <;> cases cause <;> simp [error?]

theorem error?_eq_refused {refusal cause : Option String} {text : String} :
    error? refusal cause = some (.refused text) ↔ refusal = some text := by
  cases refusal <;> cases cause <;> simp [error?]

theorem error?_eq_system {refusal cause : Option String} {text : String} :
    error? refusal cause = some (.system text) ↔ refusal = none ∧ cause = some text := by
  cases refusal <;> cases cause <;> simp [error?]

def bindError? (host : Host) (address : Value) : Option SocketError :=
  error? (host.refusals.address address) (host.faults host.calls).binding

def sendError? (host : Host) (target : Endpoint) : Option SocketError :=
  error? (host.refusals.target target) (host.faults host.calls).sending

variable (host : Host) (socket : Nat) (data : Bytes) (target : Endpoint)

theorem sendTo_eq : ∃ more, (host.sendTo socket data target).2 =
    { host with
      calls := host.calls + 1
      inbox := host.inbox ++ more
      journal := host.journal ++ [.sendTo socket data target] } := by
  simp only [sendTo, call, record]
  split
  · exact ⟨[], by rw [List.append_nil]⟩
  · split
    · exact ⟨_, rfl⟩
    · exact ⟨[], by rw [List.append_nil]⟩

theorem sendTo_away (away : target.port ≠ host.ownPort) :
    (host.sendTo socket data target).2 = (host.call (.sendTo socket data target)).2 := by
  simp only [sendTo, call, record]
  split
  · rfl
  · rw [if_neg away]

theorem sendTo_journal :
    (host.sendTo socket data target).2.journal = host.journal ++ [.sendTo socket data target] := by
  obtain ⟨more, sent⟩ := sendTo_eq host socket data target
  rw [sent]

theorem sendTo_result : (host.sendTo socket data target).1 =
    match host.sendError? target with
    | some error => .error error
    | none => .ok () := by
  cases failure : host.sendError? target with
  | some error =>
    rw [sendError?] at failure
    simp only [sendTo, call, failure]
  | none =>
    rw [sendError?] at failure
    simp only [sendTo, call, failure]
    split <;> rfl

theorem closeSocket_eq : (host.closeSocket socket).2 =
    { host with
      calls := host.calls + 1
      live := host.live.erase socket
      journal := host.journal ++ [.close socket] } := by
  simp only [closeSocket, call, record]
  split <;> rfl

def opened : Host :=
  { (host.call .create).2 with
    created := host.created + 1
    live := host.live ++ [host.created] }

variable {host} {cause : String}

theorem createSocket_ok (h : (host.faults host.calls).opening = none) :
    host.createSocket = (.ok host.created, host.opened) := by
  rw [createSocket, call]
  dsimp only
  rw [h]
  rfl

theorem createSocket_error (h : (host.faults host.calls).opening = some cause) :
    host.createSocket = (.error cause, (host.call .create).2) := by
  rw [createSocket, call]
  dsimp only
  rw [h]

theorem bindSocket_ok {address : Value} (h : host.bindError? address = none) :
    host.bindSocket socket address = (.ok (), (host.call (.bind socket address 0)).2) := by
  rw [bindError?] at h
  simp only [bindSocket, call, record, h]

theorem bindSocket_error {address : Value} {error : SocketError}
    (h : host.bindError? address = some error) :
    host.bindSocket socket address = (.error error, (host.call (.bind socket address 0)).2) := by
  rw [bindError?] at h
  simp only [bindSocket, call, record, h]

theorem nameSocket_ok (h : (host.faults host.calls).naming = none) (address : Value) :
    host.nameSocket socket address = (.ok (host.nameOf address), (host.call (.name socket)).2) := by
  rw [nameSocket, call]
  dsimp only
  rw [h]
  rfl

theorem nameSocket_error (h : (host.faults host.calls).naming = some cause) (address : Value) :
    host.nameSocket socket address = (.error cause, (host.call (.name socket)).2) := by
  rw [nameSocket, call]
  dsimp only
  rw [h]

def next (host : Host) : Arrival := host.inbox.headD { content := .error "inbox empty" }

theorem receiveFrom_ok {host : Host} {size : Int} (takes : host.refusals.size size = none)
    (socket : Nat) : host.receiveFrom socket size =
      (.ok host.next,
        { (host.call (.receiveFrom socket size)).2 with inbox := host.inbox.tail }) := by
  rw [receiveFrom]
  dsimp only
  rw [show (host.call (.receiveFrom socket size)).2.refusals = host.refusals from rfl, takes]
  obtain ⟨_, _, _, _, _, _, inbox, _, _, _, _⟩ := host
  cases inbox <;> rfl

theorem receiveFrom_refused {host : Host} {size : Int} {cause : String}
    (refused : host.refusals.size size = some cause) (socket : Nat) :
    host.receiveFrom socket size = (.error cause, (host.call (.receiveFrom socket size)).2) := by
  rw [receiveFrom]
  dsimp only
  rw [show (host.call (.receiveFrom socket size)).2.refusals = host.refusals from rfl, refused]

theorem closeSocket_result (host : Host) : (host.closeSocket socket).1 =
    match (host.faults host.calls).closing with
    | some cause => .error cause
    | none => .ok () := by
  rw [closeSocket, call]
  dsimp only
  cases (host.faults host.calls).closing <;> rfl

end Host

namespace Channel

variable {channel : Channel} {socket : Nat}

theorem connect_some (h : channel.socket = some socket) (host : Host) :
    channel.connect host = (.ok (), channel, host) := by
  rw [connect, h]

def bound (channel : Channel) (host : Host) : Host :=
  (host.opened.call (.bind host.created channel.bindAddress 0)).2

def named (channel : Channel) (host : Host) : Host :=
  ((channel.bound host).call (.name host.created)).2

section Connect

variable {host : Host} {cause : String}

theorem connect_uncreated (h : channel.socket = none)
    (failed : (host.faults host.calls).opening = some cause) :
    channel.connect host = (.error (.known (.cannotOpen cause)), channel, (host.call .create).2) := by
  rw [connect, h, Host.createSocket_error failed]

variable (h : channel.socket = none) (created : (host.faults host.calls).opening = none)

include h created

theorem connect_refused
    (refused : host.opened.bindError? channel.bindAddress = some (.refused cause)) :
    channel.connect host = (.error (.raw (.refused cause)), channel, channel.bound host) := by
  rw [connect, h, Host.createSocket_ok created]
  dsimp only
  rw [Host.bindSocket_error _ refused]
  rfl

theorem connect_unbound
    (failed : host.opened.bindError? channel.bindAddress = some (.system cause)) :
    channel.connect host =
      (.error (match (host.faults (host.calls + 2)).closing with
        | some cause => .raw (.system cause)
        | none => .known (.cannotBind cause)),
        channel, ((channel.bound host).closeSocket host.created).2) := by
  have unbound : host.opened.bindSocket host.created channel.bindAddress =
      (.error (.system cause), channel.bound host) := Host.bindSocket_error _ failed
  have closed : ((channel.bound host).closeSocket host.created).1 =
      match (host.faults (host.calls + 2)).closing with
      | some cause => .error cause
      | none => .ok () := Host.closeSocket_result ..
  rw [connect, h, Host.createSocket_ok created]
  dsimp only
  rw [unbound]
  dsimp only
  generalize (channel.bound host).closeSocket host.created = outcome at closed ⊢
  obtain ⟨_, _⟩ := outcome
  subst closed
  cases (host.faults (host.calls + 2)).closing <;> rfl

variable (binds : host.opened.bindError? channel.bindAddress = none)

include binds

theorem connect_unnamed (failed : (host.faults (host.calls + 2)).naming = some cause) :
    channel.connect host =
      (.error (.raw (.system cause)), { channel with socket := some host.created },
        channel.named host) := by
  have unnamed : (channel.bound host).nameSocket host.created channel.bindAddress =
      (.error cause, channel.named host) := Host.nameSocket_error _ failed _
  have done : host.opened.bindSocket host.created channel.bindAddress =
      (.ok (), channel.bound host) := Host.bindSocket_ok _ binds
  rw [connect, h, Host.createSocket_ok created]
  dsimp only
  rw [done]
  dsimp only
  rw [unnamed]

theorem connect_bound (named : (host.faults (host.calls + 2)).naming = none) :
    channel.connect host =
      (.ok (), { channel with socket := some host.created },
        (channel.named host).report
          (.bound (host.nameOf channel.bindAddress) channel.backend)) := by
  have near : (channel.bound host).nameSocket host.created channel.bindAddress =
      (.ok (host.nameOf channel.bindAddress), channel.named host) :=
    Host.nameSocket_ok _ named _
  have done : host.opened.bindSocket host.created channel.bindAddress =
      (.ok (), channel.bound host) := Host.bindSocket_ok _ binds
  rw [connect, h, Host.createSocket_ok created]
  dsimp only
  rw [done]
  dsimp only
  rw [near]

end Connect

theorem reach_port (near : Endpoint) : (reach near).port = near.port := by
  rw [reach]
  split <;> rfl

/-- What gets past a channel that is to be woken: that its socket does not tell its name, or does not
take it for a target. -/
def wakeError? (channel : Channel) (host : Host) : Option SocketError :=
  match channel.socket, (host.faults host.calls).naming,
    host.refusals.target (reach (host.nameOf channel.bindAddress)) with
  | none, _, _ => none
  | some _, some cause, _ => some (.system cause)
  | some _, none, some cause => some (.refused cause)
  | some _, none, none => none

theorem wake_none (h : channel.socket = none) (host : Host) :
    channel.wake host = (.ok (), host) := by
  rw [wake, h]

theorem wake_unnamed (h : channel.socket = some socket) {host : Host} {cause : String}
    (failed : (host.faults host.calls).naming = some cause) :
    channel.wake host = (.error (.raw (.system cause)), (host.call (.name socket)).2) := by
  rw [wake, h]
  dsimp only
  rw [Host.nameSocket_error socket failed]

theorem wake_named (h : channel.socket = some socket) {host : Host}
    (named : (host.faults host.calls).naming = none) : channel.wake host =
      let (result, later) := (host.call (.name socket)).2.sendTo socket []
        (reach (host.nameOf channel.bindAddress))
      (match result with
        | .error (.refused cause) => .error (.raw (.refused cause))
        | .error (.system cause) => .error (.known (.wakeFailed cause))
        | .ok _ => .ok (), later) := by
  rw [wake, h]
  dsimp only
  rw [Host.nameSocket_ok socket named]
  dsimp only
  generalize Host.sendTo _ socket [] _ = outcome
  obtain ⟨(_ | _) | _, _⟩ := outcome <;> rfl

theorem wake_eq (channel : Channel) (host : Host) : ∃ calls more entries, (channel.wake host).2 =
      { host with calls, inbox := host.inbox ++ more, journal := host.journal ++ entries } ∧
    ∀ entry ∈ entries, entry.IsStop host.ownPort := by
  cases h : channel.socket with
  | none =>
    rw [wake_none h]
    exact ⟨host.calls, [], [], by simp only [List.append_nil], nofun⟩
  | some socket =>
    cases naming : (host.faults host.calls).naming with
    | some cause =>
      rw [wake_unnamed h naming]
      refine ⟨host.calls + 1, [], [.name socket], by rw [List.append_nil]; rfl, ?_⟩
      exact List.forall_mem_singleton.mpr trivial
    | none =>
      rw [wake_named h naming]
      obtain ⟨more, sent⟩ := Host.sendTo_eq (host.call (.name socket)).2 socket []
        (reach (host.nameOf channel.bindAddress))
      refine ⟨host.calls + 2, more, [.name socket, .sendTo socket []
        (reach (host.nameOf channel.bindAddress))], ?_, ?_⟩
      · dsimp only
        rw [sent, Host.call, Host.record, List.append_assoc]
        rfl
      · refine List.forall_mem_cons.mpr ⟨trivial, List.forall_mem_singleton.mpr ⟨rfl, ?_⟩⟩
        rw [reach_port]
        rfl

theorem wake_raw_iff {host : Host} {error : SocketError} :
    (channel.wake host).1 = .error (.raw error) ↔ channel.wakeError? host = some error := by
  rw [wakeError?]
  cases h : channel.socket with
  | none =>
    rw [wake_none h]
    exact ⟨nofun, nofun⟩
  | some socket =>
    cases naming : (host.faults host.calls).naming with
    | some cause =>
      rw [wake_unnamed h naming]
      simp
    | none =>
      have sent := Host.sendTo_result (host.call (.name socket)).2 socket []
        (reach (host.nameOf channel.bindAddress))
      have same : (host.call (.name socket)).2.sendError? (reach (host.nameOf channel.bindAddress)) =
        Host.error? (host.refusals.target (reach (host.nameOf channel.bindAddress)))
          (host.faults (host.calls + 1)).sending := rfl
      rw [wake_named h naming]
      dsimp only
      rw [sent, same]
      cases host.refusals.target (reach (host.nameOf channel.bindAddress)) with
      | some cause => simp [Host.error?]
      | none => cases (host.faults (host.calls + 1)).sending <;> simp [Host.error?]

theorem close_none (h : channel.socket = none) (host : Host) :
    channel.close host = (channel, host) := by
  rw [close, h]

theorem close_some (h : channel.socket = some socket) (host : Host) :
    channel.close host = ({ channel with socket := none }, (host.closeSocket socket).2) := by
  rw [close, h]

theorem close_channel (channel : Channel) (host : Host) :
    (channel.close host).1 = { channel with socket := none } := by
  cases h : channel.socket with
  | none =>
    rw [close_none h, ← h]
  | some socket => rw [close_some h]

theorem close_eq (channel : Channel) (host : Host) : ∃ calls live entries,
    (channel.close host).2 = { host with calls, live, journal := host.journal ++ entries } ∧
      ∀ entry ∈ entries, ∃ socket, entry = .close socket := by
  cases h : channel.socket with
  | none =>
    rw [close_none h]
    exact ⟨host.calls, host.live, [], by rw [List.append_nil], nofun⟩
  | some socket =>
    rw [close_some h, Host.closeSocket_eq]
    exact ⟨_, _, [.close socket], rfl, List.forall_mem_singleton.mpr ⟨socket, rfl⟩⟩

theorem send_none (h : channel.socket = none) (data : Bytes) (host : Host) :
    channel.send data host = (.error (.known .closedForSending), host) := by
  rw [send, h]

def sendResult (channel : Channel) (host : Host) : Except Breakdown Unit :=
  match host.sendError? channel.backend with
  | some (.refused cause) => .error (.raw (.refused cause))
  | some (.system cause) => .error (.known (.sendFailed channel.backend cause))
  | none => .ok ()

theorem send_some (h : channel.socket = some socket) (data : Bytes) (host : Host) :
    channel.send data host =
      (channel.sendResult host, (host.sendTo socket data channel.backend).2) := by
  have sent := Host.sendTo_result host socket data channel.backend
  rw [send, h, sendResult]
  dsimp only
  generalize host.sendTo socket data channel.backend = outcome at sent ⊢
  obtain ⟨_, _⟩ := outcome
  dsimp only at sent
  subst sent
  obtain _ | (_ | _) := host.sendError? channel.backend <;> rfl

theorem send_eq (channel : Channel) (data : Bytes) (host : Host) : ∃ calls more entries,
    (channel.send data host).2 =
      { host with calls, inbox := host.inbox ++ more, journal := host.journal ++ entries } ∧
    (∀ entry ∈ entries, ∃ socket, entry = .sendTo socket data channel.backend) ∧
    (channel.backend.port ≠ host.ownPort → more = []) := by
  cases h : channel.socket with
  | none =>
    rw [send_none h]
    exact ⟨host.calls, [], [], by simp only [List.append_nil], nofun, fun _ => rfl⟩
  | some socket =>
    rw [send_some h]
    by_cases away : channel.backend.port = host.ownPort
    · obtain ⟨more, sent⟩ := Host.sendTo_eq host socket data channel.backend
      refine ⟨_, more, _, sent, ?_, absurd away⟩
      exact List.forall_mem_singleton.mpr ⟨socket, rfl⟩
    · dsimp only
      rw [Host.sendTo_away _ _ _ _ away]
      refine ⟨host.calls + 1, [], [.sendTo socket data channel.backend], ?_, ?_, fun _ => rfl⟩
      · rw [List.append_nil]
        rfl
      · exact List.forall_mem_singleton.mpr ⟨socket, rfl⟩

end Channel

end ChatLink
