import ChatLink.Proofs.Exchange
import ChatLink.Proofs.Failures
import ChatLink.Proofs.Ownership
import ChatLink.Proofs.Written

namespace ChatLink

def Entry.isError : Entry → Bool
  | .notice cause => cause.level = .error
  | _ => false

/-- The datagrams that left after so many calls, with their targets: those whose sending did not fail.
Whether it failed is not in the journal, and depends on the number of the call. -/
def Host.departures (host : Host) : (calls : Nat) → List Entry → List (Bytes × Endpoint)
  | _, [] => []
  | calls, .sendTo _ data target :: rest =>
    (if error? (host.refusals.target target) (host.faults calls).sending = none
      then [(data, target)] else []) ++ host.departures (calls + 1) rest
  | calls, entry :: rest => host.departures (if entry.isSocketCall then calls + 1 else calls) rest

theorem Host.departures_setClock (host : Host) (clock : List Value) (calls : Nat)
    (entries : List Entry) :
    (host.setClock clock).departures calls entries = host.departures calls entries := by
  fun_induction departures host calls entries with
  | case1 => rfl
  | case2 calls socket data target rest ih =>
    rw [departures, ih]
    rfl
  | case3 calls entry rest other ih =>
    rw [departures, ih]
    exact other

namespace Session

def news (s t : Session) : List Entry := t.host.journal.drop s.host.journal.length

def departed (s t : Session) : List (Bytes × Endpoint) :=
  s.host.departures s.host.calls (s.news t)

def Ready (s : Session) : Prop :=
  s.dispatcher.channel.isOpen ∧ s.host.sendError? s.dispatcher.channel.backend = none

def Hindered (s : Session) : Prop :=
  s.dispatcher.channel.isOpen = false ∨
    ∃ cause, s.host.sendError? s.dispatcher.channel.backend = some (.system cause)

/-- What has to be the case, and on record, for the answer that a frame was sent, or was not, or could
not even be written, and for the error of a socket that refuses the target. -/
def Bears (s t : Session) (encoded : Except EncodeError Bytes) : Except SendError Bool → Prop
  | .error (.encoding error) => encoded = .error error ∧ s.news t = []
  | .error (.socket error) => (∃ frame, encoded = .ok frame) ∧
    s.dispatcher.channel.targetError? s.host = some error ∧ s.departed t = [] ∧
    (s.news t).filter Entry.isError = []
  | .ok false => (∃ frame, encoded = .ok frame) ∧ s.Hindered ∧ s.departed t = [] ∧
    ∃ error, (s.news t).filter Entry.isError = [.notice (.notSent error)]
  | .ok true => ∃ frame socket, encoded = .ok frame ∧ s.Ready ∧
    s.dispatcher.channel.socket = some socket ∧
    s.news t = [.sendTo socket frame s.dispatcher.channel.backend] ∧
    s.departed t = [(frame, s.dispatcher.channel.backend)]

/-- `sent` is the truth about a frame that was to be sent between `s` and `t`, and nothing else has
changed but what surrounds the dispatcher. -/
structure Truthful (s t : Session) (encoded : Except EncodeError Bytes)
    (sent : Except SendError Bool) : Prop where
  dispatcher : t.dispatcher = s.dispatcher
  journal : s.host.journal <+: t.host.journal
  bears : Bears s t encoded sent

variable {s t : Session}

theorem news_eq {added : List Entry} (h : t.host.journal = s.host.journal ++ added) :
    s.news t = added := by
  rw [news, h, List.drop_left]

theorem Bears.of_setClock {clock : List Value} {encoded : Except EncodeError Bytes}
    {sent : Except SendError Bool} (bears : Bears (s.setClock clock) t encoded sent) :
    Bears s t encoded sent := by
  have departed : (s.setClock clock).departed t = s.departed t :=
    s.host.departures_setClock clock ..
  match sent with
  | .error (.encoding _) => exact bears
  | .error (.socket _) =>
    obtain ⟨written, refused, none, silent⟩ := bears
    exact ⟨written, refused, departed ▸ none, silent⟩
  | .ok false =>
    obtain ⟨written, hindered, none, reported⟩ := bears
    exact ⟨written, hindered, departed ▸ none, reported⟩
  | .ok true =>
    obtain ⟨frame, socket, written, ready, isOpen, news, one⟩ := bears
    exact ⟨frame, socket, written, ready, isOpen, news, departed ▸ one⟩

theorem Ready.not_hindered (ready : s.Ready) : ¬s.Hindered := by
  rintro (closed | ⟨cause, failed⟩)
  · exact absurd (closed.symm.trans ready.1) Bool.false_ne_true
  · rw [ready.2] at failed
    cases failed

theorem targetError?_not_ready {error : SocketError}
    (refused : s.dispatcher.channel.targetError? s.host = some error) :
    ¬s.Ready ∧ ¬s.Hindered := by
  obtain ⟨socket, isOpen, refused⟩ := Option.bind_eq_some_iff.mp refused
  obtain ⟨cause, refused, -⟩ := Option.map_eq_some_iff.mp refused
  have first : s.host.sendError? s.dispatcher.channel.backend = some (.refused cause) :=
    Host.error?_eq_refused.mpr refused
  rw [Ready, Hindered, first, Channel.isOpen, isOpen]
  simp

namespace Truthful

variable {encoded : Except EncodeError Bytes} {sent : Except SendError Bool}

theorem refused {error : EncodeError} (dispatcher : t.dispatcher = s.dispatcher)
    (journal : t.host.journal = s.host.journal) :
    Truthful s t (.error error) (.error (.encoding error)) :=
  ⟨dispatcher, journal ▸ List.prefix_rfl, rfl, news_eq (by rw [journal, List.append_nil])⟩

theorem eq_false_iff (h : Truthful s t encoded sent) :
    sent = .ok false ↔ (∃ frame, encoded = .ok frame) ∧ s.Hindered := by
  have bears := h.bears
  match sent with
  | .error (.encoding error) =>
    rw [bears.1]
    simp
  | .error (.socket error) => simp [(targetError?_not_ready bears.2.1).2]
  | .ok false => exact ⟨fun _ => ⟨bears.1, bears.2.1⟩, fun _ => rfl⟩
  | .ok true =>
    obtain ⟨frame, socket, -, ready, -⟩ := bears
    simp [ready.not_hindered]

theorem eq_true_iff (h : Truthful s t encoded sent) :
    sent = .ok true ↔ (∃ frame, encoded = .ok frame) ∧ s.Ready := by
  have bears := h.bears
  match sent with
  | .error (.encoding error) =>
    rw [bears.1]
    simp
  | .error (.socket error) => simp [(targetError?_not_ready bears.2.1).1]
  | .ok false => simpa using fun _ _ ready => Ready.not_hindered ready bears.2.1
  | .ok true =>
    obtain ⟨frame, socket, encoded, ready, -⟩ := bears
    exact ⟨fun _ => ⟨⟨frame, encoded⟩, ready⟩, fun _ => rfl⟩

end Truthful

theorem sendData_eq_sendResult {socket : Nat} (isOpen : s.dispatcher.channel.socket = some socket)
    (frame : Bytes) : s.sendData frame =
      let later := { s with host := (s.host.sendTo socket frame s.dispatcher.channel.backend).2 }
      match s.host.sendError? s.dispatcher.channel.backend with
      | some (.refused cause) => (.error (.refused cause), later)
      | some (.system cause) =>
        (.ok false, later.report (.notSent (.sendFailed s.dispatcher.channel.backend cause)))
      | none => (.ok true, later) := by
  rw [sendData, Channel.send_some isOpen, Channel.sendResult]
  obtain _ | (_ | _) := s.host.sendError? s.dispatcher.channel.backend <;> rfl

/-- The session once a call has been made to send a frame to the backend. -/
def tried (s : Session) (socket : Nat) (frame : Bytes) : Session :=
  { s with host := (s.host.sendTo socket frame s.dispatcher.channel.backend).2 }

section Attempt

variable {socket : Nat} {frame : Bytes} {cause : String}

theorem news_tried : s.news (s.tried socket frame) =
    [.sendTo socket frame s.dispatcher.channel.backend] :=
  news_eq (Host.sendTo_journal s.host socket frame s.dispatcher.channel.backend)

theorem news_report {entries : List Entry} (h : t.host.journal = s.host.journal ++ entries)
    (notice : Notice) : s.news (t.report notice) = entries ++ [.notice notice] := by
  refine news_eq ?_
  rw [report, Host.report, Host.record, h]
  exact List.append_assoc ..

theorem prefix_tried : s.host.journal <+: (s.tried socket frame).host.journal :=
  ⟨_, (Host.sendTo_journal s.host socket frame s.dispatcher.channel.backend).symm⟩

theorem closed_truthful (closed : s.dispatcher.channel.socket = none) (frame : Bytes) :
    Truthful s (s.report (.notSent .closedForSending)) (.ok frame) (.ok false) := by
  have news : s.news (s.report (.notSent .closedForSending)) =
      [.notice (.notSent .closedForSending)] := news_eq rfl
  refine ⟨rfl, List.prefix_append .., ⟨frame, rfl⟩, .inl (by rw [Channel.isOpen, closed]; rfl), ?_,
    .closedForSending, ?_⟩
  · rw [departed, news]
    rfl
  · rw [news]
    rfl

theorem refused_truthful (isOpen : s.dispatcher.channel.socket = some socket)
    (refused : s.host.sendError? s.dispatcher.channel.backend = some (.refused cause)) :
    Truthful s (s.tried socket frame) (.ok frame) (.error (.socket (.refused cause))) := by
  have target := Host.error?_eq_refused.mp refused
  refine ⟨rfl, prefix_tried, ⟨frame, rfl⟩, ?_, ?_, ?_⟩
  · rw [Channel.targetError?, isOpen, Option.bind_some, target]
    rfl
  · rw [departed, news_tried, Host.departures, target]
    rfl
  · rw [news_tried]
    rfl

theorem failed_truthful
    (failed : s.host.sendError? s.dispatcher.channel.backend = some (.system cause)) :
    Truthful s ((s.tried socket frame).report
        (.notSent (.sendFailed s.dispatcher.channel.backend cause))) (.ok frame) (.ok false) := by
  have call : Host.error? (s.host.refusals.target s.dispatcher.channel.backend)
      (s.host.faults s.host.calls).sending = some (.system cause) := failed
  have news := news_report (t := s.tried socket frame)
    (Host.sendTo_journal s.host socket frame s.dispatcher.channel.backend)
    (.notSent (.sendFailed s.dispatcher.channel.backend cause))
  refine ⟨rfl, prefix_tried.trans (List.prefix_append ..), ⟨frame, rfl⟩, .inr ⟨cause, failed⟩, ?_,
    .sendFailed s.dispatcher.channel.backend cause, ?_⟩
  · rw [departed, news, List.singleton_append, Host.departures, call]
    rfl
  · rw [news]
    rfl

theorem left_truthful (isOpen : s.dispatcher.channel.socket = some socket)
    (sends : s.host.sendError? s.dispatcher.channel.backend = none) :
    Truthful s (s.tried socket frame) (.ok frame) (.ok true) := by
  have call : Host.error? (s.host.refusals.target s.dispatcher.channel.backend)
      (s.host.faults s.host.calls).sending = none := sends
  refine ⟨rfl, prefix_tried, frame, socket, rfl, ⟨by rw [Channel.isOpen, isOpen]; rfl, sends⟩,
    isOpen, news_tried, ?_⟩
  rw [departed, news_tried, Host.departures, call]
  rfl

end Attempt

/-- Every attempt has one of four ends: there is no socket, or it refuses the target, or its call
fails, or it does not. -/
theorem sendData_truthful (s : Session) (frame : Bytes) :
    Truthful s (s.sendData frame).2 (.ok frame) ((s.sendData frame).1.mapError .socket) := by
  cases isOpen : s.dispatcher.channel.socket with
  | none =>
    have unsent : s.sendData frame = (.ok false, s.report (.notSent .closedForSending)) := by
      rw [sendData, Channel.send_none isOpen]
      rfl
    rw [unsent]
    exact closed_truthful isOpen frame
  | some socket =>
    have ended := sendData_eq_sendResult isOpen frame
    rw [ended, ← tried]
    cases failure : s.host.sendError? s.dispatcher.channel.backend with
    | none => exact left_truthful isOpen failure
    | some error =>
      cases error with
      | refused cause => exact refused_truthful isOpen failure
      | system cause => exact failed_truthful failure

section Message

variable {peer text : Value} {broadcast : Bool}

theorem sendMessage_of_refused {error : EncodeError}
    (h : Frame.writeMessage peer text broadcast s.host.readClock.1 = .error error) :
    ∃ clock, s.sendMessage peer text broadcast = (.error (.encoding error), s.setClock clock) := by
  have read := s.host.readClock_eq
  rw [Frame.writeMessage] at h
  rw [sendMessage]
  obtain fields | ⟨fields, converted, h⟩ := error_of_bind_eq_error h
  · rw [fields]
    exact ⟨s.host.clock, rfl⟩
  · rw [converted]
    dsimp only
    rw [h]
    exact ⟨(tick s.host.clock).2, by rw [read]; rfl⟩

def numbered (sent : Except SocketError Bool) (number : Except EncodeError Int) :
    Except SendError Int :=
  match sent with
  | .error error => .error (.socket error)
  | .ok false => .ok (-1)
  | .ok true => number.mapError .encoding

theorem sendMessage_of_written {frame : Bytes}
    (h : Frame.writeMessage peer text broadcast s.host.readClock.1 = .ok frame) :
    s.sendMessage peer text broadcast =
      (numbered ((s.setClock (tick s.host.clock).2).sendData frame).1
        (correlation s.host.readClock.1),
        ((s.setClock (tick s.host.clock).2).sendData frame).2) := by
  have read := s.host.readClock_eq
  rw [Frame.writeMessage] at h
  obtain ⟨fields, converted, h⟩ := exists_of_bind_eq_ok h
  have clock : { s with host := s.host.readClock.2 } = s.setClock (tick s.host.clock).2 := by
    rw [read]
    rfl
  rw [sendMessage, converted]
  dsimp only
  rw [h]
  dsimp only
  rw [clock]
  generalize (s.setClock (tick s.host.clock).2).sendData frame = outcome
  obtain ⟨_ | done, t⟩ := outcome
  · rfl
  · cases done <;> rfl

theorem sendMessage_truthful (s : Session) (peer text : Value) (broadcast : Bool)
    (clock : s.host.readClock.1.isNonnegative) :
    Truthful s (s.sendMessage peer text broadcast).2
      (Frame.writeMessage peer text broadcast s.host.readClock.1)
      ((s.sendMessage peer text broadcast).1.map (· != -1)) ∧
    ∀ id, (s.sendMessage peer text broadcast).1 = .ok id → id = -1 ∨ 0 ≤ id := by
  cases written : Frame.writeMessage peer text broadcast s.host.readClock.1 with
  | error error =>
    obtain ⟨later, refused⟩ := sendMessage_of_refused written
    rw [refused]
    exact ⟨.refused rfl rfl, nofun⟩
  | ok frame =>
    obtain ⟨_, _, seconds, -, -, whole, small, -, -⟩ := Frame.layout_of_writeMessage written
    obtain ⟨id, correlated⟩ := correlation_of_nonnegative clock whole small
    obtain ⟨dispatcher, journal, bears⟩ :=
      sendData_truthful (s.setClock (tick s.host.clock).2) frame
    rw [sendMessage_of_written written, correlated]
    match sent : ((s.setClock (tick s.host.clock).2).sendData frame).1 with
    | .error error =>
      rw [sent] at bears
      exact ⟨⟨dispatcher, journal, Bears.of_setClock bears⟩, nofun⟩
    | .ok false =>
      rw [sent] at bears
      refine ⟨⟨dispatcher, journal, Bears.of_setClock bears⟩, ?_⟩
      rintro _ ⟨⟩
      exact .inl rfl
    | .ok true =>
      rw [sent] at bears
      have valid : (((id : Int) != -1) = true) := by
        rw [bne_iff_ne]
        omega
      refine ⟨⟨dispatcher, journal, ?_⟩, ?_⟩
      · change Bears s _ _ (.ok ((id : Int) != -1))
        rw [valid]
        exact bears.of_setClock
      · rintro _ ⟨⟩
        exact .inr (Int.natCast_nonneg id)

end Message

theorem sendKeyRequest_truthful (s : Session) (peer first second hops : Value) :
    Truthful s (s.sendKeyRequest peer first second hops).2
      (Frame.encodeKey peer first second (Request.limit s.dispatcher.hops hops))
      (s.sendKeyRequest peer first second hops).1 := by
  cases encoded : Frame.encodeKey peer first second (Request.limit s.dispatcher.hops hops) with
  | error error =>
    have refused : s.sendKeyRequest peer first second hops = (.error (.encoding error), s) := by
      cases hops
      all_goals
        unfold sendKeyRequest
        dsimp only [Request.limit] at encoded ⊢
        rw [encoded]
    rw [refused]
    exact .refused rfl rfl
  | ok frame =>
    rw [sendKeyRequest_of_encoded encoded]
    exact sendData_truthful s frame

theorem map_ne_eq_false_iff {result : Except SendError Int} :
    result.map (· != -1) = .ok false ↔ result = .ok (-1) := by
  cases result with
  | error error => exact ⟨nofun, nofun⟩
  | ok id => simp [Except.map]

theorem map_ne_eq_true_iff {result : Except SendError Int}
    (h : ∀ id, result = .ok id → id = -1 ∨ 0 ≤ id) :
    result.map (· != -1) = .ok true ↔ ∃ id, result = .ok id ∧ 0 ≤ id := by
  cases result with
  | error error => simp [Except.map]
  | ok id =>
    have bounds := h id rfl
    simp [Except.map]
    omega

/-- Whoever asks for something to be sent is told the truth: it cannot be written, and no call is made;
or it is written and does not leave, since the channel is closed or the system does not send it, which
is reported once; or it leaves by one call, which is to the backend. Messages have the number minus
one in the second case, and then only, since the time of a message that is written is never before
the beginning. If the socket refuses the address of the backend, nothing leaves, and the error says
so. -/
theorem results_truthful (s : Session) :
    (∀ peer text broadcast, s.host.readClock.1.isNonnegative →
      let encoded := Frame.writeMessage peer text broadcast s.host.readClock.1
      let sent := s.sendMessage peer text broadcast
      Truthful s sent.2 encoded (sent.1.map (· != -1)) ∧
        (∀ id, sent.1 = .ok id → id = -1 ∨ 0 ≤ id) ∧
        (sent.1 = .ok (-1) ↔ (∃ frame, encoded = .ok frame) ∧ s.Hindered) ∧
        ((∃ id, sent.1 = .ok id ∧ 0 ≤ id) ↔ (∃ frame, encoded = .ok frame) ∧ s.Ready)) ∧
    ∀ peer first second hops,
      let encoded := Frame.encodeKey peer first second (Request.limit s.dispatcher.hops hops)
      let sent := s.sendKeyRequest peer first second hops
      Truthful s sent.2 encoded sent.1 ∧
        (sent.1 = .ok false ↔ (∃ frame, encoded = .ok frame) ∧ s.Hindered) ∧
        (sent.1 = .ok true ↔ (∃ frame, encoded = .ok frame) ∧ s.Ready) := by
  constructor
  · intro peer text broadcast clock
    obtain ⟨truthful, numbers⟩ := sendMessage_truthful s peer text broadcast clock
    exact ⟨truthful, numbers, map_ne_eq_false_iff.symm.trans truthful.eq_false_iff,
      (map_ne_eq_true_iff numbers).symm.trans truthful.eq_true_iff⟩
  · intro peer first second hops
    have truthful := sendKeyRequest_truthful s peer first second hops
    exact ⟨truthful, truthful.eq_false_iff, truthful.eq_true_iff⟩

def hindered : Session :=
  { asker with host :=
      { asker.host with
        faults := fun calls =>
          match calls with
          | 0 => { sending := some "network unreachable" }
          | _ => {} } }

def hail (s : Session) : Except SendError Int × Session :=
  s.sendMessage (.text "bob") (.text "é") true

theorem results_truthful_hindered : hindered.host.readClock.1.isNonnegative ∧
    hindered.Hindered ∧ hindered.hail.1 = .ok (-1) ∧ hindered.departed hindered.hail.2 = [] ∧
    hindered.hail.2.Ready ∧ hindered.hail.2.hail.1 = .ok 1700000000250 ∧
    ∃ frame, hindered.hail.2.departed hindered.hail.2.hail.2 =
      [(frame, ⟨.text "127.0.0.1", 41244⟩)] := by
  have no : hindered.hail.1 = .ok (-1) := by rfl
  have yes : hindered.hail.2.hail.1 = .ok 1700000000250 := by rfl
  obtain ⟨first, -, unsent, -⟩ := (results_truthful hindered).1 (.text "bob") (.text "é") true rfl
  obtain ⟨second, -, -, sent⟩ :=
    (results_truthful hindered.hail.2).1 (.text "bob") (.text "é") true rfl
  have kept : Bears hindered hindered.hail.2 _ (hindered.hail.1.map (· != -1)) := first.bears
  have left : Bears hindered.hail.2 hindered.hail.2.hail.2 _
      (hindered.hail.2.hail.1.map (· != -1)) := second.bears
  rw [no] at kept
  rw [yes] at left
  obtain ⟨frame, socket, -, -, -, -, left⟩ := left
  exact ⟨rfl, (unsent.mp no).2, no, kept.2.2.1, (sent.mp ⟨_, yes, by decide⟩).2, yes, frame, left⟩

def unlimited : Session := { asker with dispatcher := { asker.dispatcher with hops := -1 } }

def disdained : Session :=
  { asker with host := { asker.host with refusals :=
    { target := fun _ => some "port must be 0-65535." } } }

/-- A request that names no hop limit cannot be written since the dispatcher's own is none, and what a
socket refuses to send is neither sent nor answered. -/
theorem unanswered : (∃ frame, Frame.encodeKey (.text "bob") (.text "x") .null (.int 5) = .ok frame) ∧
    (∃ error, (unlimited.sendKeyRequest (.text "bob") (.text "x") .null .null).1 =
      .error (.encoding error)) ∧
    disdained.hail.1 = .error (.socket (.refused "port must be 0-65535.")) :=
  ⟨⟨_, rfl⟩, ⟨_, rfl⟩, rfl⟩

end Session

end ChatLink
