import ChatLink.Proofs.Correlation
import ChatLink.Proofs.Reception
import ChatLink.Proofs.RoundTrip

namespace ChatLink

inductive Request
  | message (peer text : String) (broadcast : Bool)
  | keys (peer first : String) (second : Option String) (hops : Value)

inductive Reply
  | number (result : Except SendError Int)
  | sent (result : Except SendError Bool)

/-- A message that was not sent has the number minus one. -/
def Reply.isSuccess : Reply → Bool
  | .number (.ok id) => 0 ≤ id
  | .sent (.ok done) => done
  | _ => false

def Value.seconds (time : Value) : Int :=
  match time.toInt with
  | .ok n => n
  | .error _ => 0

structure Timely (clock : List Value) : Prop where
  ticks : clock ≠ []
  fits : ∀ time ∈ clock, time.isNonnegative ∧
    ∃ seconds : Nat, time.toInt = .ok (seconds : Int) ∧ seconds < 2 ^ 48

def tick (clock : List Value) : Value × List Value :=
  let (time, host) := Host.readClock { clock }
  (time, host.clock)

def Host.setClock (host : Host) (clock : List Value) : Host := { host with clock }

theorem Host.readClock_eq (host : Host) :
    host.readClock = ((tick host.clock).1, host.setClock (tick host.clock).2) := by
  obtain ⟨_, _, _, _, _, _, _, clock, _, _, _⟩ := host
  match clock with
  | [] => rfl
  | [_] => rfl
  | _ :: _ :: _ => rfl

theorem Timely.tick {clock : List Value} (h : Timely clock) :
    (tick clock).1 ∈ clock ∧ Timely (tick clock).2 := by
  match clock, h with
  | [], h => exact absurd rfl h.ticks
  | [_], h => exact ⟨List.mem_cons_self, h⟩
  | _ :: _ :: _, h =>
    exact ⟨List.mem_cons_self, nofun, fun time ht => h.fits time (List.mem_cons_of_mem _ ht)⟩

namespace Request

def limit (default : Int) : Value → Value
  | .null => .int default
  | hops => hops

def Admissible (default : Int) : Request → Prop
  | .message peer text _ => Frame.Fits [peer, text]
  | .keys peer first second hops =>
    Frame.Fits (peer :: Frame.secretsOf first second) ∧
      ∃ n : Nat, (limit default hops).toInt = .ok (n : Int) ∧ n < 2 ^ 48

def call (clock : List Value) : Request → Entry
  | .message peer text _ =>
    .messageReceived (.text peer) (.int (1000 * (tick clock).1.seconds)) (.text text)
  | .keys peer .. => .contactCreated (.text peer)

def after (clock : List Value) : Request → List Value
  | .message .. => (tick clock).2
  | .keys .. => clock

def calls (clock : List Value) : List Request → List Entry
  | [] => []
  | request :: rest => request.call clock :: calls (request.after clock) rest

end Request

def Entry.frame? : Entry → Option Bytes
  | .sendTo _ data _ => some data
  | _ => none

def Frame.calls (frame : Bytes) : List Entry := ((decode frame none).1.bind Event.call?).toList

theorem Frame.calls_message {peer text : String} {seconds : Nat} (broadcast : Bool)
    (h : Fits [peer, text]) (small : seconds < 2 ^ 48) :
    calls (layout (messageCode broadcast) seconds ([peer, text].map Utf8.encode)) =
      [.messageReceived (.text peer) (.int (1000 * seconds)) (.text text)] := by
  rw [calls, decode_message_alone broadcast h small]
  rfl

theorem Frame.calls_key {peer first : String} {second : Option String} {limit : Nat}
    (h : Fits (peer :: secretsOf first second)) (small : limit < 2 ^ 48) :
    calls (layout keyCode limit ((peer :: secretsOf first second).map Utf8.encode)) =
      [.contactCreated (.text peer)] := by
  rw [calls, decode_key_alone h small]
  rfl

namespace Session

def answer (s : Session) : Request → Reply × Session
  | .message peer text broadcast =>
    let (id, s) := s.sendMessage (.text peer) (.text text) broadcast
    (.number id, s)
  | .keys peer first second hops =>
    let (sent, s) := s.sendKeyRequest (.text peer) (.text first) (.ofText? second) hops
    (.sent sent, s)

def answerAll (s : Session) : List Request → List Reply × Session
  | [] => ([], s)
  | request :: rest =>
    let (reply, s) := s.answer request
    let (replies, s) := s.answerAll rest
    (reply :: replies, s)

/-- The session once a frame has been sent. What comes back to it depends on where the frame
went. -/
def sent (s : Session) (socket : Nat) (frame : Bytes) (back : List Arrival) : Session :=
  { s with host :=
      { s.host with
        calls := s.host.calls + 1
        inbox := s.host.inbox ++ back
        journal := s.host.journal ++ [.sendTo socket frame s.dispatcher.channel.backend] } }

def setClock (s : Session) (clock : List Value) : Session :=
  { s with host := s.host.setClock clock }

structure Sends (s : Session) : Prop where
  accepted : s.host.refusals.target s.dispatcher.channel.backend = none
  unfailing : ∀ call, (s.host.faults call).sending = none

section Answer

variable {s : Session} {socket : Nat}

theorem Sends.sendError? (sends : s.Sends) :
    s.host.sendError? s.dispatcher.channel.backend = none :=
  Host.error?_eq_none.mpr ⟨sends.accepted, sends.unfailing _⟩

theorem sendData_sent (isOpen : s.dispatcher.channel.socket = some socket)
    (sends : s.host.sendError? s.dispatcher.channel.backend = none) (frame : Bytes) :
    ∃ back, s.sendData frame = (.ok true, s.sent socket frame back) := by
  obtain ⟨back, done⟩ := Host.sendTo_eq s.host socket frame s.dispatcher.channel.backend
  refine ⟨back, ?_⟩
  rw [sendData, Channel.send_some isOpen, Channel.sendResult, sends, done]
  rfl

theorem sendMessage_sent {peer text : String} {seconds : Nat}
    (isOpen : s.dispatcher.channel.socket = some socket)
    (sends : s.Sends) (fits : Frame.Fits [peer, text])
    (nonnegative : (tick s.host.clock).1.isNonnegative)
    (whole : (tick s.host.clock).1.toInt = .ok (seconds : Int)) (small : seconds < 2 ^ 48)
    (broadcast : Bool) : ∃ (id : Nat) (back : List Arrival),
      s.sendMessage (.text peer) (.text text) broadcast =
        (.ok (id : Int), (s.setClock (tick s.host.clock).2).sent socket (Frame.layout
          (Frame.messageCode broadcast) seconds ([peer, text].map Utf8.encode)) back) := by
  obtain ⟨id, correlated⟩ := correlation_of_nonnegative nonnegative whole small
  obtain ⟨back, done⟩ := sendData_sent (s := s.setClock (tick s.host.clock).2) isOpen
    sends.sendError? (Frame.layout (Frame.messageCode broadcast) seconds ([peer, text].map Utf8.encode))
  have fields : Frame.messageFields (.text peer) (.text text) =
      .ok ([peer, text].map Utf8.encode) := Frame.mapM_fieldBytes fits.noNul
  refine ⟨id, back, ?_⟩
  rw [sendMessage, fields]
  dsimp only
  rw [Host.readClock_eq, Frame.encodeMessage_text broadcast fits whole small]
  dsimp only
  unfold setClock at done ⊢
  rw [done]
  dsimp only
  rw [correlated]
  rfl

theorem sendKeyRequest_of_encoded {peer first second hops : Value} {frame : Bytes}
    (h : Frame.encodeKey peer first second (Request.limit s.dispatcher.hops hops) = .ok frame) :
    s.sendKeyRequest peer first second hops =
      ((s.sendData frame).1.mapError .socket, (s.sendData frame).2) := by
  cases hops
  all_goals
    unfold sendKeyRequest
    dsimp only [Request.limit] at h ⊢
    rw [h]

theorem sendKeyRequest_sent {peer first : String} {second : Option String} {hops : Value} {n : Nat}
    (isOpen : s.dispatcher.channel.socket = some socket)
    (sends : s.Sends)
    (fits : Frame.Fits (peer :: Frame.secretsOf first second))
    (limit : (Request.limit s.dispatcher.hops hops).toInt = .ok (n : Int)) (small : n < 2 ^ 48) :
    ∃ back, s.sendKeyRequest (.text peer) (.text first) (.ofText? second) hops =
      (.ok true, s.sent socket (Frame.layout Frame.keyCode n
        ((peer :: Frame.secretsOf first second).map Utf8.encode)) back) := by
  obtain ⟨back, done⟩ := sendData_sent isOpen sends.sendError? (Frame.layout Frame.keyCode n
    ((peer :: Frame.secretsOf first second).map Utf8.encode))
  refine ⟨back, ?_⟩
  rw [sendKeyRequest_of_encoded (Frame.encodeKey_text fits limit small), done]
  rfl

theorem answer_sent {request : Request} (isOpen : s.dispatcher.channel.socket = some socket)
    (sends : s.Sends) (timely : Timely s.host.clock)
    (admissible : request.Admissible s.dispatcher.hops) : ∃ reply frame back,
      s.answer request = (reply, (s.setClock (request.after s.host.clock)).sent socket frame back) ∧
        reply.isSuccess ∧ Frame.calls frame = [request.call s.host.clock] := by
  cases request with
  | message peer text broadcast =>
    obtain ⟨nonnegative, seconds, whole, small⟩ := timely.fits _ timely.tick.1
    obtain ⟨id, back, done⟩ :=
      sendMessage_sent isOpen sends admissible nonnegative whole small broadcast
    have called := Frame.calls_message broadcast admissible small
    refine ⟨.number (.ok id), _, back, ?_, decide_eq_true (Int.natCast_nonneg id),
      called.trans ?_⟩
    · rw [answer, done]
      rfl
    · rw [Request.call, Value.seconds, whole]
  | keys peer first second hops =>
    obtain ⟨fits, n, limit, small⟩ := admissible
    obtain ⟨back, done⟩ := sendKeyRequest_sent isOpen sends fits limit small
    refine ⟨.sent (.ok true), _, back, ?_, rfl, Frame.calls_key fits small⟩
    rw [answer, done]
    rfl

theorem answerAll_sent {requests : List Request}
    (isOpen : s.dispatcher.channel.socket = some socket)
    (sends : s.Sends) (timely : Timely s.host.clock)
    (admissible : ∀ request ∈ requests, request.Admissible s.dispatcher.hops) :
    ∃ frames : List Bytes,
      (s.answerAll requests).2.host.journal = s.host.journal ++
        frames.map (.sendTo socket · s.dispatcher.channel.backend) ∧
      (s.answerAll requests).1.length = requests.length ∧
      (∀ reply ∈ (s.answerAll requests).1, reply.isSuccess) ∧
      frames.flatMap Frame.calls = Request.calls s.host.clock requests := by
  induction requests generalizing s with
  | nil => exact ⟨[], (List.append_nil _).symm, rfl, nofun, rfl⟩
  | cons request rest ih =>
    rw [List.forall_mem_cons] at admissible
    obtain ⟨reply, frame, back, answered, success, call⟩ :=
      answer_sent isOpen sends timely admissible.1
    have still : Timely (request.after s.host.clock) := by
      cases request with
      | message => exact timely.tick.2
      | keys => exact timely
    obtain ⟨frames, journal, length, successes, calls⟩ :=
      ih (s := (s.setClock (request.after s.host.clock)).sent socket frame back) isOpen
        ⟨sends.accepted, sends.unfailing⟩ still admissible.2
    rw [answerAll, answered]
    refine ⟨frame :: frames, ?_, congrArg (· + 1) length, ?_, ?_⟩
    · exact journal.trans (List.append_assoc ..)
    · exact List.forall_mem_cons.mpr ⟨success, successes⟩
    · rw [List.flatMap_cons, call, calls]
      rfl

end Answer

def outgoing (s : Session) (requests : List Request) : List Bytes :=
  ((s.answerAll requests).2.host.journal.drop s.host.journal.length).filterMap Entry.frame?

theorem outgoing_eq {s : Session} {socket : Nat} {requests : List Request} {frames : List Bytes}
    {target : Endpoint} (h : (s.answerAll requests).2.host.journal =
      s.host.journal ++ frames.map (.sendTo socket · target)) : s.outgoing requests = frames := by
  rw [outgoing, h, List.drop_left, List.filterMap_map]
  exact List.filterMap_some

theorem calls_of_trusted {channel : Channel} {datagram : Datagram}
    (port : datagram.origin.port = channel.backend.port)
    (near : datagram.origin.address.isLoopback)
    (room : (datagram.data.length : Int) ≤ channel.mtu) :
    calls channel datagram = Frame.calls datagram.data := by
  have trusted : channel.objection? datagram.origin = none := by
    rw [Channel.objection?, if_neg (not_not_intro port), if_pos near]
  have whole : channel.cut datagram = datagram := by
    rw [Channel.cut, Frame.slice_of_length_le room]
  rw [calls, whole, Channel.event?, trusted]
  rfl

/-- End to end: a dispatcher that can send answers every request. Another one that receives exactly
the frames of these requests, in their order, from trusted origins and uncut, calls its consumer
once for each, in that order, and for nothing else, unless somebody whom it tells of an event stops
it. -/
theorem exchange (sender receiver : Session) {requests : List Request}
    {received : List Datagram} {socket : Nat}
    (isOpen : sender.dispatcher.channel.socket = some socket) (sends : sender.Sends)
    (timely : Timely sender.host.clock)
    (admissible : ∀ request ∈ requests, request.Admissible sender.dispatcher.hops)
    (attentive : receiver.Attentive) (greeted : receiver.greet.1 = .ok ())
    (relayed : received.map (·.data) = sender.outgoing requests)
    (waiting : receiver.greet.2.inbox = received.map Datagram.arrival)
    (port : ∀ datagram ∈ received,
      datagram.origin.port = receiver.dispatcher.channel.backend.port)
    (near : ∀ datagram ∈ received, datagram.origin.address.isLoopback)
    (room : ∀ datagram ∈ received,
      (datagram.data.length : Int) ≤ receiver.dispatcher.channel.mtu) :
    (sender.answerAll requests).1.length = requests.length ∧
      (∀ reply ∈ (sender.answerAll requests).1, reply.isSuccess) ∧
      receiver.host.Adds Entry.isConsumerCall receiver.run.2.host
        (Request.calls sender.host.clock requests) := by
  obtain ⟨frames, journal, length, successes, asked⟩ :=
    answerAll_sent isOpen sends timely admissible
  rw [outgoing_eq journal] at relayed
  have told := run_calls attentive greeted waiting
  have same : received.flatMap (calls receiver.dispatcher.channel) =
      Request.calls sender.host.clock requests := by
    rw [← asked, ← relayed, List.flatMap_map]
    exact congrArg List.flatten (List.map_congr_left fun datagram h =>
      calls_of_trusted (port datagram h) (near datagram h) (room datagram h))
  rw [same] at told
  exact ⟨length, successes, told⟩

def asker : Session where
  dispatcher := {
    channel := {
      backend := ⟨.text "127.0.0.1", 41244⟩
      bindAddress := .text ""
      mtu := 1500
      socket := some 0 }
    consumer := none
    greeting := [104, 105]
    hops := 5
    fatal := .terminate }
  host := { clock := [.real (.ofDecimal false 170000000025 (-2))] }

def broadcastAndKeys : List Request :=
  [.message "bob" "é€😀" true, .keys "eve" "" none .null]

def relayed : List Datagram :=
  (asker.outgoing broadcastAndKeys).map (⟨·, ⟨.text "127.0.0.1", 41244⟩⟩)

def hearer : Session where
  dispatcher := { asker.dispatcher with
    consumer := some ⟨fun peer _ text => [.send peer text], fun _ => []⟩
    callbacks := [⟨.plain 0, 0⟩] }
  host := {
    inbox := relayed.map Datagram.arrival
    listeners := fun _ => ⟨"once", fun _ => [.forget "once", .fail "enough"]⟩
    kept := [("once", .plain 0)] }

theorem hearer_attentive : hearer.Attentive where
  consumer := rfl
  allows := by
    refine ⟨?_, fun callable _ event => ?_⟩
    · rintro _ ⟨⟩ event
      cases event <;> simp [Consumer.reaction, Action.Allowed]
    · simp [hearer, Action.Allowed]
  going := rfl
  takes := rfl
  away := by decide

theorem exchange_broadcast : asker.Sends ∧ Timely asker.host.clock ∧
    (∀ request ∈ broadcastAndKeys, request.Admissible asker.dispatcher.hops) ∧
    hearer.Attentive ∧ relayed.map (·.data) = asker.outgoing broadcastAndKeys ∧
    relayed.length = 2 ∧
    hearer.host.Adds Entry.isConsumerCall hearer.run.2.host
      [.messageReceived (.text "bob") (.int 1700000000000) (.text "é€😀"),
        .contactCreated (.text "eve")] := by
  have sends : asker.Sends := ⟨rfl, fun _ => rfl⟩
  have timely : Timely asker.host.clock :=
    ⟨nofun, List.forall_mem_singleton.mpr ⟨by decide, 1700000000, rfl, by decide⟩⟩
  have admissible : ∀ request ∈ broadcastAndKeys, request.Admissible asker.dispatcher.hops := by
    refine List.forall_mem_cons.mpr ⟨?_, List.forall_mem_singleton.mpr ⟨?_, 5, rfl, by decide⟩⟩
    · exact (by decide : Frame.Fits ["bob", "é€😀"])
    · decide
  have data : relayed.map (·.data) = asker.outgoing broadcastAndKeys := by
    rw [relayed, List.map_map]
    exact List.map_id _
  have origin : ∀ datagram ∈ relayed, datagram.origin = ⟨.text "127.0.0.1", 41244⟩ := by
    intro datagram h
    obtain ⟨frame, _, rfl⟩ := List.mem_map.mp h
    rfl
  have length : relayed.length = 2 := by decide +kernel
  obtain ⟨_, _, told⟩ := exchange asker hearer rfl sends timely admissible hearer_attentive rfl data
    rfl (fun datagram h => by rw [origin datagram h]; rfl)
    (fun datagram h => by rw [origin datagram h]; decide) (by decide +kernel)
  exact ⟨sends, timely, admissible, hearer_attentive, data, length, told⟩

end Session

end ChatLink
