import ChatLink.Proofs.Delivery
import ChatLink.Proofs.RoundTrip

namespace ChatLink

def Entry.IsReceipt (ownPort : Int) : Entry → Prop
  | .receiveFrom .. => True
  | .notice (.arrived ..) => True
  | entry => entry.IsStop ownPort

theorem Entry.IsReceipt.of_isStop {ownPort : Int} {entry : Entry} (h : entry.IsStop ownPort) :
    entry.IsReceipt ownPort := by
  cases entry with
  | notice => cases h
  | _ => trivial

theorem Entry.IsReceipt.isVisible {ownPort : Int} {entry : Entry} (h : entry.IsReceipt ownPort) :
    entry.isVisible ownPort = false := by
  cases entry with
  | notice notice => cases notice <;> first | rfl | cases h
  | receiveFrom => rfl
  | _ => exact IsStop.isVisible h

namespace Arrival

/-- The datagrams before the first failure, and before somebody stops the dispatcher while it
waits. -/
def taken : List Arrival → List Datagram
  | [] => []
  | ⟨.never, .ok datagram⟩ :: rest => datagram :: taken rest
  | _ :: _ => []

def failure? : List Arrival → Option String
  | [] => some "inbox empty"
  | ⟨.never, .ok _⟩ :: rest => failure? rest
  | ⟨.never, .error cause⟩ :: _ => some cause
  | _ :: _ => none

end Arrival

namespace Channel

theorem level_objection? {channel : Channel} {origin : Endpoint} {notice : Notice}
    (h : channel.objection? origin = some notice) : notice.level = .warning := by
  rw [objection?] at h
  split at h
  · cases h
    rfl
  · split at h
    · cases h
    · cases h
      rfl

def cut (channel : Channel) (datagram : Datagram) : Datagram :=
  { datagram with data := datagram.data.slice 0 channel.mtu }

def event? (channel : Channel) (datagram : Datagram) : Option Event :=
  match channel.objection? datagram.origin with
  | some _ => none
  | none => (Frame.decode datagram.data none).1

end Channel

namespace Session

def asked (s : Session) (socket : Nat) : Session :=
  { s with host := (s.host.call (.receiveFrom socket s.dispatcher.channel.mtu)).2 }

def waited (s : Session) (socket : Nat) : Session :=
  { s with host :=
      { (s.host.call (.receiveFrom socket s.dispatcher.channel.mtu)).2 with
        inbox := s.host.inbox.tail } }

def received (s : Session) (socket : Nat) (datagram : Datagram) : Session :=
  (s.waited socket).report
    (.arrived (s.dispatcher.channel.cut datagram).data.length datagram.origin)

theorem received_dispatcher (s : Session) (socket : Nat) (datagram : Datagram) :
    (s.received socket datagram).dispatcher = s.dispatcher := rfl

def handle (s : Session) (datagram : Datagram) : Session :=
  let (trusted, host) := s.dispatcher.channel.trusts datagram.origin s.host
  if trusted then { s with host }.dispatch datagram.data none else { s with host }

def Takes (s : Session) : Prop := s.host.refusals.size s.dispatcher.channel.mtu = none

section Receive

variable {s : Session} {socket : Nat} {q : Entry → Bool}

theorem take_session (arrival : Arrival) (s : Session) : (take arrival s).2 = s ∨
    ∃ size origin, (take arrival s).2 = s.report (.arrived size origin) := by
  rw [take, Channel.accept]
  cases arrival.content with
  | error cause => exact .inl rfl
  | ok datagram => exact .inr ⟨_, _, rfl⟩

theorem take_known (arrival : Arrival) (s : Session) (error : SocketError) :
    (take arrival s).1 ≠ .error (.raw error) := by
  rw [take, Channel.accept]
  cases arrival.content <;> nofun

theorem take_dispatcher (arrival : Arrival) (s : Session) :
    (take arrival s).2.dispatcher = s.dispatcher := by
  obtain same | ⟨_, _, taken⟩ := take_session arrival s
  · rw [same]
  · rw [taken]
    rfl

theorem receive_closed (h : s.dispatcher.channel.socket = none) :
    s.receive = (.error (.known .closedForReceiving), s) := by
  rw [receive, Channel.await, h]

theorem receive_refused {cause : String} (h : s.dispatcher.channel.socket = some socket)
    (refused : s.host.refusals.size s.dispatcher.channel.mtu = some cause) :
    s.receive = (.error (.raw (.refused cause)), s.asked socket) := by
  rw [receive, Channel.await, h]
  dsimp only
  rw [Host.receiveFrom_refused refused]
  rfl

theorem receive_open (h : s.dispatcher.channel.socket = some socket) (takes : s.Takes) :
    s.receive = (s.waited socket).meanwhile s.host.next.stops (take s.host.next) := by
  rw [receive, Channel.await, h]
  dsimp only
  rw [Host.receiveFrom_ok takes]
  rfl

theorem receive_datagram {datagram : Datagram} (h : s.dispatcher.channel.socket = some socket)
    (takes : s.Takes) (next : s.host.next = ⟨.never, .ok datagram⟩) :
    s.receive = (.ok (s.dispatcher.channel.cut datagram), s.received socket datagram) := by
  rw [receive_open h takes, next]
  rfl

theorem receive_failure {cause : String} (h : s.dispatcher.channel.socket = some socket)
    (takes : s.Takes) (next : s.host.next = ⟨.never, .error cause⟩) :
    s.receive = (.error (.known (.receiveFailed cause)), s.waited socket) := by
  rw [receive_open h takes, next]
  rfl

theorem meanwhile_result {α : Type} {f : Session → α × Session} {p : α → Prop}
    (h : ∀ t, p (f t).1) (stop : Stop) (s : Session) : p (s.meanwhile stop f).1 := by
  cases stop with
  | never => exact h s
  | atOnce => exact h _
  | patiently =>
    rw [meanwhile]
    split
    · exact h _
    · exact h _

theorem shutdown_stop (s : Session) : s.stop.2.dispatcher.shutdown = true := by
  obtain ⟨_, _, _, _, _, _, stopped, -⟩ := s.stop_eq
  rw [stopped]

theorem shutdown_release (s : Session) :
    s.release.dispatcher.shutdown = s.dispatcher.shutdown := by
  obtain ⟨_, _, _, released, -⟩ := s.release_eq
  rw [released]

/-- Whoever stops the dispatcher has told it so before anything else is done. -/
theorem meanwhile_shutdown {α : Type} {f : Session → α × Session} {stop : Stop}
    (some : stop ≠ .never)
    (keeps : ∀ t, t.dispatcher.shutdown = true → (f t).2.dispatcher.shutdown = true) (s : Session) :
    (s.meanwhile stop f).2.dispatcher.shutdown = true := by
  cases stop with
  | never => exact absurd rfl some
  | atOnce => exact keeps _ s.shutdown_stop
  | patiently =>
    have kept := keeps _ s.shutdown_halt
    rw [meanwhile]
    generalize s.halt = outcome at kept ⊢
    obtain ⟨_ | _, t⟩ := outcome
    · exact kept
    · exact (shutdown_release _).trans kept

theorem receive_raw {error : SocketError} (h : s.receive.1 = .error (.raw error)) : ¬s.Takes := by
  intro takes
  cases isOpen : s.dispatcher.channel.socket with
  | none =>
    rw [receive_closed isOpen] at h
    cases h
  | some socket =>
    rw [receive_open isOpen takes] at h
    exact meanwhile_result (p := fun result => result ≠ Except.error (Breakdown.raw error))
      (fun t => take_known _ t error) _ _ h

theorem receive_shutdown (going : s.dispatcher.shutdown = true) :
    s.receive.2.dispatcher.shutdown = true := by
  cases isOpen : s.dispatcher.channel.socket with
  | none =>
    rw [receive_closed isOpen]
    exact going
  | some socket =>
    cases refused : s.host.refusals.size s.dispatcher.channel.mtu with
    | some cause =>
      rw [receive_refused isOpen refused]
      exact going
    | none =>
      have keeps (t : Session) (h : t.dispatcher.shutdown = true) :
          (take s.host.next t).2.dispatcher.shutdown = true := by
        rw [take_dispatcher]
        exact h
      rw [receive_open isOpen refused]
      by_cases stops : s.host.next.stops = .never
      · rw [stops]
        exact keeps (s.waited socket) going
      · exact meanwhile_shutdown stops keeps _

theorem receive_adds (s : Session)
    (hq : ∀ entry, entry.IsReceipt s.host.ownPort → q entry = false) :
    s.host.Adds q s.receive.2.host [] := by
  cases isOpen : s.dispatcher.channel.socket with
  | none =>
    rw [receive_closed isOpen]
    exact .refl _
  | some socket =>
    have called (size : Int) : q (.receiveFrom socket size) = false := hq _ trivial
    cases refused : s.host.refusals.size s.dispatcher.channel.mtu with
    | some cause =>
      rw [receive_refused isOpen refused]
      exact .of_append_hidden rfl (called _)
    | none =>
      have waited : s.host.Adds q (s.waited socket).host [] := .of_append_hidden rfl (called _)
      rw [receive_open isOpen refused]
      refine waited.trans (meanwhile_adds _ (fun entry h => hq entry (.of_isStop h)) ?_)
      intro t before
      obtain same | ⟨size, origin, taken⟩ := take_session s.host.next t
      · rw [same]
        exact before
      · rw [taken]
        exact before.trans (.record_hidden (hq _ trivial))

end Receive

section Turn

variable {s t : Session} {datagram : Datagram}

theorem loop_of_raw {error : SocketError} (fuel : Nat) (h : s.receive = (.error (.raw error), t)) :
    loop (fuel + 1) s = (.error error, t) := by
  rw [loop, h]

theorem loop_of_error {error : TransportError} (fuel : Nat)
    (h : s.receive = (.error (.known error), t)) : loop (fuel + 1) s =
      (.ok (), if t.dispatcher.shutdown then t.setState .stopped
        else (t.setState .stopped).giveUp
          ("unable to receive messages, terminating: " ++ error.message)) := by
  rw [loop, h]
  dsimp only
  split <;> rfl

theorem loop_of_ok (fuel : Nat) (h : s.receive = (.ok datagram, t)) : loop (fuel + 1) s =
    if t.dispatcher.shutdown then (.ok (), t.setState .stopped)
    else loop fuel (t.handle datagram) := by
  rw [loop, h]
  dsimp only
  split
  · rfl
  · rw [handle]
    obtain ⟨trusted, host⟩ := t.dispatcher.channel.trusts datagram.origin t.host
    cases trusted <;> rfl

theorem loop_of_shutdown {fuel : Nat} (enough : 0 < fuel) (takes : s.Takes)
    (stopped : s.receive.2.dispatcher.shutdown = true) :
    loop fuel s = (.ok (), s.receive.2.setState .stopped) := by
  obtain _ | fuel := fuel
  · exact absurd enough (Nat.lt_irrefl 0)
  obtain ⟨result, t, received⟩ : ∃ result t, s.receive = (result, t) := ⟨_, _, rfl⟩
  rw [received] at stopped ⊢
  cases result with
  | error breakdown =>
    cases breakdown with
    | known error => rw [loop_of_error fuel received, if_pos stopped]
    | raw error => exact absurd takes (receive_raw (congrArg Prod.fst received))
  | ok datagram => rw [loop_of_ok fuel received, if_pos stopped]

end Turn

theorem handle_eq (s : Session) (datagram : Datagram) : s.handle datagram =
    match s.dispatcher.channel.objection? datagram.origin with
    | some notice => s.report notice
    | none => s.dispatch datagram.data none := by
  rw [handle, Channel.trusts]
  cases s.dispatcher.channel.objection? datagram.origin <;> rfl

theorem handle_moves {p : Entry → Prop} {stops : Prop} {s : Session} (allows : s.Allows stops)
    (objected : ∀ notice, notice.level = .warning → p (.notice notice))
    (read : ∀ notice, notice.source = .codec → p (.notice notice))
    (told : ∀ event entry, Entry.Concerns event entry → p entry) (datagram : Datagram) :
    Moves p stops s (s.handle datagram) := by
  rw [handle_eq]
  cases objection : s.dispatcher.channel.objection? datagram.origin with
  | none => exact dispatch_moves allows read told datagram.data none
  | some notice => exact .single (.record (objected notice (Channel.level_objection? objection)))

def audience (s : Session) (datagram : Datagram) : List Hearing :=
  (s.dispatcher.channel.event? datagram).toList.flatMap s.hearings

theorem isVisible_of_warning {ownPort : Int} {notice : Notice} (h : notice.level = .warning) :
    (Entry.notice notice).isVisible ownPort = false := by
  cases notice <;> first | rfl | cases h

theorem handle_told {s : Session} (modest : s.Modest) (whole : s.Whole) (datagram : Datagram) :
    Told s (s.handle datagram) (s.audience datagram) := by
  rw [handle_eq, audience, Channel.event?]
  cases objection : s.dispatcher.channel.objection? datagram.origin with
  | none => exact dispatch_told modest whole datagram.data none
  | some notice =>
    exact .report (fun _ => isVisible_of_warning (Channel.level_objection? objection)) s

def farewell (s : Session) (text : String) : List Entry :=
  match s.dispatcher.fatal with
  | .note => [.fatal text]
  | .terminate => [.notice (.terminating text), .logShutdown, .exit 1]

theorem giveUp_journal (s : Session) (text : String) :
    (s.giveUp text).host.journal = s.host.journal ++ s.farewell text := by
  rw [giveUp, farewell]
  cases s.dispatcher.fatal with
  | note => rfl
  | terminate =>
    change s.host.journal ++ [_] ++ [_] ++ [_] = _
    rw [List.append_assoc, List.append_assoc]
    rfl

theorem isVisible_farewell {s : Session} {text : String} {ownPort : Int} :
    ∀ entry ∈ s.farewell text, entry.isVisible ownPort := by
  rw [farewell]
  cases s.dispatcher.fatal with
  | note => exact List.forall_mem_singleton.mpr rfl
  | terminate =>
    intro entry h
    simp only [List.mem_cons, List.not_mem_nil, or_false] at h
    rcases h with rfl | rfl | rfl <;> rfl

theorem giveUp_adds (s : Session) (text : String) (ownPort : Int) :
    s.host.Adds (Entry.isVisible ownPort) (s.giveUp text).host (s.farewell text) :=
  ⟨s.farewell text, giveUp_journal s text, List.filter_eq_self.mpr isVisible_farewell⟩

theorem giveUp_state (s : Session) (text : String) :
    (s.giveUp text).dispatcher.state = s.dispatcher.state := by
  rw [giveUp]
  cases s.dispatcher.fatal <;> rfl

def events (s : Session) (arrivals : List Arrival) : List Event :=
  (Arrival.taken arrivals).filterMap fun datagram =>
    s.dispatcher.channel.event? (s.dispatcher.channel.cut datagram)

def ends (s : Session) (event : Event) : Bool := (s.hearings event).any (·.stops)

def delivered (s : Session) (arrivals : List Arrival) : List Event :=
  (s.events arrivals).take ((s.events arrivals).findIdx s.ends + 1)

/-- What a loop does to the outside: everybody is told of every event that is delivered, and then,
unless somebody stopped the dispatcher, the failure is passed on. -/
def course (s : Session) (arrivals : List Arrival) : List Entry :=
  ((s.delivered arrivals).flatMap fun event => (s.hearings event).map (·.entry)) ++
    if (s.events arrivals).any s.ends then []
    else (Arrival.failure? arrivals).toList.flatMap fun cause => s.farewell
      ("unable to receive messages, terminating: " ++ (TransportError.receiveFailed cause).message)

section Course

variable {s : Session} {arrivals : List Arrival}

theorem course_failure {cause : String} (none : Arrival.taken arrivals = [])
    (failure : Arrival.failure? arrivals = some cause) : s.course arrivals = s.farewell
      ("unable to receive messages, terminating: "
        ++ (TransportError.receiveFailed cause).message) := by
  have nothing : s.events arrivals = [] := by rw [events, none, List.filterMap_nil]
  rw [course, delivered, nothing, failure, Option.toList_some, List.flatMap_singleton]
  rfl

theorem course_cons (datagram : Datagram) : s.course (⟨.never, .ok datagram⟩ :: arrivals) =
    (s.audience (s.dispatcher.channel.cut datagram)).map (·.entry) ++
      if (s.audience (s.dispatcher.channel.cut datagram)).any (·.stops) then []
      else s.course arrivals := by
  rw [audience]
  cases h : s.dispatcher.channel.event? (s.dispatcher.channel.cut datagram) with
  | none =>
    have same : s.events (⟨.never, .ok datagram⟩ :: arrivals) = s.events arrivals :=
      List.filterMap_cons_none h
    rw [course, delivered, same]
    rfl
  | some event =>
    have more : s.events (⟨.never, .ok datagram⟩ :: arrivals) = event :: s.events arrivals :=
      List.filterMap_cons_some h
    rw [course, delivered, more, List.findIdx_cons, List.any_cons, Option.toList_some,
      List.flatMap_singleton]
    change _ = _ ++ if s.ends event then [] else _
    cases s.ends event with
    | true =>
      rw [cond_true, Nat.zero_add, List.take_succ_cons, List.take_zero, List.flatMap_singleton]
      rfl
    | false =>
      rw [cond_false, List.take_succ_cons, List.flatMap_cons, List.append_assoc]
      rfl

theorem course_eq {t : Session} (hearings : t.hearings = s.hearings)
    (fatal : t.dispatcher.fatal = s.dispatcher.fatal)
    (channel : t.dispatcher.channel = s.dispatcher.channel) (arrivals : List Arrival) :
    t.course arrivals = s.course arrivals := by
  have ends : t.ends = s.ends := by
    funext event
    rw [Session.ends, Session.ends, hearings]
  have farewell : t.farewell = s.farewell := by
    funext text
    rw [Session.farewell, Session.farewell, fatal]
  rw [course, course, delivered, delivered, events, events, channel, ends, farewell, hearings]

end Course

def Ended (outcome : Except SocketError Unit × Session) : Prop :=
  outcome.1 = .ok () ∧ outcome.2.dispatcher.state = .stopped

/-- Whoever stops the dispatcher by the time that something is received ends the loop, whatever is
received then. -/
theorem loop_stopped {s : Session} {fuel : Nat} (enough : 0 < fuel) (takes : s.Takes)
    (stopped : s.receive.2.dispatcher.shutdown = true) : Ended (loop fuel s) ∧
      s.host.Adds (Entry.isVisible s.host.ownPort) (loop fuel s).2.host [] := by
  rw [loop_of_shutdown enough takes stopped]
  exact ⟨⟨rfl, rfl⟩, receive_adds s fun _ => Entry.IsReceipt.isVisible⟩

theorem waited_adds {q : Entry → Bool} (s : Session) (socket : Nat)
    (hq : ∀ socket size, q (.receiveFrom socket size) = false) :
    s.host.Adds q (s.waited socket).host [] :=
  .of_append_hidden rfl (hq socket s.dispatcher.channel.mtu)

theorem loop_failure {s : Session} {socket : Nat} {cause : String} (fuel : Nat)
    (isOpen : s.dispatcher.channel.socket = some socket) (going : s.dispatcher.shutdown = false)
    (takes : s.Takes) (next : s.host.next = ⟨.never, .error cause⟩) :
    Ended (loop (fuel + 1) s) ∧
      s.host.Adds (Entry.isVisible s.host.ownPort) (loop (fuel + 1) s).2.host (s.farewell
        ("unable to receive messages, terminating: "
          ++ (TransportError.receiveFailed cause).message)) := by
  have still : (s.waited socket).dispatcher.shutdown = false := going
  rw [loop_of_error fuel (receive_failure isOpen takes next),
    if_neg (by rw [still]; exact Bool.false_ne_true)]
  exact ⟨⟨rfl, giveUp_state ..⟩, (waited_adds s socket fun _ _ => rfl).trans (giveUp_adds ..)⟩

theorem received_adds (s : Session) (socket : Nat) (datagram : Datagram) (ownPort : Int) :
    s.host.Adds (Entry.isVisible ownPort) (s.received socket datagram).host [] :=
  (waited_adds s socket fun _ _ => rfl).trans (.record_hidden rfl)

theorem loop_datagram {s : Session} {socket : Nat} {datagram : Datagram} (fuel : Nat)
    (isOpen : s.dispatcher.channel.socket = some socket) (going : s.dispatcher.shutdown = false)
    (takes : s.Takes) (next : s.host.next = ⟨.never, .ok datagram⟩) : loop (fuel + 1) s =
      loop fuel ((s.received socket datagram).handle (s.dispatcher.channel.cut datagram)) := by
  rw [loop_of_ok fuel (receive_datagram isOpen takes next)]
  exact if_neg (by rw [received_dispatcher, going]; exact Bool.false_ne_true)

theorem Takes.of_channel {s t : Session} (takes : s.Takes)
    (refusals : t.host.refusals = s.host.refusals)
    (mtu : t.dispatcher.channel.mtu = s.dispatcher.channel.mtu) : t.Takes := by
  rw [Takes, refusals, mtu]
  exact takes

theorem loop_course {s : Session} {socket fuel : Nat}
    (isOpen : s.dispatcher.channel.socket = some socket) (going : s.dispatcher.shutdown = false)
    (takes : s.Takes) (modest : s.Modest) (whole : s.Whole) (enough : s.host.inbox.length < fuel) :
    Ended (loop fuel s) ∧
      s.host.Adds (Entry.isVisible s.host.ownPort) (loop fuel s).2.host
        (s.course s.host.inbox) := by
  obtain ⟨arrivals, inbox⟩ : ∃ arrivals, s.host.inbox = arrivals := ⟨_, rfl⟩
  rw [inbox] at enough ⊢
  -- a turn takes the first arrival, and leaves the rest of them and the channel as they are unless
  -- it ends the loop
  induction arrivals generalizing s fuel with
  | nil =>
    obtain _ | fuel := fuel
    · exact absurd enough (Nat.not_lt_zero _)
    have next : s.host.next = ⟨.never, .error "inbox empty"⟩ := by rw [Host.next, inbox]; rfl
    rw [course_failure rfl rfl]
    exact loop_failure fuel isOpen going takes next
  | cons arrival rest ih =>
    have next : s.host.next = arrival := by rw [Host.next, inbox]; rfl
    have interrupted (stops : s.host.next.stops ≠ .never) :
        s.receive.2.dispatcher.shutdown = true := by
      rw [receive_open isOpen takes]
      exact meanwhile_shutdown stops (fun t h => by rw [take_dispatcher]; exact h) _
    obtain ⟨_ | _ | _, content⟩ := arrival
    · obtain _ | fuel := fuel
      · exact absurd enough (Nat.not_lt_zero _)
      cases content with
      | error cause =>
        rw [course_failure rfl rfl]
        exact loop_failure fuel isOpen going takes next
      | ok datagram =>
        have arrived := received_adds s socket datagram s.host.ownPort
        have told : Told _ _ (s.audience _) := handle_told (s := s.received socket datagram) modest
          whole (s.dispatcher.channel.cut datagram)
        have more : rest.length < fuel := Nat.lt_of_succ_lt_succ enough
        rw [loop_datagram fuel isOpen going takes next, course_cons]
        cases stops : (s.audience (s.dispatcher.channel.cut datagram)).any (·.stops) with
        | true =>
          obtain ⟨channel, stopped⟩ := told.stopped stops
          have still := takes.of_channel told.refusals (by
            obtain same | closed := channel
            · rw [same]; rfl
            · rw [closed]; rfl)
          have ended := loop_stopped (Nat.zero_lt_of_lt more) still (receive_shutdown stopped)
          rw [told.ownPort] at ended
          rw [if_pos rfl]
          exact ⟨ended.1, (arrived.hidden_trans told.journal).trans ended.2⟩
        | false =>
          obtain ⟨channel, shutdown, left⟩ := told.unstopped stops
          have later := ih (by rw [channel]; exact isOpen) (shutdown.trans going)
            (takes.of_channel told.refusals (by rw [channel]; rfl)) (told.modest modest)
            (told.whole whole) more (left.trans (congrArg List.tail inbox))
          rw [course_eq told.hearings told.fatal channel, told.ownPort] at later
          exact ⟨later.1, (arrived.hidden_trans told.journal).trans later.2⟩
    · exact loop_stopped (Nat.zero_lt_of_lt enough) takes (interrupted (by rw [next]; nofun))
    · exact loop_stopped (Nat.zero_lt_of_lt enough) takes (interrupted (by rw [next]; nofun))

def greet (s : Session) : Except Breakdown Unit × Host :=
  s.dispatcher.channel.send s.dispatcher.greeting
    (s.host.report (.running s.dispatcher.channel.backend))

def greetingEntries (s : Session) : List Entry :=
  s.dispatcher.channel.socket.toList.map fun socket =>
    .sendTo socket s.dispatcher.greeting s.dispatcher.channel.backend

theorem greet_journal (s : Session) : s.greet.2.journal =
    s.host.journal ++ .notice (.running s.dispatcher.channel.backend) :: s.greetingEntries := by
  rw [greet, greetingEntries]
  cases h : s.dispatcher.channel.socket with
  | none =>
    rw [Channel.send_none h]
    rfl
  | some socket =>
    rw [Channel.send_some h]
    dsimp only
    rw [Host.sendTo_journal]
    exact List.append_assoc ..

theorem greet_eq (s : Session) : ∃ calls more,
    s.greet.2 = { s.host with
      calls
      inbox := s.host.inbox ++ more
      journal := s.host.journal ++
        .notice (.running s.dispatcher.channel.backend) :: s.greetingEntries } := by
  obtain ⟨calls, more, entries, sent, -⟩ := s.dispatcher.channel.send_eq s.dispatcher.greeting
    (s.host.report (.running s.dispatcher.channel.backend))
  have journal := greet_journal s
  rw [greet] at journal ⊢
  rw [sent] at journal ⊢
  rw [← journal]
  exact ⟨calls, more, rfl⟩

def greeted (s : Session) : Session :=
  { dispatcher := { s.dispatcher with state := .running }, host := s.greet.2 }

theorem greeted_live (s : Session) : s.greeted.live = s.live := by
  obtain ⟨_, _, greeting⟩ := greet_eq s
  exact live_eq rfl (by rw [greeted, greeting]) (by rw [greeted, greeting])

theorem greeted_hearings (s : Session) : s.greeted.hearings = s.hearings := by
  funext event
  rw [hearings, hearings, greeted_live]
  rfl

theorem greeted_whole {s : Session} (whole : s.Whole) : s.greeted.Whole := by
  obtain ⟨_, _, greeting⟩ := greet_eq s
  exact whole_of_subset (s := s) (List.Subset.refl _) (by rw [greeted, greeting])
    (by rw [greeted, greeting]) (by rw [greeted, greeting]) whole

theorem greeted_takes {s : Session} (takes : s.Takes) : s.greeted.Takes := by
  obtain ⟨_, _, greeting⟩ := greet_eq s
  exact takes.of_channel (by rw [greeted, greeting]) rfl

theorem run_eq (s : Session) : s.run =
    match s.greet.1 with
    | .error (.raw e) => (.error e, s.greeted)
    | .error (.known e) =>
      (.ok (), (s.greeted.setState .stopped).giveUp ("unable to send initial packet: " ++ e.message))
    | .ok _ => loop s.greeted.turns s.greeted := by
  obtain ⟨result, host, sent⟩ : ∃ result host, s.greet = (result, host) := ⟨_, _, rfl⟩
  rw [run, meanwhile, serve, greeted, sent]
  rw [greet] at sent
  dsimp only [report, setState]
  rw [sent]
  obtain (_ | _) | _ := result <;> rfl

theorem turns_enough (s : Session) : s.host.inbox.length < s.turns := by
  rw [turns]
  exact Nat.lt_of_lt_of_le (Nat.lt_succ_self _) (Nat.le_add_right ..)

theorem run_of_greeted {s : Session} (h : s.greet.1 = .ok ()) :
    ∃ fuel, s.greet.2.inbox.length < fuel ∧ s.run = loop fuel s.greeted := by
  have enough := turns_enough s.greeted
  rw [run_eq, h]
  generalize s.greeted.turns = fuel at enough ⊢
  exact ⟨fuel, enough, rfl⟩

theorem isOpen_of_greet {s : Session} (h : s.greet.1 = .ok ()) :
    ∃ socket, s.dispatcher.channel.socket = some socket := by
  rw [greet] at h
  cases closed : s.dispatcher.channel.socket with
  | none =>
    rw [Channel.send_none closed] at h
    cases h
  | some socket => exact ⟨socket, rfl⟩

/-- The greeting goes out once and first. If it cannot be sent, nothing is received, and the failure
is all that follows. Otherwise the events of the trusted datagrams are delivered in the order in
which they arrive, each to the consumer and then to every callback, until nothing can be received
or somebody stops the dispatcher; only in the first case is there a failure to pass on. What a socket
does not take leaves the loop as it stands. Callbacks are alive, or dead and not mistaken for one that
is alive. -/
theorem run_course (s : Session) (going : s.dispatcher.shutdown = false) (modest : s.Modest)
    (whole : s.Whole) :
    ∃ rest, s.run.2.host.journal =
        s.host.journal ++ .notice (.running s.dispatcher.channel.backend) :: s.greetingEntries ++
          rest ∧
      match s.greet.1, s.host.refusals.size s.dispatcher.channel.mtu with
      | .error (.raw e), _ => s.run.1 = .error e ∧ rest = []
      | .error (.known e), _ =>
        Ended s.run ∧ rest = s.farewell ("unable to send initial packet: " ++ e.message)
      | .ok _, some cause => s.run.1 = .error (.refused cause) ∧
        rest.filter (Entry.isVisible s.host.ownPort) = []
      | .ok _, none => Ended s.run ∧
        rest.filter (Entry.isVisible s.host.ownPort) = s.course s.greet.2.inbox := by
  rw [← greet_journal]
  cases greeting : s.greet.1 with
  | error breakdown =>
    cases breakdown with
    | raw e =>
      rw [run_eq, greeting]
      exact ⟨[], (List.append_nil _).symm, rfl, rfl⟩
    | known e =>
      rw [run_eq, greeting]
      exact ⟨_, giveUp_journal .., ⟨rfl, giveUp_state ..⟩, rfl⟩
  | ok _ =>
    obtain ⟨socket, isOpen⟩ := isOpen_of_greet greeting
    obtain ⟨fuel, enough, run⟩ := run_of_greeted greeting
    obtain ⟨_, _, greeted⟩ := greet_eq s
    have ownPort : s.greeted.host.ownPort = s.host.ownPort := by rw [Session.greeted, greeted]
    have refusals : s.greeted.host.refusals = s.host.refusals := by rw [Session.greeted, greeted]
    rw [run]
    cases refused : s.host.refusals.size s.dispatcher.channel.mtu with
    | some cause =>
      obtain _ | fuel := fuel
      · exact absurd enough (Nat.not_lt_zero _)
      rw [loop_of_raw fuel (receive_refused (s := s.greeted) isOpen (refusals ▸ refused))]
      exact ⟨[.receiveFrom socket s.dispatcher.channel.mtu], rfl, rfl, rfl⟩
    | none =>
      have course := loop_course (s := s.greeted) isOpen going (greeted_takes refused)
        (by rw [Modest, greeted_hearings]; exact modest) (greeted_whole whole) enough
      rw [course_eq (greeted_hearings s) rfl rfl, ownPort] at course
      obtain ⟨ended, rest, journal, visible⟩ := course
      exact ⟨rest, journal, ended, visible⟩

def offer : Datagram :=
  ⟨Frame.layout Frame.keyCode 5 (["bob", ""].map Utf8.encode), ⟨.text "127.0.0.1", 41244⟩⟩

def watched : Session where
  dispatcher := {
    channel := {
      backend := ⟨.text "127.0.0.1", 41244⟩
      bindAddress := .text ""
      mtu := 1500
      socket := some 0 }
    consumer := some ⟨fun _ _ _ => [], fun _ => [.fail "no"]⟩
    greeting := [104, 105]
    hops := 5
    fatal := .note
    callbacks := [⟨.plain 0, 0⟩] }
  host := {
    inbox := [{ content := .ok offer }, { content := .ok offer }]
    listeners := fun _ => ⟨"watch", fun _ => [.stop]⟩
    kept := [("watch", .plain 0)] }

theorem event?_offer : watched.dispatcher.channel.event? (watched.dispatcher.channel.cut offer) =
    some (.keyOffer (.text "bob")) := by
  have trusted : watched.dispatcher.channel.objection? offer.origin = none := rfl
  have whole : watched.dispatcher.channel.cut offer = offer := by
    rw [Channel.cut, Frame.slice_of_length_le (by decide)]
  have fits : Frame.Fits ("bob" :: Frame.secretsOf "" none) := by decide
  rw [whole, Channel.event?, trusted]
  exact congrArg Prod.fst (Frame.decode_key_alone fits (by decide))

theorem watched_whole : watched.Whole := whole_of_alive (List.forall_mem_singleton.mpr rfl)

theorem run_course_watched : watched.dispatcher.shutdown = false ∧ watched.Modest ∧
    watched.Whole ∧ Ended watched.run ∧
    ∃ rest, watched.run.2.host.journal =
        [.notice (.running ⟨.text "127.0.0.1", 41244⟩),
          .sendTo 0 [104, 105] ⟨.text "127.0.0.1", 41244⟩] ++ rest ∧
      rest.filter (Entry.isVisible 40000) =
        [.contactCreated (.text "bob"), .callback "watch" (.keyOffer (.text "bob"))] := by
  have modest : watched.Modest := by
    intro event
    cases event <;> simp [hearings, consumerHearings, live, Listener.hearing, watched, Event.call?,
      Consumer.reaction, Host.listener?, Host.isAlive, Callable.things, Action.isModest]
  have course : watched.course watched.greet.2.inbox =
      [.contactCreated (.text "bob"), .callback "watch" (.keyOffer (.text "bob"))] := by
    have inbox : watched.greet.2.inbox = [{ content := .ok offer }, { content := .ok offer }] := rfl
    rw [inbox, course_cons, audience, event?_offer]
    rfl
  obtain ⟨rest, journal, ended, visible⟩ := run_course watched rfl modest watched_whole
  exact ⟨rfl, modest, watched_whole, ended, rest, journal, visible.trans course⟩

end Session

end ChatLink
