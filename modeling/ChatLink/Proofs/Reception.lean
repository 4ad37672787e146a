import ChatLink.Proofs.Loop

namespace ChatLink

def Datagram.arrival (datagram : Datagram) : Arrival := { content := .ok datagram }

theorem Host.Adds.of_imp {p q : Entry → Bool} {h k : Host} {entries : List Entry}
    (hk : Adds p h k entries) (hqp : ∀ entry, q entry → p entry) :
    Adds q h k (entries.filter q) := by
  obtain ⟨rest, hj, rfl⟩ := hk
  refine ⟨rest, hj, ?_⟩
  rw [List.filter_filter]
  refine List.filter_congr fun entry _ => ?_
  cases hq : q entry with
  | false => rfl
  | true => rw [hqp entry hq, Bool.and_self]

theorem Entry.isConsumerCall_of_isUpkeep {entry : Entry} (h : entry.IsUpkeep) :
    entry.isConsumerCall = false := by
  cases entry <;> first | rfl | cases h

namespace Session

def calls (channel : Channel) (datagram : Datagram) : List Entry :=
  ((channel.event? (channel.cut datagram)).bind Event.call?).toList

/-- There is a consumer, and nobody who is told of an event stops the dispatcher. What they send does
not come back. -/
structure Attentive (s : Session) : Prop where
  consumer : s.dispatcher.consumer.isSome
  allows : s.Allows False
  going : s.dispatcher.shutdown = false
  takes : s.Takes
  away : s.dispatcher.channel.backend.port ≠ s.host.ownPort

section Calls

variable {s t : Session}

theorem hidden_moves {stops : Prop}
    (h : Moves (fun entry => entry.isConsumerCall = false) stops s t) :
    s.host.Adds Entry.isConsumerCall t.host [] :=
  h.adds fun _ => Or.rec id Entry.isConsumerCall_of_isUpkeep

theorem tellConsumer_calls (h : s.dispatcher.consumer.isSome) (event : Event) :
    s.host.Adds Entry.isConsumerCall (s.tellConsumer event).host event.call?.toList := by
  obtain ⟨consumer, present⟩ := Option.isSome_iff_exists.mp h
  rw [tellConsumer_eq, present]
  cases call : event.call? with
  | none => exact .refl _
  | some entry =>
    exact (Host.Adds.record_visible (Event.isConsumerCall_of_call? call)).trans_hidden
      (hidden_moves (act_moves _ (fun action _ => action.allowed_true) fun _ => rfl))

theorem propagate_calls (h : s.dispatcher.consumer.isSome) (event : Event) :
    s.host.Adds Entry.isConsumerCall (s.propagate event).host event.call?.toList := by
  have callbacks : Moves (fun entry => entry.isConsumerCall = false) True (s.tellConsumer event)
      (s.propagate event) := by
    rw [propagate]
    exact (tellCallbacks_moves (fun _ => rfl) (fun _ => rfl) (allows_true _) ..).trans
      (clean_moves ..)
  exact (tellConsumer_calls h event).trans_hidden (hidden_moves callbacks)

theorem dispatch_calls (h : s.dispatcher.consumer.isSome) (data : Bytes) (bound : Option Int) :
    s.host.Adds Entry.isConsumerCall (s.dispatch data bound).host
      ((Frame.decode data bound).1.bind Event.call?).toList := by
  have read : s.host.Adds Entry.isConsumerCall (s.host.reportAll (Frame.decode data bound).2) [] :=
    .reportAll fun _ _ => rfl
  rw [dispatch]
  dsimp only
  cases (Frame.decode data bound).1 with
  | none => exact read
  | some event =>
    exact read.hidden_trans (propagate_calls
      (s := { s with host := s.host.reportAll (Frame.decode data bound).2 }) h event)

theorem handle_calls (h : s.dispatcher.consumer.isSome) (datagram : Datagram) :
    s.host.Adds Entry.isConsumerCall (s.handle datagram).host
      ((s.dispatcher.channel.event? datagram).bind Event.call?).toList := by
  rw [handle_eq, Channel.event?]
  cases s.dispatcher.channel.objection? datagram.origin with
  | none => exact dispatch_calls h datagram.data none
  | some notice => exact .record_hidden rfl

theorem Attentive.of_moves {p : Entry → Prop} (h : s.Attentive) (moves : Moves p False s t) :
    t.Attentive where
  consumer := by
    rw [moves.undisturbed.consumer]
    exact h.consumer
  allows := moves.allows h.allows
  going := moves.undisturbed.shutdown.trans h.going
  takes := h.takes.of_channel moves.undisturbed.refusals (by rw [moves.undisturbed.channel])
  away := by
    rw [moves.undisturbed.channel, moves.undisturbed.ownPort]
    exact h.away

theorem loop_calls {received : List Datagram} {socket fuel : Nat} (h : s.Attentive)
    (isOpen : s.dispatcher.channel.socket = some socket)
    (waiting : s.host.inbox = received.map Datagram.arrival) (enough : received.length < fuel) :
    s.host.Adds Entry.isConsumerCall (loop fuel s).2.host
      (received.flatMap (calls s.dispatcher.channel)) := by
  induction received generalizing s fuel with
  | nil =>
    obtain _ | fuel := fuel
    · exact absurd enough (Nat.not_lt_zero _)
    have next : s.host.next = ⟨.never, .error "inbox empty"⟩ := by rw [Host.next, waiting]; rfl
    have ended := (loop_failure fuel isOpen h.going h.takes next).2.of_imp
      fun _ => Entry.isVisible_of_isConsumerCall
    have none (text : String) : (s.farewell text).filter Entry.isConsumerCall = [] := by
      rw [farewell]
      cases s.dispatcher.fatal <;> rfl
    rwa [none] at ended
  | cons datagram rest ih =>
    obtain _ | fuel := fuel
    · exact absurd enough (Nat.not_lt_zero _)
    have next : s.host.next = ⟨.never, .ok datagram⟩ := by rw [Host.next, waiting]; rfl
    have arrived : s.host.Adds Entry.isConsumerCall (s.received socket datagram).host [] :=
      (waited_adds s socket fun _ _ => rfl).trans (.record_hidden rfl)
    have told : Host.Adds _ _ _ (calls s.dispatcher.channel datagram) := handle_calls
      (s := s.received socket datagram) h.consumer (s.dispatcher.channel.cut datagram)
    have attentive : (s.received socket datagram).Attentive :=
      ⟨h.consumer, h.allows.of_subset rfl rfl fun _ => id, h.going, h.takes, h.away⟩
    have handled := handle_moves (p := fun _ => True) attentive.allows (fun _ _ => trivial)
      (fun _ _ => trivial) (fun _ _ _ => trivial) (s.dispatcher.channel.cut datagram)
    have channel := handled.undisturbed.channel
    have left := handled.undisturbed.inbox h.away
    have later := ih (attentive.of_moves handled) (by rw [channel]; exact isOpen)
      (left.trans (congrArg List.tail waiting)) (Nat.lt_of_succ_lt_succ enough)
    rw [channel] at later
    rw [loop_datagram fuel isOpen h.going h.takes next, List.flatMap_cons]
    exact (arrived.hidden_trans told).trans later

theorem greet_calls (s : Session) : s.host.Adds Entry.isConsumerCall s.greet.2 [] := by
  refine ⟨_, greet_journal s, ?_⟩
  rw [greetingEntries]
  cases s.dispatcher.channel.socket <;> rfl

theorem Attentive.greeted (h : s.Attentive) : s.greeted.Attentive := by
  obtain ⟨_, _, greeting⟩ := greet_eq s
  have same : s.greeted.host.ownPort = s.host.ownPort := by rw [Session.greeted, greeting]
  refine ⟨h.consumer, h.allows.of_subset rfl ?_ ?_, h.going, greeted_takes h.takes, ?_⟩
  · rw [Session.greeted, greeting]
  · rw [Session.greeted, greeting]
    exact fun _ => id
  · rw [same]
    exact h.away

theorem run_calls {received : List Datagram} (h : s.Attentive) (greeting : s.greet.1 = .ok ())
    (waiting : s.greet.2.inbox = received.map Datagram.arrival) :
    s.host.Adds Entry.isConsumerCall s.run.2.host
      (received.flatMap (calls s.dispatcher.channel)) := by
  obtain ⟨socket, isOpen⟩ := isOpen_of_greet greeting
  obtain ⟨fuel, enough, run⟩ := run_of_greeted greeting
  rw [waiting, List.length_map] at enough
  rw [run]
  exact (greet_calls s).hidden_trans (loop_calls (s := s.greeted) h.greeted isOpen waiting enough)

end Calls

end Session

end ChatLink
