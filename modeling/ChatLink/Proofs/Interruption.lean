import ChatLink.Proofs.Audience
import ChatLink.Proofs.Loop
import ChatLink.Proofs.Ownership

/-!
Where somebody stops a dispatcher in the middle of something. From the moment at which the channel is
closed, all that is still done is to finish what was begun: the delivery of one event, the receipt of
a datagram that is not looked at, or a greeting that cannot be sent any more.
-/

namespace ChatLink

theorem Entry.isSocketCall_of_concerns {event : Event} {entry : Entry} (h : entry.Concerns event) :
    entry.isSocketCall = false := by
  cases entry <;> first | rfl | cases h

theorem Entry.isTold_of_isReceipt {ownPort : Int} {entry : Entry} (h : entry.IsReceipt ownPort) :
    entry.isTold = false := by
  cases entry <;> first | rfl | cases h

theorem Entry.isTold_of_isStop {ownPort : Int} {entry : Entry} (h : entry.IsStop ownPort) :
    entry.isTold = false :=
  isTold_of_isReceipt (.of_isStop h)

namespace Session

/-- Whoever stops the dispatcher gets it done: its socket tells its name and takes it for a target,
and its thread can be begun. -/
structure Wakeable (s : Session) : Prop where
  naming : ∀ call, (s.host.faults call).naming = none
  target : s.host.refusals.target
    (Channel.reach (s.host.nameOf s.dispatcher.channel.bindAddress)) = none
  spawning : ∀ call, (s.host.faults call).spawning = none
  thread : s.dispatcher.thread ≠ .unbegun

structure Follows (s t : Session) : Prop where
  channel : t.dispatcher.channel = s.dispatcher.channel
  journal : s.host.journal <+: t.host.journal
  shut : s.dispatcher.shutdown = true → t.dispatcher.shutdown = true
  wakeable : s.Wakeable → t.Wakeable

/-- Nobody has stopped the dispatcher meanwhile, unless they failed to. -/
structure Going (s t : Session) : Prop extends Follows s t where
  shutdown : s.Wakeable → t.dispatcher.shutdown = s.dispatcher.shutdown

structure Quiet (s t : Session) : Prop extends Follows s t where
  silent : s.host.Adds Entry.isTold t.host []

structure Closing (s t : Session) : Prop extends Quiet s t where
  shutdown : t.dispatcher.shutdown = true

structure Calm (p : Entry → Prop) (s t : Session) : Prop where
  dispatcher : ∃ callbacks, t.dispatcher = { s.dispatcher with callbacks }
  journal : ∃ added, t.host.journal = s.host.journal ++ added ∧ ∀ entry ∈ added, p entry
  calls : t.host.calls = s.host.calls
  faults : t.host.faults = s.host.faults

def unsent : String := "unable to send initial packet: " ++ TransportError.closedForSending.message

/-- What is left to do in a session `s` whose channel was closed meanwhile: nothing, or to take what
was waited for, or to go on with the delivery of an event, or to give up since the greeting cannot be
sent. -/
inductive Overdue (s : Session) : Session → Prop
  | nothing : Overdue s s
  | receipt (size : Nat) (origin : Endpoint) : Overdue s (s.report (.arrived size origin))
  | delivery {t : Session} (event : Event) (h : Calm (Entry.Concerns event) s t) : Overdue s t
  | greeting : Overdue s (s.giveUp unsent)

/-- Somebody stops the dispatcher between `s` and `t`: they ask it to end after `u`, and close its
channel at `v`. -/
def Interrupted (s t : Session) : Prop := ∃ u v, Going s u ∧ Closing u v ∧ Overdue v.release t

variable {p : Entry → Prop} {s t u : Session}

section Wakeable

theorem Wakeable.wakeError? (h : s.Wakeable) :
    s.dispatcher.channel.wakeError? s.host = none := by
  rw [Channel.wakeError?, h.naming, h.target]
  cases s.dispatcher.channel.socket <;> rfl

theorem halt_result (s : Session) : s.halt.1 =
    match s.dispatcher.channel.wakeError? s.host with
    | some error => .error (.socket error)
    | none => if s.dispatcher.thread = .unbegun then .error .threadNotBegun else .ok () := by
  have raw := @Channel.wake_raw_iff s.dispatcher.channel s.host
  rw [halt]
  dsimp only
  generalize s.dispatcher.channel.wake s.host = outcome at raw
  cases escape : s.dispatcher.channel.wakeError? s.host with
  | some error =>
    obtain ⟨result, host⟩ := outcome
    obtain rfl : result = .error (.raw error) := raw.mpr escape
    rfl
  | none =>
    obtain ⟨(error | error) | _, host⟩ := outcome
    · dsimp only
      split <;> rfl
    · rw [raw.mp rfl] at escape
      cases escape
    · dsimp only
      split <;> rfl

theorem Wakeable.halt_ok (h : s.Wakeable) : s.halt.1 = .ok () := by
  rw [halt_result, h.wakeError?, if_neg h.thread]

theorem Wakeable.of_eq (h : s.Wakeable) (faults : t.host.faults = s.host.faults)
    (refusals : t.host.refusals = s.host.refusals) (ownPort : t.host.ownPort = s.host.ownPort)
    (channel : t.dispatcher.channel = s.dispatcher.channel)
    (thread : t.dispatcher.thread = s.dispatcher.thread) : t.Wakeable where
  naming := faults ▸ h.naming
  target := by
    have same : t.host.nameOf = s.host.nameOf := by
      funext address
      rw [Host.nameOf, Host.nameOf, ownPort]
    rw [refusals, same, channel]
    exact h.target
  spawning := faults ▸ h.spawning
  thread := thread ▸ h.thread

end Wakeable

namespace Follows

theorem refl (s : Session) : Follows s s := ⟨rfl, List.prefix_rfl, id, id⟩

theorem trans (st : Follows s t) (tu : Follows t u) : Follows s u :=
  ⟨tu.channel.trans st.channel, st.journal.trans tu.journal, tu.shut ∘ st.shut,
    tu.wakeable ∘ st.wakeable⟩

end Follows

namespace Going

theorem refl (s : Session) : Going s s := ⟨.refl s, fun _ => rfl⟩

theorem trans (st : Going s t) (tu : Going t u) : Going s u :=
  ⟨st.toFollows.trans tu.toFollows, fun h =>
    (tu.shutdown (st.wakeable h)).trans (st.shutdown h)⟩

theorem of_host {host : Host} (journal : s.host.journal <+: host.journal)
    (faults : host.faults = s.host.faults) (refusals : host.refusals = s.host.refusals)
    (ownPort : host.ownPort = s.host.ownPort) : Going s { s with host } :=
  ⟨⟨rfl, journal, id, fun h => h.of_eq faults refusals ownPort rfl rfl⟩, fun _ => rfl⟩

theorem record (s : Session) (entry : Entry) : Going s (s.record entry) :=
  of_host (List.prefix_append ..) rfl rfl rfl

theorem setState (s : Session) (state : State) : Going s (s.setState state) :=
  ⟨⟨rfl, List.prefix_rfl, id, fun h => h.of_eq rfl rfl rfl rfl rfl⟩, fun _ => rfl⟩

theorem sendData (s : Session) (data : Bytes) : Going s (s.sendData data).2 := by
  obtain ⟨_, _, _, sent, -⟩ := s.sendData_eq data
  rw [sent]
  exact of_host (List.prefix_append ..) rfl rfl rfl

theorem giveUp (s : Session) (text : String) : Going s (s.giveUp text) := by
  rw [Session.giveUp]
  cases s.dispatcher.fatal with
  | note => exact record s _
  | terminate => exact ((record s _).trans (record ..)).trans (record ..)

theorem interrupted (st : Going s t) (tu : Interrupted t u) : Interrupted s u := by
  obtain ⟨v, w, going, closing, overdue⟩ := tu
  exact ⟨v, w, st.trans going, closing, overdue⟩

end Going

theorem Quiet.refl (s : Session) : Quiet s s := ⟨.refl s, .refl _⟩

theorem Quiet.trans (st : Quiet s t) (tu : Quiet t u) : Quiet s u :=
  ⟨st.toFollows.trans tu.toFollows, st.silent.trans tu.silent⟩

theorem Quiet.closing (st : Quiet s t) (tu : Closing t u) : Closing s u :=
  ⟨st.trans tu.toQuiet, tu.shutdown⟩

theorem Closing.interrupted (st : Closing s t) (overdue : Overdue t.release u) :
    Interrupted s u :=
  ⟨s, t, .refl s, st, overdue⟩

section Halt

theorem halt_follows (s : Session) : Follows s s.halt.2 := by
  obtain ⟨_, _, _, halted, -⟩ := s.halt_eq
  rw [halted]
  exact ⟨rfl, List.prefix_append .., fun _ => rfl, fun h => h.of_eq rfl rfl rfl rfl rfl⟩

theorem halt_closing (s : Session) : Closing s s.halt.2 :=
  ⟨⟨s.halt_follows, s.halt_adds fun _ => Entry.isTold_of_isStop⟩, s.shutdown_halt⟩

theorem halt_going {error : StopError} (failed : s.halt.1 = .error error) : Going s s.halt.2 where
  toFollows := s.halt_follows
  shutdown h := by
    rw [h.halt_ok] at failed
    cases failed

theorem Closing.stopped (h : Closing s t) : t.release.Stopped := stopped_release h.shutdown

end Halt

namespace Calm

theorem of_host {host : Host} {added : List Entry}
    (journal : host.journal = s.host.journal ++ added) (passes : ∀ entry ∈ added, p entry)
    (calls : host.calls = s.host.calls) (faults : host.faults = s.host.faults) :
    Calm p s { s with host } :=
  ⟨⟨s.dispatcher.callbacks, rfl⟩, ⟨added, journal, passes⟩, calls, faults⟩

theorem refl (s : Session) : Calm p s s := of_host (List.append_nil _).symm nofun rfl rfl

theorem record {entry : Entry} (h : p entry) (s : Session) : Calm p s (s.record entry) :=
  of_host rfl (List.forall_mem_singleton.mpr h) rfl rfl

theorem trans (st : Calm p s t) (tu : Calm p t u) : Calm p s u := by
  obtain ⟨callbacks, dispatcher⟩ := st.dispatcher
  obtain ⟨callbacks', dispatcher'⟩ := tu.dispatcher
  obtain ⟨added, journal, passes⟩ := st.journal
  obtain ⟨added', journal', passes'⟩ := tu.journal
  refine ⟨⟨callbacks', by rw [dispatcher', dispatcher]⟩, ⟨added ++ added', ?_, ?_⟩,
    tu.calls.trans st.calls, tu.faults.trans st.faults⟩
  · rw [journal', journal, List.append_assoc]
  · exact List.forall_mem_append.mpr ⟨passes, passes'⟩

theorem imp {q : Entry → Prop} (st : Calm p s t) (h : ∀ entry, p entry → q entry) :
    Calm q s t := by
  obtain ⟨added, journal, passes⟩ := st.journal
  exact ⟨st.dispatcher, ⟨added, journal, fun entry added => h entry (passes entry added)⟩,
    st.calls, st.faults⟩

theorem stopped (st : Calm p s t) (h : s.Stopped) : t.Stopped := by
  obtain ⟨callbacks, dispatcher⟩ := st.dispatcher
  refine ⟨?_, ?_, ?_⟩
  all_goals rw [dispatcher]
  · exact h.shutdown
  · exact h.socket
  · exact h.state

theorem adds {q : Entry → Bool} (st : Calm p s t) (hq : ∀ entry, p entry → q entry = false) :
    s.host.Adds q t.host [] := by
  obtain ⟨added, journal, passes⟩ := st.journal
  exact .of_forall journal fun entry mem => hq entry (passes entry mem)

end Calm

theorem Stopped.sendData_eq (h : s.Stopped) (data : Bytes) :
    s.sendData data = (.ok false, s.report (.notSent .closedForSending)) := by
  rw [sendData, Channel.send_none h.socket]
  rfl

section Moves

variable {stops : Prop}

theorem Move.going_or_stop (h : Move p stops s t) :
    Going s t ∨ s.halt.1 = .ok () ∧ t = s.halt.2.release := by
  cases h with
  | stop =>
    cases halted : s.halt.1 with
    | error error =>
      rw [stop_of_error halted]
      exact .inl (halt_going halted)
    | ok =>
      rw [stop_of_ok halted]
      exact .inr ⟨rfl, rfl⟩
  | send data => exact .inl (.sendData s data)
  | record => exact .inl (.record s _)
  | arrange => exact .inl (.of_host List.prefix_rfl rfl rfl rfl)
  | callbacks =>
    exact .inl ⟨⟨rfl, List.prefix_rfl, id, fun h => h.of_eq rfl rfl rfl rfl rfl⟩, fun _ => rfl⟩

variable (hp : ∀ error, p (.notice (.notSent error)))

include hp

theorem Move.calm (h : Move p stops s t) (stopped : s.Stopped) : Calm p s t := by
  cases h with
  | stop =>
    rw [stopped.stop_eq]
    exact .refl s
  | send data =>
    rw [stopped.sendData_eq]
    exact .record (hp _) s
  | record passes => exact .record passes s
  | arrange => exact .of_host (List.append_nil _).symm nofun rfl rfl
  | callbacks => exact ⟨⟨_, rfl⟩, ⟨[], (List.append_nil _).symm, nofun⟩, rfl, rfl⟩

theorem Moves.calm (h : Moves p stops s t) (stopped : s.Stopped) : Calm p s t := by
  induction h with
  | refl => exact .refl s
  | tail _ last ih => exact ih.trans (last.calm hp (ih.stopped stopped))

/-- The first move that closes the channel leaves it closed for all that come after it. -/
theorem Moves.going_or_calm (h : Moves p stops s t) :
    Going s t ∨ ∃ u, Going s u ∧ Calm p u.halt.2.release t := by
  induction h with
  | refl => exact .inl (.refl s)
  | tail _ last ih =>
    obtain before | ⟨u, before, after⟩ := ih
    · obtain going | ⟨-, rfl⟩ := last.going_or_stop
      · exact .inl (before.trans going)
      · exact .inr ⟨_, before, .refl _⟩
    · exact .inr ⟨u, before, after.trans (last.calm hp (after.stopped u.halt_closing.stopped))⟩

end Moves

theorem Overdue.stopped (h : Overdue s t) (stopped : s.Stopped) : t.Stopped := by
  cases h with
  | nothing => exact stopped
  | receipt => exact ⟨stopped.shutdown, stopped.socket, stopped.state⟩
  | delivery event calm => exact calm.stopped stopped
  | greeting =>
    rw [giveUp]
    split <;> exact ⟨stopped.shutdown, stopped.socket, stopped.state⟩

theorem isSocketCall_farewell {text : String} :
    ∀ entry ∈ s.farewell text, entry.isSocketCall = false := by
  rw [farewell]
  cases s.dispatcher.fatal <;> simp [Entry.isSocketCall, Entry.socket?]

theorem Overdue.socketCalls (h : Overdue s t) : s.host.Adds Entry.isSocketCall t.host [] := by
  cases h with
  | nothing => exact .refl _
  | receipt => exact .record_hidden rfl
  | delivery event calm => exact calm.adds fun _ => Entry.isSocketCall_of_concerns
  | greeting => exact .of_forall (giveUp_journal s unsent) isSocketCall_farewell

theorem Interrupted.stopped (h : Interrupted s t) : t.Stopped := by
  obtain ⟨u, v, -, closing, overdue⟩ := h
  exact overdue.stopped closing.stopped

theorem Moves.outcome {stops : Prop} (event : Event) (h : Moves (Entry.Concerns event) stops s t) :
    Going s t ∨ Interrupted s t := by
  obtain going | ⟨u, going, calm⟩ := h.going_or_calm fun _ => trivial
  · exact .inl going
  · exact .inr ⟨u, _, going, u.halt_closing, .delivery event calm⟩

theorem dispatch_outcome (s : Session) (data : Bytes) (bound : Option Int) :
    Going s (s.dispatch data bound) ∨ Interrupted s (s.dispatch data bound) := by
  have read : Going s { s with host := s.host.reportAll (Frame.decode data bound).2 } := by
    rw [Host.reportAll_eq]
    exact .of_host (List.prefix_append ..) rfl rfl rfl
  rw [dispatch]
  dsimp only
  split
  · exact .inl read
  · rename_i event _
    exact ((propagate_moves (allows_true _) event).outcome event).imp read.trans read.interrupted

theorem handle_outcome (s : Session) (datagram : Datagram) :
    Going s (s.handle datagram) ∨ Interrupted s (s.handle datagram) := by
  rw [handle_eq]
  split
  · exact .inl (.record s _)
  · exact dispatch_outcome s datagram.data none

def Awaited (s t : Session) : Prop :=
  Quiet s t ∨ ∃ v, Closing s v ∧ Overdue v.release t

theorem Quiet.awaited (st : Quiet s t) (tu : Awaited t u) : Awaited s u :=
  tu.imp st.trans fun ⟨v, closing, overdue⟩ => ⟨v, st.closing closing, overdue⟩

theorem waited_going (s : Session) (socket : Nat) : Going s (s.waited socket) :=
  .of_host (List.prefix_append ..) rfl rfl rfl

theorem waited_quiet (s : Session) (socket : Nat) : Quiet s (s.waited socket) :=
  ⟨(waited_going s socket).toFollows, waited_adds s socket fun _ _ => rfl⟩

theorem take_going (arrival : Arrival) (s : Session) : Going s (take arrival s).2 := by
  obtain same | ⟨_, _, taken⟩ := take_session arrival s
  · rw [same]
    exact .refl s
  · rw [taken]
    exact .record s _

theorem take_quiet (arrival : Arrival) (s : Session) : Quiet s (take arrival s).2 := by
  refine ⟨(take_going arrival s).toFollows, ?_⟩
  obtain same | ⟨_, _, taken⟩ := take_session arrival s
  · rw [same]
    exact .refl _
  · rw [taken]
    exact .record_hidden rfl

theorem take_overdue (arrival : Arrival) (s : Session) : Overdue s (take arrival s).2 := by
  obtain same | ⟨_, _, taken⟩ := take_session arrival s
  · rw [same]
    exact .nothing
  · rw [taken]
    exact .receipt ..

theorem receive_outcome (s : Session) :
    Quiet s s.receive.2 ∧ Going s s.receive.2 ∨ ∃ v, Closing s v ∧ Overdue v.release s.receive.2 := by
  cases isOpen : s.dispatcher.channel.socket with
  | none =>
    rw [receive_closed isOpen]
    exact .inl ⟨.refl s, .refl s⟩
  | some socket =>
    cases refused : s.host.refusals.size s.dispatcher.channel.mtu with
    | some cause =>
      have asked : Going s (s.asked socket) := .of_host (List.prefix_append ..) rfl rfl rfl
      rw [receive_refused isOpen refused]
      exact .inl ⟨⟨asked.toFollows, .of_append_hidden rfl rfl⟩, asked⟩
    | none =>
      have quiet := waited_quiet s socket
      have going := waited_going s socket
      have closing := quiet.closing (halt_closing (s.waited socket))
      -- whoever does not manage to stop the dispatcher leaves its channel open
      have failed {error : StopError} (h : (s.waited socket).halt.1 = .error error) :
          Quiet s (take s.host.next (s.waited socket).halt.2).2 ∧
            Going s (take s.host.next (s.waited socket).halt.2).2 :=
        ⟨closing.toQuiet.trans (take_quiet ..),
          (going.trans (halt_going h)).trans (take_going ..)⟩
      rw [receive_open isOpen refused]
      cases s.host.next.stops with
      | never => exact .inl ⟨quiet.trans (take_quiet ..), going.trans (take_going ..)⟩
      | atOnce =>
        rw [meanwhile]
        cases halted : (s.waited socket).halt.1 with
        | error error =>
          rw [stop_of_error halted]
          exact .inl (failed halted)
        | ok =>
          rw [stop_of_ok halted]
          exact .inr ⟨_, closing, take_overdue ..⟩
      | patiently =>
        rw [meanwhile]
        generalize outcome : (s.waited socket).halt = halted at failed closing ⊢
        obtain ⟨_ | _, t⟩ := halted
        · exact .inl (failed rfl)
        · refine .inr ⟨_, ⟨closing.toQuiet.trans (take_quiet s.host.next t), ?_⟩, .nothing⟩
          rw [take_dispatcher]
          exact closing.shutdown

theorem Stopped.loop_eq (h : s.Stopped) (fuel : Nat) : loop fuel s = (.ok (), s) := by
  cases fuel with
  | zero => rfl
  | succ fuel =>
    rw [loop_of_error fuel (receive_closed h.socket), if_pos h.shutdown, h.setState_eq]

theorem Going.loop_of_error {error : TransportError} (st : Going s t)
    (failed : s.receive = (.error (.known error), t)) (fuel : Nat) :
    Going s (loop (fuel + 1) s).2 := by
  rw [Session.loop_of_error fuel failed]
  dsimp only
  split
  · exact st.trans (.setState ..)
  · exact st.trans ((Going.setState ..).trans (.giveUp ..))

theorem loop_outcome (s : Session) (fuel : Nat) :
    Going s (loop fuel s).2 ∨ Interrupted s (loop fuel s).2 := by
  induction fuel generalizing s with
  | zero => exact .inl (.refl s)
  | succ fuel ih =>
    obtain ⟨result, t, received⟩ : ∃ result t, s.receive = (result, t) := ⟨_, _, rfl⟩
    have outcome := receive_outcome s
    rw [received] at outcome
    obtain ⟨-, going⟩ | ⟨v, closing, overdue⟩ := outcome
    · match result with
      | .error (.raw error) =>
        rw [loop_of_raw fuel received]
        exact .inl going
      | .error (.known error) => exact .inl (going.loop_of_error received fuel)
      | .ok datagram =>
        rw [loop_of_ok fuel received]
        split
        · exact .inl (going.trans (.setState ..))
        · obtain handled | interrupted := handle_outcome t datagram
          · exact (ih _).imp (going.trans handled).trans (going.trans handled).interrupted
          · rw [interrupted.stopped.loop_eq]
            exact .inr (going.interrupted interrupted)
    · have stopped := overdue.stopped closing.stopped
      refine .inr (closing.interrupted ?_)
      match result with
      | .error (.raw error) =>
        rw [loop_of_raw fuel received]
        exact overdue
      | .error (.known error) =>
        rw [loop_of_error fuel received, if_pos stopped.shutdown, stopped.setState_eq]
        exact overdue
      | .ok datagram =>
        rw [loop_of_ok fuel received, if_pos stopped.shutdown, stopped.setState_eq]
        exact overdue

theorem Quiet.setState (s : Session) (state : State) : Quiet s (s.setState state) :=
  ⟨(Going.setState s state).toFollows, .refl _⟩

theorem Quiet.giveUp (s : Session) (text : String) : Quiet s (s.giveUp text) := by
  refine ⟨(Going.giveUp s text).toFollows, .of_forall (giveUp_journal s text) ?_⟩
  rw [farewell]
  cases s.dispatcher.fatal <;> simp [Entry.isTold]

/-- A loop that was asked to end before it began receives once at most, and tells nobody. -/
theorem loop_shut (shut : s.dispatcher.shutdown = true) (fuel : Nat) :
    Awaited s (loop fuel s).2 := by
  obtain _ | fuel := fuel
  · exact .inl (.refl s)
  obtain ⟨result, t, received⟩ : ∃ result t, s.receive = (result, t) := ⟨_, _, rfl⟩
  have outcome := receive_outcome s
  have still := receive_shutdown shut
  rw [received] at outcome still
  have ended : (loop (fuel + 1) s).2 = t ∨ (loop (fuel + 1) s).2 = t.setState .stopped := by
    match result with
    | .error (.raw error) => exact .inl (by rw [loop_of_raw fuel received])
    | .error (.known error) => exact .inr (by rw [loop_of_error fuel received, if_pos still])
    | .ok datagram => exact .inr (by rw [loop_of_ok fuel received, if_pos still])
  obtain ⟨quiet, -⟩ | ⟨v, closing, overdue⟩ := outcome
  · obtain same | same := ended
    · exact .inl (by rw [same]; exact quiet)
    · exact .inl (by rw [same]; exact quiet.trans (.setState ..))
  · rw [(overdue.stopped closing.stopped).setState_eq, or_self] at ended
    rw [ended]
    exact .inr ⟨v, closing, overdue⟩

theorem greeting_quiet (s : Session) : Going s { s with host :=
      (s.dispatcher.channel.send s.dispatcher.greeting s.host).2 } ∧
    Quiet s { s with host :=
      (s.dispatcher.channel.send s.dispatcher.greeting s.host).2 } := by
  obtain ⟨_, _, entries, sent, sending, -⟩ :=
    s.dispatcher.channel.send_eq s.dispatcher.greeting s.host
  have going : Going s { s with host :=
      (s.dispatcher.channel.send s.dispatcher.greeting s.host).2 } := by
    rw [sent]
    exact .of_host (List.prefix_append ..) rfl rfl rfl
  refine ⟨going, going.toFollows, ?_⟩
  rw [sent]
  refine .of_forall rfl fun entry mem => ?_
  obtain ⟨socket, rfl⟩ := sending entry mem
  rfl

theorem serve_outcome (s : Session) : Going s s.serve.2 ∨ Interrupted s s.serve.2 := by
  have going := (greeting_quiet s).1
  rw [serve]
  generalize s.dispatcher.channel.send s.dispatcher.greeting s.host = outcome at going
  obtain ⟨(error | error) | _, host⟩ := outcome
  · exact .inl (going.trans ((Going.setState ..).trans (.giveUp ..)))
  · exact .inl going
  · dsimp only
    exact (loop_outcome { s with host } _).imp going.trans going.interrupted

theorem serve_shut (shut : s.dispatcher.shutdown = true) : Awaited s s.serve.2 := by
  have quiet := (greeting_quiet s).2
  rw [serve]
  generalize s.dispatcher.channel.send s.dispatcher.greeting s.host = outcome at quiet
  obtain ⟨(error | error) | _, host⟩ := outcome
  · exact .inl (quiet.trans ((Quiet.setState ..).trans (.giveUp ..)))
  · exact .inl quiet
  · dsimp only
    exact quiet.awaited (loop_shut (s := { s with host }) (quiet.shut shut) _)

theorem serve_closed (closed : s.dispatcher.channel.socket = none) :
    s.serve = (.ok (), (s.setState .stopped).giveUp unsent) := by
  rw [serve, Channel.send_none closed]
  rfl

def announced (s : Session) : Session :=
  (s.report (.running s.dispatcher.channel.backend)).setState .running

theorem run_outcome (s : Session) (stops : Stop) :
    Going s (s.run stops).2 ∨ Interrupted s (s.run stops).2 := by
  have first : Going s s.announced := (Going.record ..).trans (.setState ..)
  rw [run, ← announced]
  generalize s.announced = t at first
  cases stops with
  | never => exact (serve_outcome t).imp first.trans first.interrupted
  | atOnce =>
    rw [meanwhile]
    cases halted : t.halt.1 with
    | error error =>
      have going := first.trans (halt_going halted)
      rw [stop_of_error halted]
      exact (serve_outcome _).imp going.trans going.interrupted
    | ok =>
      have stopped := t.halt_closing.stopped
      rw [stop_of_ok halted]
      dsimp only
      rw [serve_closed stopped.socket, stopped.setState_eq]
      exact .inr (first.interrupted (t.halt_closing.interrupted .greeting))
  | patiently =>
    have closing := t.halt_closing
    rw [meanwhile]
    generalize outcome : t.halt = halted at closing ⊢
    obtain ⟨error | _, u⟩ := halted
    · have going : Going t u := by
        have result : t.halt.1 = .error error := by rw [outcome]
        have failed := halt_going result
        rw [outcome] at failed
        exact failed
      exact (serve_outcome u).imp (first.trans going).trans (first.trans going).interrupted
    · refine .inr (first.interrupted ?_)
      dsimp only
      obtain quiet | ⟨v, later, overdue⟩ := serve_shut closing.shutdown
      · exact Closing.interrupted
          ⟨closing.toQuiet.trans quiet, quiet.shut closing.shutdown⟩ .nothing
      · rw [(overdue.stopped later.stopped).release_eq]
        exact (closing.toQuiet.closing later).interrupted overdue

end Session

end ChatLink
