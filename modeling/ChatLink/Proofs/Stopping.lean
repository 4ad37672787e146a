import ChatLink.Proofs.Exchange
import ChatLink.Proofs.Interruption

namespace ChatLink.Session

/-- What is done with a dispatcher, and, from `arrive` on, what happens around it. -/
inductive Operation
  | start (stops : Stop)
  | run (stops : Stop)
  | stop
  | register (name : String)
  | dispatch (data : Bytes) (bound : Option Int)
  | propagate (event : Event)
  | message (peer text : Value) (broadcast : Bool)
  | keys (peer first second hops : Value)
  | arrive (arrivals : List Arrival)
  | tick (clock : List Value)
  | keep (name : String) (callable : Callable) (reaction : Event → List Action)
  | forget (name : String)

def apply (s : Session) : Operation → Session
  | .start stops => (s.start stops).2
  | .run stops => (s.run stops).2
  | .stop => s.stop.2
  | .register name => s.register name
  | .dispatch data bound => s.dispatch data bound
  | .propagate event => s.propagate event
  | .message peer text broadcast => (s.sendMessage peer text broadcast).2
  | .keys peer first second hops => (s.sendKeyRequest peer first second hops).2
  | .arrive arrivals => { s with host := { s.host with inbox := s.host.inbox ++ arrivals } }
  | .tick clock => s.setClock clock
  | .keep name callable reaction => { s with host := s.host.keep name callable reaction }
  | .forget name => { s with host := s.host.forget name }

def applyAll (s : Session) (operations : List Operation) : Session := operations.foldl apply s

def threadAfter (s : Session) : Operation → Thread
  | .start _ =>
    match s.dispatcher.thread, (s.host.faults s.host.calls).spawning with
    | .absent, none => .begun
    | .absent, some _ => .unbegun
    | thread, _ => thread
  | _ => s.dispatcher.thread

def withThread (s : Session) (thread : Thread) : Session :=
  { s with dispatcher := { s.dispatcher with thread } }

/-- A thread for the loop is to be begun for the first time, and can be. -/
def Spawns (s : Session) : Prop :=
  s.dispatcher.thread = .absent ∧ (s.host.faults s.host.calls).spawning = none

variable {s t : Session}

theorem threadAfter_of_ne (h : s.dispatcher.thread ≠ .absent) (operation : Operation) :
    s.threadAfter operation = s.dispatcher.thread := by
  cases operation with
  | start stops =>
    rw [threadAfter]
    cases thread : s.dispatcher.thread with
    | absent => exact absurd thread h
    | _ => rfl
  | _ => rfl

theorem Wakeable.threadAfter_ne (h : s.Wakeable) (operation : Operation) :
    s.threadAfter operation ≠ .unbegun := by
  cases operation with
  | start stops =>
    rw [threadAfter, h.spawning]
    cases thread : s.dispatcher.thread with
    | unbegun => exact absurd thread h.thread
    | _ => nofun
  | _ => exact h.thread

theorem start_again (h : s.dispatcher.thread ≠ .absent) (stops : Stop) :
    s.start stops = (.error .alreadyStarted, s) := by
  rw [start]
  cases thread : s.dispatcher.thread with
  | absent => exact absurd thread h
  | _ => rfl

theorem start_unspawned {cause : String} (absent : s.dispatcher.thread = .absent)
    (failed : (s.host.faults s.host.calls).spawning = some cause) (stops : Stop) :
    s.start stops = (.error (.noThread cause), s.withThread .unbegun) := by
  rw [start, absent]
  dsimp only
  rw [failed]
  rfl

theorem start_spawned (spawns : s.Spawns) (stops : Stop) :
    s.start stops = (.ok (), ((s.withThread .begun).run stops).2) := by
  rw [start, spawns.1]
  dsimp only
  rw [spawns.2]
  rfl

theorem threadAfter_spawned (spawns : s.Spawns) (stops : Stop) :
    s.threadAfter (.start stops) = .begun := by
  rw [threadAfter, spawns.1, spawns.2]

/-- Where no loop is begun, nothing is left but perhaps a thread that could not be. -/
theorem start_fails (fails : ¬s.Spawns) (stops : Stop) : ∃ error,
    s.start stops = (.error error, s.withThread (s.threadAfter (.start stops))) := by
  by_cases absent : s.dispatcher.thread = .absent
  · cases spawning : (s.host.faults s.host.calls).spawning with
    | none => exact absurd ⟨absent, spawning⟩ fails
    | some cause =>
      rw [threadAfter, absent, spawning]
      exact ⟨_, start_unspawned absent spawning stops⟩
  · rw [threadAfter_of_ne absent]
    exact ⟨_, start_again absent stops⟩

theorem withThread_going {thread : Thread} (h : s.Wakeable → thread ≠ .unbegun) :
    Going s (s.withThread thread) :=
  ⟨⟨rfl, List.prefix_rfl, id, fun wakeable =>
    ⟨wakeable.naming, wakeable.target, wakeable.spawning, h wakeable⟩⟩, fun _ => rfl⟩

theorem started_outcome (s : Session) (stops : Stop) :
    Going s (s.start stops).2 ∨ Interrupted s (s.start stops).2 := by
  by_cases spawns : s.Spawns
  · have first : Going s (s.withThread .begun) := withThread_going fun _ => nofun
    rw [start_spawned spawns]
    exact (run_outcome _ stops).imp first.trans first.interrupted
  · obtain ⟨error, failed⟩ := start_fails spawns stops
    rw [failed]
    exact .inl (withThread_going fun wakeable => wakeable.threadAfter_ne _)

theorem stop_outcome (s : Session) : Going s s.stop.2 ∨ Interrupted s s.stop.2 := by
  cases halted : s.halt.1 with
  | error error =>
    rw [stop_of_error halted]
    exact .inl (halt_going halted)
  | ok =>
    rw [stop_of_ok halted]
    exact .inr (s.halt_closing.interrupted .nothing)

theorem apply_outcome (s : Session) (operation : Operation) :
    Going s (s.apply operation) ∨ Interrupted s (s.apply operation) := by
  cases operation with
  | start stops => exact started_outcome s stops
  | run stops => exact run_outcome s stops
  | stop => exact stop_outcome s
  | register name => exact (register_moves s name : Moves _ True s _).outcome (.plain .null)
  | dispatch data bound => exact dispatch_outcome s data bound
  | propagate event => exact (propagate_moves (allows_true s) event).outcome event
  | message peer text broadcast =>
    exact (sendMessage_moves s peer text broadcast : Moves _ True s _).outcome (.plain peer)
  | keys peer first second hops =>
    exact (sendKeyRequest_moves s peer first second hops : Moves _ True s _).outcome (.plain peer)
  | _ => exact .inl (.of_host List.prefix_rfl rfl rfl rfl)

namespace Stopped

theorem run_eq (h : s.Stopped) (stops : Stop) : s.run stops =
    (.ok (), (s.report (.running s.dispatcher.channel.backend)).giveUp unsent) := by
  have reported : (s.report (.running s.dispatcher.channel.backend)).Stopped :=
    ⟨h.shutdown, h.socket, h.state⟩
  have shut : s.announced.dispatcher.shutdown = true := h.shutdown
  have closed : s.announced.dispatcher.channel.socket = none := h.socket
  have settled : s.announced.setState .stopped =
      s.report (.running s.dispatcher.channel.backend) := reported.setState_eq
  have served : s.announced.serve =
      (.ok (), (s.report (.running s.dispatcher.channel.backend)).giveUp unsent) := by
    rw [serve_closed closed, settled]
  rw [run, ← announced]
  cases stops with
  | never => exact served
  | atOnce =>
    rw [meanwhile]
    cases outcome : s.announced.halt.1 with
    | error error =>
      rw [stop_of_error outcome, halt_of_closed shut closed]
      exact served
    | ok =>
      rw [stop_of_ok outcome, halt_of_closed shut closed]
      dsimp only
      rw [release_of_closed closed, settled, serve_closed reported.socket, reported.setState_eq]
  | patiently =>
    have ended : ((s.report (.running s.dispatcher.channel.backend)).giveUp unsent).Stopped :=
      Overdue.greeting.stopped reported
    rw [meanwhile, halt_of_closed shut closed]
    by_cases unbegun : s.announced.dispatcher.thread = .unbegun
    · rw [if_pos unbegun]
      exact served
    · rw [if_neg unbegun]
      dsimp only
      rw [served]
      exact congrArg (Prod.mk _) ended.release_eq

theorem run_journal (h : s.Stopped) (stops : Stop) : (s.run stops).2.host.journal =
    s.host.journal ++ .notice (.running s.dispatcher.channel.backend) :: s.farewell unsent := by
  rw [h.run_eq, giveUp_journal]
  exact List.append_assoc ..

theorem sendMessage_eq (h : s.Stopped) {peer text : Value} {broadcast : Bool} {fields : List Bytes}
    {frame : Bytes} (ready : Frame.messageFields peer text = .ok fields)
    (encoded : Frame.encodeMessage fields broadcast s.host.readClock.1 = .ok frame) :
    (s.sendMessage peer text broadcast).1 = .ok (-1) := by
  have still : Stopped { s with host := s.host.readClock.2 } := ⟨h.shutdown, h.socket, h.state⟩
  rw [sendMessage, ready]
  dsimp only
  rw [encoded]
  dsimp only
  rw [still.sendData_eq]

theorem sendKeyRequest_eq (h : s.Stopped) {peer first second hops : Value} {frame : Bytes}
    (encoded : Frame.encodeKey peer first second (Request.limit s.dispatcher.hops hops) =
      .ok frame) :
    (s.sendKeyRequest peer first second hops).1 = .ok false := by
  rw [sendKeyRequest_of_encoded encoded, h.sendData_eq]
  rfl

end Stopped

def Silent (entry : Entry) : Prop := entry.isSocketCall = false

theorem silent_notSent (error : TransportError) : Silent (.notice (.notSent error)) := rfl

theorem giveUp_dispatcher (s : Session) (text : String) :
    (s.giveUp text).dispatcher = s.dispatcher := by
  rw [giveUp]
  cases s.dispatcher.fatal <;> rfl

theorem giveUp_calm (s : Session) (text : String) : Calm Silent s (s.giveUp text) := by
  refine ⟨⟨s.dispatcher.callbacks, by rw [giveUp_dispatcher]⟩,
    ⟨_, giveUp_journal s text, isSocketCall_farewell⟩, ?_, ?_⟩
  all_goals
    rw [giveUp]
    cases s.dispatcher.fatal <;> rfl

theorem Stopped.run_calm (h : s.Stopped) (stops : Stop) : Calm Silent s (s.run stops).2 := by
  have silent : Silent (.notice (.running s.dispatcher.channel.backend)) := rfl
  rw [h.run_eq]
  exact (Calm.record silent s).trans (giveUp_calm ..)

theorem Stopped.propagate_calm (h : s.Stopped) (event : Event) :
    Calm Silent s (s.propagate event) :=
  ((propagate_moves (allows_true s) event).calm (fun _ => trivial) h).imp
    fun _ => Entry.isSocketCall_of_concerns

theorem Stopped.dispatch_calm (h : s.Stopped) (data : Bytes) (bound : Option Int) :
    Calm Silent s (s.dispatch data bound) :=
  (dispatch_moves (allows_true s) (fun _ _ => rfl)
    (fun _ _ => Entry.isSocketCall_of_concerns) data bound).calm silent_notSent h

theorem Stopped.start_calm (h : s.Stopped) (stops : Stop) :
    Calm Silent (s.withThread (s.threadAfter (.start stops))) (s.start stops).2 := by
  by_cases spawns : s.Spawns
  · have ready : (s.withThread .begun).Stopped := ⟨h.shutdown, h.socket, h.state⟩
    rw [start_spawned spawns, threadAfter_spawned spawns]
    exact ready.run_calm stops
  · obtain ⟨error, failed⟩ := start_fails spawns stops
    rw [failed]
    exact .refl _

theorem Stopped.apply_calm (h : s.Stopped) (operation : Operation) :
    Calm Silent (s.withThread (s.threadAfter operation)) (s.apply operation) := by
  cases operation with
  | start stops => exact h.start_calm stops
  | run stops => exact h.run_calm stops
  | stop =>
    rw [apply, h.stop_eq]
    exact .refl s
  | register name => exact (register_moves s name : Moves _ True s _).calm silent_notSent h
  | dispatch data bound => exact h.dispatch_calm data bound
  | propagate event => exact h.propagate_calm event
  | message peer text broadcast =>
    exact (sendMessage_moves s peer text broadcast : Moves _ True s _).calm silent_notSent h
  | keys peer first second hops =>
    exact (sendKeyRequest_moves s peer first second hops : Moves _ True s _).calm silent_notSent h
  | _ => exact .of_host (List.append_nil _).symm nofun rfl rfl

theorem Stopped.apply (h : s.Stopped) (operation : Operation) : (s.apply operation).Stopped :=
  (h.apply_calm operation).stopped ⟨h.shutdown, h.socket, h.state⟩

theorem Stopped.applyAll (h : s.Stopped) (operations : List Operation) :
    (s.applyAll operations).Stopped ∧
      s.host.Adds Entry.isSocketCall (s.applyAll operations).host [] := by
  induction operations generalizing s with
  | nil => exact ⟨h, .refl _⟩
  | cons operation rest ih =>
    obtain ⟨stopped, silent⟩ := ih (h.apply operation)
    have first : s.host.Adds Entry.isSocketCall (s.apply operation).host [] :=
      (h.apply_calm operation).adds fun _ => id
    exact ⟨stopped, first.trans silent⟩

/-- How a session `s` that was stopped is found at any later time `u`, and what can still be had of
it. -/
structure Rests (s u : Session) : Prop where
  stopped : u.Stopped
  silent : s.host.Adds Entry.isSocketCall u.host []
  again : u.stop =
    (if u.dispatcher.thread = .unbegun then .error .threadNotBegun else .ok (), u)
  loop : ∀ stops, (u.run stops).2.host.journal = u.host.journal ++
    .notice (.running u.dispatcher.channel.backend) :: u.farewell unsent
  message : ∀ peer text broadcast fields frame, Frame.messageFields peer text = .ok fields →
    Frame.encodeMessage fields broadcast u.host.readClock.1 = .ok frame →
    (u.sendMessage peer text broadcast).1 = .ok (-1)
  keys : ∀ peer first second hops frame,
    Frame.encodeKey peer first second (Request.limit u.dispatcher.hops hops) = .ok frame →
    (u.sendKeyRequest peer first second hops).1 = .ok false

theorem Stopped.stop_again (h : s.Stopped) : s.stop =
    (if s.dispatcher.thread = .unbegun then .error .threadNotBegun else .ok (), s) := by
  have result := s.stop_result
  rw [h.halt_eq] at result
  exact Prod.ext result h.stop_eq

theorem Stopped.rests (h : s.Stopped) (later : List Operation) : Rests s (s.applyAll later) := by
  obtain ⟨stopped, silent⟩ := h.applyAll later
  exact ⟨stopped, silent, stopped.stop_again, stopped.run_journal,
    fun _ _ _ _ _ => stopped.sendMessage_eq, fun _ _ _ _ _ => stopped.sendKeyRequest_eq⟩

/-- Stopping is final, whether it is asked for between two operations or in the middle of one. Nothing
is done on a socket from then on, nothing is sent and nothing received, and to stop once more changes
nothing. Whoever stops the dispatcher fails to only if its socket does not tell its name or does not
take it for a target, or if its thread was made and could not be begun. -/
theorem stop_final (s : Session) (later : List Operation) :
    (s.stop.1 = match s.dispatcher.channel.wakeError? s.host with
      | some error => .error (.socket error)
      | none => if s.dispatcher.thread = .unbegun then .error .threadNotBegun else .ok ()) ∧
    s.stop.2.dispatcher.shutdown = true ∧
    (s.stop.1 = .ok () → Rests s.stop.2 (s.stop.2.applyAll later)) ∧
    ∀ operation, Going s (s.apply operation) ∨
      (∃ u v, Going s u ∧ Closing u v ∧ Overdue v.release (s.apply operation) ∧
        v.release.host.Adds Entry.isSocketCall (s.apply operation).host []) ∧
      Rests (s.apply operation) ((s.apply operation).applyAll later) := by
  refine ⟨s.stop_result.trans s.halt_result, shutdown_stop s,
    fun stopped => (stopped_stop stopped).rests later, ?_⟩
  intro operation
  obtain going | interrupted := apply_outcome s operation
  · exact .inl going
  · have rests := interrupted.stopped.rests later
    obtain ⟨u, v, before, closing, overdue⟩ := interrupted
    exact .inr ⟨⟨u, v, before, closing, overdue, overdue.socketCalls⟩, rests⟩

theorem watched_wakeable : watched.Wakeable := ⟨fun _ => rfl, rfl, fun _ => rfl, nofun⟩

theorem stop_final_watched : watched.Wakeable ∧ watched.dispatcher.shutdown = false ∧
    (watched.apply (.run .never)).dispatcher.shutdown = true ∧
    (∃ u v, Going watched u ∧ Closing u v ∧ Overdue v.release (watched.apply (.run .never))) ∧
    let rested := (watched.apply (.run .never)).applyAll
      [.arrive [offer.arrival], .start .atOnce, .tick [.int 7]]
    rested.Stopped ∧ (rested.sendMessage (.text "bob") (.text "hi") false).1 = .ok (-1) := by
  have stopped : (watched.apply (.run .never)).dispatcher.shutdown = true := by rfl
  obtain ⟨-, -, -, final⟩ := stop_final watched
    [.arrive [offer.arrival], .start .atOnce, .tick [.int 7]]
  obtain going | ⟨⟨u, v, going, closing, overdue, -⟩, rests⟩ := final (.run .never)
  · rw [going.shutdown watched_wakeable] at stopped
    cases stopped
  · exact ⟨watched_wakeable, rfl, stopped, ⟨u, v, going, closing, overdue⟩, rests.stopped,
      rests.message _ _ _ _ _ rfl rfl⟩

def hasty : Session where
  dispatcher := { watched.dispatcher with consumer := some ⟨fun _ _ _ => [], fun _ => [.stop]⟩ }
  host := {
    inbox := [{ content := .ok offer }]
    listeners := fun _ => ⟨"watch", fun _ => []⟩
    kept := [("watch", .plain 0)] }

def mute : Session where
  dispatcher := watched.dispatcher
  host := { faults := fun _ => { naming := some "bad descriptor" } }

/-- A callback is told of an event after the channel was closed. Whoever stops a dispatcher whose
socket does not tell its name, or whose thread was made and could not be begun, leaves the channel
open. -/
theorem told_after_stop :
    (∃ before event,
      hasty.run.2.host.journal = before ++ [.close 0, .callback "watch" event]) ∧
    mute.stop.1 = .error (.socket (.system "bad descriptor")) ∧
    mute.stop.2.dispatcher.channel.isOpen ∧
    (watched.withThread .unbegun).stop.1 = .error .threadNotBegun ∧
    (watched.withThread .unbegun).stop.2.dispatcher.channel.isOpen := by
  refine ⟨⟨hasty.run.2.host.journal.take 8, ?_⟩, rfl, rfl, rfl, rfl⟩
  exact ⟨_, rfl⟩

end ChatLink.Session
