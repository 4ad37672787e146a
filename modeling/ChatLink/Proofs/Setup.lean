import ChatLink.Proofs.Stopping

namespace ChatLink

structure Setup where
  backend : Endpoint
  bindAddress : Value
  mtu : Int
  consumer : Option Consumer
  greeting : Bytes
  hops : Int
  fatal : FatalHandler

namespace Dispatcher

def setup (dispatcher : Dispatcher) : Setup where
  backend := dispatcher.channel.backend
  bindAddress := dispatcher.channel.bindAddress
  mtu := dispatcher.channel.mtu
  consumer := dispatcher.consumer
  greeting := dispatcher.greeting
  hops := dispatcher.hops
  fatal := dispatcher.fatal

/-- What is left of a dispatcher without all that may change while its loop runs. -/
def core (dispatcher : Dispatcher) : Dispatcher :=
  { dispatcher with
    channel := { dispatcher.channel with socket := none }
    callbacks := []
    shutdown := false
    state := .starting }

end Dispatcher

namespace Session

def setup (s : Session) : Setup := s.dispatcher.setup

def core (s : Session) : Dispatcher := s.dispatcher.core

variable {p : Entry → Prop} {s t : Session}

theorem setup_of_core (h : t.core = s.core) : t.setup = s.setup := by
  have same : t.core.setup = s.core.setup := congrArg Dispatcher.setup h
  exact same

theorem core_halt (s : Session) : s.halt.2.core = s.core := by
  obtain ⟨_, _, _, halted, -⟩ := s.halt_eq
  rw [halted]
  rfl

theorem core_release (s : Session) : s.release.core = s.core := by
  obtain ⟨_, _, _, released, -⟩ := s.release_eq
  rw [released]
  rfl

theorem core_stop (s : Session) : s.stop.2.core = s.core := by
  cases halted : s.halt.1 with
  | error error =>
    rw [stop_of_error halted]
    exact core_halt s
  | ok =>
    rw [stop_of_ok halted]
    exact (core_release _).trans (core_halt s)

theorem core_meanwhile {α : Type} {f : Session → α × Session} (h : ∀ t, (f t).2.core = t.core)
    (stop : Stop) (s : Session) : (s.meanwhile stop f).2.core = s.core := by
  cases stop with
  | never => exact h s
  | atOnce => exact (h _).trans (core_stop s)
  | patiently =>
    have halted := core_halt s
    rw [meanwhile]
    generalize s.halt = outcome at halted ⊢
    obtain ⟨_ | _, t⟩ := outcome
    · exact (h t).trans halted
    · exact ((core_release _).trans (h t)).trans halted

theorem core_giveUp (s : Session) (text : String) : (s.giveUp text).core = s.core := by
  rw [core, giveUp_dispatcher]
  rfl

variable {stops : Prop}

theorem Move.core (h : Move p stops s t) : t.core = s.core := by
  cases h with
  | stop => exact core_stop s
  | send data => rw [Session.core, sendData_dispatcher, Session.core]
  | _ => rfl

theorem Moves.core (h : Moves p stops s t) : t.core = s.core := by
  induction h with
  | refl => rfl
  | tail _ last ih => exact last.core.trans ih

theorem core_dispatch (s : Session) (data : Bytes) (bound : Option Int) :
    (s.dispatch data bound).core = s.core :=
  (dispatch_moves (p := fun _ => True) (allows_true s) (fun _ _ => trivial)
    (fun _ _ _ => trivial) data bound).core

theorem core_handle (s : Session) (datagram : Datagram) : (s.handle datagram).core = s.core :=
  (handle_moves (p := fun _ => True) (allows_true s) (fun _ _ => trivial) (fun _ _ => trivial)
    (fun _ _ _ => trivial) datagram).core

theorem core_take (arrival : Arrival) (s : Session) : (take arrival s).2.core = s.core := by
  rw [core, take_dispatcher]
  rfl

theorem core_receive (s : Session) : s.receive.2.core = s.core := by
  cases isOpen : s.dispatcher.channel.socket with
  | none => rw [receive_closed isOpen]
  | some socket =>
    cases refused : s.host.refusals.size s.dispatcher.channel.mtu with
    | some cause =>
      rw [receive_refused isOpen refused]
      rfl
    | none =>
      rw [receive_open isOpen refused]
      exact core_meanwhile (core_take _) _ (s.waited socket)

theorem core_loop (fuel : Nat) (s : Session) : (loop fuel s).2.core = s.core := by
  induction fuel generalizing s with
  | zero => rfl
  | succ fuel ih =>
    have received := core_receive s
    obtain ⟨result, t, outcome⟩ : ∃ result t, s.receive = (result, t) := ⟨_, _, rfl⟩
    rw [outcome] at received
    match result with
    | .error (.raw error) =>
      rw [loop_of_raw fuel outcome]
      exact received
    | .error (.known error) =>
      rw [loop_of_error fuel outcome]
      dsimp only
      split
      · exact received
      · exact (core_giveUp ..).trans received
    | .ok datagram =>
      rw [loop_of_ok fuel outcome]
      split
      · exact received
      · exact (ih _).trans ((core_handle ..).trans received)

theorem core_serve (s : Session) : s.serve.2.core = s.core := by
  rw [serve]
  generalize s.dispatcher.channel.send s.dispatcher.greeting s.host = outcome
  obtain ⟨(error | error) | _, host⟩ := outcome
  · exact core_giveUp ..
  · rfl
  · exact core_loop _ { s with host }

theorem core_run (s : Session) (stop : Stop) : (s.run stop).2.core = s.core :=
  core_meanwhile core_serve stop s.announced

theorem setup_start (s : Session) (stop : Stop) : (s.start stop).2.setup = s.setup := by
  by_cases spawns : s.Spawns
  · rw [start_spawned spawns]
    exact setup_of_core (s := s.withThread .begun) (core_run _ stop)
  · obtain ⟨error, failed⟩ := start_fails spawns stop
    rw [failed]
    rfl

theorem setup_apply (s : Session) (operation : Operation) :
    (s.apply operation).setup = s.setup := by
  cases operation with
  | start stop => exact setup_start s stop
  | run stop => exact setup_of_core (core_run s stop)
  | stop => exact setup_of_core (core_stop s)
  | register name =>
    exact setup_of_core (register_moves s name : Moves (fun _ => True) True s _).core
  | dispatch data bound => exact setup_of_core (core_dispatch s data bound)
  | propagate event => exact setup_of_core (propagate_moves (allows_true s) event).core
  | message peer text broadcast =>
    exact setup_of_core
      (sendMessage_moves s peer text broadcast : Moves (fun _ => True) True s _).core
  | keys peer first second hops =>
    exact setup_of_core
      (sendKeyRequest_moves s peer first second hops : Moves (fun _ => True) True s _).core
  | _ => rfl

theorem setup_applyAll (s : Session) (operations : List Operation) :
    (s.applyAll operations).setup = s.setup := by
  induction operations generalizing s with
  | nil => rfl
  | cons operation rest ih => exact (ih _).trans (setup_apply s operation)

end Session

end ChatLink
