import ChatLink.Proofs.Stopping

/-!
What the fatal handler of a dispatcher that was stopped is still called for. A loop that somebody
stops ends without it, but one whose greeting comes after that cannot send it on the closed channel,
and nothing asks there whether this was to be expected.
-/

namespace ChatLink

def Entry.isFatal : Entry → Bool
  | .notice (.terminating _) => true
  | .fatal _ => true
  | .logShutdown => true
  | .exit _ => true
  | _ => false

theorem Entry.isFatal_of_concerns {event : Event} {entry : Entry} (h : entry.Concerns event) :
    entry.isFatal = false := by
  cases entry with
  | notice notice => cases notice <;> first | rfl | cases h
  | _ => first | rfl | cases h

theorem Entry.isFatal_of_isUpkeep {entry : Entry} (h : entry.IsUpkeep) :
    entry.isFatal = false := by
  cases entry with
  | notice notice => cases notice <;> first | rfl | cases h
  | _ => first | rfl | cases h

theorem Entry.isFatal_of_isReceipt {ownPort : Int} {entry : Entry} (h : entry.IsReceipt ownPort) :
    entry.isFatal = false := by
  cases entry with
  | notice notice => cases notice <;> first | rfl | cases h
  | _ => first | rfl | cases h

theorem Entry.isFatal_of_isStop {ownPort : Int} {entry : Entry} (h : entry.IsStop ownPort) :
    entry.isFatal = false :=
  isFatal_of_isReceipt (.of_isStop h)

namespace Session

abbrev Spared (s t : Session) : Prop := s.host.Adds Entry.isFatal t.host []

def entered (s : Session) : Stop → Session
  | .never => s.announced
  | .atOnce => s.announced.stop.2
  | .patiently => s.announced.halt.2

def refusal (s : Session) : List Entry :=
  match (s.dispatcher.channel.send s.dispatcher.greeting s.host).1 with
  | .error (.known e) => s.farewell ("unable to send initial packet: " ++ e.message)
  | _ => []

/-- Whether an operation begins a loop, which it does only once if it is to do so in a thread, and
when somebody stops the dispatcher before that loop has sent its greeting. -/
def begins (s : Session) : Operation → Option Stop
  | .run stops => some stops
  | .start stops =>
    match s.dispatcher.thread, (s.host.faults s.host.calls).spawning with
    | .absent, none => some stops
    | _, _ => none
  | _ => none

/-- What an operation calls the handler for, if somebody has stopped the dispatcher by its end. -/
def called (s : Session) (operation : Operation) : List Entry :=
  (s.begins operation).toList.flatMap fun stops =>
    ((s.withThread (s.threadAfter operation)).entered stops).refusal

def calledAll (s : Session) : List Operation → List Entry
  | [] => []
  | operation :: later => s.called operation ++ calledAll (s.apply operation) later

variable {s t : Session} {stops : Prop}

theorem spared_of_moves (h : Moves (fun entry => entry.isFatal = false) stops s t) : Spared s t :=
  h.adds fun _ => Or.rec id Entry.isFatal_of_isUpkeep

theorem isFatal_of_source {notice : Notice} (h : notice.source ≠ .dispatcher) :
    (Entry.notice notice).isFatal = false := by
  cases notice <;> first | rfl | exact absurd rfl h

theorem dispatch_spared (s : Session) (data : Bytes) (bound : Option Int) :
    Spared s (s.dispatch data bound) :=
  spared_of_moves (dispatch_moves (allows_true s)
    (fun _ codec => isFatal_of_source (by rw [codec]; nofun))
    (fun _ _ => Entry.isFatal_of_concerns) data bound)

theorem handle_spared (s : Session) (datagram : Datagram) : Spared s (s.handle datagram) :=
  spared_of_moves (handle_moves (allows_true s)
    (fun notice level => by cases notice <;> first | rfl | cases level)
    (fun _ codec => isFatal_of_source (by rw [codec]; nofun))
    (fun _ _ => Entry.isFatal_of_concerns) datagram)

/-- Both ways out of a loop that is stopped look at the flag first. -/
theorem loop_spared {fuel : Nat} (stopped : (loop fuel s).2.dispatcher.shutdown = true) :
    Spared s (loop fuel s).2 := by
  induction fuel generalizing s with
  | zero => exact .refl _
  | succ fuel ih =>
    have received := receive_adds s fun _ => Entry.isFatal_of_isReceipt
    obtain ⟨result, t, outcome⟩ : ∃ result t, s.receive = (result, t) := ⟨_, _, rfl⟩
    rw [outcome] at received
    match result with
    | .error (.raw error) =>
      rw [loop_of_raw fuel outcome]
      exact received
    | .error (.known error) =>
      rw [loop_of_error fuel outcome] at stopped ⊢
      cases flag : t.dispatcher.shutdown with
      | true => exact received
      | false =>
        rw [flag, if_neg Bool.false_ne_true, giveUp_dispatcher] at stopped
        exact absurd (flag.symm.trans stopped) Bool.false_ne_true
    | .ok datagram =>
      rw [loop_of_ok fuel outcome] at stopped ⊢
      split at stopped
      · rename_i flag
        rw [if_pos flag]
        exact received
      · rename_i flag
        rw [if_neg flag]
        exact (received.trans (handle_spared t datagram)).trans (ih stopped)

theorem isFatal_farewell {text : String} : ∀ entry ∈ s.farewell text, entry.isFatal := by
  rw [farewell]
  cases s.dispatcher.fatal <;> simp [Entry.isFatal]

theorem serve_fatal (stopped : s.serve.2.dispatcher.shutdown = true) :
    s.host.Adds Entry.isFatal s.serve.2.host s.refusal := by
  obtain ⟨_, _, entries, sent, sending, -⟩ :=
    s.dispatcher.channel.send_eq s.dispatcher.greeting s.host
  have greeting : s.host.Adds Entry.isFatal
      (s.dispatcher.channel.send s.dispatcher.greeting s.host).2 [] := by
    rw [sent]
    refine .of_forall rfl fun entry mem => ?_
    obtain ⟨socket, rfl⟩ := sending entry mem
    rfl
  rw [refusal]
  rw [serve] at stopped ⊢
  generalize s.dispatcher.channel.send s.dispatcher.greeting s.host = outcome at greeting stopped
  obtain ⟨(error | error) | _, host⟩ := outcome
  · exact greeting.hidden_trans
      ⟨_, giveUp_journal .., List.filter_eq_self.mpr isFatal_farewell⟩
  · exact greeting
  · dsimp only at stopped ⊢
    exact greeting.trans (loop_spared (s := { s with host }) stopped)

theorem run_fatal {stops : Stop} (stopped : (s.run stops).2.dispatcher.shutdown = true) :
    s.host.Adds Entry.isFatal (s.run stops).2.host (s.entered stops).refusal := by
  have first : Spared s s.announced := .record_hidden rfl
  rw [run, ← announced] at stopped ⊢
  cases stops with
  | never => exact first.hidden_trans (serve_fatal stopped)
  | atOnce =>
    exact (first.trans (stop_adds _ fun _ => Entry.isFatal_of_isStop)).hidden_trans
      (serve_fatal stopped)
  | patiently =>
    have halted := first.trans (halt_adds s.announced fun _ => Entry.isFatal_of_isStop)
    rw [entered]
    rw [meanwhile] at stopped ⊢
    generalize s.announced.halt = outcome at halted stopped ⊢
    obtain ⟨_ | _, u⟩ := outcome
    · exact halted.hidden_trans (serve_fatal stopped)
    · rw [shutdown_release] at stopped
      exact (halted.hidden_trans (serve_fatal stopped)).trans_hidden
        (release_adds _ fun _ => rfl)

theorem begins_of_spawns (spawns : s.Spawns) (stops : Stop) :
    s.begins (.start stops) = some stops := by
  rw [begins, spawns.1, spawns.2]

theorem begins_of_fails (fails : ¬s.Spawns) (stops : Stop) : s.begins (.start stops) = none := by
  rw [begins]
  cases thread : s.dispatcher.thread with
  | absent =>
    cases spawning : (s.host.faults s.host.calls).spawning with
    | none => exact absurd ⟨thread, spawning⟩ fails
    | some cause => rfl
  | _ => rfl

theorem apply_fatal (operation : Operation)
    (stopped : (s.apply operation).dispatcher.shutdown = true) :
    s.host.Adds Entry.isFatal (s.apply operation).host (s.called operation) := by
  cases operation with
  | start stops =>
    rw [apply] at stopped ⊢
    rw [called]
    by_cases spawns : s.Spawns
    · rw [start_spawned spawns] at stopped ⊢
      rw [begins_of_spawns spawns, Option.toList_some, List.flatMap_singleton,
        threadAfter_spawned spawns]
      exact run_fatal (s := s.withThread .begun) stopped
    · obtain ⟨error, failed⟩ := start_fails spawns stops
      rw [failed, begins_of_fails spawns]
      exact .refl _
  | run stops =>
    rw [called, begins, Option.toList_some, List.flatMap_singleton]
    exact run_fatal stopped
  | stop => exact stop_adds s fun _ => Entry.isFatal_of_isStop
  | register name => exact spared_of_moves (register_moves s name : Moves _ True s _)
  | dispatch data bound => exact dispatch_spared s data bound
  | propagate event =>
    exact spared_of_moves ((propagate_moves (allows_true s) event).imp
      fun _ => Entry.isFatal_of_concerns)
  | message peer text broadcast =>
    exact spared_of_moves (sendMessage_moves s peer text broadcast : Moves _ True s _)
  | keys peer first second hops =>
    exact spared_of_moves (sendKeyRequest_moves s peer first second hops : Moves _ True s _)
  | _ => exact .of_eq rfl

theorem shutdown_apply (h : s.dispatcher.shutdown = true) (operation : Operation) :
    (s.apply operation).dispatcher.shutdown = true := by
  obtain going | interrupted := apply_outcome s operation
  · exact going.shut h
  · exact interrupted.stopped.shutdown

theorem applyAll_fatal (h : s.dispatcher.shutdown = true) (later : List Operation) :
    s.host.Adds Entry.isFatal (s.applyAll later).host (s.calledAll later) := by
  induction later generalizing s with
  | nil => exact .refl _
  | cons operation rest ih =>
    have still := shutdown_apply h operation
    exact (apply_fatal operation still).trans (ih still)

theorem refusal_eq_nil (going : s.dispatcher.shutdown = false)
    (stopped : s.serve.2.dispatcher.shutdown = true) : s.refusal = [] := by
  rw [refusal]
  rw [serve] at stopped
  generalize s.dispatcher.channel.send s.dispatcher.greeting s.host = outcome at stopped
  obtain ⟨(error | error) | _, host⟩ := outcome
  · dsimp only at stopped
    rw [giveUp_dispatcher] at stopped
    exact absurd (going.symm.trans stopped) Bool.false_ne_true
  · rfl
  · rfl

theorem called_eq_nil (going : s.dispatcher.shutdown = false) {operation : Operation}
    (unhurried : ∀ stops ∈ s.begins operation, stops = .never)
    (stopped : (s.apply operation).dispatcher.shutdown = true) : s.called operation = [] := by
  rw [called]
  cases operation with
  | start stops =>
    rw [apply] at stopped
    by_cases spawns : s.Spawns
    · rw [start_spawned spawns] at stopped
      rw [begins_of_spawns spawns] at unhurried ⊢
      obtain rfl := unhurried _ rfl
      rw [Option.toList_some, List.flatMap_singleton, threadAfter_spawned spawns]
      exact refusal_eq_nil (s := (s.withThread .begun).entered .never) going stopped
    · rw [begins_of_fails spawns]
      rfl
  | run stops =>
    obtain rfl := unhurried _ rfl
    rw [begins, Option.toList_some, List.flatMap_singleton]
    exact refusal_eq_nil (s := s.entered .never) going stopped
  | _ => rfl

def Operation.isRun : Operation → Bool
  | .run _ => true
  | _ => false

def Operation.isStart : Operation → Bool
  | .start _ => true
  | _ => false

/-- How many loops a history begins that makes no call on a socket: it is always as many calls since
the last one, so that either all threads can be begun or none. -/
def loopsBegun (s : Session) (later : List Operation) : Nat :=
  later.countP Operation.isRun +
    if s.dispatcher.thread = .absent ∧ (s.host.faults s.host.calls).spawning = none ∧
      later.any Operation.isStart then 1 else 0

theorem Stopped.entered_refusal (h : s.Stopped) (stops : Stop) :
    (s.entered stops).refusal = s.farewell unsent := by
  have closed : (s.entered stops).dispatcher.channel.socket = none ∧
      (s.entered stops).dispatcher.fatal = s.dispatcher.fatal := by
    cases stops with
    | never => exact ⟨h.socket, rfl⟩
    | atOnce =>
      obtain ⟨_, _, _, _, _, _, stopped, same | gone, -⟩ := s.announced.stop_eq
      · rw [entered, stopped, same]
        exact ⟨h.socket, rfl⟩
      · rw [entered, stopped, gone]
        exact ⟨rfl, rfl⟩
    | patiently =>
      obtain ⟨_, _, _, halted, -⟩ := s.announced.halt_eq
      rw [entered, halted]
      exact ⟨h.socket, rfl⟩
  rw [refusal, Channel.send_none closed.1]
  dsimp only
  rw [farewell, farewell, closed.2]
  rfl

theorem Stopped.called_eq (h : s.Stopped) (operation : Operation) : s.called operation =
    (List.replicate (s.begins operation).toList.length (s.farewell unsent)).flatten := by
  have still : (s.withThread (s.threadAfter operation)).Stopped := ⟨h.shutdown, h.socket, h.state⟩
  rw [called]
  cases s.begins operation with
  | none => rfl
  | some stops =>
    rw [Option.toList_some, List.flatMap_singleton, still.entered_refusal]
    exact (List.append_nil _).symm

theorem loopsBegun_cons (h : s.Stopped) (operation : Operation) (later : List Operation) :
    s.loopsBegun (operation :: later) =
      (s.begins operation).toList.length + (s.apply operation).loopsBegun later := by
  have calm := h.apply_calm operation
  obtain ⟨callbacks, dispatcher⟩ := calm.dispatcher
  have thread : (s.apply operation).dispatcher.thread = s.threadAfter operation := by
    rw [dispatcher]
    rfl
  have spawning : ((s.apply operation).host.faults (s.apply operation).host.calls).spawning =
      (s.host.faults s.host.calls).spawning := by
    rw [calm.faults, calm.calls]
    rfl
  rw [loopsBegun, loopsBegun, thread, spawning, List.countP_cons, List.any_cons]
  cases operation with
  | start stops =>
    rw [threadAfter, begins]
    cases s.dispatcher.thread <;> cases (s.host.faults s.host.calls).spawning <;>
      simp [Operation.isRun, Operation.isStart]
    omega
  | run stops =>
    simp [threadAfter, begins, Operation.isRun, Operation.isStart]
    omega
  | _ => simp [threadAfter, begins, Operation.isRun, Operation.isStart]

theorem Stopped.calledAll_eq (h : s.Stopped) (later : List Operation) :
    s.calledAll later = (List.replicate (s.loopsBegun later) (s.farewell unsent)).flatten := by
  induction later generalizing s with
  | nil => simp [calledAll, loopsBegun]
  | cons operation rest ih =>
    obtain ⟨callbacks, dispatcher⟩ := (h.apply_calm operation).dispatcher
    have farewell : (s.apply operation).farewell unsent = s.farewell unsent := by
      rw [Session.farewell, Session.farewell, dispatcher]
      rfl
    rw [calledAll, h.called_eq, ih (h.apply operation), farewell, loopsBegun_cons h,
      List.replicate_add, List.flatten_append]

/-- Whenever somebody has stopped a dispatcher, its handler is called for a greeting that cannot be
sent and for nothing else: no failure to receive gets to it. So an operation in which somebody stops
the dispatcher does not call it, unless they do so before a loop has sent its greeting. Once it was
stopped and its channel is closed, every loop that is begun calls it. -/
theorem fatal_once_stopped (s : Session) :
    (∀ operation, (s.apply operation).dispatcher.shutdown = true →
      s.host.Adds Entry.isFatal (s.apply operation).host (s.called operation)) ∧
    (∀ operation, s.dispatcher.shutdown = false →
      (∀ stops ∈ s.begins operation, stops = .never) →
      (s.apply operation).dispatcher.shutdown = true →
      s.host.Adds Entry.isFatal (s.apply operation).host []) ∧
    (s.dispatcher.shutdown = true → ∀ later,
      s.host.Adds Entry.isFatal (s.applyAll later).host (s.calledAll later)) ∧
    (s.stop.1 = .ok () → ∀ later, s.stop.2.host.Adds Entry.isFatal (s.stop.2.applyAll later).host
      (List.replicate (s.stop.2.loopsBegun later) (s.farewell unsent)).flatten) := by
  refine ⟨apply_fatal, ?_, applyAll_fatal, ?_⟩
  · intro operation going unhurried stopped
    rw [← called_eq_nil going unhurried stopped]
    exact apply_fatal operation stopped
  · intro done later
    have stopped := stopped_stop done
    have farewell : s.stop.2.farewell unsent = s.farewell unsent := by
      obtain ⟨_, _, _, _, _, _, stop, -⟩ := s.stop_eq
      rw [Session.farewell, Session.farewell, stop]
    rw [← farewell, ← stopped.calledAll_eq]
    exact applyAll_fatal stopped.shutdown later

theorem fatal_once_stopped_watched : watched.dispatcher.shutdown = false ∧
    (watched.apply (.run .never)).dispatcher.shutdown = true ∧
    watched.host.Adds Entry.isFatal (watched.apply (.run .never)).host [] ∧
    watched.stop.1 = .ok () ∧
    watched.stop.2.host.Adds Entry.isFatal
      (watched.stop.2.applyAll [.start .never, .start .never, .stop, .run .atOnce]).host
      [.fatal "unable to send initial packet: channel is not open",
        .fatal "unable to send initial packet: channel is not open"] ∧
    watched.stop.2.dispatcher.shutdown = true ∧
    watched.stop.2.host.Adds Entry.isFatal (watched.stop.2.applyAll [.start .patiently]).host
      [.fatal "unable to send initial packet: channel is not open"] := by
  obtain ⟨-, interrupted, -, later⟩ := fatal_once_stopped watched
  obtain ⟨-, -, shut, -⟩ := fatal_once_stopped watched.stop.2
  have stopped : (watched.apply (.run .never)).dispatcher.shutdown = true := by rfl
  have unhurried : ∀ stops ∈ watched.begins (.run .never), stops = .never := by
    rintro _ ⟨⟩
    rfl
  exact ⟨rfl, stopped, interrupted _ rfl unhurried stopped, rfl,
    later rfl [.start .never, .start .never, .stop, .run .atOnce], rfl, shut rfl [.start .patiently]⟩

/-- A dispatcher that is stopped before its loop begins ends the process, and so does one that is
stopped before its loop has sent the greeting. -/
theorem exit_once_stopped : asker.stop.2.dispatcher.shutdown = true ∧
    (asker.stop.2.apply (.run .never)).host.journal = asker.stop.2.host.journal ++
      [.notice (.running ⟨.text "127.0.0.1", 41244⟩),
        .notice (.terminating "unable to send initial packet: channel is not open"),
        .logShutdown, .exit 1] ∧
    (asker.apply (.run .atOnce)).host.journal =
      [.notice (.running ⟨.text "127.0.0.1", 41244⟩), .name 0,
        .sendTo 0 [] ⟨.text "127.0.0.1", 40000⟩, .close 0,
        .notice (.terminating "unable to send initial packet: channel is not open"),
        .logShutdown, .exit 1] := ⟨rfl, rfl, rfl⟩

end Session

end ChatLink
