import ChatLink.Proofs.Socket
import Mathlib.Data.List.Basic
import Mathlib.Logic.Relation

/-!
The turn of a recipient, taken apart into moves. Whatever recipients are told and however they act
on it, a move stops the dispatcher, sends something, or touches no socket, so that what every move
preserves is preserved by whole turns.
-/

namespace ChatLink

theorem Host.exists_readClock (host : Host) :
    ∃ clock, host.readClock.2 = { host with clock } := by
  rw [readClock]
  split
  · exact ⟨host.clock, rfl⟩
  · exact ⟨host.clock, rfl⟩
  · exact ⟨_, rfl⟩

theorem Host.mem_of_named? {host : Host} {name : String} {callable : Callable}
    (h : host.named? name = some callable) : callable ∈ host.kept.map (·.2) := by
  obtain ⟨entry, found, rfl⟩ := Option.map_eq_some_iff.mp h
  exact List.mem_map_of_mem (List.mem_of_find?_eq_some found)

def Event.call? : Event → Option Entry
  | .plain _ => none
  | .message peer timestamp text _ => some (.messageReceived peer timestamp text)
  | .keyOffer peer => some (.contactCreated peer)

def Consumer.reaction (consumer : Consumer) : Event → List Action
  | .plain _ => []
  | .message peer timestamp text _ => consumer.messageReceived peer timestamp text
  | .keyOffer peer => consumer.contactCreated peer

def Entry.Concerns (event : Event) : Entry → Prop
  | .notice (.consumerFailed failed _) => failed = event
  | .notice (.callbackFailed failed _) => failed = event
  | .notice (.notSent _) => True
  | .messageReceived peer timestamp text =>
    event.call? = some (.messageReceived peer timestamp text)
  | .contactCreated peer => event.call? = some (.contactCreated peer)
  | .callback _ told => told = event
  | _ => False

theorem Entry.concerns_of_call? {event : Event} {entry : Entry} (h : event.call? = some entry) :
    entry.Concerns event := by
  cases event <;> cases h <;> rfl

def Entry.IsSend (target : Endpoint) : Entry → Prop
  | .sendTo _ _ address => address = target
  | .notice (.notSent _) => True
  | _ => False

def Action.Allowed (stops : Prop) : Action → Prop
  | .stop => stops
  | _ => True

theorem Action.allowed_true : ∀ action : Action, action.Allowed True
  | .stop => trivial
  | .fail _ => trivial
  | .send .. => trivial
  | .register _ => trivial
  | .forget _ => trivial

namespace Session

section Effects

variable (s : Session)

theorem halt_eq : ∃ calls more entries, s.halt.2 =
      { dispatcher := { s.dispatcher with shutdown := true }
        host :=
          { s.host with
            calls
            inbox := s.host.inbox ++ more
            journal := s.host.journal ++ entries } } ∧
    ∀ entry ∈ entries, entry.IsStop s.host.ownPort := by
  obtain ⟨calls, more, entries, woken, stopping⟩ := s.dispatcher.channel.wake_eq s.host
  refine ⟨calls, more, entries, ?_, stopping⟩
  rw [← woken, halt]
  dsimp only
  generalize s.dispatcher.channel.wake s.host = outcome
  obtain ⟨(_ | _) | _, _⟩ := outcome
  · dsimp only
    split <;> rfl
  · rfl
  · dsimp only
    split <;> rfl

theorem release_eq : ∃ calls live entries, s.release =
      { dispatcher :=
          { s.dispatcher with
            channel := { s.dispatcher.channel with socket := none }
            state := .stopped }
        host := { s.host with calls, live, journal := s.host.journal ++ entries } } ∧
    ∀ entry ∈ entries, ∃ socket, entry = .close socket := by
  obtain ⟨calls, live, entries, closed, closing⟩ := s.dispatcher.channel.close_eq s.host
  exact ⟨calls, live, entries, by rw [← closed, ← Channel.close_channel _ s.host]; rfl, closing⟩

variable {s}

theorem stop_of_ok (h : s.halt.1 = .ok ()) : s.stop = (.ok (), s.halt.2.release) := by
  rw [stop]
  generalize s.halt = outcome at h
  obtain ⟨_, _⟩ := outcome
  cases h
  rfl

theorem stop_of_error {error : StopError} (h : s.halt.1 = .error error) :
    s.stop = (.error error, s.halt.2) := by
  rw [stop]
  generalize s.halt = outcome at h
  obtain ⟨_, _⟩ := outcome
  cases h
  rfl

theorem stop_result (s : Session) : s.stop.1 = s.halt.1 := by
  cases halted : s.halt.1 with
  | error error => rw [stop_of_error halted]
  | ok => rw [stop_of_ok halted]

variable (s)

theorem stop_eq : ∃ channel state calls live more entries, s.stop.2 =
      { dispatcher := { s.dispatcher with channel, shutdown := true, state }
        host :=
          { s.host with
            calls
            live
            inbox := s.host.inbox ++ more
            journal := s.host.journal ++ entries } } ∧
    (channel = s.dispatcher.channel ∨ channel = { s.dispatcher.channel with socket := none }) ∧
    ∀ entry ∈ entries, entry.IsStop s.host.ownPort := by
  obtain ⟨calls, more, entries, halted, stopping⟩ := s.halt_eq
  cases outcome : s.halt.1 with
  | error error =>
    rw [stop_of_error outcome, halted]
    exact ⟨_, _, calls, _, more, entries, rfl, .inl rfl, stopping⟩
  | ok =>
    obtain ⟨calls', live, entries', released, closing⟩ := s.halt.2.release_eq
    rw [stop_of_ok outcome, released, halted]
    refine ⟨_, .stopped, calls', live, more, entries ++ entries', ?_, .inr rfl,
      List.forall_mem_append.mpr ⟨stopping, fun entry mem => ?_⟩⟩
    · rw [← List.append_assoc]
    · obtain ⟨socket, rfl⟩ := closing entry mem
      trivial

theorem sendData_eq (data : Bytes) : ∃ calls more entries, (s.sendData data).2 =
      { s with host :=
          { s.host with
            calls
            inbox := s.host.inbox ++ more
            journal := s.host.journal ++ entries } } ∧
    (∀ entry ∈ entries, entry.IsSend s.dispatcher.channel.backend) ∧
    (s.dispatcher.channel.backend.port ≠ s.host.ownPort → more = []) := by
  obtain ⟨calls, more, entries, sent, sending, away⟩ := s.dispatcher.channel.send_eq data s.host
  have passes : ∀ entry ∈ entries, entry.IsSend s.dispatcher.channel.backend := by
    intro entry mem
    obtain ⟨socket, rfl⟩ := sending entry mem
    rfl
  rw [sendData]
  generalize s.dispatcher.channel.send data s.host = outcome at sent
  obtain ⟨(error | _) | _, host⟩ := outcome
  all_goals
    cases sent
  · refine ⟨calls, more, entries ++ [.notice (.notSent error)], ?_, ?_, away⟩
    · rw [← List.append_assoc]
      rfl
    · exact List.forall_mem_append.mpr ⟨passes, List.forall_mem_singleton.mpr trivial⟩
  · exact ⟨calls, more, entries, rfl, passes, away⟩
  · exact ⟨calls, more, entries, rfl, passes, away⟩

theorem sendData_dispatcher (data : Bytes) : (s.sendData data).2.dispatcher = s.dispatcher := by
  obtain ⟨_, _, _, sent, -⟩ := s.sendData_eq data
  rw [sent]

end Effects

/-- The callables that an event may come to, now or when a recipient has registered them. -/
def Knows (s : Session) (callable : Callable) : Prop :=
  callable ∈ s.dispatcher.callbacks.map (·.callable) ∨ callable ∈ s.host.kept.map (·.2)

/-- What a move records passes `p`, and it stops the dispatcher only if `stops` says so. -/
inductive Move (p : Entry → Prop) (stops : Prop) (s : Session) : Session → Prop
  | stop (h : stops) : Move p stops s s.stop.2
  | send (data : Bytes) : Move p stops s (s.sendData data).2
  | record {entry : Entry} (h : p entry) : Move p stops s (s.record entry)
  | arrange (clock : List Value) {kept : List (String × Callable)} (h : kept ⊆ s.host.kept) :
    Move p stops s { s with host := { s.host with clock, kept } }
  | callbacks {callbacks : List Reference}
    (h : ∀ reference ∈ callbacks, s.Knows reference.callable) :
    Move p stops s { s with dispatcher := { s.dispatcher with callbacks } }

abbrev Moves (p : Entry → Prop) (stops : Prop) : Session → Session → Prop :=
  Relation.ReflTransGen (Move p stops)

/-- No recipient stops the dispatcher unless `stops` says so. -/
structure Allows (stops : Prop) (s : Session) : Prop where
  consumer : ∀ consumer ∈ s.dispatcher.consumer, ∀ event, ∀ action ∈ consumer.reaction event,
    action.Allowed stops
  listeners : ∀ callable, s.Knows callable → ∀ event,
    ∀ action ∈ (s.host.listeners callable).reaction event, action.Allowed stops

theorem allows_true (s : Session) : s.Allows True :=
  ⟨fun _ _ _ action _ => action.allowed_true, fun _ _ _ action _ => action.allowed_true⟩

variable {p : Entry → Prop} {stops : Prop}

theorem Allows.of_subset {s t : Session} (h : s.Allows stops)
    (consumer : t.dispatcher.consumer = s.dispatcher.consumer)
    (listeners : t.host.listeners = s.host.listeners)
    (knows : ∀ callable, t.Knows callable → s.Knows callable) : t.Allows stops := by
  refine ⟨?_, ?_⟩
  · rw [consumer]
    exact h.consumer
  · rw [listeners]
    exact fun callable known => h.listeners callable (knows callable known)

theorem readClock_moves (s : Session) : Moves p stops s { s with host := s.host.readClock.2 } := by
  obtain ⟨clock, read⟩ := s.host.exists_readClock
  rw [read]
  exact .single (.arrange clock (List.Subset.refl s.host.kept))

theorem sendMessage_moves (s : Session) (peer text : Value) (broadcast : Bool) :
    Moves p stops s (s.sendMessage peer text broadcast).2 := by
  rw [sendMessage]
  split
  · exact .refl
  · dsimp only
    split
    · exact readClock_moves s
    · have reading : Moves p stops s { s with host := s.host.readClock.2 } := readClock_moves s
      have sending := reading.tail (.send ‹Bytes›)
      split
      all_goals
        rename_i sent
        rw [sent] at sending
        exact sending

theorem sendKeyRequest_moves (s : Session) (peer first second hops : Value) :
    Moves p stops s (s.sendKeyRequest peer first second hops).2 := by
  unfold sendKeyRequest
  dsimp only
  split
  · exact .refl
  · exact .single (.send _)

theorem register_moves (s : Session) (name : String) : Moves p stops s (s.register name) := by
  rw [register]
  split
  · exact .refl
  · rename_i named
    refine .single (.callbacks ?_)
    refine List.forall_mem_append.mpr ⟨fun reference mem => .inl (List.mem_map_of_mem mem), ?_⟩
    exact List.forall_mem_singleton.mpr (.inr (Host.mem_of_named? named))

theorem perform_stop (s : Session) : s.perform .stop =
    (match s.stop.1 with
      | .ok _ => none
      | .error e => some (.stopping e), s.stop.2) := by
  rw [perform]
  split
  all_goals
    rename_i stopped
    rw [stopped]

theorem perform_send (s : Session) (peer text : Value) : s.perform (.send peer text) =
    (match (s.sendMessage peer text false).1 with
      | .ok _ => none
      | .error e => some (.sending e), (s.sendMessage peer text false).2) := by
  rw [perform]
  split
  all_goals
    rename_i sent
    rw [sent]

theorem perform_moves (s : Session) {action : Action} (allowed : action.Allowed stops) :
    Moves p stops s (s.perform action).2 := by
  cases action with
  | fail text => exact .refl
  | stop =>
    rw [perform_stop]
    exact .single (.stop allowed)
  | send peer text =>
    rw [perform_send]
    exact sendMessage_moves s peer text false
  | register name => exact register_moves s name
  | forget name => exact .single (.arrange s.host.clock (List.filter_subset_self _))

theorem performAll_moves (s : Session) {actions : List Action}
    (allowed : ∀ action ∈ actions, action.Allowed stops) :
    Moves p stops s (s.performAll actions).2 := by
  induction actions generalizing s with
  | nil => exact .refl
  | cons action rest ih =>
    rw [List.forall_mem_cons] at allowed
    have first := perform_moves (p := p) s allowed.1
    rw [performAll]
    split
    · rename_i failed
      rw [failed] at first
      exact first
    · rename_i done
      rw [done] at first
      exact first.trans (ih _ allowed.2)

theorem act_moves (s : Session) {actions : List Action} {complaint : Failure → Notice}
    (allowed : ∀ action ∈ actions, action.Allowed stops)
    (hc : ∀ failure, p (.notice (complaint failure))) :
    Moves p stops s (s.act actions complaint) := by
  have acting := performAll_moves (p := p) s allowed
  rw [act]
  split
  · rename_i done
    rw [done] at acting
    exact acting
  · rename_i failure t failed
    rw [failed] at acting
    exact acting.tail (.record (hc failure))

section Knows

variable {s t : Session}

theorem Move.knows (h : Move p stops s t) {callable : Callable} (known : t.Knows callable) :
    s.Knows callable := by
  cases h with
  | stop =>
    obtain ⟨_, _, _, _, _, _, stopped, -⟩ := s.stop_eq
    rw [stopped] at known
    exact known
  | send data =>
    obtain ⟨_, _, _, sent, -⟩ := s.sendData_eq data
    rw [sent] at known
    exact known
  | record => exact known
  | arrange clock kept =>
    exact known.imp_right fun mem => List.map_subset _ kept mem
  | callbacks callbacks =>
    obtain mem | mem := known
    · obtain ⟨reference, inside, rfl⟩ := List.mem_map.mp mem
      exact callbacks reference inside
    · exact .inr mem

theorem Move.recipients (h : Move p stops s t) :
    t.dispatcher.consumer = s.dispatcher.consumer ∧ t.host.listeners = s.host.listeners := by
  cases h with
  | stop =>
    obtain ⟨_, _, _, _, _, _, stopped, -⟩ := s.stop_eq
    rw [stopped]
    exact ⟨rfl, rfl⟩
  | send data =>
    obtain ⟨_, _, _, sent, -⟩ := s.sendData_eq data
    rw [sent]
    exact ⟨rfl, rfl⟩
  | _ => exact ⟨rfl, rfl⟩

theorem Move.kept (h : Move p stops s t) :
    t.host.kept ⊆ s.host.kept ∧ t.host.equal = s.host.equal := by
  cases h with
  | stop =>
    obtain ⟨_, _, _, _, _, _, stopped, -⟩ := s.stop_eq
    rw [stopped]
    exact ⟨List.Subset.refl _, rfl⟩
  | send data =>
    obtain ⟨_, _, _, sent, -⟩ := s.sendData_eq data
    rw [sent]
    exact ⟨List.Subset.refl _, rfl⟩
  | arrange clock kept => exact ⟨kept, rfl⟩
  | _ => exact ⟨List.Subset.refl _, rfl⟩

theorem Moves.kept (h : Moves p stops s t) :
    t.host.kept ⊆ s.host.kept ∧ t.host.equal = s.host.equal := by
  induction h with
  | refl => exact ⟨List.Subset.refl _, rfl⟩
  | tail _ last ih =>
    obtain ⟨kept, equal⟩ := last.kept
    exact ⟨List.Subset.trans kept ih.1, equal.trans ih.2⟩

theorem Moves.allows (h : Moves p stops s t) (allows : s.Allows stops) : t.Allows stops := by
  induction h with
  | refl => exact allows
  | tail _ last ih => exact ih.of_subset last.recipients.1 last.recipients.2 fun _ => last.knows

end Knows

section Told

variable {event : Event} (told : ∀ name, p (.callback name event))
  (hc : ∀ failure, p (.notice (.callbackFailed event failure)))

include told hc

theorem tellCallbacks_moves {s : Session} (allows : s.Allows stops) (fuel i : Nat)
    (held : Option Callable) (dead : List Reference) :
    Moves p stops s (tellCallbacks event fuel i held dead s).2.2 := by
  induction fuel generalizing i held dead s with
  | zero => exact .refl
  | succ fuel ih =>
    rw [tellCallbacks]
    split
    · exact .refl
    · rename_i reference found
      split
      · exact ih allows ..
      · rename_i listener alive
        have known : s.Knows reference.callable :=
          .inl (List.mem_map_of_mem (List.mem_of_getElem? found))
        have mine : listener = s.host.listeners reference.callable := by
          rw [Host.listener?] at alive
          split at alive
          · exact (Option.some.inj alive).symm
          · cases alive
        have recorded : Move p stops s (s.record (.callback listener.name event)) :=
          .record (told listener.name)
        have turn : Moves p stops s ((s.record (.callback listener.name event)).act
            (listener.reaction event) (.callbackFailed event)) :=
          .head recorded (act_moves _ (mine ▸ allows.listeners _ known event) hc)
        exact turn.trans (ih (turn.allows allows) ..)

end Told

theorem tellConsumer_eq (s : Session) (event : Event) : s.tellConsumer event =
    match s.dispatcher.consumer, event.call? with
    | some consumer, some entry =>
      (s.record entry).act (consumer.reaction event) (.consumerFailed event)
    | _, _ => s := by
  unfold tellConsumer
  cases s.dispatcher.consumer <;> cases event <;> rfl

theorem tellConsumer_moves {s : Session} (allows : s.Allows stops) (event : Event) :
    Moves (Entry.Concerns event) stops s (s.tellConsumer event) := by
  rw [tellConsumer_eq]
  split
  · rename_i consumer entry present call
    exact .head (.record (Entry.concerns_of_call? call))
      (act_moves _ (allows.consumer consumer present event) fun _ => rfl)
  · exact .refl

theorem mem_foldl_eraseP {α β : Type} {p : β → α → Bool} {bs : List β} {as : List α} {a : α}
    (h : a ∈ bs.foldl (fun as b => as.eraseP (p b)) as) : a ∈ as := by
  induction bs generalizing as with
  | nil => exact h
  | cons b bs ih => exact List.mem_of_mem_eraseP (ih h)

theorem clean_moves (s : Session) (held : Option Callable) (dead : List Reference) :
    Moves p stops s (s.clean held dead) :=
  .single (.callbacks fun _ mem => .inl (List.mem_map_of_mem (mem_foldl_eraseP mem)))

theorem propagate_moves {s : Session} (allows : s.Allows stops) (event : Event) :
    Moves (Entry.Concerns event) stops s (s.propagate event) := by
  have consumer := tellConsumer_moves allows event
  rw [propagate]
  exact (consumer.trans (tellCallbacks_moves (fun _ => rfl) (fun _ => rfl)
    (consumer.allows allows) ..)).trans (clean_moves ..)

theorem Moves.imp {q : Entry → Prop} {s t : Session} (h : Moves p stops s t)
    (hq : ∀ entry, p entry → q entry) : Moves q stops s t := by
  refine Relation.ReflTransGen.mono (fun s t move => ?_) _ _ h
  cases move with
  | stop h => exact .stop h
  | send data => exact .send data
  | record h => exact .record (hq _ h)
  | arrange clock h => exact .arrange clock h
  | callbacks h => exact .callbacks h

theorem reportAll_moves (s : Session) {notices : List Notice}
    (h : ∀ notice ∈ notices, p (.notice notice)) :
    Moves p stops s { s with host := s.host.reportAll notices } := by
  induction notices generalizing s with
  | nil => exact .refl
  | cons notice rest ih =>
    rw [List.forall_mem_cons] at h
    exact .head (.record h.1) (ih (s.report notice) h.2)

theorem dispatch_moves {s : Session} (allows : s.Allows stops)
    (read : ∀ notice, notice.source = .codec → p (.notice notice))
    (told : ∀ event entry, Entry.Concerns event entry → p entry) (data : Bytes)
    (bound : Option Int) : Moves p stops s (s.dispatch data bound) := by
  have reading : Moves p stops s { s with host := s.host.reportAll (Frame.decode data bound).2 } :=
    reportAll_moves s fun notice mem => read notice (Frame.source_decode mem)
  rw [dispatch]
  dsimp only
  split
  · exact reading
  · exact reading.trans ((propagate_moves (reading.allows allows) _).imp (told _))

end Session

end ChatLink
