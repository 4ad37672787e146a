import ChatLink.Proofs.Moves

namespace ChatLink

theorem Event.isConsumerCall_of_call? {event : Event} {entry : Entry}
    (h : event.call? = some entry) : entry.isConsumerCall := by
  cases event <;> cases h <;> rfl

def Entry.IsUpkeep : Entry → Prop
  | .name _ => True
  | .sendTo .. => True
  | .close _ => True
  | .notice (.notSent _) => True
  | _ => False

theorem Entry.IsStop.isUpkeep {ownPort : Int} {entry : Entry} (h : entry.IsStop ownPort) :
    entry.IsUpkeep := by
  cases entry <;> trivial

theorem Entry.IsSend.isUpkeep {target : Endpoint} {entry : Entry} (h : entry.IsSend target) :
    entry.IsUpkeep := by
  cases entry with
  | notice notice => cases notice <;> trivial
  | _ => trivial

namespace Session

variable {p : Entry → Prop} {q : Entry → Bool} {stops : Prop} {s t u : Session}

theorem stop_adds (s : Session) (hq : ∀ entry, entry.IsStop s.host.ownPort → q entry = false) :
    s.host.Adds q s.stop.2.host [] := by
  obtain ⟨_, _, _, _, _, entries, stopped, -, stopping⟩ := s.stop_eq
  rw [stopped]
  exact .of_forall rfl fun entry mem => hq entry (stopping entry mem)

theorem halt_adds (s : Session) (hq : ∀ entry, entry.IsStop s.host.ownPort → q entry = false) :
    s.host.Adds q s.halt.2.host [] := by
  obtain ⟨_, _, entries, halted, stopping⟩ := s.halt_eq
  rw [halted]
  exact .of_forall rfl fun entry mem => hq entry (stopping entry mem)

theorem release_adds (s : Session) (hq : ∀ socket, q (.close socket) = false) :
    s.host.Adds q s.release.host [] := by
  obtain ⟨_, _, entries, released, closing⟩ := s.release_eq
  rw [released]
  refine .of_forall rfl fun entry mem => ?_
  obtain ⟨socket, rfl⟩ := closing entry mem
  exact hq socket

theorem meanwhile_adds {α : Type} {f : Session → α × Session} {entries : List Entry} (stop : Stop)
    (hq : ∀ entry, entry.IsStop s.host.ownPort → q entry = false)
    (hf : ∀ t, s.host.Adds q t.host [] → s.host.Adds q (f t).2.host entries) :
    s.host.Adds q (s.meanwhile stop f).2.host entries := by
  cases stop with
  | never => exact hf s (.refl _)
  | atOnce => exact hf _ (stop_adds s hq)
  | patiently =>
    have halted := hf _ (halt_adds s hq)
    rw [meanwhile]
    generalize s.halt = outcome at halted ⊢
    obtain ⟨_ | _, t⟩ := outcome
    · exact halted
    · exact halted.trans_hidden (release_adds _ fun socket => hq (.close socket) trivial)

theorem Move.journal (h : Move p stops s t) : ∃ added, t.host.journal = s.host.journal ++ added ∧
    ∀ entry ∈ added, p entry ∨ entry.IsUpkeep := by
  cases h with
  | stop =>
    obtain ⟨_, _, _, _, _, entries, stopped, -, stopping⟩ := s.stop_eq
    rw [stopped]
    exact ⟨entries, rfl, fun entry mem => .inr (stopping entry mem).isUpkeep⟩
  | send data =>
    obtain ⟨_, _, entries, sent, sending, -⟩ := s.sendData_eq data
    rw [sent]
    exact ⟨entries, rfl, fun entry mem => .inr (sending entry mem).isUpkeep⟩
  | record passes => exact ⟨_, rfl, List.forall_mem_singleton.mpr (.inl passes)⟩
  | arrange => exact ⟨[], (List.append_nil _).symm, nofun⟩
  | callbacks => exact ⟨[], (List.append_nil _).symm, nofun⟩

theorem Moves.journal (h : Moves p stops s t) : ∃ added, t.host.journal = s.host.journal ++ added ∧
    ∀ entry ∈ added, p entry ∨ entry.IsUpkeep := by
  induction h with
  | refl => exact ⟨[], (List.append_nil _).symm, nofun⟩
  | tail _ last ih =>
    obtain ⟨before, earlier, first⟩ := ih
    obtain ⟨after, later, second⟩ := last.journal
    exact ⟨before ++ after, by rw [later, earlier, List.append_assoc],
      List.forall_mem_append.mpr ⟨first, second⟩⟩

theorem Moves.adds (h : Moves p stops s t)
    (hq : ∀ entry, p entry ∨ entry.IsUpkeep → q entry = false) : s.host.Adds q t.host [] := by
  obtain ⟨added, journal, passes⟩ := h.journal
  exact .of_forall journal fun entry mem => hq entry (passes entry mem)

structure Undisturbed (s t : Session) : Prop where
  dispatcher : ∃ callbacks, t.dispatcher = { s.dispatcher with callbacks }
  refusals : t.host.refusals = s.host.refusals
  ownPort : t.host.ownPort = s.host.ownPort
  inbox : s.dispatcher.channel.backend.port ≠ s.host.ownPort → t.host.inbox = s.host.inbox

namespace Undisturbed

theorem refl (s : Session) : Undisturbed s s := ⟨⟨_, rfl⟩, rfl, rfl, fun _ => rfl⟩

theorem consumer (st : Undisturbed s t) : t.dispatcher.consumer = s.dispatcher.consumer := by
  obtain ⟨_, dispatcher⟩ := st.dispatcher
  rw [dispatcher]

theorem channel (st : Undisturbed s t) : t.dispatcher.channel = s.dispatcher.channel := by
  obtain ⟨_, dispatcher⟩ := st.dispatcher
  rw [dispatcher]

theorem shutdown (st : Undisturbed s t) : t.dispatcher.shutdown = s.dispatcher.shutdown := by
  obtain ⟨_, dispatcher⟩ := st.dispatcher
  rw [dispatcher]

theorem trans (st : Undisturbed s t) (tu : Undisturbed t u) : Undisturbed s u where
  dispatcher := by
    obtain ⟨_, first⟩ := st.dispatcher
    obtain ⟨callbacks, second⟩ := tu.dispatcher
    exact ⟨callbacks, by rw [second, first]⟩
  refusals := tu.refusals.trans st.refusals
  ownPort := tu.ownPort.trans st.ownPort
  inbox away := (tu.inbox (by rw [st.channel, st.ownPort]; exact away)).trans (st.inbox away)

end Undisturbed

theorem Move.undisturbed (h : Move p False s t) : Undisturbed s t := by
  cases h with
  | stop h => exact h.elim
  | send data =>
    obtain ⟨_, more, _, sent, -, away⟩ := s.sendData_eq data
    rw [sent]
    exact ⟨⟨_, rfl⟩, rfl, rfl, fun elsewhere => by
      dsimp only
      rw [away elsewhere, List.append_nil]⟩
  | callbacks => exact ⟨⟨_, rfl⟩, rfl, rfl, fun _ => rfl⟩
  | _ => exact ⟨⟨_, rfl⟩, rfl, rfl, fun _ => rfl⟩

theorem Moves.undisturbed (h : Moves p False s t) : Undisturbed s t := by
  induction h with
  | refl => exact .refl s
  | tail _ last ih => exact ih.trans last.undisturbed

/-- Unless somebody opens the channel again, nothing leads out of here. -/
structure Stopped (s : Session) : Prop where
  shutdown : s.dispatcher.shutdown = true
  socket : s.dispatcher.channel.socket = none
  state : s.dispatcher.state = .stopped

theorem shutdown_halt (s : Session) : s.halt.2.dispatcher.shutdown = true := by
  obtain ⟨_, _, _, halted, -⟩ := s.halt_eq
  rw [halted]

theorem stopped_release (h : s.dispatcher.shutdown = true) : s.release.Stopped := by
  obtain ⟨_, _, _, released, -⟩ := s.release_eq
  rw [released]
  exact ⟨h, rfl, rfl⟩

theorem stopped_stop (h : s.stop.1 = .ok ()) : s.stop.2.Stopped := by
  rw [stop_result] at h
  rw [stop_of_ok h]
  exact stopped_release s.shutdown_halt

theorem halt_of_closed (shut : s.dispatcher.shutdown = true)
    (closed : s.dispatcher.channel.socket = none) : s.halt =
      (if s.dispatcher.thread = .unbegun then .error .threadNotBegun else .ok (), s) := by
  obtain ⟨⟨⟨_, _, _, socket⟩, _, _, _, _, _, shutdown, _, thread⟩, host⟩ := s
  cases shut
  cases closed
  cases thread <;> rfl

theorem release_of_closed (closed : s.dispatcher.channel.socket = none) :
    s.release = s.setState .stopped := by
  rw [release, Channel.close_none closed]
  rfl

namespace Stopped

theorem halt_eq (h : s.Stopped) : s.halt =
    (if s.dispatcher.thread = .unbegun then .error .threadNotBegun else .ok (), s) :=
  halt_of_closed h.shutdown h.socket

theorem setState_eq (h : s.Stopped) : s.setState .stopped = s := by
  rw [setState, ← h.state]

theorem release_eq (h : s.Stopped) : s.release = s := by
  rw [release_of_closed h.socket, h.setState_eq]

theorem stop_eq (h : s.Stopped) : s.stop.2 = s := by
  cases halted : s.halt.1 with
  | error error =>
    rw [stop_of_error halted, h.halt_eq]
  | ok =>
    rw [stop_of_ok halted, h.halt_eq]
    exact h.release_eq

end Stopped

end Session

end ChatLink
