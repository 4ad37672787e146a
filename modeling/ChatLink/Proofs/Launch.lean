import ChatLink.Proofs.Failures
import ChatLink.Proofs.Setup

/-!
What has become of the socket once a program has started, or has failed to. Whoever starts with a
consumer that lacks a method is told so only after the socket has been bound, and nobody closes it.
-/

namespace ChatLink

namespace Ledger

variable {faults : Nat → Faults} {ledger : Ledger} {entries more : List Entry} {socket : Nat}

theorem holds_append_iff (none : Entry.create ∉ more) :
    ledger.Holds faults (entries ++ more) socket ↔
      ledger.Holds faults entries socket ∧ Entry.close socket ∉ more := by
  constructor
  · rintro ⟨earlier, later, split, created, opened, unclosed⟩
    obtain ⟨between, -, rest⟩ | ⟨between, parts, rest⟩ := List.append_eq_append_iff.mp split
    · exact absurd (by rw [rest]; exact List.mem_append_right _ List.mem_cons_self) none
    · cases between with
      | nil => exact absurd (by rw [← List.nil_append more, ← rest]; exact List.mem_cons_self) none
      | cons entry between =>
        obtain ⟨rfl, tail⟩ := List.cons.inj rest
        rw [tail] at unclosed
        obtain ⟨before, after⟩ := not_or.mp fun closed => unclosed (List.mem_append.mpr closed)
        exact ⟨⟨earlier, between, parts, created, opened, before⟩, after⟩
  · rintro ⟨⟨earlier, later, rfl, created, opened, unclosed⟩, still⟩
    refine ⟨earlier, later ++ more, List.append_assoc .., created, opened, ?_⟩
    exact fun closed => (List.mem_append.mp closed).elim unclosed still

theorem holds_create_iff (none : Entry.create ∉ more) :
    ledger.Holds faults (.create :: more) socket ↔
      (ledger.created = socket ∧ (faults ledger.calls).opening = Option.none) ∧
        Entry.close socket ∉ more := by
  have first : ledger.Holds faults [.create] socket ↔
      ledger.created = socket ∧ (faults ledger.calls).opening = Option.none := by
    constructor
    · rintro ⟨earlier, later, split, created, opened, -⟩
      obtain ⟨rfl, -⟩ | ⟨rfl, -⟩ := List.append_eq_singleton_iff.mp split.symm
      · exact ⟨created, opened⟩
      · cases split
    · rintro ⟨created, opened⟩
      exact ⟨[], [], rfl, created, opened, List.not_mem_nil⟩
  rw [← first, ← List.singleton_append, holds_append_iff none]

end Ledger

def Prospect.leaves : Prospect → Bool
  | .denied => false
  | .stranded => false
  | .rejected => true
  | .nameless => true
  | .granted => true

theorem Channel.connect_holds {channel : Channel} (closed : channel.socket = none) (host : Host) :
    ∃ added, (channel.connect host).2.2.journal = host.journal ++ added ∧
      ∀ socket, host.ledger.Holds host.faults added socket ↔
        socket = host.created ∧ (host.prospect channel.bindAddress).leaves := by
  rw [Host.prospect]
  cases creation : (host.faults host.calls).opening with
  | some cause =>
    rw [connect_uncreated closed creation]
    refine ⟨[.create], rfl, fun socket => ?_⟩
    rw [Ledger.holds_create_iff List.not_mem_nil]
    simp [Host.ledger, creation, Prospect.leaves]
  | none =>
    -- nothing but the close of a socket that the system did not bind takes it away again
    have kept {more : List Entry} (none : .create ∉ more)
        (unclosed : .close host.created ∉ more) (socket : Nat) :
        host.ledger.Holds host.faults (.create :: more) socket ↔ socket = host.created := by
      rw [Ledger.holds_create_iff none]
      constructor
      · exact fun held => held.1.1.symm
      · rintro rfl
        exact ⟨⟨rfl, creation⟩, unclosed⟩
    cases binding : host.opened.bindError? channel.bindAddress with
    | some error =>
      cases error with
      | refused cause =>
        rw [connect_refused closed creation binding]
        refine ⟨[.create, .bind host.created channel.bindAddress 0], List.append_assoc ..,
          fun socket => ?_⟩
        rw [kept (by simp) (by simp)]
        simp [Prospect.leaves]
      | system cause =>
        rw [connect_unbound closed creation binding, Host.closeSocket_eq]
        refine ⟨[.create, .bind host.created channel.bindAddress 0, .close host.created], ?_,
          fun socket => ?_⟩
        · exact (List.append_assoc ..).trans (List.append_assoc ..)
        · rw [Ledger.holds_create_iff (by simp)]
          have gone : ¬((host.ledger.created = socket ∧
              (host.faults host.ledger.calls).opening = Option.none) ∧
                Entry.close socket ∉ [Entry.bind host.created channel.bindAddress 0,
                  .close host.created]) := by
            rintro ⟨⟨rfl, -⟩, unclosed⟩
            exact unclosed (List.mem_cons_of_mem _ List.mem_cons_self)
          cases (host.faults (host.calls + 2)).closing <;> simpa [Prospect.leaves] using gone
    | none =>
      cases naming : (host.faults (host.calls + 2)).naming with
      | some cause =>
        rw [connect_unnamed closed creation binding naming]
        refine ⟨[.create, .bind host.created channel.bindAddress 0, .name host.created], ?_,
          fun socket => ?_⟩
        · exact (List.append_assoc ..).trans (List.append_assoc ..)
        · rw [kept (by simp) (by simp)]
          simp [Prospect.leaves]
      | none =>
        rw [connect_bound closed creation binding naming]
        refine ⟨[.create, .bind host.created channel.bindAddress 0, .name host.created,
          .notice (.bound (host.nameOf channel.bindAddress) channel.backend)], ?_,
          fun socket => ?_⟩
        · exact (List.append_assoc ..).trans ((List.append_assoc ..).trans (List.append_assoc ..))
        · rw [kept (by simp) (by simp)]
          simp [Prospect.leaves]

namespace Session

variable {s t : Session} {socket : Nat}

theorem release_closes (isOpen : s.dispatcher.channel.socket = some socket) :
    s.release.host.journal = s.host.journal ++ [.close socket] := by
  rw [release, Channel.close_some isOpen]
  dsimp only
  rw [Host.closeSocket_eq]

theorem Overdue.journal (h : Overdue s t) : s.host.journal <+: t.host.journal := by
  cases h with
  | nothing => exact List.prefix_rfl
  | receipt => exact List.prefix_append ..
  | delivery event calm =>
    obtain ⟨added, journal, -⟩ := calm.journal
    exact ⟨added, journal.symm⟩
  | greeting => exact ⟨_, (giveUp_journal s unsent).symm⟩

theorem run_socket (isOpen : s.dispatcher.channel.socket = some socket) :
    s.run.2.dispatcher.channel.socket = some socket ∨
      s.run.2.dispatcher.channel.socket = none ∧
        ∃ added, s.run.2.host.journal = s.host.journal ++ added ∧ .close socket ∈ added := by
  obtain going | interrupted := run_outcome s .never
  · rw [going.channel]
    exact .inl isOpen
  · refine .inr ⟨interrupted.stopped.socket, ?_⟩
    obtain ⟨u, v, going, closing, overdue⟩ := interrupted
    obtain ⟨before, earlier⟩ := going.journal.trans closing.journal
    obtain ⟨after, later⟩ := overdue.journal
    have closes := release_closes (s := v) (by rw [closing.channel, going.channel]; exact isOpen)
    refine ⟨before ++ [.close socket] ++ after, ?_, by simp⟩
    rw [← later, closes, ← earlier, List.append_assoc, List.append_assoc, List.append_assoc]

theorem start_socket (isOpen : s.dispatcher.channel.socket = some socket) (spawns : s.Spawns) :
    s.start.1 = .ok () ∧ s.start.2.dispatcher.thread = .begun ∧
      (s.start.2.dispatcher.channel.socket = some socket ∨
        s.start.2.dispatcher.channel.socket = none ∧
          ∃ added, s.start.2.host.journal = s.host.journal ++ added ∧ .close socket ∈ added) := by
  rw [start_spawned spawns]
  exact ⟨rfl, congrArg Dispatcher.thread (core_run (s.withThread .begun) .never),
    run_socket (s := s.withThread .begun) isOpen⟩

end Session

structure Setup.Follows (setup : Setup) (settings : Settings) : Prop where
  backendAddress : setup.backend.address = settings.get .backendAddress
  backendPort : settings.get .backendPort = .int setup.backend.port
  bindAddress : setup.bindAddress = settings.get .bindAddress
  mtu : settings.get .mtu = .int setup.mtu
  greeting : setup.greeting = settings.greetingBytes
  hops : settings.get .hops = .int setup.hops

namespace Startup

structure Launched (consumer : Option Candidate) (settings : Settings) (fatal : FatalHandler)
    (host : Host) (s : Session) : Prop where
  thread : s.dispatcher.thread = .begun
  follows : s.setup.Follows settings
  consumer : consumer.mapM Candidate.check = .ok s.setup.consumer
  fatal : s.setup.fatal = fatal
  socket : s.dispatcher.channel.socket = some host.created ∨
    s.dispatcher.channel.socket = none ∧
      ∃ added, s.host.journal = host.journal ++ added ∧ .close host.created ∈ added

def Told (consumer : Option Candidate) (spawning : Option String) : Prospect → Error → Prop
  | .denied, error => error = .noSocket 1
  | .stranded, error => ∃ cause, error = .system (.system cause)
  | .rejected, error => ∃ cause, error = .system (.refused cause)
  | .nameless, error => ∃ cause, error = .system (.system cause)
  | .granted, error =>
    (∃ complaint, consumer.mapM Candidate.check = .error complaint ∧
      error = .dispatcher complaint) ∨
    ∃ checked cause, consumer.mapM Candidate.check = .ok checked ∧ spawning = some cause ∧
      error = .dispatcher (.noThread cause)

theorem start_launched {settings : Settings} {consumer : Option Candidate} {host : Host}
    {s : Session} {added : List Entry} (follows : s.setup.Follows settings)
    (offered : consumer.mapM Candidate.check = .ok s.setup.consumer)
    (isOpen : s.dispatcher.channel.socket = some host.created)
    (spawns : s.Spawns) (journal : s.host.journal = host.journal ++ added) :
    ∃ t, s.start = (.ok (), t) ∧ Launched consumer settings s.setup.fatal host t := by
  obtain ⟨done, thread, socket⟩ := Session.start_socket isOpen spawns
  have setup := Session.setup_start s .never
  obtain ⟨result, t, start⟩ : ∃ result t, s.start = (result, t) := ⟨_, _, rfl⟩
  rw [start] at done thread socket setup
  cases done
  refine ⟨t, start, thread, setup ▸ follows, setup ▸ offered, by rw [setup], ?_⟩
  obtain isOpen | ⟨closed, more, later, closing⟩ := socket
  · exact .inl isOpen
  · refine .inr ⟨closed, added ++ more, ?_, List.mem_append_right _ closing⟩
    rw [later, journal, List.append_assoc]

theorem start_granted [Machine] {given : List (String × Value)} {settings : Settings}
    (made : Settings.make given = .ok settings) {channel : Channel}
    (ready : makeChannel settings = .ok channel) {host later : Host} {added : List Entry}
    (done : channel.connect host = (.ok (), { channel with socket := some host.created }, later))
    (journal : later.journal = host.journal ++ added) (consumer : Option Candidate)
    (fatal : FatalHandler) : match start consumer settings fatal host with
    | .ok s => Launched consumer settings fatal host s
    | .error (error, last) => last.journal = host.journal ++ added ∧
      Told consumer (later.faults later.calls).spawning .granted error := by
  obtain ⟨_, same, -, backendAddress, backendPort, bindAddress, mtu⟩ := makeChannel_of_make made
  cases ready.symm.trans same
  obtain ⟨hops, limit, started⟩ := start_opened made ready done consumer fatal
  rw [started]
  cases offered : consumer.mapM Candidate.check with
  | error complaint => exact ⟨journal, .inl ⟨complaint, offered, rfl⟩⟩
  | ok checked =>
    dsimp only
    cases spawning : (later.faults later.calls).spawning with
    | some cause =>
      rw [Session.start_unspawned rfl spawning]
      exact ⟨journal, .inr ⟨checked, cause, offered, rfl, rfl⟩⟩
    | none =>
      have follows : (assembled settings { channel with socket := some host.created } hops fatal
          later checked).setup.Follows settings :=
        ⟨backendAddress, backendPort, bindAddress, mtu, rfl, limit⟩
      obtain ⟨t, started, launched⟩ := start_launched follows offered rfl ⟨rfl, spawning⟩ journal
      rw [started]
      exact launched

def messagesOnly : Candidate := ⟨some fun _ _ _ => [], none⟩

end Startup

end ChatLink
