import ChatLink.Proofs.Socket
import Mathlib.Data.List.Induction

/-!
The sockets of a channel, read off the journal of its calls: whatever fails, it has at most one at a
time, uses no other, and closes it before it creates the next.
-/

namespace ChatLink

structure Ledger where
  calls : Nat
  created : Nat
  live : List Nat

namespace Entry

def socket? : Entry → Option Nat
  | .bind socket .. => some socket
  | .name socket => some socket
  | .sendTo socket .. => some socket
  | .receiveFrom socket _ => some socket
  | .close socket => some socket
  | _ => none

def isSocketCall : Entry → Bool
  | .create => true
  | entry => entry.socket?.isSome

/-- A socket is created when there is none, and every other call is made on the only one. -/
def Proper (live : List Nat) : Entry → Prop
  | .create => live = []
  | entry => ∀ socket ∈ entry.socket?, live = [socket]

theorem proper_of_socket? {entry : Entry} {socket : Nat} (h : entry.socket? = some socket) :
    entry.Proper [socket] := by
  cases entry with
  | create => cases h
  | _ =>
    intro other mine
    rw [h] at mine
    cases mine
    rfl

end Entry

namespace Ledger

/-- What a ledger says after one more entry. Whether a socket could be created is not in the
journal, and depends on the number of the call. -/
def enter (faults : Nat → Faults) (ledger : Ledger) : Entry → Ledger
  | .create =>
    match (faults ledger.calls).opening with
    | some _ => { ledger with calls := ledger.calls + 1 }
    | none => ⟨ledger.calls + 1, ledger.created + 1, ledger.live ++ [ledger.created]⟩
  | .close socket => { ledger with calls := ledger.calls + 1, live := ledger.live.erase socket }
  | .bind .. => { ledger with calls := ledger.calls + 1 }
  | .name _ => { ledger with calls := ledger.calls + 1 }
  | .sendTo .. => { ledger with calls := ledger.calls + 1 }
  | .receiveFrom .. => { ledger with calls := ledger.calls + 1 }
  | _ => ledger

def enterAll (faults : Nat → Faults) (ledger : Ledger) (entries : List Entry) : Ledger :=
  entries.foldl (enter faults) ledger

def Orderly (faults : Nat → Faults) : Ledger → List Entry → Prop
  | ledger, [] => ledger.live.length ≤ 1
  | ledger, entry :: rest =>
    ledger.live.length ≤ 1 ∧ entry.Proper ledger.live ∧
      Orderly faults (ledger.enter faults entry) rest

/-- A socket was created successfully, and no close was called on it since. -/
def Holds (faults : Nat → Faults) (ledger : Ledger) (entries : List Entry) (socket : Nat) : Prop :=
  ∃ earlier later, entries = earlier ++ .create :: later ∧
    (ledger.enterAll faults earlier).created = socket ∧
    (faults (ledger.enterAll faults earlier).calls).opening = none ∧
    Entry.close socket ∉ later

variable {faults : Nat → Faults} {ledger : Ledger} {entries more : List Entry} {entry : Entry}

theorem enter_create (h : (faults ledger.calls).opening = none) : ledger.enter faults .create =
    ⟨ledger.calls + 1, ledger.created + 1, ledger.live ++ [ledger.created]⟩ := by
  rw [enter, h]

theorem enter_create_failed {cause : String} (h : (faults ledger.calls).opening = some cause) :
    ledger.enter faults .create = { ledger with calls := ledger.calls + 1 } := by
  rw [enter, h]

theorem enterAll_append : ledger.enterAll faults (entries ++ more) =
    (ledger.enterAll faults entries).enterAll faults more :=
  List.foldl_append ..

theorem enterAll_concat : ledger.enterAll faults (entries ++ [entry]) =
    (ledger.enterAll faults entries).enter faults entry :=
  enterAll_append

theorem Orderly.length_le (h : Orderly faults ledger entries) : ledger.live.length ≤ 1 := by
  cases entries with
  | nil => exact h
  | cons entry rest => exact h.1

theorem orderly_append : Orderly faults ledger (entries ++ more) ↔
    Orderly faults ledger entries ∧ Orderly faults (ledger.enterAll faults entries) more := by
  induction entries generalizing ledger with
  | nil =>
    constructor
    · exact fun h => ⟨h.length_le, h⟩
    · exact And.right
  | cons entry rest ih =>
    simp only [List.cons_append, Orderly, ih, enterAll, List.foldl_cons, and_assoc]

theorem Orderly.proper (h : Orderly faults ledger (entries ++ entry :: more)) :
    entry.Proper (ledger.enterAll faults entries).live :=
  (orderly_append.mp h).2.2.1

theorem holds_of_mem_live (none : ledger.live = []) (h : Orderly faults ledger entries)
    {socket : Nat} (live : socket ∈ (ledger.enterAll faults entries).live) :
    Holds faults ledger entries socket := by
  induction entries using List.reverseRecOn with
  | nil =>
    rw [enterAll, List.foldl_nil, none] at live
    cases live
  | append_singleton entries entry ih =>
    have proper := h.proper
    have kept (before : socket ∈ (ledger.enterAll faults entries).live)
        (other : Entry.close socket ≠ entry) :
        Holds faults ledger (entries ++ [entry]) socket := by
      obtain ⟨earlier, later, rfl, created, opened, unclosed⟩ := ih (orderly_append.mp h).1 before
      refine ⟨earlier, later ++ [entry], List.append_assoc .., created, opened, ?_⟩
      rw [List.mem_append, List.mem_singleton]
      exact not_or.mpr ⟨unclosed, other⟩
    rw [enterAll_concat] at live
    cases entry with
    | create =>
      rw [enter] at live
      split at live
      · exact kept live nofun
      · rename_i opened
        obtain before | new := List.mem_append.mp live
        · exact kept before nofun
        · exact ⟨entries, [], rfl, (List.mem_singleton.mp new).symm, opened, List.not_mem_nil⟩
    | close closed =>
      -- a close is called on the only socket there is, so that none is left
      rw [enter, proper closed rfl, List.erase_cons_head] at live
      cases live
    | _ => exact kept live nofun

end Ledger

namespace Host

def ledger (host : Host) : Ledger := ⟨host.calls, host.created, host.live⟩

structure Keeps (h k : Host) : Prop where
  faults : k.faults = h.faults
  refusals : k.refusals = h.refusals
  journal : ∃ added, k.journal = h.journal ++ added ∧
    k.ledger = h.ledger.enterAll h.faults added ∧ h.ledger.Orderly h.faults added

namespace Keeps

variable {h k l : Host}

theorem refl (few : h.live.length ≤ 1) : Keeps h h :=
  ⟨rfl, rfl, [], (List.append_nil _).symm, rfl, few⟩

theorem trans (hk : Keeps h k) (kl : Keeps k l) : Keeps h l := by
  obtain ⟨added, journal, ledger, orderly⟩ := hk.journal
  obtain ⟨more, journal', ledger', orderly'⟩ := kl.journal
  rw [hk.faults, ledger] at ledger' orderly'
  refine ⟨kl.faults.trans hk.faults, kl.refusals.trans hk.refusals, added ++ more, ?_, ?_, ?_⟩
  · rw [journal', journal, List.append_assoc]
  · rw [ledger', Ledger.enterAll_append]
  · exact Ledger.orderly_append.mpr ⟨orderly, orderly'⟩

theorem of_entry {entry : Entry} (faults : k.faults = h.faults) (refusals : k.refusals = h.refusals)
    (journal : k.journal = h.journal ++ [entry]) (ledger : k.ledger = h.ledger.enter h.faults entry)
    (proper : entry.Proper h.live) (before : h.live.length ≤ 1) (after : k.live.length ≤ 1) :
    Keeps h k := by
  refine ⟨faults, refusals, [entry], journal, ledger, before, proper, ?_⟩
  rw [← ledger]
  exact after

theorem of_use {entry : Entry} {socket : Nat} (faults : k.faults = h.faults)
    (refusals : k.refusals = h.refusals) (journal : k.journal = h.journal ++ [entry])
    (ledger : k.ledger = h.ledger.enter h.faults entry)
    (mine : entry.socket? = some socket) (one : h.live = [socket]) (after : k.live.length ≤ 1) :
    Keeps h k := by
  refine .of_entry faults refusals journal ledger ?_ ?_ after
  · rw [one]
    exact Entry.proper_of_socket? mine
  · rw [one]
    exact Nat.le_refl 1

end Keeps

variable {host : Host} {socket : Nat}

theorem few_of_none (none : host.live = []) : host.live.length ≤ 1 := by
  rw [none]
  exact Nat.zero_le 1

theorem few_of_one (one : host.live = [socket]) : host.live.length ≤ 1 :=
  Nat.le_of_eq (congrArg List.length one)

theorem report_keeps (few : host.live.length ≤ 1) (notice : Notice) :
    host.Keeps (host.report notice) :=
  .of_entry rfl rfl rfl rfl nofun few few

theorem create_keeps (none : host.live = []) {cause : String}
    (h : (host.faults host.calls).opening = some cause) : host.Keeps (host.call .create).2 := by
  have few := few_of_none none
  have entered : host.ledger.enter host.faults .create = _ := Ledger.enter_create_failed h
  exact .of_entry rfl rfl rfl entered.symm none few few

theorem opened_keeps (none : host.live = []) (h : (host.faults host.calls).opening = Option.none) :
    host.Keeps host.opened ∧ host.opened.live = [host.created] := by
  have few := few_of_none none
  have one : host.opened.live = [host.created] := by rw [opened, none, List.nil_append]
  have entered : host.ledger.enter host.faults .create = _ := Ledger.enter_create h
  exact ⟨.of_entry rfl rfl rfl entered.symm none few (few_of_one one), one⟩

section Use

variable (one : host.live = [socket])

include one

theorem bind_keeps (address : Value) : host.Keeps (host.call (.bind socket address 0)).2 :=
  .of_use rfl rfl rfl rfl rfl one (few_of_one one)

theorem name_keeps : host.Keeps (host.call (.name socket)).2 :=
  .of_use rfl rfl rfl rfl rfl one (few_of_one one)

theorem sendTo_keeps (data : Bytes) (target : Endpoint) :
    host.Keeps (host.sendTo socket data target).2 ∧
      (host.sendTo socket data target).2.live = [socket] := by
  obtain ⟨more, sent⟩ := sendTo_eq host socket data target
  rw [sent]
  exact ⟨.of_use rfl rfl rfl rfl rfl one (few_of_one one), one⟩

theorem receiveFrom_keeps (size : Int) : host.Keeps (host.receiveFrom socket size).2 ∧
    (host.receiveFrom socket size).2.live = [socket] := by
  have received : host.Keeps (host.call (.receiveFrom socket size)).2 :=
    .of_use rfl rfl rfl rfl rfl one (few_of_one one)
  rw [receiveFrom]
  dsimp only
  split
  · exact ⟨received, one⟩
  · exact ⟨received, one⟩
  · exact ⟨⟨received.faults, received.refusals, received.journal⟩, one⟩

theorem closeSocket_keeps : host.Keeps (host.closeSocket socket).2 ∧
    (host.closeSocket socket).2.live = [] := by
  have none : host.live.erase socket = [] := by rw [one, List.erase_cons_head]
  have few : (host.live.erase socket).length ≤ 1 := by rw [none]; exact Nat.zero_le 1
  rw [closeSocket_eq]
  exact ⟨.of_use rfl rfl rfl rfl rfl one few, none⟩

end Use

end Host

namespace Channel

/-- What is done with a channel. To receive is to wait and to take what arrived; somebody else may do
something in between. -/
inductive Operation
  | connect
  | close
  | send (data : Bytes)
  | receive
  | await
  | accept (arrival : Arrival)
  | wake
  | trust (origin : Endpoint)

def apply (channel : Channel) (host : Host) : Operation → Channel × Host
  | .connect => (channel.connect host).2
  | .close => channel.close host
  | .send data => (channel, (channel.send data host).2)
  | .receive => (channel, (channel.receive host).2)
  | .await => (channel, (channel.await host).2)
  | .accept arrival => (channel, (channel.accept arrival host).2)
  | .wake => (channel, (channel.wake host).2)
  | .trust origin => (channel, (channel.trusts origin host).2)

def applyAll (channel : Channel) (host : Host) : List Operation → Channel × Host
  | [] => (channel, host)
  | operation :: rest =>
    let (channel, host) := channel.apply host operation
    channel.applyAll host rest

def Owns (channel : Channel) (host : Host) : Prop := host.live = channel.socket.toList

def Bindable (channel : Channel) (host : Host) : Prop :=
  host.refusals.address channel.bindAddress = none

variable {channel : Channel} {host : Host}

theorem Owns.few (owns : channel.Owns host) : host.live.length ≤ 1 := by
  rw [owns]
  cases channel.socket with
  | none => exact Nat.zero_le 1
  | some socket => exact Nat.le_refl 1

theorem Owns.one (owns : channel.Owns host) {socket : Nat} (h : channel.socket = some socket) :
    host.live = [socket] := by
  rw [owns, h]
  rfl

theorem Bindable.ne_refused (bindable : channel.Bindable host) (cause : String) :
    host.opened.bindError? channel.bindAddress ≠ some (.refused cause) := by
  intro refused
  have accepted : host.opened.refusals.address channel.bindAddress = none := bindable
  rw [Host.bindError?, Host.error?_eq_refused, accepted] at refused
  cases refused

theorem connect_keeps (owns : channel.Owns host) (bindable : channel.Bindable host) :
    host.Keeps (channel.connect host).2.2 ∧
      (channel.connect host).2.1.Owns (channel.connect host).2.2 := by
  cases closed : channel.socket with
  | some socket =>
    rw [connect_some closed]
    exact ⟨.refl owns.few, owns⟩
  | none =>
    have empty : host.live = [] := by rw [owns, closed]; rfl
    cases creation : (host.faults host.calls).opening with
    | some cause =>
      rw [connect_uncreated closed creation]
      exact ⟨Host.create_keeps empty creation, owns⟩
    | none =>
      obtain ⟨created, one⟩ := Host.opened_keeps empty creation
      have bound : host.Keeps (channel.bound host) := created.trans (Host.bind_keeps one _)
      have still : (channel.bound host).live = [host.created] := one
      have named : host.Keeps (channel.named host) := bound.trans (Host.name_keeps still)
      cases binding : host.opened.bindError? channel.bindAddress with
      | some error =>
        cases error with
        | refused cause => exact absurd binding (bindable.ne_refused cause)
        | system cause =>
          obtain ⟨unbound, gone⟩ := Host.closeSocket_keeps still
          rw [connect_unbound closed creation binding]
          exact ⟨bound.trans unbound, gone.trans (congrArg Option.toList closed.symm)⟩
      | none =>
        cases naming : (host.faults (host.calls + 2)).naming with
        | some cause =>
          rw [connect_unnamed closed creation binding naming]
          exact ⟨named, still⟩
        | none =>
          have reported := (channel.named host).report_keeps (Host.few_of_one still)
            (.bound (host.nameOf channel.bindAddress) channel.backend)
          rw [connect_bound closed creation binding naming]
          exact ⟨named.trans reported, still⟩

theorem close_keeps (owns : channel.Owns host) :
    host.Keeps (channel.close host).2 ∧ (channel.close host).1.Owns (channel.close host).2 := by
  cases closed : channel.socket with
  | none =>
    rw [close_none closed]
    exact ⟨.refl owns.few, owns⟩
  | some socket =>
    have one := owns.one closed
    rw [close_some closed]
    exact Host.closeSocket_keeps one

theorem send_keeps (owns : channel.Owns host) (data : Bytes) :
    host.Keeps (channel.send data host).2 ∧ channel.Owns (channel.send data host).2 := by
  cases closed : channel.socket with
  | none =>
    rw [send_none closed]
    exact ⟨.refl owns.few, owns⟩
  | some socket =>
    have one := owns.one closed
    rw [send_some closed, Owns, closed]
    exact Host.sendTo_keeps one ..

theorem wake_keeps (owns : channel.Owns host) :
    host.Keeps (channel.wake host).2 ∧ channel.Owns (channel.wake host).2 := by
  cases closed : channel.socket with
  | none =>
    rw [wake_none closed]
    exact ⟨.refl owns.few, owns⟩
  | some socket =>
    have one := owns.one closed
    have named := Host.name_keeps one
    rw [Owns, closed]
    cases naming : (host.faults host.calls).naming with
    | some cause =>
      rw [wake_unnamed closed naming]
      exact ⟨named, one⟩
    | none =>
      have still : (host.call (.name socket)).2.live = [socket] := one
      have sent := Host.sendTo_keeps still [] (reach (host.nameOf channel.bindAddress))
      rw [wake_named closed naming]
      exact ⟨named.trans sent.1, sent.2⟩

theorem await_keeps (owns : channel.Owns host) :
    host.Keeps (channel.await host).2 ∧ channel.Owns (channel.await host).2 := by
  rw [await]
  cases closed : channel.socket with
  | none => exact ⟨.refl owns.few, owns⟩
  | some socket =>
    have received := Host.receiveFrom_keeps (owns.one closed) channel.mtu
    rw [Owns, closed]
    dsimp only
    split
    all_goals
      rename_i outcome
      rw [outcome] at received
      exact received

theorem accept_keeps (owns : channel.Owns host) (arrival : Arrival) :
    host.Keeps (channel.accept arrival host).2 ∧
      channel.Owns (channel.accept arrival host).2 := by
  rw [accept]
  split
  · exact ⟨.refl owns.few, owns⟩
  · exact ⟨Host.report_keeps owns.few _, owns⟩

theorem receive_keeps (owns : channel.Owns host) :
    host.Keeps (channel.receive host).2 ∧ channel.Owns (channel.receive host).2 := by
  have waited := await_keeps owns
  rw [receive]
  split
  all_goals
    rename_i outcome
    rw [outcome] at waited
  · exact waited
  · obtain ⟨accepted, owned⟩ := accept_keeps waited.2 ‹Arrival›
    exact ⟨waited.1.trans accepted, owned⟩

theorem trusts_keeps (owns : channel.Owns host) (origin : Endpoint) :
    host.Keeps (channel.trusts origin host).2 ∧ channel.Owns (channel.trusts origin host).2 := by
  rw [trusts]
  split
  · exact ⟨Host.report_keeps owns.few _, owns⟩
  · exact ⟨.refl owns.few, owns⟩

theorem connect_channel (channel : Channel) (host : Host) :
    ∃ socket, (channel.connect host).2.1 = { channel with socket } := by
  rw [connect]
  split
  · exact ⟨channel.socket, rfl⟩
  · split
    · exact ⟨channel.socket, rfl⟩
    · split
      · exact ⟨channel.socket, rfl⟩
      · split <;> exact ⟨channel.socket, rfl⟩
      · dsimp only
        split <;> exact ⟨_, rfl⟩

theorem apply_channel (channel : Channel) (host : Host) (operation : Operation) :
    ∃ socket, (channel.apply host operation).1 = { channel with socket } := by
  cases operation with
  | connect => exact connect_channel channel host
  | close => exact ⟨none, close_channel channel host⟩
  | _ => exact ⟨channel.socket, rfl⟩

theorem apply_keeps (owns : channel.Owns host) (bindable : channel.Bindable host)
    (operation : Operation) : host.Keeps (channel.apply host operation).2 ∧
      (channel.apply host operation).1.Owns (channel.apply host operation).2 := by
  cases operation with
  | connect => exact connect_keeps owns bindable
  | close => exact close_keeps owns
  | send data => exact send_keeps owns data
  | receive => exact receive_keeps owns
  | await => exact await_keeps owns
  | accept arrival => exact accept_keeps owns arrival
  | wake => exact wake_keeps owns
  | trust origin => exact trusts_keeps owns origin

theorem applyAll_keeps (owns : channel.Owns host) (bindable : channel.Bindable host)
    (operations : List Operation) : host.Keeps (channel.applyAll host operations).2 ∧
      (channel.applyAll host operations).1.Owns (channel.applyAll host operations).2 := by
  induction operations generalizing channel host with
  | nil => exact ⟨.refl owns.few, owns⟩
  | cons operation rest ih =>
    obtain ⟨first, still⟩ := apply_keeps owns bindable operation
    obtain ⟨socket, same⟩ := apply_channel channel host operation
    obtain ⟨later, owned⟩ := ih still (by rw [Bindable, first.refusals, same]; exact bindable)
    exact ⟨first.trans later, owned⟩

theorem connect_error {error : Breakdown} (h : (channel.connect host).1 = .error error)
    (named : (host.faults (host.calls + 2)).naming = none) :
    (channel.connect host).2.1 = channel := by
  cases closed : channel.socket with
  | some socket => rw [connect_some closed]
  | none =>
    cases creation : (host.faults host.calls).opening with
    | some cause => rw [connect_uncreated closed creation]
    | none =>
      cases binding : host.opened.bindError? channel.bindAddress with
      | some error =>
        cases error with
        | refused cause => rw [connect_refused closed creation binding]
        | system cause => rw [connect_unbound closed creation binding]
      | none =>
        rw [connect_bound closed creation binding named] at h
        cases h

def untried : Channel where
  backend := ⟨.text "127.0.0.1", 41244⟩
  bindAddress := .text ""
  mtu := 1500

def stubborn : Host where
  faults calls :=
    match calls with
    | 1 => { binding := some "in use" }
    | 7 => { closing := some "bad descriptor" }
    | _ => {}

def disturbed : Session where
  dispatcher := {
    channel := { untried with socket := some 0 }
    consumer := none
    greeting := []
    hops := 5
    fatal := .note }
  host := { live := [0], inbox := [⟨.atOnce, .error "timed out"⟩] }

def strict : Host where
  refusals := { address := fun _ => some "embedded null character" }

end Channel

end ChatLink
