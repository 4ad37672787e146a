import ChatLink.Proofs.Failures
import ChatLink.Proofs.Saving
import ChatLink.Proofs.Setup

namespace ChatLink

namespace Channel

theorem applyAll_backend (channel : Channel) (host : Host) (operations : List Operation) :
    (channel.applyAll host operations).1.backend = channel.backend := by
  induction operations generalizing channel host with
  | nil => rfl
  | cons operation rest ih =>
    obtain ⟨socket, same⟩ := apply_channel channel host operation
    have kept : (channel.apply host operation).1.backend = channel.backend := by rw [same]
    exact (ih _ _).trans kept

theorem trusts_backend {channel : Channel} {origin : Endpoint} (same : channel.backend = origin)
    (near : origin.address.isLoopback) (host : Host) :
    channel.trusts origin host = (true, host) := by
  rw [trusts, objection?, same, if_neg (not_not_intro rfl), if_pos near]

end Channel

namespace Session

theorem sendData_refused_iff {s : Session} {data : Bytes} {error : SocketError} :
    (s.sendData data).1 = .error error ↔
      s.dispatcher.channel.targetError? s.host = some error := by
  have raw := (s.dispatcher.channel.send_failsBy data s.host).raw error
  rw [← raw, sendData]
  obtain ⟨(_ | _) | _, _⟩ := s.dispatcher.channel.send data s.host <;> simp

theorem sendKeyRequest_answered {s : Session} {peer first : String} {second : Option String}
    (inside : Setting.hops.InRange s.dispatcher.hops)
    (fits : Frame.Fits (peer :: Frame.secretsOf first second)) :
    match s.dispatcher.channel.targetError? s.host with
    | none =>
      ∃ sent, (s.sendKeyRequest (.text peer) (.text first) (.ofText? second) .null).1 = .ok sent
    | some error =>
      (s.sendKeyRequest (.text peer) (.text first) (.ofText? second) .null).1 =
        .error (.socket error) := by
  obtain ⟨nonnegative, small⟩ := inside
  obtain ⟨limit, same⟩ := Int.eq_ofNat_of_zero_le nonnegative
  have whole : (Request.limit s.dispatcher.hops .null).toInt = .ok (limit : Int) := by
    rw [← same]
    rfl
  obtain ⟨frame, encoded⟩ : ∃ frame, Frame.encodeKey (.text peer) (.text first) (.ofText? second)
      (Request.limit s.dispatcher.hops .null) = .ok frame :=
    ⟨_, Frame.encodeKey_text fits whole (by omega)⟩
  have refused := @sendData_refused_iff s frame
  rw [sendKeyRequest_of_encoded encoded]
  cases target : s.dispatcher.channel.targetError? s.host with
  | some error =>
    dsimp only
    rw [refused.mpr target]
    rfl
  | none =>
    cases sent : (s.sendData frame).1 with
    | error error =>
      rw [refused.mp sent] at target
      cases target
    | ok done => exact ⟨done, rfl⟩

end Session

theorem Dispatcher.hops_of_make {channel : Channel} {consumer : Option Candidate} {greeting : Bytes}
    {hops : Int} {fatal : FatalHandler} {dispatcher : Dispatcher}
    (h : make channel consumer greeting (.int hops) fatal = .ok dispatcher) :
    dispatcher.hops = hops := by
  cases consumer with
  | none =>
    cases h
    rfl
  | some candidate =>
    obtain ⟨checked, -, h⟩ := exists_of_bind_eq_ok (x := some <$> candidate.check) h
    cases h
    rfl

namespace Settings

variable [Machine]

def particular (channel : Channel) : Session where
  dispatcher := {
    channel := { channel with socket := some 0 }
    consumer := none
    greeting := []
    hops := 5
    fatal := .note }
  host := { refusals := { target := fun _ => some "embedded null character" } }

end Settings

end ChatLink
