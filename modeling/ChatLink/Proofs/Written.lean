import ChatLink.Proofs.RoundTrip
import Mathlib.Data.List.Forall2

namespace ChatLink

theorem exists_of_bind_eq_ok {ε α β : Type} {x : Except ε α} {f : α → Except ε β} {b : β}
    (h : x >>= f = .ok b) : ∃ a, x = .ok a ∧ f a = .ok b := by
  cases x with
  | error e => cases h
  | ok a => exact ⟨a, rfl, h⟩

theorem error_of_bind_eq_error {ε α β : Type} {x : Except ε α} {f : α → Except ε β} {e : ε}
    (h : x >>= f = .error e) : x = .error e ∨ ∃ a, x = .ok a ∧ f a = .error e := by
  cases x with
  | error failed =>
    cases h
    exact .inl rfl
  | ok a => exact .inr ⟨a, rfl, h⟩

theorem eq_ok_of_mapError {ε ε' α : Type} {x : Except ε α} {f : ε → ε'} {a : α}
    (h : x.mapError f = .ok a) : x = .ok a := by
  cases x with
  | error e => cases h
  | ok b => exact congrArg _ (Except.ok.inj h)

theorem error_of_mapError {ε ε' α : Type} {x : Except ε α} {f : ε → ε'} {failed : ε'}
    (h : x.mapError f = .error failed) : ∃ e, x = .error e ∧ failed = f e := by
  cases x with
  | error e =>
    cases h
    exact ⟨e, rfl, rfl⟩
  | ok a => cases h

namespace Frame

def Writes (value : Value) (part : Bytes) : Prop := fieldBytes value = .ok part

theorem Writes.zero_not_mem {value : Value} {part : Bytes} (h : Writes value part) : 0 ∉ part := by
  rw [Writes, fieldBytes] at h
  split at h
  · cases h
  obtain ⟨bytes, -, h⟩ := exists_of_bind_eq_ok h
  split at h
  · cases h
  · rename_i free
    cases h
    simpa using free

theorem Writes.eq_encode {text : String} {part : Bytes} (h : Writes (.text text) part) :
    part = Utf8.encode text := by
  rw [Writes, fieldBytes] at h
  split at h
  · cases h
  obtain ⟨bytes, converted, h⟩ := exists_of_bind_eq_ok h
  split at h
  · cases h
  · cases h
    cases converted
    rfl

theorem writes_of_mapM {values : List Value} {parts : List Bytes}
    (h : values.mapM fieldBytes = .ok parts) : List.Forall₂ Writes values parts := by
  induction values generalizing parts with
  | nil =>
    cases h
    exact .nil
  | cons value values ih =>
    rw [List.mapM_cons] at h
    obtain ⟨part, first, h⟩ := exists_of_bind_eq_ok h
    obtain ⟨parts, later, h⟩ := exists_of_bind_eq_ok h
    cases h
    exact .cons first (ih later)

theorem zero_not_mem_of_writes {values : List Value} {parts : List Bytes}
    (h : List.Forall₂ Writes values parts) : ∀ part ∈ parts, 0 ∉ part := by
  induction h with
  | nil => exact List.forall_mem_nil _
  | cons first later ih => exact List.forall_mem_cons.mpr ⟨first.zero_not_mem, ih⟩

theorem toInt_of_writeNumber {size : Nat} {buffer : Bytes} {start : Int} {value : Value}
    {result : Bytes × Int} (h : writeNumber size buffer start value = .ok result) :
    ∃ n : Nat, value.toInt = .ok (n : Int) ∧ n < 256 ^ size := by
  rw [writeNumber] at h
  obtain ⟨n, number, h⟩ := exists_of_bind_eq_ok h
  split at h
  · cases h
  · rename_i fits
    rw [not_or, Int.not_lt, Int.not_le] at fits
    refine ⟨n.toNat, ?_, ?_⟩
    · rw [Int.toNat_of_nonneg fits.1]
      exact eq_ok_of_mapError number
    · rw [← Int.toNat_of_nonneg fits.1] at fits
      exact_mod_cast fits.2

theorem layout_of_build {code : UInt8} {time : Value} {parts : List Bytes} {frame : Bytes}
    (h : ∀ part ∈ parts, 0 ∉ part) (hb : build code time parts = .ok frame) :
    ∃ n : Nat, time.toInt = .ok (n : Int) ∧ n < 2 ^ 48 ∧ sizeOf parts < 2 ^ 32 ∧
      frame = layout code n parts := by
  have built := hb
  rw [build] at hb
  obtain ⟨_, size, hb⟩ := exists_of_bind_eq_ok hb
  obtain ⟨_, seconds, -⟩ := exists_of_bind_eq_ok hb
  obtain ⟨s, hs, small⟩ := toInt_of_writeNumber size
  obtain ⟨n, hn, most⟩ := toInt_of_writeNumber seconds
  obtain rfl : sizeOf parts = s := Int.ofNat.inj (Except.ok.inj hs)
  rw [build_eq h hn most small] at built
  exact ⟨n, hn, most, small, (Except.ok.inj built).symm⟩

theorem layout_of_writeMessage {peer text time : Value} {broadcast : Bool} {frame : Bytes}
    (h : writeMessage peer text broadcast time = .ok frame) :
    ∃ (p t : Bytes) (n : Nat), Writes peer p ∧ Writes text t ∧ time.toInt = .ok (n : Int) ∧
      n < 2 ^ 48 ∧ sizeOf [p, t] < 2 ^ 32 ∧ frame = layout (messageCode broadcast) n [p, t] := by
  rw [writeMessage] at h
  obtain ⟨parts, fields, h⟩ := exists_of_bind_eq_ok h
  have written := writes_of_mapM fields
  obtain ⟨n, hn, most, small, rfl⟩ := layout_of_build (zero_not_mem_of_writes written) h
  cases written with
  | cons first later =>
    cases later with
    | cons second last =>
      cases last
      exact ⟨_, _, n, first, second, hn, most, small, rfl⟩

theorem layout_of_encodeKey {peer first second hops : Value} {frame : Bytes}
    (h : encodeKey peer first second hops = .ok frame) :
    ∃ (parts : List Bytes) (n : Nat),
      List.Forall₂ Writes ([peer, first] ++ if second.isTrue then [second] else []) parts ∧
      hops.toInt = .ok (n : Int) ∧ n < 2 ^ 48 ∧ sizeOf parts < 2 ^ 32 ∧
      frame = layout keyCode n parts := by
  rw [encodeKey] at h
  obtain ⟨parts, fields, h⟩ := exists_of_bind_eq_ok h
  have written := writes_of_mapM fields
  obtain ⟨n, hn, most, small, rfl⟩ := layout_of_build (zero_not_mem_of_writes written) h
  exact ⟨parts, n, written, hn, most, small, rfl⟩

end Frame

end ChatLink
