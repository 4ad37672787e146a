import ChatLink.Channel
import ChatLink.Proofs.Exchange
import ChatLink.Proofs.Spellings

namespace ChatLink

namespace Address

def dotted (a b c d : Nat) : String :=
  toString a ++ "." ++ toString b ++ "." ++ toString c ++ "." ++ toString d

theorem toList_dotted (a b c d : Nat) :
    (dotted a b c d).toList = joined '.' ([a, b, c, d].map (Nat.toDigits 10)) := by
  simp [dotted]

section Octets

variable {a b c d : Nat}

theorem quad_dotted (ha : a < 256) (hb : b < 256) (hc : c < 256) (hd : d < 256) :
    Quad (dotted a b c d).toList (((a * 256 + b) * 256 + c) * 256 + d) := by
  rw [toList_dotted]
  exact .octets ha hb hc hd

theorem exists_dotted {s : String} {n : Nat} (h : Quad s.toList n) :
    ∃ a b c d, a < 256 ∧ b < 256 ∧ c < 256 ∧ d < 256 ∧ s = dotted a b c d ∧
      n = ((a * 256 + b) * 256 + c) * 256 + d := by
  generalize same : s.toList = text at h
  obtain @⟨a, b, c, d, ha, hb, hc, hd⟩ := h
  refine ⟨a, b, c, d, ha, hb, hc, hd, ?_, rfl⟩
  rw [← String.toList_inj, same, toList_dotted]

theorem isLoopback_dotted (ha : a < 256) (hb : b < 256) (hc : c < 256) (hd : d < 256) :
    (Value.text (dotted a b c d)).isLoopback ↔ a = 127 := by
  have quad := quad_dotted ha hb hc hd
  have first : (((a * 256 + b) * 256 + c) * 256 + d) / 2 ^ 24 = a := by omega
  rw [isLoopback_text_iff]
  constructor
  · rintro (⟨n, other, near⟩ | spells)
    · rwa [other.unique quad, first] at near
    · exact absurd spells quad.not_spells
  · rintro rfl
    exact .inl ⟨_, quad, first⟩

theorem isLoopback_iff_dotted {s : String} : (Value.text s).isLoopback ↔
    (∃ b c d, b < 256 ∧ c < 256 ∧ d < 256 ∧ s = dotted 127 b c d) ∨ Spells s.toList 1 := by
  constructor
  · intro near
    obtain ⟨n, quad, -⟩ | spells := isLoopback_text_iff.mp near
    · obtain ⟨a, b, c, d, ha, hb, hc, hd, rfl, -⟩ := exists_dotted quad
      obtain rfl := (isLoopback_dotted ha hb hc hd).mp near
      exact .inl ⟨b, c, d, hb, hc, hd, rfl⟩
    · exact .inr spells
  · rintro (⟨b, c, d, hb, hc, hd, rfl⟩ | spells)
    · exact (isLoopback_dotted (by decide) hb hc hd).mpr rfl
    · exact isLoopback_text_iff.mpr (.inr spells)

end Octets

/-- A piece of a dotted quad that is made of digits and is no octet. -/
def Misspelt (part : List Char) : Prop :=
  (part.head? = some '0' ∧ part ≠ ['0']) ∨ 255 < Nat.ofDigitChars 10 part 0

theorem not_misspelt {n : Nat} (h : n < 256) : ¬Misspelt (Nat.toDigits 10 n) := by
  rintro (⟨zero, long⟩ | large)
  · rcases Nat.eq_zero_or_pos n with rfl | positive
    · exact long rfl
    · obtain ⟨c, digits, same, nonzero⟩ := Json.toDigits_head positive
      rw [same] at zero
      exact nonzero (Option.some.inj zero)
  · rw [Nat.ofDigitChars_toDigits (by decide) (by decide)] at large
    omega

theorem octets_of_isLoopback {parts : List (List Char)}
    (digits : ∀ part ∈ parts, ∀ c ∈ part, c.isDigit)
    (near : (Value.text (.ofList (joined '.' parts))).isLoopback) :
    parts.length = 4 ∧ ∀ part ∈ parts, ¬Misspelt part := by
  have free : ∀ part ∈ parts, ∀ c : Char, ¬c.isDigit → c ∉ part := fun part inside c other mem =>
    other (digits part inside c mem)
  rw [isLoopback_text_iff, String.toList_ofList] at near
  obtain ⟨n, quad, -⟩ | spells := near
  · have some : parts ≠ [] := by
      rintro rfl
      exact absurd quad.dot_mem List.not_mem_nil
    have split := pieces_joined (fun part inside => free part inside '.' (by decide)) some
    generalize joined '.' parts = text at quad split
    obtain @⟨a, b, c, d, ha, hb, hc, hd⟩ := quad
    rw [pieces_octets _ (List.cons_ne_nil _ _)] at split
    rw [← split, List.forall_mem_map]
    exact ⟨rfl, by simp [not_misspelt, ha, hb, hc, hd]⟩
  · obtain colon | ⟨part, inside, mem⟩ := mem_joined spells.colon_mem
    · exact absurd colon (by decide)
    · exact absurd mem (free part inside ':' (by decide))

end Address

namespace Channel

theorem trusts_iff (channel : Channel) (origin : Endpoint) (host : Host) :
    (channel.trusts origin host).1 ↔
      origin.port = channel.backend.port ∧ origin.address.isLoopback := by
  rw [trusts, objection?]
  by_cases port : origin.port = channel.backend.port
  · cases origin.address.isLoopback <;> simp [port]
  · simp [port]

/-- Trust is a matter of the port and of where the address leads. Four octets written as numbers
lead to this machine if the first is 127, other digits with dots between them lead nowhere, and a
spelling of a number of 128 bits leads to this machine if the number is one. No other text does. -/
theorem loopback_boundary (channel : Channel) (host : Host) :
    (∀ address port, (channel.trusts ⟨address, port⟩ host).1 ↔
      port = channel.backend.port ∧ address.isLoopback) ∧
    (∀ a b c d, a < 256 → b < 256 → c < 256 → d < 256 →
      ((Value.text (Address.dotted a b c d)).isLoopback ↔ a = 127)) ∧
    (∀ parts : List (List Char), (∀ part ∈ parts, ∀ c ∈ part, c.isDigit) →
      (parts.length ≠ 4 ∨ ∃ part ∈ parts, Address.Misspelt part) →
      ¬(Value.text (.ofList (Address.joined '.' parts))).isLoopback) ∧
    (∀ s n, Address.Spells s.toList n → ((Value.text s).isLoopback ↔ n = 1)) ∧
    ∀ s, (Value.text s).isLoopback ↔
      (∃ b c d, b < 256 ∧ c < 256 ∧ d < 256 ∧ s = Address.dotted 127 b c d) ∨
        Address.Spells s.toList 1 := by
  refine ⟨fun address port => trusts_iff channel ⟨address, port⟩ host,
    fun a b c d => Address.isLoopback_dotted, fun parts digits wrong near => ?_,
    fun s n spells => ?_, fun s => Address.isLoopback_iff_dotted⟩
  · obtain ⟨four, octets⟩ := Address.octets_of_isLoopback digits near
    obtain other | ⟨part, inside, misspelt⟩ := wrong
    · exact other four
    · exact octets part inside misspelt
  · rw [Address.isLoopback_text_iff]
    constructor
    · rintro (⟨m, quad, -⟩ | one)
      · exact absurd spells quad.not_spells
      · exact spells.unique one
    · rintro rfl
      exact .inr spells

def padded : List (List Char) := [['1', '2', '7'], ['0'], ['0'], ['0', '1']]

def takes (address : String) : Bool :=
  (Session.asker.dispatcher.channel.trusts ⟨.text address, 41244⟩ {}).1

theorem loopback_boundary_spelt :
    takes (Address.dotted 127 1 2 3) ∧
    ¬takes (.ofList (Address.joined '.' padded)) ∧
    (Address.Spells "0:0::0001%eth0".toList 1 ∧ takes "0:0::0001%eth0") ∧
    Address.Spells "::FFFF:127.0.0.1".toList (65535 * 2 ^ 32 + 127 * 2 ^ 24 + 1) ∧
    ¬takes "::FFFF:127.0.0.1" := by
  obtain ⟨trusted, quads, others, spelt, -⟩ := loopback_boundary Session.asker.dispatcher.channel {}
  have taken : ∀ address, takes address ↔ (Value.text address).isLoopback := fun address =>
    (trusted (.text address) 41244).trans (and_iff_right rfl)
  have one : Address.Spells "0:0::0001%eth0".toList 1 := Address.parse?_spelling.mp (by decide)
  have mapped : Address.Spells "::FFFF:127.0.0.1".toList (65535 * 2 ^ 32 + 127 * 2 ^ 24 + 1) :=
    Address.parse?_spelling.mp (by decide)
  simp only [taken]
  refine ⟨?_, ?_, ⟨one, (spelt _ 1 one).mpr rfl⟩, mapped, fun near => ?_⟩
  · exact (quads 127 1 2 3 (by decide) (by decide) (by decide) (by decide)).mpr rfl
  · exact others padded (by simp [padded]) (.inr ⟨['0', '1'], by decide, .inl ⟨rfl, by decide⟩⟩)
  · exact absurd ((spelt _ _ mapped).mp near) (by decide)

end Channel

end ChatLink
