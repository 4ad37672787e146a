import ChatLink.Proofs.Drafts
import ChatLink.Secret
import Mathlib

namespace ChatLink.Secret

def significant (secret : String) : List Char := secret.toList.filter Char.isAlphanum

def Equivalent (s t : String) : Prop :=
  List.Forall₂ (fun c d => c.toLower = d.toLower) (significant s) (significant t)

instance (s t : String) : Decidable (Equivalent s t) :=
  inferInstanceAs (Decidable (List.Forall₂ _ _ _))

theorem toUpper_eq_iff {c d : Char} : c.toUpper = d.toUpper ↔ c.toLower = d.toLower := by
  constructor
  · intro h
    rw [← Char.toLower_toUpper_eq_toLower, h, Char.toLower_toUpper_eq_toLower]
  · intro h
    rw [← Char.toUpper_toLower_eq_toUpper, h, Char.toUpper_toLower_eq_toUpper]

@[simp] theorem toList_normalizeText (s : String) :
    (normalizeText s).toList = (significant s).map Char.toUpper := by
  rw [normalizeText, String.toList_ofList, significant]

theorem normalizeText_eq_iff {s t : String} :
    normalizeText s = normalizeText t ↔ Equivalent s t := by
  rw [← String.toList_inj, toList_normalizeText, toList_normalizeText, Equivalent,
    ← List.forall₂_eq_eq_eq, List.forall₂_map_left_iff, List.forall₂_map_right_iff]
  simp only [toUpper_eq_iff]

theorem isUpper_or_isDigit {s : String} {c : Char} (h : c ∈ (normalizeText s).toList) :
    c.isUpper ∨ c.isDigit := by
  rw [toList_normalizeText] at h
  obtain ⟨d, kept, rfl⟩ := List.mem_map.mp h
  have alphanumeric := (List.mem_filter.mp kept).2
  rw [Char.isAlphanum, Bool.or_eq_true] at alphanumeric
  by_cases letter : d.isAlpha
  · exact .inl (by rwa [Char.isUpper_toUpper_eq_isAlpha])
  · rw [Char.isAlpha, Bool.or_eq_true, not_or] at letter
    rw [Char.toUpper_eq_of_not_isLower letter.2]
    exact .inr (alphanumeric.resolve_left (by simp [Char.isAlpha, letter]))

theorem significant_normalizeText (s : String) :
    significant (normalizeText s) = (normalizeText s).toList := by
  rw [significant, List.filter_eq_self]
  intro c h
  rw [Char.isAlphanum, Char.isAlpha]
  rcases isUpper_or_isDigit h with upper | digit
  · rw [upper]
    rfl
  · rw [digit, Bool.or_true]

@[simp] theorem normalizeText_normalizeText (s : String) :
    normalizeText (normalizeText s) = normalizeText s := by
  rw [← String.toList_inj, toList_normalizeText, significant_normalizeText, toList_normalizeText,
    List.map_map]
  exact List.map_congr_left fun c _ => Char.toUpper_toUpper_eq_toUpper c

theorem normalizeText_ne_empty_iff {s : String} :
    normalizeText s ≠ "" ↔ s.toList.any Char.isAlphanum := by
  rw [Ne, ← String.toList_inj, toList_normalizeText]
  simp [significant]

theorem nul_not_mem (s : String) : '\x00' ∉ (normalizeText s).toList := by
  intro h
  rcases isUpper_or_isDigit h with upper | digit
  · cases upper
  · cases digit

def request (peer : Value) (first second : String) (hops : Value) : Except EncodeError Bytes :=
  Frame.encodeKey peer (.text (normalize (.text first))) (.text (normalize (.text second))) hops

def parts (peer : Bytes) (first second : String) : List Bytes :=
  peer :: (Frame.secretsOf (normalizeText first) (some (normalizeText second))).map Utf8.encode

section Request

variable {peer hops : Value} {part : Bytes} {limit : Nat} {first second : String}

theorem secretsOf_normalizeText (first second : String) :
    Frame.secretsOf (normalizeText first) (some (normalizeText second)) = normalizeText first ::
      if second.toList.any Char.isAlphanum then [normalizeText second] else [] := by
  simp only [← normalizeText_ne_empty_iff]
  by_cases empty : normalizeText second = "" <;> simp [Frame.secretsOf, empty]

theorem secretsOf_inj {first' second' : String} :
    Frame.secretsOf first (some second) = Frame.secretsOf first' (some second') ↔
      first = first' ∧ second = second' := by
  by_cases empty : second = "" <;> by_cases empty' : second' = "" <;>
    grind [Frame.secretsOf]

theorem parts_inj (part : Bytes) {first' second' : String} :
    parts part first second = parts part first' second' ↔
      Equivalent first first' ∧ Equivalent second second' := by
  have injective : Function.Injective Utf8.encode :=
    Function.LeftInverse.injective Utf8.decode_encode
  rw [parts, parts, List.cons.injEq, (List.map_injective_iff.mpr injective).eq_iff, secretsOf_inj,
    normalizeText_eq_iff, normalizeText_eq_iff, and_iff_right rfl]

structure Sendable (peer : Value) (part : Bytes) (hops : Value) (limit : Nat)
    (first second : String) : Prop where
  peer : peer.toBytes = .ok part
  free : 0 ∉ part
  hops : hops.toInt = .ok (limit : Int)
  small : limit < 2 ^ 48
  short : Frame.sizeOf (parts part first second) < 2 ^ 32

theorem zero_not_mem_encode (s : String) : 0 ∉ Utf8.encode (normalizeText s) :=
  Utf8.zero_not_mem_encode (nul_not_mem s)

theorem Sendable.fitting (h : Sendable peer part hops limit first second) :
    Frame.Fitting hops
      (Frame.keyFields peer (.text (normalizeText first)) (.text (normalizeText second)))
      (parts part first second) limit where
  fields := by
    refine .cons ⟨h.peer, h.free⟩ (.cons ⟨rfl, zero_not_mem_encode first⟩ ?_)
    by_cases empty : normalizeText second = ""
    · simp [Value.isTrue, empty]
    · simp [Value.isTrue, empty, zero_not_mem_encode]
  time := h.hops
  timeFits := h.small
  sizeFits := by
    rw [← Frame.sizeOf_eq_sum]
    exact h.short

theorem Sendable.request_eq (h : Sendable peer part hops limit first second) :
    request peer first second hops =
      .ok (Frame.layout Frame.keyCode limit (parts part first second)) :=
  Frame.encode_eq_ok_iff.mpr ⟨_, _, h.fitting, rfl⟩

theorem Sendable.secrets (h : Sendable peer part hops limit first second) :
    ∃ frame, Frame.parse (Frame.layout Frame.keyCode limit (parts part first second)) none =
        some frame ∧
      frame.secrets = Frame.secretsOf (normalizeText first) (some (normalizeText second)) := by
  have free := Frame.zero_not_mem_of_writes h.fitting.writes
  refine ⟨_, Frame.parse_layout_alone Frame.keyCode free h.small h.short, ?_⟩
  rw [parts, List.map_cons, Utf8.map_decode_encode]
  exact List.take_of_length_le (Frame.length_secretsOf_le ..)

theorem Sendable.request_eq_iff {first' second' : String}
    (h : Sendable peer part hops limit first second)
    (h' : Sendable peer part hops limit first' second') :
    request peer first second hops = request peer first' second' hops ↔
      Equivalent first first' ∧ Equivalent second second' := by
  rw [h.request_eq, h'.request_eq, Except.ok.injEq, ← parts_inj part]
  constructor
  · intro same
    have filled := Frame.filled_layout Frame.keyCode h.fitting
    have filled' := Frame.filled_layout Frame.keyCode h'.fitting
    rw [← same] at filled'
    exact (filled.unique filled' (Frame.zero_not_mem_of_writes h.fitting.writes)
      (Frame.zero_not_mem_of_writes h'.fitting.writes)).2.2
  · intro same
    rw [same]

end Request

/-- The normal form of a secret can be taken piece by piece and again, consists of capital letters
and digits, and tells secrets apart exactly by their letters and digits regardless of case. So a
request for keys with such secrets can be written whenever its peer and its hop limit can, the secrets
come back as they are, the second one if it has a letter or a digit, and requests are the same exactly
if their secrets are equivalent. -/
theorem normal_form :
    (∀ s t : String, normalize (.text (s ++ t)) = normalize (.text s) ++ normalize (.text t)) ∧
    (∀ s : String, normalize (.text (normalize (.text s))) = normalize (.text s)) ∧
    (∀ s : String, ∀ c ∈ (normalize (.text s)).toList, c.isUpper ∨ c.isDigit) ∧
    (∀ s t : String, normalize (.text s) = normalize (.text t) ↔ Equivalent s t) ∧
    ∀ (peer hops : Value) (part : Bytes) (limit : Nat) (first second : String),
      Sendable peer part hops limit first second →
      (∃ bytes, request peer first second hops = .ok bytes ∧
        ∃ frame, Frame.parse bytes none = some frame ∧
          frame.secrets = normalize (.text first) ::
            if second.toList.any Char.isAlphanum then [normalize (.text second)] else []) ∧
      ∀ first' second' : String, Sendable peer part hops limit first' second' →
        (request peer first second hops = request peer first' second' hops ↔
          Equivalent first first' ∧ Equivalent second second') := by
  refine ⟨normalizeText_append, normalizeText_normalizeText, fun s c => isUpper_or_isDigit,
    fun s t => normalizeText_eq_iff, fun peer hops part limit first second sendable => ⟨?_, ?_⟩⟩
  · obtain ⟨frame, parsed, secrets⟩ := sendable.secrets
    rw [secretsOf_normalizeText] at secrets
    exact ⟨_, sendable.request_eq, frame, parsed, secrets⟩
  · exact fun first' second' => sendable.request_eq_iff

/-- The capital of ß is two letters, and that of ı is a letter of ASCII; neither is kept. -/
theorem normal_form_beyond_ascii :
    Sendable (.text "bob") [0x62, 0x6F, 0x62] (.int 5) 5 "aß-1" "ı" ∧
    Sendable (.text "bob") [0x62, 0x6F, 0x62] (.int 5) 5 "A 1é" "" ∧
    request (.text "bob") "aß-1" "ı" (.int 5) = request (.text "bob") "A 1é" "" (.int 5) ∧
    ∃ bytes frame, request (.text "bob") "aß-1" "ı" (.int 5) = .ok bytes ∧
      Frame.parse bytes none = some frame ∧ frame.secrets = ["A1"] := by
  have one : Sendable (.text "bob") [0x62, 0x6F, 0x62] (.int 5) 5 "aß-1" "ı" :=
    ⟨rfl, by decide, rfl, by decide, by decide⟩
  have two : Sendable (.text "bob") [0x62, 0x6F, 0x62] (.int 5) 5 "A 1é" "" :=
    ⟨rfl, by decide, rfl, by decide, by decide⟩
  obtain ⟨-, -, -, -, requests⟩ := normal_form
  obtain ⟨⟨bytes, written, frame, parsed, secrets⟩, same⟩ := requests _ _ _ _ _ _ one
  have alike := (same _ _ two).mpr ⟨by decide, by decide⟩
  exact ⟨one, two, alike, bytes, frame, written, parsed, secrets⟩

end ChatLink.Secret
