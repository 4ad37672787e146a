import ChatLink.Proofs.Encoding

namespace ChatLink

namespace Value

variable {value : Value} {part : Bytes}

theorem ne_nil_of_blankBytes {n : Int} (nonzero : n ≠ 0) (h : blankBytes n = .ok part) :
    part ≠ [] := by
  have nonnegative : ¬n < 0 := by
    intro negative
    rw [blankBytes] at h
    split at h <;> simp_all
  simp [eq_replicate_of_blankBytes h]
  omega

theorem ne_nil_of_toBytes (given : value.isTrue) (h : value.toBytes = .ok part) : part ≠ [] := by
  cases value with
  | null => cases given
  | bool b =>
    cases b with
    | false => cases given
    | true => exact ne_nil_of_blankBytes Int.one_ne_zero h
  | int n => exact ne_nil_of_blankBytes (by simpa [isTrue] using given) h
  | real x => cases h
  | text s =>
    cases h
    intro empty
    have back := Utf8.decode_encode s
    simp only [empty, Utf8.decode_nil] at back
    simp [isTrue, ← back] at given
  | bytes bs =>
    cases h
    simpa [isTrue] using given
  | list items =>
    cases items with
    | nil => cases given
    | cons item items =>
      simp only [toBytes, List.mapM_cons] at h
      obtain ⟨b, -, h⟩ := exists_of_bind_eq_ok h
      obtain ⟨rest, -, h⟩ := exists_of_bind_eq_ok h
      cases h
      simp
  | table entries =>
    cases entries with
    | nil => cases given
    | cons => cases h

end Value

namespace Frame

section Filled

variable {code code' : UInt8} {n n' : Nat} {parts parts' : List Bytes} {frame further : Bytes}

theorem fields_body (free : ∀ part ∈ parts, 0 ∉ part) : fields (body parts) = parts := by
  have split := Segments.of_body free List.not_mem_nil
  rw [List.append_nil] at split
  exact split.fields_eq

/-- The length in front settles where a frame ends. -/
theorem Filled.eq_of_prefix (h : Filled code n parts frame) (h' : Filled code' n' parts' further)
    (pre : frame <+: further) : frame = further := by
  have header : lengthSize ≤ frame.length := by
    simp only [h.length, lengthSize, headerSize]
    omega
  apply pre.eq_of_length
  obtain ⟨rest, rfl⟩ := pre
  rw [← h.declared, ← h'.declared, List.take_append_of_le_length header]

theorem Filled.unique (h : Filled code n parts frame) (h' : Filled code' n' parts' frame)
    (free : ∀ part ∈ parts, 0 ∉ part) (free' : ∀ part ∈ parts', 0 ∉ part) :
    code = code' ∧ n = n' ∧ parts = parts' := by
  refine ⟨Option.some.inj (h.code.symm.trans h'.code), h.time.symm.trans h'.time, ?_⟩
  have same : Frame.body parts = Frame.body parts' := h.body.symm.trans h'.body
  rw [← fields_body free, same, fields_body free']

end Filled

inductive Draft
  | message (peer text broadcast time : Value)
  | key (peer first second hops : Value)

namespace Draft

def write : Draft → Except EncodeError Bytes
  | .message peer text broadcast time => writeMessage peer text broadcast.isTrue time
  | .key peer first second hops => encodeKey peer first second hops

def code : Draft → UInt8
  | .message _ _ broadcast _ => messageCode broadcast.isTrue
  | .key .. => keyCode

def time : Draft → Value
  | .message _ _ _ time => time
  | .key _ _ _ hops => hops

def values : Draft → List Value
  | .message peer text _ _ => [peer, text]
  | .key peer first second _ => keyFields peer first second

theorem write_eq (draft : Draft) : draft.write = encode draft.code draft.time draft.values := by
  cases draft <;> rfl

def secondBytes (second : Value) : Except ConversionError Bytes :=
  if second.isTrue then second.toBytes else .ok []

/-- Drafts that say the same, in whatever form their values are given. -/
def Agrees : Draft → Draft → Prop
  | .message peer text broadcast time, .message peer' text' broadcast' time' =>
    peer.toBytes = peer'.toBytes ∧ text.toBytes = text'.toBytes ∧
      broadcast.isTrue = broadcast'.isTrue ∧ time.toInt = time'.toInt
  | .key peer first second hops, .key peer' first' second' hops' =>
    peer.toBytes = peer'.toBytes ∧ first.toBytes = first'.toBytes ∧
      secondBytes second = secondBytes second' ∧ hops.toInt = hops'.toInt
  | _, _ => False

section Parts

variable {peer text broadcast time first second hops : Value} {parts : List Bytes} {n : Nat}

theorem parts_message
    (h : Fitting (message peer text broadcast time).time (message peer text broadcast time).values
      parts n) :
    ∃ p t, peer.toBytes = .ok p ∧ text.toBytes = .ok t ∧ parts = [p, t] := by
  obtain ⟨fields, -, -, -⟩ := h
  rcases fields with _ | ⟨⟨hp, -⟩, _ | ⟨⟨ht, -⟩, _ | _⟩⟩
  exact ⟨_, _, hp, ht, rfl⟩

theorem parts_key
    (h : Fitting (key peer first second hops).time (key peer first second hops).values parts n) :
    ∃ p f s, peer.toBytes = .ok p ∧ first.toBytes = .ok f ∧ secondBytes second = .ok s ∧
      parts = p :: f :: [s].filter (· ≠ []) := by
  obtain ⟨fields, -, -, -⟩ := h
  simp only [values, keyFields] at fields
  cases given : second.isTrue with
  | true =>
    rw [given] at fields
    rcases fields with _ | ⟨⟨hp, -⟩, _ | ⟨⟨hf, -⟩, _ | ⟨⟨hs, -⟩, _ | _⟩⟩⟩
    refine ⟨_, _, _, hp, hf, (if_pos given).trans hs, ?_⟩
    simp [Value.ne_nil_of_toBytes given hs]
  | false =>
    rw [given] at fields
    rcases fields with _ | ⟨⟨hp, -⟩, _ | ⟨⟨hf, -⟩, _ | _⟩⟩
    exact ⟨_, _, [], hp, hf, by simp [secondBytes, given], by simp⟩

end Parts

theorem messageCode_inj {broadcast broadcast' : Bool} :
    messageCode broadcast = messageCode broadcast' ↔ broadcast = broadcast' := by
  cases broadcast <;> cases broadcast' <;> decide

theorem messageCode_ne_keyCode (broadcast : Bool) : messageCode broadcast ≠ keyCode := by
  cases broadcast <;> decide

theorem filter_ne_nil_inj {s s' : Bytes} :
    [s].filter (· ≠ []) = [s'].filter (· ≠ []) ↔ s = s' := by
  cases s <;> cases s' <;> simp

variable {draft other : Draft} {parts parts' : List Bytes} {n n' : Nat} {frame further : Bytes}

theorem agrees_iff (h : Fitting draft.time draft.values parts n)
    (h' : Fitting other.time other.values parts' n') :
    draft.Agrees other ↔ draft.code = other.code ∧ n = n' ∧ parts = parts' := by
  have seconds : draft.time.toInt = other.time.toInt ↔ n = n' := by simp [h.time, h'.time]
  cases draft with
  | message =>
    obtain ⟨p, t, hp, ht, rfl⟩ := parts_message h
    cases other with
    | message =>
      obtain ⟨p', t', hp', ht', rfl⟩ := parts_message h'
      simp only [Agrees, code, messageCode_inj, ← seconds, Draft.time, hp, ht, hp', ht']
      grind
    | key => simp [Agrees, code, messageCode_ne_keyCode]
  | key =>
    obtain ⟨p, f, s, hp, hf, hs, rfl⟩ := parts_key h
    cases other with
    | message => simp [Agrees, code, (messageCode_ne_keyCode _).symm]
    | key =>
      obtain ⟨p', f', s', hp', hf', hs', rfl⟩ := parts_key h'
      simp only [Agrees, code, ← seconds, Draft.time, hp, hf, hs, hp', hf', hs', List.cons.injEq,
        filter_ne_nil_inj]
      grind

theorem exists_filled (h : draft.write = .ok frame) :
    ∃ parts n, Fitting draft.time draft.values parts n ∧ (∀ part ∈ parts, 0 ∉ part) ∧
      frame = layout draft.code n parts ∧ Filled draft.code n parts frame := by
  rw [write_eq, encode_eq_ok_iff] at h
  obtain ⟨parts, n, fitting, rfl⟩ := h
  exact ⟨parts, n, fitting, zero_not_mem_of_writes fitting.writes, rfl, filled_layout _ fitting⟩

/-- One frame is the beginning of another only if it is that frame, and the same frame comes of two
drafts exactly if they agree. -/
theorem unambiguous (h : draft.write = .ok frame) (h' : other.write = .ok further) :
    (frame <+: further ∨ further <+: frame ↔ draft.Agrees other) ∧
      (frame = further ↔ draft.Agrees other) := by
  obtain ⟨parts, n, fits, free, written, filled⟩ := exists_filled h
  obtain ⟨parts', n', fits', free', written', filled'⟩ := exists_filled h'
  have same : frame = further ↔ draft.Agrees other := by
    rw [agrees_iff fits fits']
    constructor
    · rintro rfl
      exact filled.unique filled' free free'
    · rintro ⟨code, rfl, rfl⟩
      rw [written, written', code]
  refine ⟨?_, same⟩
  rw [← same]
  constructor
  · rintro (pre | pre)
    · exact filled.eq_of_prefix filled' pre
    · exact (filled'.eq_of_prefix filled pre).symm
  · rintro rfl
    exact .inl (List.prefix_refl frame)

/-- Both peers are read as U+FFFD, and yet the frames are told apart. The forms in which the same bytes
are given are not. -/
theorem unambiguous_ill_formed : ∃ frame further asked again,
    (message (.bytes [0xFF]) (.text "é") .null (.int 5)).write = .ok frame ∧
    (message (.list [.int 0xFE]) (.text "é") (.bool false) (.int 5)).write = .ok further ∧
    Utf8.decode [0xFF] = Utf8.decode [0xFE] ∧
    ¬(frame <+: further ∨ further <+: frame) ∧
    (key (.text "bob") (.bytes [0xC3]) .null (.text " 7 ")).write = .ok asked ∧
    (key (.bytes [0x62, 0x6F, 0x62]) (.list [.int 0xC3]) (.text "") (.int 7)).write = .ok again ∧
    asked = again := by
  obtain ⟨frame, first⟩ : ∃ frame,
      (message (.bytes [0xFF]) (.text "é") .null (.int 5)).write = .ok frame := ⟨_, rfl⟩
  obtain ⟨further, second⟩ : ∃ further,
      (message (.list [.int 0xFE]) (.text "é") (.bool false) (.int 5)).write = .ok further := ⟨_, rfl⟩
  obtain ⟨asked, third⟩ : ∃ asked,
      (key (.text "bob") (.bytes [0xC3]) .null (.text " 7 ")).write = .ok asked := ⟨_, rfl⟩
  obtain ⟨again, fourth⟩ : ∃ again,
      (key (.bytes [0x62, 0x6F, 0x62]) (.list [.int 0xC3]) (.text "") (.int 7)).write = .ok again :=
    ⟨_, rfl⟩
  refine ⟨frame, further, asked, again, first, second, ?_, ?_, third, fourth, ?_⟩
  · simp [Utf8.decode, Utf8.read, Utf8.lead?]
  · rw [(unambiguous first second).1]
    rintro ⟨peer, -⟩
    cases peer
  · exact (unambiguous third fourth).2.mpr ⟨rfl, rfl, rfl, rfl⟩

end Draft

end Frame

end ChatLink
