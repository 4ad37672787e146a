import ChatLink.Proofs.Nearest
import ChatLink.Proofs.Sending

namespace ChatLink

namespace Binary64

section Rounds

variable {q r d bound : ℚ} {x : Binary64}

theorem Rounds.le (h : Rounds q x r) (short : Short d) (below : d ≤ q) : d ≤ r := by
  have near := h.nearest d short
  rw [abs_of_nonpos (sub_nonpos.mpr below), abs_le] at near
  linarith [near.1]

theorem Rounds.lt (h : Rounds q x r) (short : Short d) (near : |d - q| < bound - q) :
    r < bound := by
  have within := (le_abs_self (r - q)).trans (h.nearest d short)
  linarith

end Rounds

section Second

variable {n : Nat}

theorem short_second (h : n < 2 ^ 46) : Short (1000 * n) := by
  refine ⟨125 * n, 3, ?_, ?_⟩
  · rw [abs_of_nonneg (by positivity)]
    omega
  · push_cast
    ring

/-- Up to the next second there are 53 bits, and the last of them is not the last of a thousandfold:
that has seven more, and with them ten binary places fewer. -/
theorem short_below_second {j : Nat} (low : 7 ≤ j) (high : j ≤ 53) (h : n + 1 ≤ 2 ^ (53 - j)) :
    Short (1000 * (n + 1) - 1024 * 2 ^ (-j : ℤ)) := by
  obtain ⟨i, rfl⟩ : ∃ i, j = i + 7 := ⟨j - 7, by omega⟩
  refine ⟨125 * (n + 1) * 2 ^ i - 1, 3 - i, ?_, ?_⟩
  · have positive : (1 : ℤ) ≤ 125 * (n + 1) * 2 ^ i := by
      have : (1 : ℤ) ≤ 2 ^ i := one_le_pow₀ one_le_two
      nlinarith
    have most : 125 * (n + 1) * 2 ^ i ≤ 125 * 2 ^ 46 := by
      calc 125 * (n + 1) * 2 ^ i
          ≤ 125 * 2 ^ (53 - (i + 7)) * 2 ^ i :=
            Nat.mul_le_mul_right _ (Nat.mul_le_mul_left _ h)
        _ = 125 * 2 ^ 46 := by
            rw [Nat.mul_assoc, ← Nat.pow_add]
            congr 2
            omega
    have most : (125 * (n + 1) * 2 ^ i : ℤ) ≤ 125 * 2 ^ 46 := by exact_mod_cast most
    rw [abs_of_nonneg (by linarith)]
    norm_num at most ⊢
    linarith
  · have up : (2 : ℚ) ^ (-(i + 7 : ℕ) : ℤ) = (2 ^ i)⁻¹ / 128 := by
      rw [Nat.cast_add, neg_add, zpow_add₀ two_ne_zero, zpow_neg, zpow_natCast]
      norm_num
      ring
    have down : (2 : ℚ) ^ (3 - i : ℤ) = 8 * (2 ^ i)⁻¹ := by
      rw [zpow_sub₀ two_ne_zero, zpow_natCast]
      norm_num
      ring
    rw [up, down]
    push_cast
    field_simp
    ring

theorem gap_below_second {m k : Nat} (low : 7 ≤ k) (few : m < 2 ^ 53) (hn : n * 2 ^ k ≤ m)
    (hm : m < (n + 1) * 2 ^ k) :
    ∃ j : ℕ, 7 ≤ j ∧ j ≤ 53 ∧ n + 1 ≤ 2 ^ (53 - j) ∧ (m : ℚ) / 2 ^ k ≤ n + 1 - 2 ^ (-j : ℤ) := by
  have positive : (0 : ℚ) < 2 ^ k := by positivity
  by_cases long : k ≤ 53
  · refine ⟨k, low, long, ?_, ?_⟩
    · have room : 2 ^ 53 = 2 ^ (53 - k) * 2 ^ k := by
        rw [← Nat.pow_add]
        congr 1
        omega
      rw [room] at few
      exact Nat.lt_of_mul_lt_mul_right (hn.trans_lt few)
    · have next : (m : ℚ) + 1 ≤ (n + 1) * 2 ^ k := by exact_mod_cast hm
      rw [zpow_neg, zpow_natCast, div_le_iff₀ positive, sub_mul, inv_mul_cancel₀ positive.ne']
      linarith
  · have half : 2 ^ 53 * 2 ≤ 2 ^ k := by
      rw [← Nat.pow_succ]
      exact Nat.pow_le_pow_right Nat.two_pos (by omega)
    have nothing : n = 0 := by
      by_contra some
      have : 1 * 2 ^ k ≤ n * 2 ^ k := Nat.mul_le_mul_right _ (Nat.pos_of_ne_zero some)
      omega
    subst nothing
    refine ⟨53, by decide, le_refl _, by decide, ?_⟩
    have most : (m : ℚ) * 2 ≤ 2 ^ k := by
      have : m * 2 ≤ 2 ^ k := by omega
      exact_mod_cast this
    have small : (m : ℚ) / 2 ^ k ≤ 1 / 2 := by
      rw [div_le_iff₀ positive]
      linarith
    refine small.trans ?_
    norm_num

theorem exponent_le {m : Nat} {e : ℤ} (canonical : Canonical m e)
    (most : (m : ℚ) * 2 ^ e < 2 ^ 46) : e ≤ -7 := by
  obtain ⟨-, -, -, full | least⟩ := canonical
  · have filled : (2 : ℚ) ^ 52 ≤ m := by exact_mod_cast full
    by_contra large
    have power : (2 : ℚ) ^ (-6 : ℤ) ≤ 2 ^ e := zpow_le_zpow_right₀ one_le_two (by omega)
    have product : (2 : ℚ) ^ 52 * 2 ^ (-6 : ℤ) ≤ m * 2 ^ e :=
      mul_le_mul filled power (two_zpow_pos _).le (Nat.cast_nonneg m)
    have same : (2 : ℚ) ^ 52 * 2 ^ (-6 : ℤ) = 2 ^ 46 := by norm_num
    linarith
  · omega

theorem Rounds.same_second {x : Binary64} {r : ℚ} {m k : Nat} (places : 7 ≤ k) (few : m < 2 ^ 53)
    (small : n < 2 ^ 46) (low : n * 2 ^ k ≤ m) (high : m < (n + 1) * 2 ^ k)
    (rounds : Rounds ((m : ℚ) / 2 ^ k * 1000) x r) : 1000 * (n : ℚ) ≤ r ∧ r < 1000 * (n + 1) := by
  have positive : (0 : ℚ) < 2 ^ k := by positivity
  constructor
  · have reached : (n : ℚ) ≤ m / 2 ^ k := by
      rw [le_div_iff₀ positive]
      exact_mod_cast low
    exact rounds.le (short_second small) (by linarith)
  · obtain ⟨j, least, last, room, gap⟩ := gap_below_second places few low high
    have unit : (0 : ℚ) < 2 ^ (-j : ℤ) := two_zpow_pos _
    refine rounds.lt (short_below_second least last room) ?_
    rw [abs_lt]
    constructor <;> linarith

theorem scale_thousand {x : Binary64} {w : ℚ} (hx : x.toRat? = some w) (hw : 0 ≤ w)
    (most : w < 2 ^ 46) :
    ∃ r, Rounds (w * 1000) (x.scale 1000) r ∧ 0 ≤ r ∧ ⌊r⌋ / 1000 = ⌊w⌋ := by
  have small : w * (1000 : ℕ) < 2 ^ 56 := by
    push_cast
    linarith
  obtain ⟨r, rounds⟩ := scale_rounds hx hw (by decide) small
  obtain _ | _ | ⟨negative, m, e, canonical⟩ := x
  · cases hx
  · cases hx
  obtain ⟨rfl, -⟩ := toRat?_nonnegative hx hw
  obtain ⟨k, rfl, places⟩ : ∃ k : ℕ, e = -k ∧ 7 ≤ k := by
    have := exponent_le canonical most
    exact ⟨(-e).toNat, by omega, by omega⟩
  have value : (m : ℚ) * 2 ^ (-k : ℤ) = m / 2 ^ k := by
    rw [zpow_neg, zpow_natCast, div_eq_mul_inv]
  push_cast at rounds
  rw [value] at rounds hw most ⊢
  obtain ⟨n, floor⟩ := Int.eq_ofNat_of_zero_le (Int.floor_nonneg.mpr hw)
  obtain ⟨low, high⟩ := Int.floor_eq_iff.mp floor
  rw [Int.cast_natCast] at low high
  have seconds : n < 2 ^ 46 := by exact_mod_cast low.trans_lt most
  rw [le_div_iff₀ (by positivity)] at low
  rw [div_lt_iff₀ (by positivity)] at high
  obtain ⟨start, stop⟩ :=
    rounds.same_second places canonical.1 seconds (by exact_mod_cast low) (by exact_mod_cast high)
  refine ⟨r, rounds, le_trans (by positivity) start, ?_⟩
  have above : 1000 * (n : ℤ) ≤ ⌊r⌋ := Int.le_floor.mpr (by exact_mod_cast start)
  have below : ⌊r⌋ < 1000 * (n + 1) := Int.floor_lt.mpr (by exact_mod_cast stop)
  rw [floor]
  omega

end Second

end Binary64

/-- A time as a number: a whole one that fits into a frame, or a binary one of not so many
seconds. -/
inductive Value.Reads : Value → ℚ → Prop
  | truth (b : Bool) : Reads (.bool b) b.toNat
  | whole (n : Nat) : n < 2 ^ 48 → Reads (.int n) n
  | real {x : Binary64} {w : ℚ} : x.toRat? = some w → 0 ≤ w → w < 2 ^ 46 → Reads (.real x) w

inductive Value.Product : Value → (w r : ℚ) → Prop
  | truth (b : Bool) (w : ℚ) : Product (.bool b) w (w * 1000)
  | whole (n : Int) (w : ℚ) : Product (.int n) w (w * 1000)
  | real {x product : Binary64} {w r : ℚ} :
    Binary64.Rounds (w * 1000) product r → Product (.real x) w r

namespace Session

section Stamp

variable {time : Value} {w : ℚ}

theorem toInt_of_reads (h : time.Reads w) : time.toInt = .ok ⌊w⌋ := by
  cases h with
  | truth b => cases b <;> simp [Value.toInt]
  | whole n _ => simp [Value.toInt]
  | real hx hw _ => exact Binary64.toInt_real.mpr (Binary64.truncate?_of_toRat? hx hw)

theorem correlation_of_reads (h : time.Reads w) :
    ∃ (id : ℤ) (r : ℚ), correlation time = .ok id ∧ time.Product w r ∧ id = ⌊r⌋ ∧ 0 ≤ id ∧
      id / 1000 = ⌊w⌋ := by
  cases h with
  | truth b =>
    refine ⟨b.toNat * 1000, _, ?_, .truth b _, ?_, by positivity, ?_⟩
    · cases b <;> rfl
    · exact_mod_cast (Int.floor_intCast _).symm
    · simp
  | whole n _ =>
    refine ⟨n * 1000, _, rfl, .whole n _, ?_, by positivity, ?_⟩
    · exact_mod_cast (Int.floor_intCast _).symm
    · simp
  | @real x _ hx hw most =>
    obtain ⟨r, rounds, nonnegative, second⟩ := Binary64.scale_thousand hx hw most
    have truncated := Binary64.truncate?_of_toRat? rounds.denotes nonnegative
    refine ⟨⌊r⌋, r, ?_, .real rounds, rfl, Int.floor_nonneg.mpr nonnegative, second⟩
    change (Value.real (x.scale 1000)).toInt.mapError EncodeError.conversion = _
    rw [Binary64.toInt_real.mpr truncated]
    rfl

structure Stamped (time : Value) (w : ℚ) (broadcast : Bool) (id : ℤ) (data : Bytes) : Prop where
  number : ∃ r, time.Product w r ∧ id = ⌊r⌋
  seconds : ∃ frame, Frame.parse data none = some frame ∧ (frame.time : ℤ) = ⌊w⌋ ∧
    id / 1000 = frame.time
  timestamp : ∃ peer text, (Frame.decode data none).1 =
    some (.message peer (.int (id - id % 1000)) text (.bool broadcast))

theorem stamped_of_written {peer text : Value} {broadcast : Bool} {data : Bytes}
    (h : time.Reads w) (written : Frame.writeMessage peer text broadcast time = .ok data) :
    ∃ id : ℤ, correlation time = .ok id ∧ 0 ≤ id ∧ Stamped time w broadcast id data := by
  obtain ⟨id, r, correlated, product, number, nonnegative, second⟩ := correlation_of_reads h
  obtain ⟨p, t, n, hp, ht, whole, small, short, rfl⟩ := Frame.layout_of_writeMessage written
  have floor : ⌊w⌋ = n := Except.ok.inj ((toInt_of_reads h).symm.trans whole)
  rw [floor] at second
  have free : ∀ part ∈ [p, t], 0 ∉ part := by
    simp [hp.zero_not_mem, ht.zero_not_mem]
  have parsed := Frame.parse_layout_alone (Frame.messageCode broadcast) free small short
  refine ⟨id, correlated, nonnegative, ⟨r, product, number⟩, ⟨_, parsed, floor.symm, second⟩, ?_⟩
  have down : id - id % 1000 = 1000 * (n : ℤ) := by omega
  rw [Frame.decode_of_parse parsed, Frame.event?_of_code rfl, down]
  exact ⟨_, _, rfl⟩

end Stamp

/-- The number that a message is given when it has left, and the time in its datagram, are of one
second, however near the next one is: the receiver dates the message at that number rounded down to
the second. -/
theorem sendMessage_same_second (s : Session) (peer text : Value) (broadcast : Bool) {w : ℚ}
    (clock : s.host.readClock.1.Reads w) :
    let sent := s.sendMessage peer text broadcast
    (∃ id data, sent.1 = .ok id ∧ 0 ≤ id ∧
      s.departed sent.2 = [(data, s.dispatcher.channel.backend)] ∧
      Stamped s.host.readClock.1 w broadcast id data) ∨
    (s.departed sent.2 = [] ∧ ∀ id, sent.1 = .ok id → id = -1) := by
  dsimp only
  cases written : Frame.writeMessage peer text broadcast s.host.readClock.1 with
  | error error =>
    obtain ⟨later, refused⟩ := sendMessage_of_refused written
    have news : s.news (s.setClock later) = [] := news_eq (List.append_nil _).symm
    rw [refused, departed, news]
    refine .inr ⟨rfl, ?_⟩
    rintro _ ⟨⟩
  | ok data =>
    obtain ⟨id, correlated, nonnegative, stamped⟩ := stamped_of_written clock written
    have bears := (sendData_truthful (s.setClock (tick s.host.clock).2) data).bears.of_setClock
    rw [sendMessage_of_written written, correlated]
    generalize (s.setClock (tick s.host.clock).2).sendData data = outcome at bears
    obtain ⟨error | _ | _, t⟩ := outcome
    · refine .inr ⟨bears.2.2.1, ?_⟩
      rintro _ ⟨⟩
    · refine .inr ⟨bears.2.2.1, ?_⟩
      rintro _ ⟨⟩
      rfl
    · obtain ⟨_, _, same, -, -, -, left⟩ := bears
      cases same
      exact .inl ⟨id, data, rfl, nonnegative, left, stamped⟩

def brink : Binary64 := .finite false (1700000000 * 2 ^ 22 - 1) (-22) (by decide)

def onTheBrink : Session := { asker with host := { clock := [.real brink] } }

theorem sendMessage_same_second_on_the_brink :
    onTheBrink.host.readClock.1.Reads (1700000000 - 1 / 2 ^ 22) ∧
      onTheBrink.hail.1 = .ok 1699999999999 ∧
      ∃ data frame, onTheBrink.departed onTheBrink.hail.2 = [(data, ⟨.text "127.0.0.1", 41244⟩)] ∧
        Frame.parse data none = some frame ∧ 1699999999999 / 1000 = (frame.time : ℤ) := by
  have clock : onTheBrink.host.readClock.1.Reads (1700000000 - 1 / 2 ^ 22) := by
    refine .real (x := brink) ?_ ?_ ?_
    · rw [brink, Binary64.toRat?]
      norm_num
    · norm_num
    · norm_num
  have number : onTheBrink.hail.1 = .ok 1699999999999 := by rfl
  obtain ⟨id, data, sent, -, left, stamped⟩ | ⟨-, unsent⟩ :=
    sendMessage_same_second onTheBrink (.text "bob") (.text "é") true clock
  · cases sent.symm.trans number
    obtain ⟨frame, parsed, -, same⟩ := stamped.seconds
    exact ⟨clock, number, data, frame, left, parsed, same⟩
  · cases unsent _ number

end Session

end ChatLink
