import Mathlib.Algebra.Ring.Int.Defs
import Mathlib.Algebra.Ring.Nat
import Mathlib.Tactic.SplitIfs
import ModelCatalog.Number.Binary64

/-!
# Integers as double-precision numbers

Rounding keeps the order of integers (`ofInt_value_mono`) and leaves one with at most 53 significant bits as it is (`IsExact.ofInt_value`),
so an integer below `2 ^ 53` in magnitude never becomes equal to another one (`ofInt_value_lt`). Above that two integers can round to one
number.
-/

namespace ModelCatalog

namespace Binary64

/-- The counts up to here are all told apart. -/
def exactLimit : Nat := 2 ^ 53

theorem exists_one_eq : ∃ p, one = 2 ^ p := by
  unfold one
  generalize 1074 = p
  exact ⟨p, Nat.one_shiftLeft p⟩

theorem one_pos : 0 < one := by
  obtain ⟨p, hp⟩ := exists_one_eq
  rw [hp]
  exact Nat.two_pow_pos p

/-- A quotient without a remainder is not rounded. -/
theorem roundQuotient_of_dvd {num den : Nat} (hden : 0 < den) (h : den ∣ num) : roundQuotient num den = num / den := by
  rw [roundQuotient, Nat.mod_eq_zero_of_dvd h]
  exact if_pos hden

/-- Rounding goes at most down to the whole part. -/
theorem div_le_roundQuotient (num den : Nat) : num / den ≤ roundQuotient num den := by
  unfold roundQuotient
  simp only
  split
  · exact Nat.le_refl _
  · split <;> omega

theorem roundUnits_one (num : Nat) :
    roundUnits num 1 = roundQuotient num (2 ^ spareBits num) * 2 ^ spareBits num := by
  simp only [roundUnits, Nat.div_one, Nat.shiftLeft_eq, Nat.one_mul]

/-- A magnitude whose bits all are significant is not rounded. -/
theorem roundUnits_of_dvd {num : Nat} (h : 2 ^ spareBits num ∣ num) : roundUnits num 1 = num := by
  rw [roundUnits_one, roundQuotient_of_dvd (Nat.two_pow_pos _) h, Nat.div_mul_cancel h]

/-- Rounding does not go below a power of two. -/
theorem le_roundUnits {num k : Nat} (h : 2 ^ k ≤ num) : 2 ^ k ≤ roundUnits num 1 := by
  have hpos : num ≠ 0 := fun h0 => by
    rw [h0] at h
    exact absurd (Nat.two_pow_pos k) (Nat.not_lt_of_le h)
  have hk : k ≤ num.log2 := (Nat.le_log2 hpos).2 h
  have hspare : spareBits num ≤ num.log2 := by
    unfold spareBits
    omega
  -- the leading bit is above the spare ones, so it survives the division
  have hsplit : 2 ^ num.log2 = 2 ^ (num.log2 - spareBits num) * 2 ^ spareBits num := by
    rw [← Nat.pow_add, Nat.sub_add_cancel hspare]
  have hdiv : 2 ^ (num.log2 - spareBits num) ≤ num / 2 ^ spareBits num := by
    rw [Nat.le_div_iff_mul_le (Nat.two_pow_pos _), ← hsplit]
    exact Nat.log2_self_le hpos
  calc 2 ^ k ≤ 2 ^ num.log2 := Nat.pow_le_pow_right (by decide) hk
    _ = 2 ^ (num.log2 - spareBits num) * 2 ^ spareBits num := hsplit
    _ ≤ roundQuotient num (2 ^ spareBits num) * 2 ^ spareBits num :=
      Nat.mul_le_mul_right _ (Nat.le_trans hdiv (div_le_roundQuotient _ _))
    _ = roundUnits num 1 := (roundUnits_one num).symm

/-- A magnitude with at most 53 significant bits is not rounded. -/
theorem roundUnits_mul_two_pow {n : Nat} (h : n ≤ exactLimit) (p : Nat) : roundUnits (n * 2 ^ p) 1 = n * 2 ^ p := by
  apply roundUnits_of_dvd
  rcases Nat.lt_or_eq_of_le h with hlt | rfl
  · -- fewer than 54 bits: all spare bits are zeros
    have hspare : spareBits (n * 2 ^ p) ≤ p := by
      rcases Nat.eq_zero_or_pos n with rfl | hpos
      · rw [Nat.zero_mul]
        exact Nat.zero_le p
      · have hbound : n * 2 ^ p < 2 ^ (53 + p) := by
          rw [Nat.pow_add]
          exact Nat.mul_lt_mul_of_pos_right hlt (Nat.two_pow_pos p)
        have hne : n * 2 ^ p ≠ 0 := Nat.ne_of_gt (Nat.mul_pos hpos (Nat.two_pow_pos p))
        have := (Nat.log2_lt hne).2 hbound
        unfold spareBits
        omega
    exact Nat.dvd_mul_left_of_dvd (Nat.pow_dvd_pow 2 hspare) n
  · have hlog : (exactLimit * 2 ^ p).log2 = 53 + p := by
      rw [exactLimit, ← Nat.pow_add, Nat.log2_two_pow]
    rw [spareBits, hlog, exactLimit, ← Nat.pow_add]
    exact Nat.pow_dvd_pow 2 (Nat.sub_le_of_le_add (by omega))

/-! ## Order -/

theorem roundQuotient_le (num den : Nat) : roundQuotient num den ≤ num / den + 1 := by
  unfold roundQuotient
  simp only
  split
  · exact Nat.le_succ _
  · split
    · exact Nat.le_refl _
    · omega

/-- A greater quotient is not rounded to a smaller number. -/
theorem roundQuotient_mono {a b : Nat} (h : a ≤ b) (den : Nat) : roundQuotient a den ≤ roundQuotient b den := by
  rcases Nat.lt_or_eq_of_le (Nat.div_le_div_right h : a / den ≤ b / den) with hlt | heq
  · calc roundQuotient a den ≤ a / den + 1 := roundQuotient_le a den
      _ ≤ b / den := hlt
      _ ≤ roundQuotient b den := div_le_roundQuotient b den
  · -- the whole parts are equal, so the remainders decide
    have hrest : a % den ≤ b % den := by
      have ha := Nat.div_add_mod a den
      have hb := Nat.div_add_mod b den
      rw [heq] at ha
      omega
    unfold roundQuotient
    simp only [heq]
    split_ifs <;> omega

theorem spareBits_mono {a b : Nat} (h : a ≤ b) : spareBits a ≤ spareBits b := by
  have hlog : a.log2 ≤ b.log2 := by
    rcases Nat.eq_zero_or_pos a with rfl | ha
    · exact Nat.zero_le _
    · have hb : b ≠ 0 := by omega
      exact (Nat.le_log2 hb).2 (Nat.le_trans (Nat.log2_self_le (Nat.ne_of_gt ha)) h)
  unfold spareBits
  omega

/-- Rounding does not go above a power of two. -/
theorem roundUnits_le {num k : Nat} (h : num ≤ 2 ^ k) : roundUnits num 1 ≤ 2 ^ k := by
  rcases Nat.eq_zero_or_pos num with rfl | hpos
  · exact Nat.zero_le _
  have hspare : spareBits num ≤ k := by
    have hlog : num.log2 ≤ k := (Nat.pow_le_pow_iff_right (by decide)).1 (Nat.le_trans (Nat.log2_self_le (Nat.ne_of_gt hpos)) h)
    unfold spareBits
    omega
  have hsplit : 2 ^ k = 2 ^ (k - spareBits num) * 2 ^ spareBits num := by
    rw [← Nat.pow_add, Nat.sub_add_cancel hspare]
  calc roundUnits num 1 = roundQuotient num (2 ^ spareBits num) * 2 ^ spareBits num := roundUnits_one num
    _ ≤ roundQuotient (2 ^ k) (2 ^ spareBits num) * 2 ^ spareBits num := Nat.mul_le_mul_right _ (roundQuotient_mono h _)
    _ = 2 ^ k := by
      rw [roundQuotient_of_dvd (Nat.two_pow_pos _) (Nat.pow_dvd_pow 2 hspare), Nat.div_mul_cancel (Nat.pow_dvd_pow 2 hspare)]

/-- A greater magnitude is not rounded to a smaller one. -/
theorem roundUnits_mono {a b : Nat} (h : a ≤ b) : roundUnits a 1 ≤ roundUnits b 1 := by
  rcases Nat.lt_or_eq_of_le (spareBits_mono h) with hlt | heq
  · -- a power of two stands between the magnitudes
    have hlog : a.log2 + 1 ≤ b.log2 := by
      unfold spareBits at hlt
      omega
    have hb : b ≠ 0 := by
      rintro rfl
      rw [Nat.log2_zero] at hlog
      omega
    calc roundUnits a 1 ≤ 2 ^ (a.log2 + 1) := roundUnits_le (Nat.le_of_lt Nat.lt_log2_self)
      _ ≤ 2 ^ b.log2 := Nat.pow_le_pow_right (by decide) hlog
      _ ≤ roundUnits b 1 := le_roundUnits (Nat.log2_self_le hb)
  · rw [roundUnits_one, roundUnits_one, heq]
    exact Nat.mul_le_mul_right _ (roundQuotient_mono h _)

/-! ## Integers -/

theorem ofInt_value (n : Int) :
    (ofInt n).value = if n < 0 then -(roundUnits (n.natAbs * one) 1 : Int) else roundUnits (n.natAbs * one) 1 := by
  simp [ofInt, value]

theorem ofInt_value_natCast (n : Nat) : (ofInt n).value = roundUnits (n * one) 1 := by
  rw [ofInt_value, if_neg (Int.not_lt.2 (Int.natCast_nonneg n)), Int.natAbs_natCast]

/-- An integer and its negative have the same magnitude. -/
theorem ofInt_value_neg (n : Int) : (ofInt (-n)).value = -(ofInt n).value := by
  rw [ofInt_value, ofInt_value, Int.natAbs_neg]
  rcases Int.lt_trichotomy n 0 with hneg | rfl | hpos
  · rw [if_neg (by omega), if_pos hneg, Int.neg_neg]
  · have hzero : roundUnits ((0 : Int).natAbs * one) 1 = 0 := by
      rw [Int.natAbs_zero, Nat.zero_mul]
      rfl
    rw [hzero]
    rfl
  · rw [if_pos (by omega), if_neg (by omega)]

/-- Rounding keeps the order of integers. -/
theorem ofInt_value_mono {a b : Int} (h : a ≤ b) : (ofInt a).value ≤ (ofInt b).value := by
  have hnat : ∀ {m n : Nat}, m ≤ n → (ofInt m).value ≤ (ofInt n).value := fun {m n} hmn => by
    rw [ofInt_value_natCast, ofInt_value_natCast]
    exact Int.ofNat_le.2 (roundUnits_mono (Nat.mul_le_mul_right _ hmn))
  have hpos : ∀ n : Nat, 0 ≤ (ofInt n).value := fun n => by
    rw [ofInt_value_natCast]
    exact Int.natCast_nonneg _
  obtain ⟨m, rfl | rfl⟩ := Int.eq_nat_or_neg a
  · obtain ⟨n, rfl⟩ := Int.eq_ofNat_of_zero_le (Int.le_trans (Int.natCast_nonneg m) h)
    exact hnat (Int.ofNat_le.1 h)
  · rw [ofInt_value_neg]
    obtain ⟨n, rfl | rfl⟩ := Int.eq_nat_or_neg b
    · have hm := hpos m
      have hn := hpos n
      omega
    · rw [ofInt_value_neg]
      have hmn := hnat (show n ≤ m by omega)
      omega

/-- Whether an integer has at most 53 significant bits. -/
def IsExact (n : Int) : Prop := ∃ (k : Int) (j : Nat), k.natAbs ≤ exactLimit ∧ n = k * 2 ^ j

theorem isExact_of_le {n : Int} (h : n.natAbs ≤ exactLimit) : IsExact n := ⟨n, 0, h, (Int.mul_one n).symm⟩

/-- An integer with at most 53 significant bits is not rounded. -/
theorem IsExact.ofInt_value {n : Int} (h : IsExact n) : (ofInt n).value = n * one := by
  obtain ⟨k, j, hk, rfl⟩ := h
  obtain ⟨p, hp⟩ := exists_one_eq
  have hnat : ∀ {m : Nat}, m ≤ exactLimit → (ofInt (m * 2 ^ j)).value = m * 2 ^ j * one := fun {m} hm => by
    have hunits : roundUnits (m * 2 ^ j * one) 1 = m * 2 ^ j * one := by
      rw [hp, Nat.mul_assoc, ← Nat.pow_add]
      exact roundUnits_mul_two_pow hm (j + p)
    have hvalue := ofInt_value_natCast (m * 2 ^ j)
    rw [hunits] at hvalue
    exact_mod_cast hvalue
  obtain ⟨m, rfl | rfl⟩ := Int.eq_nat_or_neg k
  · exact hnat (by simpa using hk)
  · rw [Int.neg_mul, ofInt_value_neg, hnat (by simpa using hk), Int.neg_mul]

/-- Two integers round to different numbers where two that are not rounded stand between them. -/
theorem ofInt_value_lt_of_between {a b m n : Int} (hm : IsExact m) (hn : IsExact n) (ham : a ≤ m) (hmn : m < n) (hnb : n ≤ b) :
    (ofInt a).value < (ofInt b).value := by
  have hstep : (ofInt m).value < (ofInt n).value := by
    rw [hm.ofInt_value, hn.ofInt_value]
    exact Int.mul_lt_mul_of_pos_right hmn (Int.ofNat_lt.2 one_pos)
  exact Int.lt_of_le_of_lt (ofInt_value_mono ham) (Int.lt_of_lt_of_le hstep (ofInt_value_mono hnb))

/-- An integer below `2 ^ 53` in magnitude never becomes equal to another one. -/
theorem ofInt_value_lt {a b : Int} (h : a < b) (hexact : a.natAbs < exactLimit ∨ b.natAbs < exactLimit) :
    (ofInt a).value < (ofInt b).value := by
  rcases hexact with ha | hb
  · exact ofInt_value_lt_of_between (isExact_of_le (Nat.le_of_lt ha)) (isExact_of_le (by omega)) (Int.le_refl a) (by omega)
      (show a + 1 ≤ b from h)
  · exact ofInt_value_lt_of_between (m := b - 1) (isExact_of_le (by omega)) (isExact_of_le (Nat.le_of_lt hb)) (by omega) (by omega)
      (Int.le_refl b)

/-- Integers of 64 bits are told apart when they differ by `2 ^ 12` or more: multiples of `2 ^ 11` are not rounded. -/
theorem ofInt_value_lt_of_far {a b : Int} (ha : -2 ^ 64 ≤ a) (hb : b ≤ 2 ^ 64) (h : a + 2 ^ 12 ≤ b) :
    (ofInt a).value < (ofInt b).value := by
  have hexact : ∀ k : Int, -2 ^ 64 ≤ k * 2 ^ 11 → k * 2 ^ 11 ≤ 2 ^ 64 → IsExact (k * 2 ^ 11) := fun k hlow hhigh => by
    refine ⟨k, 11, ?_, rfl⟩
    unfold exactLimit
    omega
  exact ofInt_value_lt_of_between (hexact (-(-a / 2 ^ 11)) (by omega) (by omega)) (hexact (b / 2 ^ 11) (by omega) (by omega)) (by omega)
    (by omega) (by omega)

/-- An integer below `2 ^ 53` differs from every count above it. -/
theorem ofInt_value_ne {k : Int} (hk : k < exactLimit) {n : Nat} (hn : k < n) : (ofInt k).value ≠ (ofInt n).value := by
  rcases Int.lt_or_le k 0 with hneg | hpos
  · have hbelow : (ofInt k).value ≤ (ofInt (-1)).value := ofInt_value_mono (by omega)
    have habove : (ofInt (-1)).value < (ofInt n).value := ofInt_value_lt (by omega) (Or.inl (by decide))
    omega
  · exact Int.ne_of_lt (ofInt_value_lt hn (Or.inl (by omega)))

end Binary64

end ModelCatalog
