import Mathlib.Algebra.Order.Field.Power
import Mathlib.Data.Rat.Cast.Order
import Mathlib.Tactic.FieldSimp
import Mathlib.Tactic.Linarith
import Mathlib.Tactic.NormNum
import Mathlib.Tactic.Positivity
import Mathlib.Tactic.Ring
import SeriesExport.Json.Number

/-!
# Integers in binary floating point

A finite number has a rational value (`Binary64.value?`). Rounding keeps an integer of less than 53 bits as it is
(`value?_ofRatio`), and what is at least `2 ^ 53` stays so far from zero or becomes infinite (`isLarge_ofRatio`).
Products are rounded once, so both hold of them too (`value?_mul`, `isLarge_mul`). That is enough to tell the
milliseconds of whole seconds: they are exact if they have less than 53 bits, and otherwise not below `2 ^ 53`
(`milliseconds_of_represents`, `le_natAbs_milliseconds`).
-/

namespace SeriesExport

theorem cast_twoTo (n : ℕ) : ((twoTo n : ℕ) : ℚ) = 2 ^ n := by
  rw [twoTo, Nat.pow_eq, Nat.cast_pow, Nat.cast_ofNat]

/-- A power of two as a quotient of natural numbers. -/
theorem twoTo_div_twoTo (e : ℤ) : ((twoTo e.toNat : ℕ) : ℚ) / (twoTo (-e).toNat : ℕ) = 2 ^ e := by
  rw [cast_twoTo, cast_twoTo, ← zpow_natCast, ← zpow_natCast, ← zpow_sub₀ two_ne_zero, Int.toNat_sub_toNat_neg]

theorem two_zpow_of_nonpos {e : ℤ} (h : e ≤ 0) : (2 : ℚ) ^ e = ((twoTo (-e).toNat : ℕ) : ℚ)⁻¹ := by
  rw [← twoTo_div_twoTo, Int.toNat_of_nonpos h, cast_twoTo 0, pow_zero, one_div]

namespace Binary64

/-! ## Values -/

def signed (negative : Bool) (magnitude : ℚ) : ℚ := if negative then -magnitude else magnitude

/-- The value of a finite number. -/
def value? : Binary64 → Option ℚ
  | .finite negative significand exponent => some (signed negative (significand * 2 ^ exponent))
  | _ => none

/-- If the number is finite, it is at least `2 ^ 53` away from zero. -/
def IsLarge (x : Binary64) : Prop := ∀ v, x.value? = some v → 2 ^ 53 ≤ |v|

theorem abs_signed (negative : Bool) (magnitude : ℚ) : |signed negative magnitude| = |magnitude| := by
  cases negative
  · rfl
  · exact abs_neg magnitude

theorem signed_mul_signed (s t : Bool) (a b : ℚ) : signed s a * signed t b = signed (s != t) (a * b) := by
  cases s <;> cases t <;> simp [signed]

/-! ## Rounding -/

theorem div_le_roundDiv (num den : ℕ) : num / den ≤ roundDiv num den := by
  simp only [roundDiv]
  split
  · exact le_rfl
  · split <;> omega

theorem roundDiv_mul (n : ℕ) {den : ℕ} (h : 0 < den) : roundDiv (n * den) den = n := by
  simp [roundDiv, h]

/-- How many times `2 ^ e` the number is, rounded. -/
def rounded (num den : ℕ) (e : ℤ) : ℕ := roundDiv (scaled num den e).1 (scaled num den e).2

theorem scaled_snd_pos (num : ℕ) {den : ℕ} (hden : 0 < den) (e : ℤ) : 0 < (scaled num den e).2 :=
  Nat.mul_pos hden (twoTo_pos _)

section

variable {num den : ℕ} (hden : 0 < den)
include hden

theorem scaled_div_scaled (e : ℤ) : ((scaled num den e).1 : ℚ) / (scaled num den e).2 = num / den / 2 ^ e := by
  have hpos := twoTo_pos e.toNat
  have hpos' := twoTo_pos (-e).toNat
  rw [scaled, ← twoTo_div_twoTo e]
  push_cast
  field_simp

/-- Rounding does not go below a natural number. -/
theorem le_rounded {e : ℤ} {k : ℕ} (h : (k : ℚ) ≤ num / den / 2 ^ e) : k ≤ rounded num den e := by
  have hpos := scaled_snd_pos num hden e
  rw [← scaled_div_scaled hden, le_div_iff₀ (by exact_mod_cast hpos)] at h
  have hfloor : k ≤ (scaled num den e).1 / (scaled num den e).2 :=
    (Nat.le_div_iff_mul_le hpos).mpr (by exact_mod_cast h)
  exact hfloor.trans (div_le_roundDiv _ _)

/-- A natural number is not rounded. -/
theorem rounded_eq {e : ℤ} {k : ℕ} (h : (num : ℚ) / den / 2 ^ e = k) : rounded num den e = k := by
  have hpos := scaled_snd_pos num hden e
  rw [← scaled_div_scaled hden, div_eq_iff (by exact_mod_cast hpos.ne')] at h
  have hmul : (scaled num den e).1 = k * (scaled num den e).2 := by exact_mod_cast h
  rw [rounded, hmul, roundDiv_mul _ hpos]

/-- The binary exponent is not above the number. -/
theorem two_zpow_binaryExponent_le (hnum : num ≠ 0) : (2 : ℚ) ^ binaryExponent num den ≤ num / den := by
  have hdenQ : (0 : ℚ) < den := by exact_mod_cast hden
  simp only [binaryExponent]
  split
  · -- the number is not below `2 ^ log2 num`, and the divisor is below `2 ^ (log2 den + 1)`
    have hlow : (2 : ℚ) ^ num.log2 ≤ num := by exact_mod_cast Nat.log2_self_le hnum
    have hhigh : (den : ℚ) ≤ 2 ^ (den.log2 + 1) := by exact_mod_cast Nat.lt_log2_self.le
    have hguess : (num.log2 : ℤ) - den.log2 - 1 = (num.log2 : ℤ) - (den.log2 + 1 : ℕ) := by omega
    rw [hguess, zpow_sub₀ two_ne_zero, zpow_natCast, zpow_natCast]
    gcongr
  · next hle =>
    have hpos := scaled_snd_pos num hden ((num.log2 : ℤ) - den.log2)
    have hone : (1 : ℚ) ≤ num / den / 2 ^ ((num.log2 : ℤ) - den.log2) := by
      rw [← scaled_div_scaled hden, one_le_div (by exact_mod_cast hpos)]
      exact_mod_cast Nat.le_of_not_lt hle
    rwa [one_le_div (by positivity)] at hone

end

/-- A number that is not zero becomes a multiple of the power of two at its last bit, unless that is too large. -/
theorem exists_ofRatio_eq {num : ℕ} (den : ℕ) (negative : Bool) (hnum : num ≠ 0) :
    ∃ (significand : ℕ) (exponent : ℤ), exponent ≤ lastBit num den + 1 ∧
      (significand : ℚ) * 2 ^ exponent = rounded num den (lastBit num den) * 2 ^ lastBit num den ∧
      ofRatio negative num den =
        if maxExponent < exponent then .infinite negative else .finite negative significand exponent := by
  by_cases hcarry : rounded num den (lastBit num den) = twoTo 53
  · refine ⟨twoTo 52, lastBit num den + 1, le_rfl, ?_, ?_⟩
    · rw [hcarry, cast_twoTo, cast_twoTo, zpow_add_one₀ two_ne_zero]
      ring
    · rw [rounded] at hcarry
      simp [ofRatio, hnum, hcarry]
  · refine ⟨rounded num den (lastBit num den), lastBit num den, by omega, rfl, ?_⟩
    rw [rounded] at hcarry ⊢
    simp [ofRatio, hnum, hcarry]

section

variable {num den : ℕ} (negative : Bool) (hden : 0 < den)
include hden

/-- An integer of less than 53 bits is not rounded. -/
theorem value?_ofRatio {n : ℕ} (h : (num : ℚ) / den = n) (hn : n < 2 ^ 53) :
    (ofRatio negative num den).value? = some (signed negative n) := by
  have hdenQ : (den : ℚ) ≠ 0 := by exact_mod_cast hden.ne'
  by_cases hnum : num = 0
  · have hzero : n = 0 := by
      rw [hnum, Nat.cast_zero, zero_div] at h
      exact_mod_cast h.symm
    simp [ofRatio, hnum, hzero, zero, value?]
  have hbits : lastBit num den ≤ 0 := by
    have hlt : (2 : ℚ) ^ binaryExponent num den < 2 ^ (53 : ℤ) := by
      refine (two_zpow_binaryExponent_le hden hnum).trans_lt ?_
      rw [h]
      exact_mod_cast hn
    have := (zpow_lt_zpow_iff_right₀ one_lt_two).mp hlt
    simp only [lastBit, minExponent]
    omega
  obtain ⟨significand, exponent, hexponent, hvalue, heq⟩ := exists_ofRatio_eq den negative hnum
  have hfinite : ¬maxExponent < exponent := by
    simp only [maxExponent]
    omega
  have hround : rounded num den (lastBit num den) = n * twoTo (-lastBit num den).toNat := by
    apply rounded_eq hden
    rw [h, two_zpow_of_nonpos hbits, div_inv_eq_mul, Nat.cast_mul]
  have hpos := twoTo_pos (-lastBit num den).toNat
  rw [heq, if_neg hfinite, value?, hvalue, hround, two_zpow_of_nonpos hbits, Nat.cast_mul,
    mul_inv_cancel_right₀ (by exact_mod_cast hpos.ne')]

/-- What is large stays large. -/
theorem isLarge_ofRatio (h : (2 : ℚ) ^ 53 ≤ num / den) : (ofRatio negative num den).IsLarge := by
  have hnum : num ≠ 0 := by
    rintro rfl
    norm_num at h
  obtain ⟨significand, exponent, -, hvalue, heq⟩ := exists_ofRatio_eq den negative hnum
  have hlarge : (2 : ℚ) ^ 53 ≤ rounded num den (lastBit num den) * 2 ^ lastBit num den := by
    by_cases hbits : lastBit num den ≤ 0
    · have hpos : (0 : ℚ) < twoTo (-lastBit num den).toNat := by exact_mod_cast twoTo_pos _
      have hround : 2 ^ 53 * twoTo (-lastBit num den).toNat ≤ rounded num den (lastBit num den) := by
        apply le_rounded hden
        rw [two_zpow_of_nonpos hbits, div_inv_eq_mul, Nat.cast_mul, Nat.cast_pow, Nat.cast_ofNat]
        exact mul_le_mul_of_nonneg_right h hpos.le
      rw [two_zpow_of_nonpos hbits, ← div_eq_mul_inv, le_div_iff₀ hpos]
      exact_mod_cast hround
    · -- 53 bits are left before the last one
      have hlast : binaryExponent num den = lastBit num den + 52 := by
        simp only [lastBit, minExponent] at hbits ⊢
        omega
      have hround : 2 ^ 52 ≤ rounded num den (lastBit num den) := by
        apply le_rounded hden
        have hle := two_zpow_binaryExponent_le hden hnum
        rw [hlast, zpow_add₀ two_ne_zero] at hle
        rw [le_div_iff₀ (by positivity), mul_comm]
        exact_mod_cast hle
      have htwo : (2 : ℚ) ^ (1 : ℤ) ≤ 2 ^ lastBit num den := zpow_le_zpow_right₀ one_le_two (by omega)
      calc (2 : ℚ) ^ 53 = (2 ^ 52 : ℕ) * 2 ^ (1 : ℤ) := by norm_num
        _ ≤ rounded num den (lastBit num den) * 2 ^ lastBit num den := by gcongr
  intro v hv
  rw [heq] at hv
  split at hv
  · cases hv
  · obtain rfl := Option.some.inj hv
    rwa [abs_signed, abs_of_nonneg (by positivity), hvalue]

end

/-! ## Integers and products -/

section

variable {x y : Binary64} {a b : ℚ} {i : ℤ}

theorem value?_ofNat {n : ℕ} (h : n < 2 ^ 53) : (ofNat n).value? = some (n : ℚ) :=
  value?_ofRatio false Nat.one_pos (by rw [Nat.cast_one, div_one]) h

theorem signed_natCast (negative : Bool) (n : ℕ) :
    signed negative n = ((if negative then -(n : ℤ) else n : ℤ) : ℚ) := by
  cases negative <;> simp [signed]

theorem signed_natAbs (i : ℤ) : signed (i < 0) i.natAbs = i := by
  have hint : (if i < 0 then -(i.natAbs : ℤ) else i.natAbs) = i := by omega
  rw [signed_natCast]
  simp only [decide_eq_true_eq, hint]

theorem abs_intCast (i : ℤ) : |(i : ℚ)| = i.natAbs := by rw [Nat.cast_natAbs, Int.cast_abs]

theorem value?_ofInt (h : i.natAbs < 2 ^ 53) : (ofInt i).value? = some (i : ℚ) := by
  have hratio : ((i.natAbs : ℕ) : ℚ) / (1 : ℕ) = i.natAbs := by rw [Nat.cast_one, div_one]
  rw [ofInt, value?_ofRatio _ Nat.one_pos hratio h, signed_natAbs]

theorem isLarge_ofInt (h : 2 ^ 53 ≤ i.natAbs) : (ofInt i).IsLarge := by
  refine isLarge_ofRatio _ Nat.one_pos ?_
  rw [Nat.cast_one, div_one]
  exact_mod_cast h

/-- A product is rounded once. -/
theorem exists_mul_eq (hx : x.value? = some a) (hy : y.value? = some b) : ∃ (negative : Bool) (num den : ℕ), 0 < den ∧
    (num : ℚ) / den = |a * b| ∧ signed negative |a * b| = a * b ∧ x.mul y = ofRatio negative num den := by
  match x, y with
  | .finite s m e, .finite t n f =>
    obtain rfl := Option.some.inj hx
    obtain rfl := Option.some.inj hy
    have habs : |signed s (m * 2 ^ e) * signed t (n * 2 ^ f)| = m * 2 ^ e * (n * 2 ^ f) := by
      rw [signed_mul_signed, abs_signed, abs_of_nonneg (by positivity)]
    refine ⟨s != t, _, _, twoTo_pos _, ?_, ?_, rfl⟩
    · rw [habs, Nat.cast_mul, mul_div_assoc, twoTo_div_twoTo, zpow_add₀ two_ne_zero]
      push_cast
      ring
    · rw [habs, signed_mul_signed]

/-- A product that is an integer of less than 53 bits is exact. -/
theorem value?_mul (hx : x.value? = some a) (hy : y.value? = some b) (h : a * b = i)
    (hi : i.natAbs < 2 ^ 53) : (x.mul y).value? = some (i : ℚ) := by
  obtain ⟨negative, num, den, hden, hratio, hsign, heq⟩ := exists_mul_eq hx hy
  rw [h, abs_intCast] at hratio hsign
  rw [heq, value?_ofRatio negative hden hratio hi, hsign]

theorem isLarge_mul (hx : x.value? = some a) (hy : y.value? = some b) (h : 2 ^ 53 ≤ |a * b|) : (x.mul y).IsLarge := by
  obtain ⟨negative, num, den, hden, hratio, -, heq⟩ := exists_mul_eq hx hy
  rw [heq]
  exact isLarge_ofRatio negative hden (hratio ▸ h)

theorem IsLarge.mul (hx : x.IsLarge) (hy : y.value? = some b) (hb : 1 ≤ |b|) : (x.mul y).IsLarge := by
  match x, y with
  | .finite s m e, y =>
    have hlarge := hx _ rfl
    refine isLarge_mul rfl hy ?_
    rw [abs_mul]
    exact hlarge.trans (le_mul_of_one_le_right (abs_nonneg _) hb)
  | .infinite s, .finite t n f =>
    intro v hv
    rw [Binary64.mul] at hv
    split at hv <;> cases hv
  | .nan, .finite t n f => nofun

/-! ## Integer parts -/

theorem le_truncated {m k : ℕ} {e : ℤ} (h : (k : ℚ) ≤ m * 2 ^ e) : k ≤ m * twoTo e.toNat / twoTo (-e).toNat := by
  have hpos := twoTo_pos (-e).toNat
  rw [← twoTo_div_twoTo, ← mul_div_assoc, le_div_iff₀ (by exact_mod_cast hpos)] at h
  exact (Nat.le_div_iff_mul_le hpos).mpr (by exact_mod_cast h)

theorem truncated_eq {m k : ℕ} {e : ℤ} (h : (m : ℚ) * 2 ^ e = k) : m * twoTo e.toNat / twoTo (-e).toNat = k := by
  have hpos := twoTo_pos (-e).toNat
  rw [← twoTo_div_twoTo, ← mul_div_assoc, div_eq_iff (by exact_mod_cast hpos.ne')] at h
  have hmul : m * twoTo e.toNat = k * twoTo (-e).toNat := by exact_mod_cast h
  rw [hmul, Nat.mul_div_cancel _ hpos]

/-- An integer is its own integer part. -/
theorem truncate?_of_value? (h : x.value? = some (i : ℚ)) : x.truncate? = some i := by
  match x with
  | .finite s m e =>
    have hsigned : signed s (m * 2 ^ e) = i := Option.some.inj h
    have hmagnitude : (m : ℚ) * 2 ^ e = i.natAbs := by
      rw [← abs_intCast, ← hsigned, abs_signed, abs_of_nonneg (by positivity)]
    rw [hmagnitude, signed_natCast] at hsigned
    have hint : (if s then -(i.natAbs : ℤ) else i.natAbs) = i := Int.cast_injective hsigned
    rw [truncate?, truncated_eq hmagnitude]
    exact congrArg some hint

theorem IsLarge.truncate? (hx : x.IsLarge) (h : x.truncate? = some i) : 2 ^ 53 ≤ i.natAbs := by
  match x with
  | .finite s m e =>
    have hlarge := hx _ rfl
    rw [abs_signed, abs_of_nonneg (by positivity)] at hlarge
    have hle : 2 ^ 53 ≤ m * twoTo e.toNat / twoTo (-e).toNat := le_truncated (by exact_mod_cast hlarge)
    obtain rfl := Option.some.inj h
    generalize m * twoTo e.toNat / twoTo (-e).toNat = k at hle ⊢
    cases s
    · exact hle
    · rwa [if_pos rfl, Int.natAbs_neg]

end

end Binary64

/-! ## Milliseconds -/

/-- The number is the integer, in either form. -/
def Json.Number.Represents : Json.Number → ℤ → Prop
  | .integer j, i => j = i
  | .real x, i => x.value? = some (i : ℚ)

section

open Binary64

variable {n : Json.Number} {i : ℤ}

theorem value?_thousand : (ofNat 1000).value? = some 1000 := value?_ofNat (by norm_num)

/-- Seconds in milliseconds are exact up to 53 bits. -/
theorem milliseconds_of_represents (hn : n.Represents i) (h : (1000 * i).natAbs < 2 ^ 53) :
    (n.toBinary64.mul (ofNat 1000)).truncate? = some (1000 * i) := by
  have hvalue : n.toBinary64.value? = some (i : ℚ) := by
    cases n with
    | integer j =>
      obtain rfl : j = i := hn
      exact value?_ofInt (by omega)
    | real x => exact hn
  refine truncate?_of_value? (value?_mul hvalue value?_thousand ?_ h)
  push_cast
  ring

/-- Beyond that they stay beyond. -/
theorem le_natAbs_milliseconds (hn : n.Represents i) (h : 2 ^ 53 ≤ (1000 * i).natAbs) {milliseconds : ℤ}
    (hms : (n.toBinary64.mul (ofNat 1000)).truncate? = some milliseconds) : 2 ^ 53 ≤ milliseconds.natAbs := by
  have hproduct : (2 : ℚ) ^ 53 ≤ |(i : ℚ) * 1000| := by
    have hcast : (i : ℚ) * 1000 = (1000 * i : ℤ) := by
      push_cast
      ring
    rw [hcast, abs_intCast]
    exact_mod_cast h
  refine IsLarge.truncate? ?_ hms
  cases n with
  | integer j =>
    obtain rfl : j = i := hn
    by_cases hj : j.natAbs < 2 ^ 53
    · exact isLarge_mul (value?_ofInt hj) value?_thousand hproduct
    · exact (isLarge_ofInt (not_lt.mp hj)).mul value?_thousand (by norm_num)
  | real x => exact isLarge_mul hn value?_thousand hproduct

end

end SeriesExport
