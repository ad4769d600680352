import Mathlib.Data.Int.Log
import Mathlib.Data.Rat.Floor
import Mathlib.Tactic.Linarith
import Mathlib.Tactic.Positivity
import ZclaudiaGateway.Lib.PythonValue

/-!
# Binary64 numbers

Rounding of a rational number that is not negative to the nearest number of the binary64 format, ties to even, and the
operations of a Python `float` that rest on it. Rounding is monotone and leaves alone the numbers of the format, among them
the powers of two; an operation that leaves the range gives an infinity, and an `int` that is too large for the format cannot
be converted.
-/

namespace Binary64

/-! ## Rounding to an integer -/

/-- The nearest integer, the even one in a tie. -/
def roundHalfEven (x : ℚ) : ℤ :=
  if 2 * Int.fract x < 1 then ⌊x⌋
  else if 1 < 2 * Int.fract x then ⌊x⌋ + 1
  else if ⌊x⌋ % 2 = 0 then ⌊x⌋ else ⌊x⌋ + 1

theorem roundHalfEven_intCast (n : ℤ) : roundHalfEven n = n := by
  unfold roundHalfEven
  rw [Int.fract_intCast, if_pos (by norm_num), Int.floor_intCast]

theorem floor_le_roundHalfEven (x : ℚ) : ⌊x⌋ ≤ roundHalfEven x := by
  unfold roundHalfEven
  split
  · exact le_rfl
  · split
    · omega
    · split <;> omega

theorem roundHalfEven_le_floor_succ (x : ℚ) : roundHalfEven x ≤ ⌊x⌋ + 1 := by
  unfold roundHalfEven
  split
  · omega
  · split
    · omega
    · split <;> omega

theorem roundHalfEven_mono {x y : ℚ} (h : x ≤ y) : roundHalfEven x ≤ roundHalfEven y := by
  rcases (Int.floor_mono h).lt_or_eq with hlt | heq
  · calc roundHalfEven x ≤ ⌊x⌋ + 1 := roundHalfEven_le_floor_succ x
      _ ≤ ⌊y⌋ := hlt
      _ ≤ roundHalfEven y := floor_le_roundHalfEven y
  · have hfract : Int.fract x ≤ Int.fract y := by
      rw [Int.fract, Int.fract, heq]
      linarith
    unfold roundHalfEven
    rw [heq]
    split_ifs <;> first
      | omega
      | exact absurd hfract (by linarith)

/-! ## Rounding to the format -/

/-- The exponent of the last place of a number. -/
def lastPlace (q : ℚ) : ℤ := max (Int.log 2 q) (-1022) - 52

/-- The nearest number of the format, were there no largest one. -/
def rounded (q : ℚ) : ℚ := roundHalfEven (q / 2 ^ lastPlace q) * 2 ^ lastPlace q

/-- The largest finite number. -/
def maxFinite : ℚ := (2 ^ 53 - 1) * 2 ^ 971

theorem two_pow_le_maxFinite : (2 : ℚ) ^ 53 ≤ maxFinite := by
  have hpow : (2 : ℚ) ≤ 2 ^ 971 := le_self_pow₀ one_le_two (by norm_num)
  calc (2 : ℚ) ^ 53 ≤ (2 ^ 53 - 1) * 2 := by norm_num
    _ ≤ maxFinite := mul_le_mul_of_nonneg_left hpow (by norm_num)

theorem zpow_pos_two (e : ℤ) : (0 : ℚ) < 2 ^ e := zpow_pos two_pos e

/-- A number whose last place is at most a power of two apart from it is left alone. -/
theorem rounded_eq_self {q : ℚ} {n : ℤ} (h : q = n * 2 ^ lastPlace q) : rounded q = q := by
  have hn : q / 2 ^ lastPlace q = n := by
    rw [div_eq_iff (zpow_pos_two _).ne']
    exact h
  rw [rounded, hn, roundHalfEven_intCast]
  exact h.symm

theorem lastPlace_le_iff {q : ℚ} (hq : 0 < q) {e : ℤ} (he : -1074 ≤ e) : lastPlace q ≤ e ↔ q < 2 ^ (e + 53) := by
  have hlog : q < 2 ^ (e + 53) ↔ Int.log 2 q < e + 53 := Int.lt_zpow_iff_log_lt one_lt_two hq
  rw [hlog]
  unfold lastPlace
  omega

/-- An integer multiple of a power of two is a number of the format, unless it has too many places or is too small. -/
theorem rounded_mul_zpow {n : ℤ} (hn : 0 ≤ n) (hn' : n ≤ 2 ^ 53) {e : ℤ} (he : -1074 ≤ e) :
    rounded (n * 2 ^ e) = n * 2 ^ e := by
  rcases hn.eq_or_lt with rfl | hpos
  · rw [Int.cast_zero, zero_mul]
    simp [rounded, roundHalfEven]
  have hq : (0 : ℚ) < n * 2 ^ e := mul_pos (by exact_mod_cast hpos) (zpow_pos_two e)
  -- The largest multiple is a power of two, with its last place one higher.
  rcases hn'.lt_or_eq with hlt | rfl
  · have hle : lastPlace (n * 2 ^ e) ≤ e := by
      rw [lastPlace_le_iff hq he, add_comm, zpow_add₀ two_ne_zero]
      have hcast : (n : ℚ) < 2 ^ (53 : ℤ) := by exact_mod_cast hlt
      exact mul_lt_mul_of_pos_right hcast (zpow_pos_two e)
    obtain ⟨k, hk⟩ := Int.eq_ofNat_of_zero_le (Int.sub_nonneg_of_le hle)
    refine rounded_eq_self (n := n * 2 ^ k) ?_
    have hsplit : (2 : ℚ) ^ e = 2 ^ (k : ℤ) * 2 ^ lastPlace (n * 2 ^ e) := by
      rw [← zpow_add₀ two_ne_zero]
      congr 1
      omega
    conv_lhs => rw [hsplit]
    push_cast
    rw [zpow_natCast, mul_assoc]
  · have hpow : (((2 : ℤ) ^ 53 : ℤ) : ℚ) * 2 ^ e = 2 ^ (e + 53) := by
      rw [add_comm, zpow_add₀ two_ne_zero]
      norm_num
    have hlast : lastPlace (2 ^ (e + 53)) = e + 1 := by
      have hlog : Int.log 2 ((2 : ℚ) ^ (e + 53)) = e + 53 := by exact_mod_cast Int.log_zpow (R := ℚ) one_lt_two (e + 53)
      unfold lastPlace
      rw [hlog]
      omega
    rw [hpow]
    refine rounded_eq_self (n := 2 ^ 52) ?_
    rw [hlast, show e + 53 = 52 + (e + 1) by ring, zpow_add₀ two_ne_zero]
    norm_num

theorem rounded_natCast {n : ℕ} (h : n ≤ 2 ^ 53) : rounded n = n := by
  have h := rounded_mul_zpow (n := n) (by omega) (by exact_mod_cast h) (e := 0) (by omega)
  simpa using h

theorem rounded_two_pow (n : ℕ) : rounded (2 ^ n) = 2 ^ n := by
  have h := rounded_mul_zpow (n := 1) zero_le_one (by norm_num) (e := n) (by omega)
  simpa using h

theorem rounded_maxFinite : rounded maxFinite = maxFinite := by
  have hmax : maxFinite = ((2 ^ 53 - 1 : ℤ) : ℚ) * 2 ^ (971 : ℤ) := by
    rw [maxFinite, zpow_ofNat]
    norm_num
  rw [hmax]
  exact rounded_mul_zpow (by norm_num) (by norm_num) (by norm_num)

/-- What a number rounds to is an integer multiple of its last place with 53 bits at most. -/
theorem rounded_spec {q : ℚ} (hq : 0 ≤ q) :
    0 ≤ roundHalfEven (q / 2 ^ lastPlace q) ∧ roundHalfEven (q / 2 ^ lastPlace q) ≤ 2 ^ 53 ∧ -1074 ≤ lastPlace q := by
  have he : -1074 ≤ lastPlace q := by
    unfold lastPlace
    omega
  have hnonneg : 0 ≤ q / 2 ^ lastPlace q := div_nonneg hq (zpow_pos_two _).le
  refine ⟨?_, ?_, he⟩
  · have h := roundHalfEven_mono hnonneg
    rwa [show (0 : ℚ) = ((0 : ℤ) : ℚ) by norm_num, roundHalfEven_intCast] at h
  · have hle : q / 2 ^ lastPlace q ≤ ((2 ^ 53 : ℤ) : ℚ) := by
      rcases hq.eq_or_lt with rfl | hpos
      · rw [zero_div]
        norm_num
      · rw [div_le_iff₀ (zpow_pos_two _)]
        have h := (lastPlace_le_iff hpos he).mp le_rfl
        rw [add_comm, zpow_add₀ two_ne_zero] at h
        push_cast
        exact_mod_cast h.le
    have h := roundHalfEven_mono hle
    rwa [roundHalfEven_intCast] at h

/-- Rounding leaves alone what has been rounded. -/
theorem rounded_rounded {q : ℚ} (hq : 0 ≤ q) : rounded (rounded q) = rounded q := by
  obtain ⟨h0, hmax, he⟩ := rounded_spec hq
  exact rounded_mul_zpow h0 hmax he

theorem rounded_nonneg {q : ℚ} (hq : 0 ≤ q) : 0 ≤ rounded q :=
  mul_nonneg (by exact_mod_cast (rounded_spec hq).1) (zpow_pos_two _).le

theorem rounded_mono {q q' : ℚ} (hq : 0 ≤ q) (h : q ≤ q') : rounded q ≤ rounded q' := by
  rcases hq.eq_or_lt with rfl | hpos
  · have hzero : rounded 0 = 0 := by simp [rounded, roundHalfEven]
    rw [hzero]
    exact rounded_nonneg h
  have hpos' : 0 < q' := hpos.trans_le h
  have hlast : lastPlace q ≤ lastPlace q' := by
    have hlog := Int.log_mono_right (b := 2) hpos h
    unfold lastPlace
    omega
  rcases hlast.eq_or_lt with heq | hlt
  · unfold rounded
    rw [← heq]
    have hdiv : q / 2 ^ lastPlace q ≤ q' / 2 ^ lastPlace q := div_le_div_of_nonneg_right h (zpow_pos_two _).le
    exact mul_le_mul_of_nonneg_right (by exact_mod_cast roundHalfEven_mono hdiv) (zpow_pos_two _).le
  · -- A power of two is between the two numbers.
    obtain ⟨-, hmax, he⟩ := rounded_spec hq
    have hlog : lastPlace q' + 52 = Int.log 2 q' := by
      unfold lastPlace at *
      omega
    have hbelow : rounded q ≤ 2 ^ (lastPlace q + 53) := by
      rw [add_comm, zpow_add₀ two_ne_zero]
      exact mul_le_mul_of_nonneg_right (by exact_mod_cast hmax) (zpow_pos_two _).le
    have habove : (2 : ℚ) ^ (lastPlace q' + 52) ≤ rounded q' := by
      have hq'' : (2 : ℚ) ^ (lastPlace q' + 52) ≤ q' := by
        rw [hlog]
        exact_mod_cast Int.zpow_log_le_self (b := 2) one_lt_two hpos'
      rw [add_comm, zpow_add₀ two_ne_zero] at hq'' ⊢
      have hdiv : ((2 ^ 52 : ℤ) : ℚ) ≤ q' / 2 ^ lastPlace q' := by
        rw [le_div_iff₀ (zpow_pos_two _)]
        exact_mod_cast hq''
      have hround := roundHalfEven_mono hdiv
      rw [roundHalfEven_intCast] at hround
      exact mul_le_mul_of_nonneg_right (by exact_mod_cast hround) (zpow_pos_two _).le
    have hbetween : (2 : ℚ) ^ (lastPlace q + 53) ≤ 2 ^ (lastPlace q' + 52) :=
      zpow_le_zpow_right₀ one_le_two (by omega)
    exact hbelow.trans (hbetween.trans habove)

end Binary64

/-! ## Floats that are not negative -/

namespace PyFloat

open Binary64

/-- The float nearest to a number. -/
def nearest (q : ℚ) : PyFloat := if maxFinite < rounded q then .infinity false else .finite (rounded q)

/-- `float(n)`, unless it raises `OverflowError`. -/
def ofInt (n : ℕ) : Option PyFloat := if maxFinite < rounded n then none else some (.finite (rounded n))

/-- `x * y`. -/
def mul : PyFloat → PyFloat → PyFloat
  | .finite q, .finite q' => nearest (q * q')
  | .finite q, .infinity _ | .infinity _, .finite q => if q = 0 then .nan else .infinity false
  | .infinity _, .infinity _ => .infinity false
  | _, _ => .nan

/-- `x / y` for a finite `y` that is not zero. -/
def div : PyFloat → ℚ → PyFloat
  | .finite q, y => nearest (q / y)
  | .infinity _, _ => .infinity false
  | .nan, _ => .nan

/-- `x < y`. -/
def lt : PyFloat → PyFloat → Bool
  | .finite q, .finite q' => decide (q < q')
  | .finite _, .infinity _ => true
  | _, _ => false

/-- `x <= y`. -/
def le : PyFloat → PyFloat → Bool
  | .finite q, .finite q' => decide (q ≤ q')
  | .finite _, .infinity _ | .infinity _, .infinity _ => true
  | _, _ => false

/-- `min(x, y)`. -/
def min (x y : PyFloat) : PyFloat := if y.lt x then y else x

theorem le_min {x y z : PyFloat} (hx : z.le x) (hy : z.le y) : z.le (x.min y) := by
  unfold min
  split
  · exact hy
  · exact hx

theorem le_self {x : PyFloat} (hx : x ≠ .nan) : x.le x := by
  cases x with
  | finite q => exact decide_eq_true (Rat.le_refl)
  | infinity => rfl
  | nan => exact absurd rfl hx

theorem le_of_not_lt {x y : PyFloat} (hx : x ≠ .nan) (hy : y ≠ .nan) (h : ¬ y.lt x) : x.le y := by
  cases x with
  | nan => exact absurd rfl hx
  | finite q =>
    cases y with
    | finite q' => exact decide_eq_true (not_lt.mp (fun hlt => h (decide_eq_true hlt)))
    | infinity => rfl
    | nan => exact absurd rfl hy
  | infinity =>
    cases y with
    | finite => exact absurd rfl h
    | infinity => rfl
    | nan => exact absurd rfl hy

theorem min_le_right {x y : PyFloat} (hx : x ≠ .nan) (hy : y ≠ .nan) : (x.min y).le y := by
  unfold min
  split
  · exact le_self hy
  · rename_i h
    exact le_of_not_lt hx hy h

theorem nearest_ne_nan (q : ℚ) : nearest q ≠ .nan := by
  unfold nearest
  split <;> nofun

theorem nearest_mono {q q' : ℚ} (hq : 0 ≤ q) (h : q ≤ q') : (nearest q).le (nearest q') := by
  have hround := rounded_mono hq h
  unfold nearest
  split_ifs with hinf hinf'
  · rfl
  · exact absurd (hinf.trans_le hround) hinf'
  · rfl
  · exact decide_eq_true hround

theorem nearest_of_le {q : ℚ} (h : rounded q ≤ maxFinite) : nearest q = .finite (rounded q) := if_neg (not_lt.mpr h)

/-- A power of two can be converted exactly when it is in the range. -/
theorem ofInt_two_pow (n : ℕ) : ofInt (2 ^ n) = if n < 1024 then some (.finite (2 ^ n)) else none := by
  unfold ofInt
  rw [Nat.cast_pow, Nat.cast_ofNat, rounded_two_pow]
  by_cases h : n < 1024
  · have hle : (2 : ℚ) ^ n ≤ 2 ^ 1023 := pow_le_pow_right₀ one_le_two (by omega)
    have hmax : (2 : ℚ) ^ 1023 ≤ maxFinite := by
      rw [maxFinite, show 1023 = 52 + 971 by rfl, pow_add]
      exact mul_le_mul_of_nonneg_right (by norm_num) (by positivity)
    rw [if_pos h, if_neg (not_lt.mpr (hle.trans hmax))]
  · have hle : (2 : ℚ) ^ 1024 ≤ 2 ^ n := pow_le_pow_right₀ one_le_two (by omega)
    have hmax : maxFinite < (2 : ℚ) ^ 1024 := by
      rw [maxFinite, show 1024 = 53 + 971 by rfl, pow_add]
      exact mul_lt_mul_of_pos_right (by norm_num) (by positivity)
    rw [if_neg h, if_pos (hmax.trans_le hle)]

end PyFloat
