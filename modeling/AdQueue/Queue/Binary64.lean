import AdQueue.Queue.Score

/-!
# Scores in float64

Go computes a score in float64, `float64(priority)*10000000000 + (float64(9999999999) -
float64(timestamp.Unix()))`, and decodes one the same way, `int(score/10000000000)` and
`score - float64(priority)*10000000000`.  The integer model of `Queue.Score` is what these
computations give when no operation rounds.  This module models the float64 operations and
shows that none of them rounds on the scores the queue holds.

`roundDouble` rounds a rational to the nearest double, ties to even: the quotient by the
step `2^e` of the doubles of its size is rounded to an integer with `roundHalfEven` and
multiplied back.  Every Go float64 operation rounds its exact result so.  Overflow to an
infinity is not modelled; no value here comes near `2^1024`.  Go's `int(f)` truncates
toward zero, and where that is not an `int64` it gives `-2^63`, as amd64 computes it
(`toInt`).  Two facts about the grid of `2^e` carry everything: a value on the grid stays
put (`roundDouble_eq_self`), and a bound on the grid bounds the rounded value
(`le_roundDouble`, `roundDouble_le`).  From them an integer below `2^53` is a double
(`roundDouble_intCast`), and the rounded quotient of an integer score by `10^10` stays
below the next integer, so its truncation is the integer quotient (`toInt_div_tenBillion`).

`calculateScore_float_exact` puts these together for every priority in `1 .. 5` and every
Unix second in `0 .. 9999999999`: Go's score is exactly `p·10^10 + (9999999999 − t)`, it
decodes back to `p` and `9999999999 − t`, and scores order by priority and then by age.
-/

namespace AdQueue

namespace Binary64

/-- Round half to even: the integer nearest `y`, and of two at the same distance the even one. -/
def roundHalfEven (y : ℚ) : ℤ :=
  if y - ⌊y⌋ < 1 / 2 then ⌊y⌋
  else if 1 / 2 < y - ⌊y⌋ then ⌊y⌋ + 1
  else if ⌊y⌋ % 2 = 0 then ⌊y⌋ else ⌊y⌋ + 1

/-- The exponent of the last significand bit of a double of the size of `x`: 52 bits below
its leading bit, and never below the subnormal step `2^-1074`. -/
def ulpExponent (x : ℚ) : ℤ := max (Int.log 2 |x| - 52) (-1074)

/-- `x` rounded to the nearest double, ties to even. -/
def roundDouble (x : ℚ) : ℚ := roundHalfEven (x / 2 ^ ulpExponent x) * 2 ^ ulpExponent x

/-- Go's `float64(n)` of an integer. -/
def ofInt (n : ℤ) : ℚ := roundDouble n

/-- Truncation toward zero. -/
def truncate (f : ℚ) : ℤ := if 0 ≤ f then ⌊f⌋ else ⌈f⌉

/-- Go's `int(f)` of a float, as amd64 computes it: the truncation toward zero when it is an
`int64`, and otherwise the `-2^63` that `CVTTSD2SQ` returns (the Go specification leaves the
value of an out-of-range conversion to the implementation). -/
def toInt (f : ℚ) : ℤ :=
  if -2 ^ 63 ≤ truncate f ∧ truncate f < 2 ^ 63 then truncate f else -2 ^ 63

/-- Go's float64 `+`. -/
def add (x y : ℚ) : ℚ := roundDouble (x + y)

/-- Go's float64 `-`. -/
def sub (x y : ℚ) : ℚ := roundDouble (x - y)

/-- Go's float64 `*`. -/
def mul (x y : ℚ) : ℚ := roundDouble (x * y)

/-- Go's float64 `/`. -/
def div (x y : ℚ) : ℚ := roundDouble (x / y)

/-! ## Truncation -/

theorem toInt_of_nonneg {f : ℚ} (h0 : 0 ≤ f) (h1 : f < 2 ^ 63) : toInt f = ⌊f⌋ := by
  have hlt : ⌊f⌋ < 2 ^ 63 := Int.floor_lt.mpr (by exact_mod_cast h1)
  have hle : 0 ≤ ⌊f⌋ := Int.floor_nonneg.mpr h0
  rw [toInt, truncate, if_pos h0, if_pos ⟨by omega, hlt⟩]

theorem toInt_intCast {n : ℤ} (h0 : -2 ^ 63 ≤ n) (h1 : n < 2 ^ 63) : toInt n = n := by
  have ht : truncate n = n := by unfold truncate; split_ifs <;> simp
  rw [toInt, ht, if_pos ⟨h0, h1⟩]

/-! ## Rounding to an integer -/

theorem floor_le_roundHalfEven (y : ℚ) : ⌊y⌋ ≤ roundHalfEven y := by
  unfold roundHalfEven
  split_ifs <;> omega

@[simp] theorem roundHalfEven_intCast (n : ℤ) : roundHalfEven n = n := by
  simp [roundHalfEven]

theorem le_roundHalfEven {a : ℤ} {y : ℚ} (h : (a : ℚ) ≤ y) : a ≤ roundHalfEven y :=
  (Int.le_floor.mpr h).trans (floor_le_roundHalfEven y)

/-- Rounding up happens only off the integers, so it never passes an integer bound. -/
theorem roundHalfEven_le {b : ℤ} {y : ℚ} (h : y ≤ b) : roundHalfEven y ≤ b := by
  have hf : ⌊y⌋ ≤ b := Int.floor_le_iff.mpr (by linarith)
  have hup : 1 / 2 ≤ y - ⌊y⌋ → ⌊y⌋ + 1 ≤ b := fun hy => by
    have : (⌊y⌋ : ℚ) < b := by linarith
    exact_mod_cast this
  unfold roundHalfEven
  split_ifs with h1 h2 h3
  · exact hf
  · exact hup h2.le
  · exact hf
  · exact hup (not_lt.mp h1)

/-! ## The grid of a double -/

theorem ulpExponent_le {x : ℚ} {k : ℤ} (h : |x| < 2 ^ k) (hk : 1 ≤ k) :
    ulpExponent x ≤ k - 53 := by
  unfold ulpExponent
  rcases eq_or_ne x 0 with rfl | hx
  · simp only [abs_zero, Int.log_zero_right]
    omega
  · have := (Int.lt_zpow_iff_log_lt (b := 2) one_lt_two (abs_pos.mpr hx)).mp (by exact_mod_cast h)
    omega

/-- A value on the grid of its own step is a double. -/
theorem roundDouble_eq_self {x : ℚ} {m : ℤ} (h : x / 2 ^ ulpExponent x = m) :
    roundDouble x = x := by
  rw [roundDouble, h, roundHalfEven_intCast, ← h, div_mul_cancel₀ _ (zpow_ne_zero _ two_ne_zero)]

theorem le_roundDouble {x : ℚ} {a : ℤ} (h : a * 2 ^ ulpExponent x ≤ x) :
    a * 2 ^ ulpExponent x ≤ roundDouble x := by
  have hu : (0 : ℚ) < 2 ^ ulpExponent x := zpow_pos two_pos _
  have := le_roundHalfEven ((le_div_iff₀ hu).mpr h)
  exact mul_le_mul_of_nonneg_right (by exact_mod_cast this) hu.le

theorem roundDouble_le {x : ℚ} {b : ℤ} (h : x ≤ b * 2 ^ ulpExponent x) :
    roundDouble x ≤ b * 2 ^ ulpExponent x := by
  have hu : (0 : ℚ) < 2 ^ ulpExponent x := zpow_pos two_pos _
  have := roundHalfEven_le ((div_le_iff₀ hu).mpr h)
  exact mul_le_mul_of_nonneg_right (by exact_mod_cast this) hu.le

/-- The grid of a step `2^q ≤ 1` holds every integer. -/
theorem intCast_div_zpow {q : ℤ} (hq : q ≤ 0) (n : ℤ) :
    (n : ℚ) / 2 ^ q = (n * 2 ^ (-q).toNat : ℤ) := by
  have h : (2 : ℚ) ^ (-q) = 2 ^ (-q).toNat := by
    rw [← zpow_natCast, Int.toNat_of_nonneg (neg_nonneg.mpr hq)]
  rw [div_eq_mul_inv, ← zpow_neg, h]
  push_cast
  rfl

/-- Every integer below `2^53` in size is a double. -/
theorem roundDouble_intCast {n : ℤ} (h : |n| < 2 ^ 53) : roundDouble n = n :=
  have hq := ulpExponent_le (x := n) (k := 53) (by exact_mod_cast h) (by norm_num)
  roundDouble_eq_self (intCast_div_zpow (by omega) n)

/-- An operation whose exact result is an integer in `[0, 2^53)` does not round. -/
theorem roundDouble_eq_intCast {x : ℚ} {n : ℤ} (hx : x = n) (h0 : 0 ≤ n) (h1 : n < 2 ^ 53) :
    roundDouble x = n := by
  rw [hx, roundDouble_intCast (by rw [abs_of_nonneg h0]; exact h1)]

/-- A value from an integer `n` up to one step of the doubles below `n + 1` rounds into
`[n, n + 1)`, when the step is at most `1`. -/
theorem roundDouble_mem_Ico {x : ℚ} {n : ℤ} (hq : ulpExponent x ≤ 0) (h0 : n ≤ x)
    (h1 : x ≤ n + 1 - 2 ^ ulpExponent x) : n ≤ roundDouble x ∧ roundDouble x < n + 1 := by
  have hgrid : ∀ m : ℤ, ((m * 2 ^ (-ulpExponent x).toNat : ℤ) : ℚ) * 2 ^ ulpExponent x = m :=
    fun m => by rw [← intCast_div_zpow hq m, div_mul_cancel₀ _ (zpow_ne_zero _ two_ne_zero)]
  have hlo := le_roundDouble (x := x) (a := n * 2 ^ (-ulpExponent x).toNat) (by rwa [hgrid])
  have hhi := roundDouble_le (x := x) (b := (n + 1) * 2 ^ (-ulpExponent x).toNat - 1) (by
    rw [Int.cast_sub, sub_mul, hgrid, Int.cast_one, one_mul]
    push_cast
    exact h1)
  rw [hgrid] at hlo
  rw [Int.cast_sub, sub_mul, hgrid, Int.cast_one, one_mul] at hhi
  push_cast at hhi
  exact ⟨hlo, by linarith [zpow_pos (two_pos : (0 : ℚ) < 2) (ulpExponent x)]⟩

/-- Go's `int(s / 10000000000)` on an integer `s` in `[0, 2^52)`.  The quotient lies at
least `10^-10` below the next integer, and the step of the doubles of its size is at most
`2^-34`, so it rounds to a double below that integer, and truncates to the integer
quotient. -/
theorem toInt_div_tenBillion {s : ℤ} (h0 : 0 ≤ s) (h1 : s < 2 ^ 52) :
    toInt (div s 10000000000) = s / 10000000000 := by
  set x : ℚ := (s : ℚ) / 10000000000 with hx
  have hq : ulpExponent x ≤ -34 := by
    have hx19 : |x| < 2 ^ (19 : ℤ) := by
      have : (s : ℚ) < 2 ^ 52 := by exact_mod_cast h1
      rw [abs_of_nonneg (by positivity), hx, div_lt_iff₀ (by norm_num)]
      norm_num at this ⊢
      linarith
    have := ulpExponent_le hx19 (by norm_num)
    omega
  have hu : (2 : ℚ) ^ ulpExponent x ≤ 1 / 10000000000 :=
    calc (2 : ℚ) ^ ulpExponent x ≤ 2 ^ (-34 : ℤ) := zpow_le_zpow_right₀ one_le_two hq
      _ ≤ 1 / 10000000000 := by norm_num
  have hn0 : ((s / 10000000000 : ℤ) : ℚ) * 10000000000 ≤ s := by
    exact_mod_cast Int.ediv_mul_le s (by norm_num)
  have hn1 : (s : ℚ) + 1 ≤ ((s / 10000000000 : ℤ) : ℚ) * 10000000000 + 10000000000 := by
    have : s + 1 ≤ s / 10000000000 * 10000000000 + 10000000000 := by omega
    exact_mod_cast this
  obtain ⟨hlo, hhi⟩ := roundDouble_mem_Ico (x := x) (n := s / 10000000000) (by omega)
    (by rw [hx, le_div_iff₀ (by norm_num)]; exact hn0)
    (by rw [hx, div_le_iff₀ (by norm_num)]; linarith only [hn1, hu])
  have hn : (0 : ℚ) ≤ (s / 10000000000 : ℤ) := by exact_mod_cast Int.ediv_nonneg h0 (by norm_num)
  have hsmall : ((s / 10000000000 : ℤ) : ℚ) + 1 ≤ 2 ^ 63 := by
    have : s / 10000000000 + 1 ≤ 2 ^ 63 := by omega
    exact_mod_cast this
  rw [div, toInt_of_nonneg (hn.trans hlo) (by linarith), Int.floor_eq_iff]
  exact ⟨hlo, hhi⟩

end Binary64

namespace RedisQueueManager

open Binary64

/-! ## The score computations of the Go code -/

/-- `calculateScore` as Go evaluates it.  The constants `10000000000` and `9999999999` are
doubles exactly. -/
def calculateScoreFloat (priority timestamp : Int) : ℚ :=
  add (mul (ofInt priority) 10000000000) (sub 9999999999 (ofInt (unixSeconds timestamp)))

/-- `int(score / 10000000000)`. -/
def decodePriorityFloat (score : ℚ) : Int := toInt (div score 10000000000)

/-- `score - float64(int(score/10000000000))*10000000000`. -/
def timestampPartFloat (score : ℚ) : ℚ :=
  sub score (mul (ofInt (decodePriorityFloat score)) 10000000000)

/-- `float64(n)*10000000000` of an integer `n` in `0 .. 900000` does not round. -/
theorem mul_tenBillion_eq {n : Int} (h0 : 0 ≤ n) (h1 : n ≤ 900000) :
    mul (ofInt n) 10000000000 = ((n * 10000000000 : ℤ) : ℚ) := by
  rw [ofInt, roundDouble_eq_intCast rfl h0 (by omega)]
  exact roundDouble_eq_intCast (by push_cast; ring) (by omega) (by omega)

/-- On a priority in `0 .. 5` and a Unix second in `0 .. 9999999999` no step of
`calculateScore` rounds. -/
theorem calculateScoreFloat_eq {priority timestamp : Int} (hp : 0 ≤ priority ∧ priority ≤ 5)
    (ht : 0 ≤ unixSeconds timestamp ∧ unixSeconds timestamp ≤ 9999999999) :
    calculateScoreFloat priority timestamp = calculateScore priority timestamp := by
  have hage : sub 9999999999 (ofInt (unixSeconds timestamp)) =
      ((9999999999 - unixSeconds timestamp : ℤ) : ℚ) := by
    rw [ofInt, roundDouble_eq_intCast rfl ht.1 (by omega)]
    exact roundDouble_eq_intCast (by push_cast; ring) (by omega) (by omega)
  rw [calculateScoreFloat, mul_tenBillion_eq hp.1 (by omega), hage, calculateScore]
  exact roundDouble_eq_intCast (by push_cast; ring) (by omega) (by omega)

/-- On an integer score in `[0, 2^52)` the float decoding is the integer one. -/
theorem decodePriorityFloat_eq {s : Int} (h0 : 0 ≤ s) (h1 : s < 2 ^ 52) :
    decodePriorityFloat s = decodePriority s := by
  rw [decodePriorityFloat, toInt_div_tenBillion h0 h1, decodePriority,
    Int.tdiv_eq_ediv h0 (by norm_num)]

theorem timestampPartFloat_eq {s : Int} (h0 : 0 ≤ s) (h1 : s < 2 ^ 52) :
    timestampPartFloat s = timestampPart s := by
  have hd : decodePriority s = s / 10000000000 := Int.tdiv_eq_ediv h0 (by norm_num)
  have hd0 : 0 ≤ decodePriority s := hd ▸ Int.ediv_nonneg h0 (by norm_num)
  have hd1 : decodePriority s * 10000000000 ≤ s := hd ▸ Int.ediv_mul_le s (by norm_num)
  rw [timestampPartFloat, decodePriorityFloat_eq h0 h1, mul_tenBillion_eq hd0 (by omega),
    timestampPart]
  exact roundDouble_eq_intCast (by push_cast; ring) (by omega) (by omega)

/-- The new score `UpdatePriority` and `ApplyAntiStarvation` write,
`float64(newPriority)*10000000000 + timestampPart`, on an integer score in `[0, 2^52)` and a
priority in `0 .. 5`: no step rounds, so it is the integer model's. -/
theorem rescoreFloat_eq {s q : Int} (h0 : 0 ≤ s) (h1 : s < 2 ^ 52) (hq : 0 ≤ q ∧ q ≤ 5) :
    add (mul (ofInt q) 10000000000) (timestampPartFloat s) =
      ((q * 10000000000 + timestampPart s : ℤ) : ℚ) := by
  have hd : decodePriority s = s / 10000000000 := Int.tdiv_eq_ediv h0 (by norm_num)
  have ht : 0 ≤ timestampPart s ∧ timestampPart s < 10000000000 := by
    rw [timestampPart, hd]
    omega
  rw [timestampPartFloat_eq h0 h1, mul_tenBillion_eq hq.1 (by omega)]
  exact roundDouble_eq_intCast (by push_cast; ring) (by omega) (by omega)

/-- Band `4` written over the score of an entry enqueued in Unix second `1700000000`. -/
theorem rescoreFloat_eq_at_sample :
    add (mul (ofInt 4) 10000000000) (timestampPartFloat 28299999999) =
      ((4 * 10000000000 + timestampPart 28299999999 : ℤ) : ℚ) :=
  rescoreFloat_eq (by norm_num) (by norm_num) (by norm_num)

/-- For every priority in `1 .. 5` and every Unix second in `0 .. 9999999999`, Go's score is
exactly `p·10^10 + (9999999999 − t)`; its floor by `10^10` and its float decoding give back
`p` and `9999999999 − t`; and one score is above another exactly when its priority is
higher, or the same with an earlier second. -/
theorem calculateScore_float_exact (p p' T T' : Int) (hp : 1 ≤ p ∧ p ≤ 5)
    (hp' : 1 ≤ p' ∧ p' ≤ 5) (ht : 0 ≤ unixSeconds T ∧ unixSeconds T ≤ 9999999999)
    (ht' : 0 ≤ unixSeconds T' ∧ unixSeconds T' ≤ 9999999999) :
    calculateScoreFloat p T = ((p * 10000000000 + (9999999999 - unixSeconds T) : ℤ) : ℚ) ∧
      ⌊calculateScoreFloat p T / 10000000000⌋ = p ∧
      decodePriorityFloat (calculateScoreFloat p T) = p ∧
      timestampPartFloat (calculateScoreFloat p T) = ((9999999999 - unixSeconds T : ℤ) : ℚ) ∧
      (calculateScoreFloat p' T' < calculateScoreFloat p T ↔
        p' < p ∨ (p' = p ∧ unixSeconds T < unixSeconds T')) := by
  have hs := calculateScoreFloat_eq ⟨by omega, hp.2⟩ ht
  have hs' := calculateScoreFloat_eq ⟨by omega, hp'.2⟩ ht'
  have hband : 0 ≤ calculateScore p T ∧ calculateScore p T < 2 ^ 52 := by
    unfold calculateScore; omega
  rw [hs, hs']
  refine ⟨rfl, ?_, ?_, ?_, ?_⟩
  · rw [show (10000000000 : ℚ) = ((10000000000 : ℕ) : ℚ) by norm_num,
      Rat.floor_intCast_div_natCast]
    unfold calculateScore
    push_cast
    omega
  · rw [decodePriorityFloat_eq hband.1 hband.2, calculateScore]
    exact decodePriority_band (by omega) (by omega) (by omega)
  · rw [timestampPartFloat_eq hband.1 hband.2, calculateScore,
      timestampPart_band (by omega) (by omega) (by omega)]
  · rw [Int.cast_lt]
    unfold calculateScore
    omega

/-- Two ads of priority `3` enqueued a minute apart: the score decodes to `3`, and the older
ad scores higher. -/
theorem calculateScore_float_exact_at_sample :
    decodePriorityFloat (calculateScoreFloat 3 1700000000000000000) = 3 ∧
      calculateScoreFloat 3 1700000060000000000 < calculateScoreFloat 3 1700000000000000000 :=
  have h := calculateScore_float_exact 3 3 1700000000000000000 1700000060000000000
    (by decide) (by decide) (by decide) (by decide)
  ⟨h.2.2.1, h.2.2.2.2.mpr (.inr ⟨rfl, by decide⟩)⟩

end RedisQueueManager

end AdQueue
