import RequestSql.Proofs.Number.ReadBack

/-!
# The range of double precision numbers

A ratio is rounded to a finite number as long as it is nearer to the greatest one than to the
power of two that comes next; half-way between the two it is rounded up, as the greatest finite
number is odd. So all ratios from `2 ^ 1024 - 2 ^ 970` on are infinite and no others are.

Rounding is compared with a bound in two steps. The first step is about a quotient by itself:
it is rounded to less than an even bound if it is less than half a step below the bound. The
second step finds the place of the quotient among the powers of two. Only where the leading bit
has the greatest exponent does it matter how the rounding goes; below that the carry of a
rounding does not reach infinity, and above it the exponent alone does.

Key definitions: `Binary64.overflow`, `Binary64.cut`.
Key theorems: `Binary64.roundQuotient_lt_iff`, `Binary64.cut_lt_iff`,
`Binary64.isFinite_ofRatio_iff`.
-/

namespace RequestSql.Binary64

/-- The least natural that is too great: half-way between the greatest finite number and the
power of two that comes next. -/
def overflow : Nat := (Nat.pow 2 54 - 1) * Nat.pow 2 970

/-! ### Rounding a quotient -/

theorem div_le_roundQuotient (n d : Nat) : n / d ≤ roundQuotient n d := by
  simp only [roundQuotient]
  split
  · exact Nat.le_refl _
  · split <;> omega

theorem roundQuotient_le_succ (n d : Nat) : roundQuotient n d ≤ n / d + 1 := by
  simp only [roundQuotient]
  split
  · exact Nat.le_succ _
  · split <;> omega

/-- A quotient is rounded to less than an even bound if it is by more than a half less. -/
theorem roundQuotient_lt_iff {n d m : Nat} (hd : 0 < d) (heven : m % 2 = 0) :
    roundQuotient n d < m ↔ 2 * n < (2 * m - 1) * d := by
  have hn : d * (n / d) + n % d = n := Nat.div_add_mod n d
  have hr : n % d < d := Nat.mod_lt n hd
  obtain hlow | heq | hhigh : n / d + 1 < m ∨ n / d + 1 = m ∨ m ≤ n / d := by omega
  · refine iff_of_true (Nat.lt_of_le_of_lt (roundQuotient_le_succ n d) hlow) ?_
    have hsteps : d * (n / d + 2) ≤ d * m := Nat.mul_le_mul_left d hlow
    rw [Nat.sub_mul, Nat.one_mul, Nat.mul_assoc, Nat.mul_comm m d]
    rw [Nat.mul_add] at hsteps
    omega
  · -- The bound is the next natural, to which a half is rounded since it is even.
    have hsteps : d * (n / d) + d = d * m := by rw [← heq, Nat.mul_succ]
    have hodd : n / d % 2 = 1 := by omega
    simp only [roundQuotient]
    rw [Nat.sub_mul, Nat.one_mul, Nat.mul_assoc, Nat.mul_comm m d]
    split
    · omega
    · split <;> omega
  · refine iff_of_false (Nat.not_lt.2 (Nat.le_trans hhigh (div_le_roundQuotient n d))) ?_
    have hsteps : d * m ≤ d * (n / d) := Nat.mul_le_mul_left d hhigh
    rw [Nat.sub_mul, Nat.one_mul, Nat.mul_assoc, Nat.mul_comm m d]
    omega

/-! ### Among the powers of two -/

/-- A quotient cut to its leading 53 bits and rounded there, with the exponent before them. -/
def cut (n d : Nat) : Nat :=
  ((n / d).log2 - 52) * 2 ^ 52 + roundQuotient n (d * 2 ^ ((n / d).log2 - 52))

section Cut

variable {n d k : Nat}

/-- Below a power of two, even a carry leads no further than to this power. -/
theorem cut_lt_of_lt (hk : 0 < k) (h : n / d < 2 ^ (k + 52)) : cut n d < (k + 2) * 2 ^ 52 := by
  have hshift : (n / d).log2 - 52 ≤ k - 1 := by
    by_cases hzero : n / d = 0
    · rw [hzero, Nat.log2_zero]
      omega
    · have hlog := (Nat.log2_lt hzero).2 h
      omega
  have hbelow : n / d < 2 ^ ((n / d).log2 - 52 + 53) :=
    Nat.lt_of_lt_of_le Nat.lt_log2_self (Nat.pow_le_pow_right (by decide) (by omega))
  have hquotient : n / (d * 2 ^ ((n / d).log2 - 52)) < 2 ^ 53 := by
    rw [← Nat.div_div_eq_div_mul]
    refine Nat.div_lt_of_lt_mul ?_
    rwa [← Nat.pow_add]
  have hround := roundQuotient_le_succ n (d * 2 ^ ((n / d).log2 - 52))
  rw [cut]
  omega

/-- Where the leading bit is known, rounding decides. -/
theorem cut_lt_iff_of_log2_eq (hd : 0 < d) (h : (n / d).log2 = k + 52) :
    cut n d < (k + 2) * 2 ^ 52 ↔ 2 * n < (2 ^ 54 - 1) * (d * 2 ^ k) := by
  have hscale : 0 < d * 2 ^ k := Nat.mul_pos hd (Nat.two_pow_pos k)
  have hbound := roundQuotient_lt_iff (n := n) hscale (m := 2 ^ 53) (by decide)
  rw [cut, h, Nat.add_sub_cancel]
  omega

/-- From the next power on, the exponent alone leads to it. -/
theorem not_cut_lt_of_le (h : 2 ^ (k + 53) ≤ n / d) : ¬cut n d < (k + 2) * 2 ^ 52 := by
  intro hlt
  have hne : n / d ≠ 0 := Nat.ne_of_gt (Nat.lt_of_lt_of_le (Nat.two_pow_pos _) h)
  have hlog : k + 53 ≤ (n / d).log2 := (Nat.le_log2 hne).2 h
  have habove : 2 ^ ((n / d).log2 - 52) * 2 ^ 52 ≤ n / d := by
    rw [← Nat.pow_add, Nat.sub_add_cancel (by omega)]
    exact Nat.log2_self_le hne
  have hquotient : 2 ^ 52 ≤ n / (d * 2 ^ ((n / d).log2 - 52)) := by
    rw [← Nat.div_div_eq_div_mul]
    exact (Nat.le_div_iff_mul_le (Nat.two_pow_pos _)).2 (by rwa [Nat.mul_comm])
  have hround := div_le_roundQuotient n (d * 2 ^ ((n / d).log2 - 52))
  rw [cut] at hlt
  omega

/-- What is cut to 53 bits and rounded there stays below a power of two if it is below the
middle between the power and the number before it. -/
theorem cut_lt_iff (hd : 0 < d) (hk : 0 < k) :
    cut n d < (k + 2) * 2 ^ 52 ↔ 2 * n < (2 ^ 54 - 1) * (d * 2 ^ k) := by
  have hn : d * (n / d) + n % d = n := Nat.div_add_mod n d
  have hr : n % d < d := Nat.mod_lt n hd
  obtain hlow | ⟨hle, hlt⟩ | hhigh : n / d < 2 ^ (k + 52) ∨
      (2 ^ (k + 52) ≤ n / d ∧ n / d < 2 ^ (k + 53)) ∨ 2 ^ (k + 53) ≤ n / d := by omega
  · refine iff_of_true (cut_lt_of_lt hk hlow) ?_
    have hsteps : d * (n / d + 1) ≤ d * 2 ^ (k + 52) := Nat.mul_le_mul_left d hlow
    rw [Nat.pow_add, ← Nat.mul_assoc, Nat.mul_succ] at hsteps
    omega
  · have hne : n / d ≠ 0 := Nat.ne_of_gt (Nat.lt_of_lt_of_le (Nat.two_pow_pos _) hle)
    exact cut_lt_iff_of_log2_eq hd ((Nat.log2_eq_iff hne).2 ⟨hle, hlt⟩)
  · refine iff_of_false (not_cut_lt_of_le hhigh) ?_
    have hsteps : d * 2 ^ (k + 53) ≤ d * (n / d) := Nat.mul_le_mul_left d hhigh
    rw [Nat.pow_add, ← Nat.mul_assoc] at hsteps
    omega

/-- A ratio in units of `2 ^ -a`. -/
theorem cut_scaled_lt_iff (hd : 0 < d) (a b : Nat) :
    cut (n * Nat.pow 2 a) d < (a + b + 3) * Nat.pow 2 52 ↔
      n < (Nat.pow 2 54 - 1) * Nat.pow 2 b * d := by
  have hscale : 2 ^ (a + b + 1) = 2 ^ b * (2 * 2 ^ a) := by
    rw [Nat.pow_succ, Nat.pow_add]
    ac_rfl
  have hright : (2 ^ 54 - 1) * (d * (2 ^ b * (2 * 2 ^ a))) =
      (2 ^ 54 - 1) * 2 ^ b * d * (2 * 2 ^ a) := by ac_rfl
  have hleft : 2 * (n * 2 ^ a) = n * (2 * 2 ^ a) := Nat.mul_left_comm ..
  calc cut (n * 2 ^ a) d < (a + b + 1 + 2) * 2 ^ 52
      ↔ 2 * (n * 2 ^ a) < (2 ^ 54 - 1) * (d * 2 ^ (a + b + 1)) := cut_lt_iff hd (Nat.succ_pos _)
    _ ↔ n * (2 * 2 ^ a) < (2 ^ 54 - 1) * 2 ^ b * d * (2 * 2 ^ a) := by
      rw [hscale, hright, hleft]
    _ ↔ n < (2 ^ 54 - 1) * 2 ^ b * d :=
      Nat.mul_lt_mul_right (Nat.mul_pos Nat.two_pos (Nat.two_pow_pos a))

end Cut

/-! ### Finite numbers -/

/-- A ratio is nearest to a finite number if it is less than what is too great. -/
theorem magnitudeOfRatio_lt_iff (n : Nat) {d : Nat} (hd : 0 < d) :
    magnitudeOfRatio n d < infiniteMagnitude ↔ n < overflow * d := by
  have hinfinite : infiniteMagnitude = (1074 + 970 + 3) * Nat.pow 2 52 := by decide
  have hmin : ∀ m, min infiniteMagnitude m < infiniteMagnitude ↔ m < infiniteMagnitude := by
    intro m
    omega
  simp only [magnitudeOfRatio, overflow]
  generalize 1074 = a at hinfinite ⊢
  generalize 970 = b at hinfinite ⊢
  rw [hmin, hinfinite]
  exact cut_scaled_lt_iff hd a b

theorem isFinite_ofMagnitude (negative : Bool) {m : Nat} (h : m ≤ infiniteMagnitude) :
    (ofMagnitude negative m).isFinite = true ↔ m < infiniteMagnitude := by
  have hmagnitude : (ofMagnitude negative m).magnitude = m := by
    simp only [infiniteMagnitude] at h
    cases negative with
    | false =>
      show m % 2 ^ 64 % signWeight = m
      simp only [signWeight]
      omega
    | true =>
      show (signWeight + m) % 2 ^ 64 % signWeight = m
      simp only [signWeight]
      omega
  rw [isFinite, decide_eq_true_eq, hmagnitude]

/-- **A ratio is rounded to a finite number if and only if it is less than the middle between the
greatest finite number and the next power of two.** -/
theorem isFinite_ofRatio_iff (negative : Bool) (n : Nat) {d : Nat} (hd : 0 < d) :
    (ofRatio negative n d).isFinite = true ↔ n < overflow * d := by
  have hle : magnitudeOfRatio n d ≤ infiniteMagnitude := Nat.min_le_left ..
  rw [ofRatio, isFinite_ofMagnitude negative hle, magnitudeOfRatio_lt_iff n hd]

end RequestSql.Binary64
