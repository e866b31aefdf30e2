import BoardDiagram.Proofs.Number.Nearest

/-! The range of the binary64 format.  A number that is not negative rounds to a value of the format
exactly when it lies below the middle between the greatest value and the limit. -/

namespace BoardDiagram

/-- Half a unit below an even number is enough to round up to it. -/
theorem le_roundHalfEven_of_even {q : ℚ} {n : ℤ} (heven : n % 2 = 0) (h : n - 1 / 2 ≤ q) :
    n ≤ roundHalfEven q := by
  have hlow : n - 1 ≤ q.floor := by
    refine Rat.le_floor_iff.mpr ?_
    push_cast
    linarith
  rcases hlow.lt_or_eq with hlt | heq
  · refine le_roundHalfEven ?_
    exact le_trans (Int.cast_le.mpr (by omega)) (Rat.floor_le q)
  · have hrest : 1 / 2 ≤ q - q.floor := by
      rw [← heq]
      push_cast
      linarith
    unfold roundHalfEven
    dsimp only
    rw [if_neg (not_lt.mpr hrest)]
    split_ifs
    all_goals omega

namespace Binary64

variable {q : ℚ} {e : ℤ}

/-- A power of two of the format is a whole multiple of the distance about any number below twice
it. -/
theorem exists_multiple (he : -1074 ≤ e) (hq : binaryExponent q ≤ e + 52) :
    ∃ n : ℤ, (2 : ℚ) ^ e = n * spacing q := by
  refine ⟨2 ^ (e - max (binaryExponent q - 52) (-1074)).toNat, ?_⟩
  rw [spacing]
  push_cast
  rw [← zpow_natCast, Int.toNat_of_nonneg (by omega), ← two_zpow_add, sub_add_cancel]

theorem binaryExponent_le (hq : 0 < q) (h : q ≤ 2 ^ e) : binaryExponent q ≤ e := by
  have hlow := (binaryExponent_spec hq.ne').1
  rw [abs_of_pos hq] at hlow
  exact le_of_two_zpow_le (hlow.trans h)

theorem le_binaryExponent (h : 2 ^ e ≤ q) : e ≤ binaryExponent q := by
  have hq : 0 < q := lt_of_lt_of_le (by positivity) h
  have hhigh := (binaryExponent_spec hq.ne').2
  rw [abs_of_pos hq] at hhigh
  exact Int.lt_add_one_iff.mp (lt_of_two_zpow_lt (h.trans_lt hhigh))

theorem nearest_nonneg (hq : 0 ≤ q) : 0 ≤ nearest q := by
  have hround : 0 ≤ roundHalfEven (q / spacing q) :=
    le_roundHalfEven (by simpa using div_nonneg hq (spacing_pos q).le)
  exact mul_nonneg (by exact_mod_cast hround) (spacing_pos q).le

/-- Rounding does not pass a power of two of the format. -/
theorem nearest_le (he : -1074 ≤ e) (hq : 0 ≤ q) (h : q ≤ 2 ^ e) : nearest q ≤ 2 ^ e := by
  rcases hq.eq_or_lt with rfl | hpos
  · rw [nearest_zero]
    positivity
  · have hspacing := spacing_pos q
    obtain ⟨n, hn⟩ := exists_multiple he (by linarith [binaryExponent_le hpos h])
    have hround : roundHalfEven (q / spacing q) ≤ n := by
      refine roundHalfEven_le ((div_le_iff₀ hspacing).mpr ?_)
      rw [← hn]
      exact h
    rw [nearest, hn]
    exact mul_le_mul_of_nonneg_right (by exact_mod_cast hround) hspacing.le

theorem le_nearest (he : -1022 ≤ e) (h : 2 ^ e ≤ q) : 2 ^ e ≤ nearest q := by
  have hexponent := le_binaryExponent h
  have hq : 0 < q := lt_of_lt_of_le (by positivity) h
  have hspacing := spacing_pos q
  have hlow := (binaryExponent_spec hq.ne').1
  rw [abs_of_pos hq] at hlow
  obtain ⟨n, hn⟩ := exists_multiple (q := q) (e := binaryExponent q) (by omega) (by omega)
  have hround : n ≤ roundHalfEven (q / spacing q) := by
    refine le_roundHalfEven ((le_div_iff₀ hspacing).mpr ?_)
    rw [← hn]
    exact hlow
  refine (two_zpow_le hexponent).trans ?_
  rw [nearest, hn]
  exact mul_le_mul_of_nonneg_right (by exact_mod_cast hround) hspacing.le

/-! ### The greatest value -/

/-- The least whole number that rounds to the limit: the middle between the limit and the value
below it. -/
def tooLarge : ℕ :=
  (2 ^ 54 - 1) * 2 ^ 970

theorem tooLarge_eq : (tooLarge : ℚ) = (2 ^ 53 - 1 / 2) * 2 ^ (971 : ℤ) := by
  have hunit : (2 : ℚ) ^ (971 : ℤ) = 2 * 2 ^ 970 := by
    rw [show (971 : ℤ) = 1 + (970 : ℕ) from rfl, two_zpow_add, zpow_one, zpow_natCast]
  rw [hunit, tooLarge, Nat.cast_mul, Nat.cast_pow, Nat.cast_ofNat]
  generalize (2 : ℚ) ^ 970 = p
  norm_num
  ring

theorem limit_pos : 0 < limit := by
  rw [limit]
  positivity

theorem limit_eq : limit = 2 ^ 53 * 2 ^ (971 : ℤ) :=
  two_zpow_add 53 971

theorem two_zpow_lt_tooLarge : (2 : ℚ) ^ (1023 : ℤ) < tooLarge := by
  have hpos : (0 : ℚ) < 2 ^ (971 : ℤ) := by positivity
  rw [tooLarge_eq, show (1023 : ℤ) = 52 + 971 by norm_num, two_zpow_add, mul_lt_mul_iff_left₀ hpos]
  norm_num

theorem tooLarge_lt_limit : (tooLarge : ℚ) < limit := by
  have hpos : (0 : ℚ) < 2 ^ (971 : ℤ) := by positivity
  rw [tooLarge_eq, limit_eq, mul_lt_mul_iff_left₀ hpos]
  norm_num

theorem tooLarge_le : tooLarge ≤ Nat.pow 10 (54 + 970) := by
  have hpower (k : ℕ) : (2 ^ 54 - 1) * 2 ^ k ≤ Nat.pow 10 (54 + k) := by
    calc (2 ^ 54 - 1) * 2 ^ k ≤ 10 ^ 54 * 10 ^ k :=
          Nat.mul_le_mul (by norm_num) (pow_le_pow_left₀ (by norm_num) (by norm_num) k)
      _ = 10 ^ (54 + k) := (pow_add 10 54 k).symm
  unfold tooLarge
  exact hpower 970

/-- Between the last two powers of two the values of the format lie at one distance. -/
theorem spacing_top (hlow : 2 ^ (1023 : ℤ) ≤ q) (hhigh : q < limit) :
    spacing q = 2 ^ (971 : ℤ) := by
  have hq : 0 < q := lt_of_lt_of_le (by positivity) hlow
  have hle := (binaryExponent_spec hq.ne').1
  rw [abs_of_pos hq] at hle
  have hexponent : binaryExponent q < 1024 := lt_of_two_zpow_lt (hle.trans_lt hhigh)
  have := le_binaryExponent hlow
  rw [spacing, show binaryExponent q = 1023 by omega]
  norm_num

theorem nearest_lt_limit (hq : 0 ≤ q) : nearest q < limit ↔ q < tooLarge := by
  rcases lt_or_ge q (2 ^ (1023 : ℤ)) with hsmall | hlarge
  · have hnearest := nearest_le (by norm_num) hq hsmall.le
    exact iff_of_true (hnearest.trans_lt (two_zpow_lt_tooLarge.trans tooLarge_lt_limit))
      (hsmall.trans two_zpow_lt_tooLarge)
  rcases lt_or_ge q limit with hlimit | hlimit
  · have hpos : (0 : ℚ) < 2 ^ (971 : ℤ) := by positivity
    rw [nearest, spacing_top hlarge hlimit, limit_eq, tooLarge_eq]
    generalize (2 : ℚ) ^ (971 : ℤ) = unit at *
    have hquotient : q / unit * unit = q := div_mul_cancel₀ q hpos.ne'
    rw [mul_lt_mul_iff_left₀ hpos]
    conv_rhs => rw [← hquotient, mul_lt_mul_iff_left₀ hpos]
    constructor
    · intro h
      by_contra hnot
      have hround : (2 : ℤ) ^ 53 ≤ roundHalfEven (q / unit) := by
        refine le_roundHalfEven_of_even (by norm_num) ?_
        push_cast
        exact not_lt.mp hnot
      have hround : (2 : ℚ) ^ 53 ≤ roundHalfEven (q / unit) := by exact_mod_cast hround
      linarith
    · intro h
      have herror := (abs_le.mp (abs_roundHalfEven_sub_le (q / unit))).2
      linarith
  · exact iff_of_false (not_lt.mpr (le_nearest (by norm_num) hlimit))
      (not_lt.mpr (tooLarge_lt_limit.le.trans hlimit))

/-! ### Conversions -/

theorem finite_mul_finite (a b : ℚ) : Binary64.finite a * .finite b = round (a * b) := by
  change mul (.finite a) (.finite b) = round (a * b)
  rw [mul]

theorem finite_add_finite (a b : ℚ) : Binary64.finite a + .finite b = round (a + b) := by
  change add (.finite a) (.finite b) = round (a + b)
  rw [add]

theorem round_eq_finite (hq : 0 ≤ q) (h : q < tooLarge) : round q = .finite (nearest q) := by
  have hlimit := limit_pos
  have hlow := nearest_nonneg hq
  unfold round
  dsimp only
  rw [if_neg (by linarith), if_neg (not_le.mpr ((nearest_lt_limit hq).mpr h))]

theorem ofRat_eq_ok {x : Binary64} (hq : 0 ≤ q) :
    ofRat q = .ok x ↔ q < tooLarge ∧ x = .finite (nearest q) := by
  unfold ofRat
  by_cases h : q < tooLarge
  · rw [round_eq_finite hq h]
    simp only [Except.ok.injEq, h, true_and, eq_comm]
  · have hlimit := limit_pos
    have hlow := nearest_nonneg hq
    have hround : round q = .infinity false := by
      unfold round
      dsimp only
      rw [if_neg (by linarith), if_pos (not_lt.mp (mt (nearest_lt_limit hq).mp h))]
    rw [hround]
    simp only [reduceCtorEq, h, false_and]

theorem ofInt_eq_ok {n : ℕ} {x : Binary64} :
    ofInt n = .ok x ↔ n < tooLarge ∧ x = .finite (nearest n) := by
  rw [ofInt, ofRat_eq_ok (by positivity), Int.cast_natCast, Nat.cast_lt]

theorem lt_tooLarge {n : ℕ} (h : n ≤ 2 ^ 53) : n < tooLarge := by
  have hunit : 0 < 2 ^ 970 := pow_pos (by norm_num) 970
  unfold tooLarge
  generalize 2 ^ 970 = unit at *
  omega

/-- Rounding a number of ordinary size does not pass a power of two. -/
theorem exists_round {n : ℕ} (hn : n ≤ 53) (hq : 0 ≤ q) (h : q ≤ 2 ^ n) :
    ∃ v, round q = .finite v ∧ 0 ≤ v ∧ v ≤ 2 ^ n := by
  have hpower : (2 : ℚ) ^ n ≤ (2 ^ 53 : ℕ) := by
    exact_mod_cast Nat.pow_le_pow_right (by norm_num) hn
  have hlt : q < tooLarge := (h.trans hpower).trans_lt (Nat.cast_lt.mpr (lt_tooLarge le_rfl))
  refine ⟨nearest q, round_eq_finite hq hlt, nearest_nonneg hq, ?_⟩
  rw [← zpow_natCast] at h ⊢
  exact nearest_le (by omega) hq h

theorem ofInt_natCast {n : ℕ} (h : n ≤ 2 ^ 53) : ofInt n = .ok (.finite n) :=
  ofInt_eq_ok.mpr ⟨lt_tooLarge h, by rw [nearest_natCast h]⟩

theorem round_natCast {n : ℕ} (h : n ≤ 2 ^ 53) : round n = .finite n := by
  rw [round_eq_finite (Nat.cast_nonneg n) (Nat.cast_lt.mpr (lt_tooLarge h)), nearest_natCast h]

theorem round_half {n : ℕ} (h : n ≤ 2 ^ 53) : round (n / 2) = .finite (n / 2) := by
  have hn : (0 : ℚ) ≤ n := Nat.cast_nonneg n
  have hlt : (n : ℚ) / 2 < tooLarge :=
    (half_le_self hn).trans_lt (Nat.cast_lt.mpr (lt_tooLarge h))
  have hhalf := nearest_half (n := n) (by rw [Nat.abs_cast]; exact_mod_cast h)
  rw [Int.cast_natCast] at hhalf
  rw [round_eq_finite (div_nonneg hn two_pos.le) hlt, hhalf]

theorem halfOf_natCast {n : ℕ} (h : n ≤ 2 ^ 53) : halfOf n = .ok (.finite (n / 2)) := by
  have hhalf : mkRat n 2 = (n : ℚ) / 2 := by
    rw [Rat.mkRat_eq_div]
    norm_num
  unfold halfOf ofRat
  rw [hhalf, round_half h]

end Binary64

end BoardDiagram
