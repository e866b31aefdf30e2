import BoardDiagram.Number.Written
import BoardDiagram.Proofs.Number.Range

/-! The text of whole numbers of half pixels.  Whole numbers are written as they are.  Any other
number of half pixels lies in the middle between two whole numbers, which are values of the format
themselves, so no digits before the point stand for it, and one digit behind the point does. -/

namespace BoardDiagram

namespace Binary64

theorem round_of_nearest {q : ℚ} (hq : |q| < limit) (h : nearest q = q) : round q = .finite q := by
  obtain ⟨hlow, hhigh⟩ := abs_lt.mp hq
  unfold round
  rw [h]
  dsimp only
  rw [if_neg (not_le.mpr hlow), if_neg (not_le.mpr hhigh)]

theorem abs_intCast_lt_limit {n : ℤ} (h : |n| ≤ 2 ^ 53) : |(n : ℚ)| < limit := by
  have hn : |(n : ℚ)| ≤ (2 ^ 53 : ℕ) := by exact_mod_cast h
  exact hn.trans_lt ((Nat.cast_lt.mpr (lt_tooLarge le_rfl)).trans tooLarge_lt_limit)

theorem round_intCast {n : ℤ} (h : |n| ≤ 2 ^ 53) : round n = .finite n :=
  round_of_nearest (abs_intCast_lt_limit h) (nearest_intCast h)

theorem round_intCast_half {n : ℤ} (h : |n| ≤ 2 ^ 53) : round (n / 2) = .finite (n / 2) := by
  refine round_of_nearest (lt_of_le_of_lt ?_ (abs_intCast_lt_limit h)) (nearest_half h)
  rw [abs_div, abs_two]
  exact half_le_self (abs_nonneg _)

end Binary64

/-! ### The digits of a number with a half -/

namespace Digits

theorem intCast_ne_half (n : ℤ) (m : ℕ) : (n : ℚ) ≠ m + 1 / 2 := by
  intro h
  have htwice : ((2 * n : ℤ) : ℚ) = (2 * m + 1 : ℤ) := by
    push_cast
    linarith
  have := Int.cast_injective htwice
  omega

theorem half_num_den (m : ℕ) :
    ((m : ℚ) + 1 / 2).num.natAbs = 2 * m + 1 ∧ ((m : ℚ) + 1 / 2).den = 2 := by
  have hcoprime : Nat.Coprime (2 * m + 1 : ℤ).natAbs (2 : ℤ).natAbs := by
    rw [show (2 * m + 1 : ℤ).natAbs = 2 * m + 1 by omega, show (2 : ℤ).natAbs = 2 from rfl,
      Nat.Coprime, Nat.gcd_comm, Nat.gcd_rec, show (2 * m + 1) % 2 = 1 by omega, Nat.gcd_one_left]
  have hdiv : (m : ℚ) + 1 / 2 = ((2 * m + 1 : ℤ) : ℚ) / ((2 : ℤ) : ℚ) := by
    push_cast
    ring
  have hnum := Rat.num_div_eq_of_coprime two_pos hcoprime
  have hden := Rat.den_div_eq_of_coprime two_pos hcoprime
  rw [← hdiv] at hnum hden
  omega

/-- The first digit stands for no more than the number. -/
theorem decimalExponent_half (m : ℕ) : -1 ≤ decimalExponent (m + 1 / 2) ∧
    (10 : ℚ) ^ decimalExponent (m + 1 / 2) ≤ m + 1 / 2 := by
  obtain ⟨hnum, hden⟩ := half_num_den m
  obtain ⟨places, hplaces⟩ :=
    Nat.exists_eq_succ_of_ne_zero (Nat.length_toDigits_pos (b := 10) (n := 2 * m + 1)).ne'
  have hlow : 10 ^ places ≤ 2 * m + 1 := by
    cases places with
    | zero => omega
    | succ places =>
      rw [← not_lt, ← Nat.length_toDigits_le_iff (by decide) places.succ_pos, hplaces]
      omega
  have hlow : (10 : ℚ) ^ (places : ℤ) ≤ 2 * m + 1 := by
    rw [zpow_natCast]
    exact_mod_cast hlow
  have hexponent : decimalExponent (m + 1 / 2) =
      if (10 : ℚ) ^ (places : ℤ) ≤ m + 1 / 2 then (places : ℤ) else places - 1 := by
    have hlength : ((places.succ : ℕ) : ℤ) - (['2'].length : ℕ) = places := by
      rw [List.length_singleton]
      omega
    rw [decimalExponent, hnum, hden, hplaces, show Nat.toDigits 10 2 = ['2'] from rfl, hlength]
  rw [hexponent]
  split
  · exact ⟨by omega, ‹_›⟩
  · refine ⟨by omega, ?_⟩
    rw [zpow_sub_one₀ (by norm_num)]
    have hm : (0 : ℚ) ≤ m := Nat.cast_nonneg m
    linarith

section Half

variable {m : ℕ} (hm : m < 2 ^ 52)
include hm

/-- Whole numbers of units are whole numbers, and these round to themselves. -/
theorem units?_half_eq_none {places : ℕ} (h : (10 : ℚ) ^ places ≤ m + 1 / 2) :
    units? (m + 1 / 2) (10 ^ places) = none := by
  have hunit : (0 : ℚ) < 10 ^ places := by positivity
  have hm' : (m : ℚ) ≤ 2 ^ 52 - 1 := by
    have hcast : ((m + 1 : ℕ) : ℚ) ≤ (2 ^ 52 : ℕ) := Nat.cast_le.mpr hm
    push_cast at hcast
    linarith
  obtain ⟨low, hlow⟩ : ∃ low, ((m + 1 / 2 : ℚ) / 10 ^ places).floor = low := ⟨_, rfl⟩
  have hfloor : (low : ℚ) * 10 ^ places ≤ m + 1 / 2 := by
    rw [← le_div_iff₀ hunit, ← hlow]
    exact Rat.floor_le _
  have hnonneg : 0 ≤ low := by
    rw [← hlow]
    exact Rat.le_floor_iff.mpr (by positivity)
  have hback (n : ℤ) (hn : 0 ≤ n) (hsize : (n : ℚ) * 10 ^ places ≤ 2 ^ 53) :
      decide (Binary64.round (n * 10 ^ places) = .finite (m + 1 / 2)) = false := by
    have hcast : (n : ℚ) * 10 ^ places = ((n * 10 ^ places : ℤ) : ℚ) := by
      push_cast
      rfl
    have hle : |(n * 10 ^ places : ℤ)| ≤ 2 ^ 53 := by
      rw [abs_of_nonneg (by positivity)]
      rw [hcast] at hsize
      exact_mod_cast hsize
    rw [hcast, Binary64.round_intCast hle, decide_eq_false_iff_not, Binary64.finite.injEq]
    exact intCast_ne_half _ m
  have hexact : (low : ℚ) * 10 ^ places ≠ m + 1 / 2 := by
    have hcast : (low : ℚ) * 10 ^ places = ((low * 10 ^ places : ℤ) : ℚ) := by
      push_cast
      rfl
    rw [hcast]
    exact intCast_ne_half _ m
  have hnext : ((low + 1 : ℤ) : ℚ) * 10 ^ places ≤ 2 ^ 53 := by
    push_cast
    linarith
  unfold units?
  dsimp only
  rw [hlow, if_neg hexact, hback low hnonneg (by linarith), hback (low + 1) (by omega) hnext]

omit hm in
theorem units?_half_tenth (m : ℕ) :
    units? (m + 1 / 2) (10 ^ (-1 : ℤ)) = some (10 * m + 5 : ℕ) := by
  have hquotient : (m + 1 / 2 : ℚ) / 10 ^ (-1 : ℤ) = ((10 * m + 5 : ℤ) : ℚ) := by
    push_cast
    rw [zpow_neg_one]
    ring
  have hback : ((10 * m + 5 : ℤ) : ℚ) * 10 ^ (-1 : ℤ) = m + 1 / 2 := by
    rw [← hquotient, div_mul_cancel₀]
    positivity
  unfold units?
  dsimp only
  rw [hquotient, Rat.floor_intCast, if_pos hback]
  rfl

theorem shortest_half : shortest (m + 1 / 2) = ofUnits (10 * m + 5) (-1) := by
  obtain ⟨hexponent, hfirst⟩ := decimalExponent_half m
  obtain ⟨count, hcount⟩ : ∃ count : ℕ, decimalExponent (m + 1 / 2) = count - 1 :=
    ⟨(decimalExponent (m + 1 / 2) + 1).toNat, by omega⟩
  have hle : count ≤ 16 := by
    by_contra hmany
    have hlarge : (10 : ℚ) ^ (16 : ℤ) ≤ m + 1 / 2 :=
      (zpow_le_zpow_right₀ (by norm_num) (by omega)).trans hfirst
    have hcast : ((m + 1 : ℕ) : ℚ) ≤ (2 ^ 52 : ℕ) := Nat.cast_le.mpr hm
    push_cast at hcast
    norm_num at hlarge hcast
    linarith
  -- with fewer digits the number is not met; then comes the digit behind the point
  have hrange : List.range 17 = List.range count ++ count :: (List.range (16 - count)).map
      (count + 1 + ·) := by
    rw [show 17 = count + 1 + (16 - count) by omega, List.range_add, List.range_succ,
      List.append_assoc]
    rfl
  have hbefore : ∀ more ∈ List.range count,
      (units? (m + 1 / 2) ((10 : ℚ) ^ ((count : ℤ) - 1 - (more : ℕ)))).map
        (fun n => ofUnits n.natAbs ((count : ℤ) - 1 - more)) = none := by
    intro more hmore
    have hlt := List.mem_range.mp hmore
    have hplaces : (count : ℤ) - 1 - more = (count - 1 - more : ℕ) := by omega
    have hpower : (10 : ℚ) ^ (count - 1 - more) ≤ m + 1 / 2 := by
      refine le_trans ?_ hfirst
      rw [hcount, ← zpow_natCast]
      exact zpow_le_zpow_right₀ (by norm_num) (by omega)
    rw [hplaces, zpow_natCast, units?_half_eq_none hm hpower, Option.map_none]
  unfold shortest
  dsimp only
  rw [hcount, hrange, List.findSome?_append, List.findSome?_eq_none_iff.mpr hbefore,
    Option.none_or, List.findSome?_cons, show (count : ℤ) - 1 - count = -1 by omega,
    units?_half_tenth]
  rfl

end Half

theorem toDigits_tenfold_add_five (m : ℕ) :
    Nat.toDigits 10 (10 * m + 5) = (if m = 0 then [] else Nat.toDigits 10 m) ++ ['5'] := by
  split
  · rename_i hzero
    rw [hzero]
    rfl
  · rename_i hpos
    rw [← Nat.toDigits_append_toDigits (by decide) (Nat.pos_of_ne_zero hpos) (by decide)]
    rfl

theorem positional_half (m : ℕ) :
    (ofUnits (10 * m + 5) (-1)).positional = Nat.toDigits 10 m ++ ".5".toList := by
  have hunits : ofUnits (10 * m + 5) (-1) = ⟨(if m = 0 then [] else Nat.toDigits 10 m) ++ ['5'],
      (if m = 0 then [] else Nat.toDigits 10 m).length⟩ := by
    unfold ofUnits
    dsimp only
    rw [toDigits_tenfold_add_five, List.reverse_append, List.reverse_singleton,
      List.singleton_append, List.dropWhile_cons_of_neg (by decide), List.reverse_cons,
      List.reverse_reverse, List.length_append, List.length_singleton]
    congr 1
    omega
  rw [hunits, positional]
  by_cases hzero : m = 0
  · rw [hzero]
    rfl
  · have hpos := Nat.length_toDigits_pos (b := 10) (n := m)
    rw [if_neg hzero]
    dsimp only
    rw [if_neg (by omega), Int.toNat_natCast, if_neg (by simp), List.take_left, List.drop_left]
    rfl

end Digits

/-! ### The text -/

namespace Binary64

theorem finiteText_half {m : ℕ} (hm : m < 2 ^ 52) :
    finiteText (m + 1 / 2) = Nat.toDigits 10 m ++ ".5".toList ∧
      finiteText (-(m + 1 / 2)) = '-' :: Nat.toDigits 10 m ++ ".5".toList := by
  have hpos : (0 : ℚ) < m + 1 / 2 := by positivity
  have hpoint : -4 < (Digits.shortest (m + 1 / 2)).point ∧
      (Digits.shortest (m + 1 / 2)).point ≤ 16 := by
    have hlength : (Nat.toDigits 10 (10 * m + 5)).length ≤ 17 := by
      rw [Nat.length_toDigits_le_iff (by decide) (by decide)]
      omega
    rw [Digits.shortest_half hm, Digits.ofUnits]
    dsimp only
    omega
  have htext : (if -4 < (Digits.shortest (m + 1 / 2)).point &&
      (Digits.shortest (m + 1 / 2)).point ≤ 16 then (Digits.shortest (m + 1 / 2)).positional
      else (Digits.shortest (m + 1 / 2)).scientific) = Nat.toDigits 10 m ++ ".5".toList := by
    rw [decide_eq_true hpoint.1, decide_eq_true hpoint.2, Bool.and_self, if_pos rfl,
      Digits.shortest_half hm, Digits.positional_half]
  constructor
  · unfold finiteText
    rw [if_neg hpos.ne', if_neg (not_lt.mpr hpos.le)]
    simp only [htext, if_neg (not_lt.mpr hpos.le)]
  · have hneg : -((m : ℚ) + 1 / 2) < 0 := neg_neg_of_pos hpos
    unfold finiteText
    rw [if_neg hneg.ne, if_pos hneg, neg_neg]
    simp only [htext, if_pos hneg, List.cons_append]

theorem hundredths_half {k : ℤ} (hk : |k| ≤ 2 ^ 53) :
    hundredths (.finite (k / 2)) = .finite (k / 2) := by
  have hhundred : (k / 2 : ℚ) * 100 = ((50 * k : ℤ) : ℚ) := by
    push_cast
    ring
  have hback : mkRat (50 * k) 100 = (k : ℚ) / 2 := by
    rw [Rat.mkRat_eq_div]
    push_cast
    ring
  rw [hundredths, hhundred, roundHalfEven_intCast, hback, round_intCast_half hk]

/-- A whole number of half pixels as it is written: its sign, its whole pixels and, if there is
half a pixel more, a digit behind the point. -/
def halfText (k : ℤ) : List Char :=
  (if k < 0 then ['-'] else []) ++ Nat.toDigits 10 (k.natAbs / 2) ++
    if k % 2 = 0 then [] else ".5".toList

/-- The text of half pixels is exact. -/
theorem pixels_half {k : ℤ} (hk : |k| < 2 ^ 53) : pixels (.finite (k / 2)) = halfText k := by
  have hsize := abs_lt.mp hk
  rw [pixels, hundredths_half hk.le, halfText]
  dsimp only
  obtain ⟨n, rfl | rfl⟩ := Int.even_or_odd' k
  · have hwhole : ((2 * n : ℤ) : ℚ) / 2 = n := by
      push_cast
      ring
    have habs : (2 * n).natAbs / 2 = n.natAbs := by omega
    rw [hwhole, if_pos (Rat.den_intCast n), Rat.num_intCast, decimal, habs,
      if_pos (show 2 * n % 2 = 0 by omega), List.append_nil]
    simp only [show 2 * n < 0 ↔ n < 0 by omega]
    split <;> rfl
  · rw [if_neg (show ¬ (2 * n + 1) % 2 = 0 by omega)]
    obtain ⟨m, rfl | rfl⟩ : ∃ m : ℕ, n = m ∨ n = -(m + 1 : ℕ) := by
      obtain hn | hn := le_or_gt 0 n
      · exact ⟨n.toNat, .inl (by omega)⟩
      · exact ⟨(-n - 1).toNat, .inr (by omega)⟩
    · have hhalf : ((2 * (m : ℤ) + 1 : ℤ) : ℚ) / 2 = m + 1 / 2 := by
        push_cast
        ring
      have habs : (2 * (m : ℤ) + 1).natAbs / 2 = m := by omega
      rw [hhalf, if_neg (by rw [(Digits.half_num_den m).2]; decide),
        (finiteText_half (by omega)).1, habs, if_neg (by omega), List.nil_append]
    · have hhalf : ((2 * (-(m + 1 : ℕ) : ℤ) + 1 : ℤ) : ℚ) / 2 = -(m + 1 / 2) := by
        push_cast
        ring
      have habs : (2 * (-(m + 1 : ℕ) : ℤ) + 1).natAbs / 2 = m := by omega
      rw [hhalf, if_neg (by rw [Rat.den_neg_eq_den, (Digits.half_num_den m).2]; decide),
        (finiteText_half (by omega)).2, habs, if_pos (by omega), List.singleton_append]

theorem mem_halfText {k : ℤ} {c : Char} (hc : c.isDigit = false) : c ∈ halfText k ↔
    k < 0 ∧ c = '-' ∨ k % 2 ≠ 0 ∧ c = '.' := by
  have hdigits : c ∉ Nat.toDigits 10 (k.natAbs / 2) := fun hmem => by
    rw [Nat.isDigit_of_mem_toDigits (by decide) (by decide) hmem] at hc
    contradiction
  have hfive : c ≠ '5' := fun hfive => by
    rw [hfive] at hc
    contradiction
  rw [halfText, List.mem_append, List.mem_append]
  split <;> split <;> simp_all

/-- Different numbers of half pixels have different texts. -/
theorem halfText_injective : Function.Injective halfText := by
  intro a b h
  have hsign : a < 0 ↔ b < 0 := by
    have ha := mem_halfText (k := a) (show '-'.isDigit = false from rfl)
    have hb := mem_halfText (k := b) (show '-'.isDigit = false from rfl)
    rw [h, hb] at ha
    simpa using ha.symm
  have hparity : a % 2 = 0 ↔ b % 2 = 0 := by
    have ha := mem_halfText (k := a) (show '.'.isDigit = false from rfl)
    have hb := mem_halfText (k := b) (show '.'.isDigit = false from rfl)
    rw [h, hb] at ha
    simpa using not_congr ha.symm
  have hdigits : Nat.toDigits 10 (a.natAbs / 2) = Nat.toDigits 10 (b.natAbs / 2) := by
    simp only [halfText, hsign, hparity] at h
    exact List.append_cancel_left (List.append_cancel_right h)
  have hwhole : a.natAbs / 2 = b.natAbs / 2 := by
    rw [← Nat.ofDigitChars_ten_toDigits (n := a.natAbs / 2), hdigits,
      Nat.ofDigitChars_ten_toDigits]
  omega

end Binary64

end BoardDiagram
