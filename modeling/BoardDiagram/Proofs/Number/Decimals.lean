import BoardDiagram.Proofs.Number.HalfPixels
import Mathlib.Data.List.TakeWhile

/-! Pixel values are read back as the numbers that they are written for.  The reader knows a sign,
digits and a point, and nothing about how numbers are kept or rounded; so a text that it reads as
half of `k` is an exact decimal, and numbers that are read differently are written differently. -/

namespace BoardDiagram

/-! ### Reading decimals -/

namespace Decimal

/-- The number that digits stand for, if there are any and they are all digits. -/
def digits? (text : List Char) : Option ℕ :=
  if !text.isEmpty && text.all Char.isDigit then some (Nat.ofDigitChars 10 text 0) else none

/-- The number that digits stand for, or digits around a point. -/
def unsigned? (text : List Char) : Option ℚ :=
  match text.dropWhile (· != '.') with
  | [] => (digits? text).map fun whole => whole
  | _ :: behind => do
    let whole ← digits? (text.takeWhile (· != '.'))
    let parts ← digits? behind
    return whole + parts / 10 ^ behind.length

/-- The number that a decimal stands for.  There is no way to write an exponent. -/
def read? : List Char → Option ℚ
  | '-' :: text => (unsigned? text).map fun size => -size
  | text => unsigned? text

theorem isDigit_of_mem_toDigits {n : ℕ} {c : Char} (hc : c ∈ Nat.toDigits 10 n) :
    c.isDigit = true :=
  Nat.isDigit_of_mem_toDigits (by decide) (by decide) hc

theorem digits?_toDigits (n : ℕ) : digits? (Nat.toDigits 10 n) = some n := by
  have hnil : (Nat.toDigits 10 n).isEmpty = false :=
    List.isEmpty_eq_false_iff.mpr (List.ne_nil_of_length_pos Nat.length_toDigits_pos)
  have hall : (Nat.toDigits 10 n).all Char.isDigit = true :=
    List.all_eq_true.mpr fun _ => isDigit_of_mem_toDigits
  rw [digits?, hnil, hall, Nat.ofDigitChars_ten_toDigits]
  rfl

theorem ne_point_of_mem_toDigits {n : ℕ} : ∀ c ∈ Nat.toDigits 10 n, (c != '.') = true := by
  intro c hc
  rw [bne_iff_ne]
  rintro rfl
  have hdigit := isDigit_of_mem_toDigits hc
  contradiction

theorem unsigned?_toDigits (n : ℕ) : unsigned? (Nat.toDigits 10 n) = some (n : ℚ) := by
  have hrest : (Nat.toDigits 10 n).dropWhile (· != '.') = [] :=
    List.dropWhile_eq_nil_iff.mpr ne_point_of_mem_toDigits
  rw [unsigned?, hrest, digits?_toDigits]
  rfl

theorem unsigned?_point (n : ℕ) {behind : List Char} {parts : ℕ} (h : digits? behind = some parts) :
    unsigned? (Nat.toDigits 10 n ++ '.' :: behind) = some (n + parts / 10 ^ behind.length : ℚ) := by
  have hfront : (Nat.toDigits 10 n ++ '.' :: behind).takeWhile (· != '.') = Nat.toDigits 10 n := by
    rw [List.takeWhile_append_of_pos ne_point_of_mem_toDigits,
      List.takeWhile_cons_of_neg (by decide), List.append_nil]
  have hrest : (Nat.toDigits 10 n ++ '.' :: behind).dropWhile (· != '.') = '.' :: behind := by
    rw [List.dropWhile_append_of_pos ne_point_of_mem_toDigits,
      List.dropWhile_cons_of_neg (by decide)]
  rw [unsigned?, hrest, hfront, digits?_toDigits]
  dsimp only
  rw [h]
  rfl

/-- Digits do not begin with a sign. -/
theorem read?_toDigits_append (n : ℕ) (rest : List Char) :
    read? (Nat.toDigits 10 n ++ rest) = unsigned? (Nat.toDigits 10 n ++ rest) := by
  obtain ⟨c, more, hdigits⟩ :=
    List.exists_cons_of_length_pos (Nat.length_toDigits_pos (b := 10) (n := n))
  have hc : c.isDigit = true := isDigit_of_mem_toDigits (n := n) (by rw [hdigits]; simp)
  rw [hdigits, List.cons_append]
  unfold read?
  split
  · rename_i heq
    injection heq with hsign
    subst hsign
    contradiction
  · rfl

theorem read?_signed {n : ℕ} {rest : List Char} {q : ℚ}
    (h : unsigned? (Nat.toDigits 10 n ++ rest) = some q) (negative : Bool) :
    read? ((if negative then ['-'] else []) ++ Nat.toDigits 10 n ++ rest) =
      some (if negative then -q else q) := by
  cases negative with
  | false => exact (read?_toDigits_append n rest).trans h
  | true =>
    show (unsigned? (Nat.toDigits 10 n ++ rest)).map _ = _
    rw [h]
    rfl

end Decimal

namespace Binary64

theorem halfOf_of_abs_le {k : ℤ} (h : |k| ≤ 2 ^ 53) : halfOf k = .ok (.finite (k / 2)) := by
  have hhalf : mkRat k 2 = (k : ℚ) / 2 := by
    rw [Rat.mkRat_eq_div]
    norm_cast
  unfold halfOf ofRat
  rw [hhalf, round_intCast_half h]

theorem unsigned?_halves (n : ℕ) :
    Decimal.unsigned? (Nat.toDigits 10 (n / 2) ++ if n % 2 = 0 then [] else ".5".toList) =
      some (n / 2 : ℚ) := by
  obtain ⟨m, rfl | rfl⟩ := Nat.even_or_odd' n
  · rw [show 2 * m / 2 = m by omega, if_pos (show 2 * m % 2 = 0 by omega), List.append_nil,
      Decimal.unsigned?_toDigits]
    push_cast
    rw [mul_div_cancel_left₀ _ two_ne_zero]
  · have hfive : Decimal.digits? ['5'] = some 5 := rfl
    rw [show (2 * m + 1) / 2 = m by omega, if_neg (show ¬ (2 * m + 1) % 2 = 0 by omega)]
    refine (Decimal.unsigned?_point m hfive).trans ?_
    congr 1
    push_cast
    norm_num
    ring

theorem read?_halfText (k : ℤ) : Decimal.read? (halfText k) = some (k / 2 : ℚ) := by
  have hparity : k % 2 = 0 ↔ k.natAbs % 2 = 0 := by omega
  have hread := Decimal.read?_signed (unsigned?_halves k.natAbs) (decide (k < 0))
  simp only [decide_eq_true_eq, ← hparity] at hread
  rw [halfText, hread, Option.some_inj]
  split
  · rename_i hneg
    rw [← neg_div, ← Int.cast_natCast, ← Int.cast_neg, Int.natCast_natAbs, abs_of_neg hneg, neg_neg]
  · rename_i hnonneg
    rw [← Int.cast_natCast, Int.natCast_natAbs, abs_of_nonneg (not_lt.mp hnonneg)]

/-- What the text of `k` half pixels is to be: a whole number where there is no half left over, and
else the whole pixels with one digit behind the point. -/
structure IsExact (k : ℤ) (text : List Char) : Prop where
  whole : ∀ n : ℤ, k = 2 * n → text = decimal n
  half : k % 2 = 1 →
    text = (if k < 0 then ['-'] else []) ++ Nat.toDigits 10 (k.natAbs / 2) ++ ".5".toList
  ne_minus_zero : text ≠ "-0".toList
  not_point_zero : ¬ ".0".toList <:+ text
  positional : ∀ c ∈ text, c.isDigit = true ∨ c = '-' ∨ c = '.'
  reads_back : Decimal.read? text = some (k / 2 : ℚ)

theorem halfText_double (n : ℤ) : halfText (2 * n) = decimal n := by
  rw [halfText, decimal, if_pos (show 2 * n % 2 = 0 by omega), List.append_nil,
    show (2 * n).natAbs / 2 = n.natAbs by omega]
  simp only [show 2 * n < 0 ↔ n < 0 by omega]
  split <;> rfl

theorem halfText_of_odd {k : ℤ} (h : k % 2 = 1) : halfText k =
    (if k < 0 then ['-'] else []) ++ Nat.toDigits 10 (k.natAbs / 2) ++ ".5".toList := by
  rw [halfText, if_neg (show ¬ k % 2 = 0 by omega)]

theorem not_point_zero_suffix_halfText (k : ℤ) : ¬ ".0".toList <:+ halfText k := by
  intro hsuffix
  -- only a number with a half has a point, and it ends in another digit
  have hpoint : '.' ∈ halfText k := hsuffix.subset (by decide)
  obtain ⟨-, hsign⟩ | ⟨hodd, -⟩ := (mem_halfText rfl).mp hpoint
  · contradiction
  · obtain ⟨front, hfront⟩ := hsuffix
    rw [halfText_of_odd (by omega)] at hfront
    have hlast := congrArg List.getLast? hfront
    rw [List.getLast?_append_of_ne_nil _ (by decide), List.getLast?_append_of_ne_nil _ (by decide)]
      at hlast
    contradiction

/-- It would be read as zero, and the text of zero has no sign. -/
theorem halfText_ne_minus_zero (k : ℤ) : halfText k ≠ "-0".toList := by
  intro h
  have hread := read?_halfText k
  rw [h, show Decimal.read? "-0".toList = some (-((0 : ℕ) : ℚ)) from rfl, Option.some_inj] at hread
  obtain rfl : k = 0 := by
    have hk : (k : ℚ) = 0 := by
      push_cast at hread
      linarith
    exact_mod_cast hk
  contradiction

theorem isExact_halfText (k : ℤ) : IsExact k (halfText k) where
  whole n hn := by rw [hn, halfText_double]
  half := halfText_of_odd
  ne_minus_zero := halfText_ne_minus_zero k
  not_point_zero := not_point_zero_suffix_halfText k
  positional c hc := by
    cases hdigit : c.isDigit with
    | true => exact .inl rfl
    | false => exact .inr (((mem_halfText hdigit).mp hc).imp And.right And.right)
  reads_back := read?_halfText k

/-- Below two to the 53rd, every number of half pixels is a value of the format, its text is exact,
and no two of them have the same text. -/
theorem pixels_exact_on_halves :
    (∀ k : ℤ, |k| < 2 ^ 53 →
      halfOf k = .ok (.finite (k / 2)) ∧ IsExact k (pixels (.finite (k / 2)))) ∧
    Set.InjOn (fun k : ℤ => pixels (.finite (k / 2))) {k | |k| < 2 ^ 53} := by
  have hexact (k : ℤ) (hk : |k| < 2 ^ 53) : IsExact k (pixels (.finite (k / 2))) := by
    rw [pixels_half hk]
    exact isExact_halfText k
  refine ⟨fun k hk => ⟨halfOf_of_abs_le hk.le, hexact k hk⟩, fun a ha b hb hab => ?_⟩
  have hread : some (a / 2 : ℚ) = some (b / 2 : ℚ) := by
    rw [← (hexact a ha).reads_back, ← (hexact b hb).reads_back]
    exact congrArg Decimal.read? hab
  have hhalves : (a : ℚ) / 2 = b / 2 := Option.some_inj.mp hread
  exact_mod_cast (div_left_inj' two_ne_zero).mp hhalves

/-- Half a pixel below zero, and the greatest number of half pixels. -/
theorem pixels_exact_on_halves_extremes :
    (|(-1 : ℤ)| < 2 ^ 53 ∧ pixels (.finite ((-1 : ℤ) / 2)) = "-0.5".toList) ∧
    (|(2 ^ 53 - 1 : ℤ)| < 2 ^ 53 ∧
      pixels (.finite ((2 ^ 53 - 1 : ℤ) / 2)) = "4503599627370495.5".toList) :=
  ⟨⟨by decide, (pixels_exact_on_halves.1 (-1) (by decide)).2.half rfl⟩,
    ⟨by decide, (pixels_exact_on_halves.1 (2 ^ 53 - 1) (by decide)).2.half rfl⟩⟩

end Binary64

end BoardDiagram
