import BoardDiagram.Number.Diagonal
import BoardDiagram.Proofs.Number.Range

/-! The diagonal of a rectangle with sides of whole pixels.  Its square misses the sum of the
squares of the sides by less than one, and it is exact where that sum is a square.  So rounding it
down gives the root of the sum, rounded down. -/

namespace BoardDiagram.Binary64

theorem abs_mul_le_mul {x y a b : ℚ} (hx : |x| ≤ a) (hy : |y| ≤ b) : |x * y| ≤ a * b := by
  rw [abs_mul]
  exact mul_le_mul hx hy (abs_nonneg y) ((abs_nonneg x).trans hx)

/-! ### The root of the sum of squares -/

theorem rootForRounding_square (d : ℕ) : rootForRounding (d * d) = d := by
  have hscaled : d * d * Nat.pow 2 128 = (d * Nat.pow 2 64) * (d * Nat.pow 2 64) := by
    rw [show Nat.pow 2 128 = Nat.pow 2 64 * Nat.pow 2 64 from rfl]
    ring
  have hroot : Nat.sqrt (d * d * Nat.pow 2 128) = d * Nat.pow 2 64 := by
    rw [hscaled]
    exact Nat.sqrt_eq _
  have hunit : ((Nat.pow 2 64 : ℕ) : ℚ) ≠ 0 := Nat.cast_ne_zero.mpr (by decide)
  unfold rootForRounding
  dsimp only
  rw [hroot, if_pos hscaled.symm, Rat.mkRat_eq_div, Int.cast_natCast, Nat.cast_mul]
  exact mul_div_cancel_right₀ _ hunit

/-- The number that stands for a root has nearly the right square. -/
theorem rootForRounding_spec {n : ℕ} (hn : 1 ≤ n) :
    1 ≤ rootForRounding n ∧
      |rootForRounding n * rootForRounding n - n| ≤ rootForRounding n / 2 ^ 63 := by
  have hlow := Nat.sqrt_le (n * Nat.pow 2 128)
  have hhigh := Nat.lt_succ_sqrt (n * Nat.pow 2 128)
  -- from here on `s` is the root of `n` in units of `2 ^ (-64)`, rounded down
  have hone : 2 ^ 64 ≤ Nat.sqrt (n * Nat.pow 2 128) := by
    rw [Nat.le_sqrt]
    calc 2 ^ 64 * 2 ^ 64 = 1 * Nat.pow 2 128 := by norm_num
      _ ≤ n * Nat.pow 2 128 := Nat.mul_le_mul_right _ hn
  unfold rootForRounding
  dsimp only
  generalize Nat.sqrt (n * Nat.pow 2 128) = s at *
  have hlow : (s : ℚ) * s ≤ n * 2 ^ 128 := by exact_mod_cast hlow
  have hhigh : (n : ℚ) * 2 ^ 128 < (s + 1) * (s + 1) := by exact_mod_cast hhigh
  have hone : (2 : ℚ) ^ 64 ≤ s := by exact_mod_cast hone
  split_ifs with hexact
  · have hsquare : (s : ℚ) * s = n * 2 ^ 128 := by exact_mod_cast hexact
    have hn : (n : ℚ) = s / 2 ^ 64 * (s / 2 ^ 64) := by
      field_simp
      linarith
    have hr : mkRat s (Nat.pow 2 64) = (s : ℚ) / 2 ^ 64 := by
      rw [Rat.mkRat_eq_div]
      norm_num
    rw [hr, hn, sub_self, abs_zero]
    constructor
    · rw [le_div_iff₀ (by norm_num)]
      linarith
    · positivity
  · have hr : mkRat (2 * s + 1) (Nat.pow 2 65) = (2 * (s : ℚ) + 1) / 2 ^ 65 := by
      rw [Rat.mkRat_eq_div]
      norm_num
    rw [hr]
    constructor
    · rw [le_div_iff₀ (by norm_num)]
      linarith
    · rw [abs_le]
      constructor
      · rw [div_mul_div_comm, div_div, ← sub_nonneg]
        field_simp
        nlinarith
      · field_simp
        nlinarith

/-! ### The errors of one step of Newton's method -/

/-- A number above one gets an error of at most `u` times its size, and a smaller one of at most
`u`. -/
def Accurate (u : ℚ) (rounded : ℚ → ℚ) : Prop :=
  ∀ x bound : ℚ, |x| ≤ bound → 1 ≤ bound → |rounded x - x| ≤ bound * u

theorem accurate_nearest : Accurate (1 / 2 ^ 53) nearest := by
  intro x bound hx hone
  have hleast : (2 : ℚ) ^ (-1022 : ℤ) ≤ 2 ^ (0 : ℤ) := two_zpow_le (by norm_num)
  rw [mul_one_div]
  exact abs_nearest_sub_le hx (hleast.trans (by rwa [zpow_zero]))

section Newton

variable {u a b h : ℚ} {rounded : ℚ → ℚ}
  (hu : 0 < u) (hsmall : u ≤ 1 / 1000) (haccurate : Accurate u rounded) (hone : 1 ≤ h)

include hu hsmall hone

theorem unit_bounds : 1 ≤ h * h ∧ 0 < h * u ∧ h * u ≤ h / 1000 ∧ h * h * u ≤ h * h / 1000 ∧
    u ≤ h * u ∧ h * u ≤ h * h * u := by
  have hh : 0 < h := by linarith
  have hsquare : h ≤ h * h := le_mul_of_one_le_left hh.le hone
  have hscaled := mul_le_mul_of_nonneg_left hsmall hh.le
  have hscaled' := mul_le_mul_of_nonneg_left hsmall (mul_pos hh hh).le
  refine ⟨by linarith, mul_pos hh hu, by linarith, by linarith, ?_, ?_⟩
  · exact le_mul_of_one_le_left hu.le hone
  · exact mul_le_mul_of_nonneg_right hsquare hu.le

include haccurate

theorem excess_near (hb : 1 ≤ b) (hab : b ≤ a) (hah : a ≤ h)
    (hexact : rounded (a - b) = a - b) (hnear : h ≤ 2 * b) :
    ∃ s, excess rounded a b h = rounded s ∧
      |s - (h * h - (a * a + b * b))| ≤ 9 * (h * h * u) := by
  obtain ⟨hh, hhu, hhu', -, -, -⟩ := unit_bounds hu hsmall hone
  have ha : |a| ≤ h := abs_le.mpr ⟨by linarith, hah⟩
  rw [excess, if_pos hnear]
  dsimp only
  rw [hexact]
  have hd := haccurate (h - b) h (abs_le.mpr ⟨by linarith, by linarith⟩) hone
  generalize rounded (h - b) = d at *
  obtain ⟨hd₁, hd₂⟩ := abs_le.mp hd
  have hx := haccurate (2 * d - a) (11 / 10 * h) (abs_le.mpr ⟨by linarith, by linarith⟩)
    (by linarith)
  generalize rounded (2 * d - a) = x at *
  obtain ⟨hx₁, hx₂⟩ := abs_le.mp hx
  have hp := haccurate (a * x) (h * (12 / 10 * h))
    (abs_mul_le_mul ha (abs_le.mpr ⟨by linarith, by linarith⟩)) (by linarith)
  generalize rounded (a * x) = p at *
  have hy := haccurate (d - 2 * (a - b)) (11 / 10 * h) (abs_le.mpr ⟨by linarith, by linarith⟩)
    (by linarith)
  generalize rounded (d - 2 * (a - b)) = y at *
  obtain ⟨hy₁, hy₂⟩ := abs_le.mp hy
  have hd' : |d| ≤ h := abs_le.mpr ⟨by linarith, by linarith⟩
  have hq := haccurate (y * d) (12 / 10 * h * h)
    (abs_mul_le_mul (abs_le.mpr ⟨by linarith, by linarith⟩) hd') (by linarith)
  generalize rounded (y * d) = q at *
  refine ⟨p + q, rfl, ?_⟩
  -- the error of `d` goes through the formula as that of a square about `h`
  have hax : |a * (x - (2 * d - a))| ≤ h * (11 / 10 * h * u) := abs_mul_le_mul ha hx
  have hyd : |(y - (d - 2 * (a - b))) * d| ≤ 11 / 10 * h * u * h := abs_mul_le_mul hy hd'
  have hdd : |(d - (h - b)) * (2 * h + (d - (h - b)))| ≤ h * u * (21 / 10 * h) :=
    abs_mul_le_mul hd (abs_le.mpr ⟨by linarith, by linarith⟩)
  rw [abs_le] at *
  constructor <;> linarith

theorem excess_far (hb : 1 ≤ b) (hhalf : h ≤ 2 * a) (hah : a ≤ h)
    (hexact : rounded (a - 2 * b) = a - 2 * b) (hfar : ¬ h ≤ 2 * b) :
    ∃ s, excess rounded a b h = rounded s ∧
      |s - (h * h - (a * a + b * b))| ≤ 9 * (h * h * u) := by
  obtain ⟨hh, hhu, hhu', hhhu, -, -⟩ := unit_bounds hu hsmall hone
  have hb' : |b| ≤ h / 2 := abs_le.mpr ⟨by linarith, by linarith⟩
  rw [excess, if_neg hfar]
  dsimp only
  rw [hexact]
  have hd := haccurate (h - a) h (abs_le.mpr ⟨by linarith, by linarith⟩) hone
  generalize rounded (h - a) = d at *
  obtain ⟨hd₁, hd₂⟩ := abs_le.mp hd
  have hd' : |d| ≤ 6 / 10 * h := abs_le.mpr ⟨by linarith, by linarith⟩
  have hp := haccurate (2 * d * (a - 2 * b)) (11 / 10 * h * h)
    (abs_mul_le_mul (abs_le.mpr ⟨by linarith, by linarith⟩)
      (abs_le.mpr ⟨by linarith, by linarith⟩)) (by linarith)
  generalize rounded (2 * d * (a - 2 * b)) = p at *
  have hx := haccurate (4 * d - b) (21 / 10 * h) (abs_le.mpr ⟨by linarith, by linarith⟩)
    (by linarith)
  generalize rounded (4 * d - b) = x at *
  obtain ⟨hx₁, hx₂⟩ := abs_le.mp hx
  have hxb' : |x * b| ≤ 22 / 10 * h * (h / 2) :=
    abs_mul_le_mul (abs_le.mpr ⟨by linarith, by linarith⟩) hb'
  have hq := haccurate (x * b) (11 / 10 * (h * h)) (hxb'.trans (by linarith)) (by linarith)
  generalize rounded (x * b) = q at *
  have hdd' : |d * d| ≤ 6 / 10 * h * (6 / 10 * h) := abs_mul_le_mul hd' hd'
  have hr := haccurate (d * d) (h * h) (hdd'.trans (by linarith)) hh
  generalize rounded (d * d) = r at *
  have hs := haccurate (q + r) (16 / 10 * (h * h)) (by
    rw [abs_le] at *
    constructor <;> linarith) (by linarith)
  generalize rounded (q + r) = s at *
  refine ⟨p + s, rfl, ?_⟩
  -- the error of `d` goes through the formula as in the other case
  have hxb : |(x - (4 * d - b)) * b| ≤ 21 / 10 * h * u * (h / 2) := abs_mul_le_mul hx hb'
  have hdd : |(d - (h - a)) * (2 * h + (d - (h - a)))| ≤ h * u * (21 / 10 * h) :=
    abs_mul_le_mul hd (abs_le.mpr ⟨by linarith, by linarith⟩)
  rw [abs_le] at *
  constructor <;> linarith

/-- After the step the square is less than one away, if the root had a few places to spare. -/
theorem newton_spec {n s : ℚ} (hspare : h * h * u ≤ 1 / 15)
    (hroot : |h * h - n| ≤ 21 / 10 * (h * h * u))
    (hs : |s - (h * h - n)| ≤ 9 * (h * h * u)) :
    0 < rounded (h - rounded (rounded s / (2 * h))) ∧
      |rounded (h - rounded (rounded s / (2 * h))) * rounded (h - rounded (rounded s / (2 * h))) -
        n| < 1 := by
  obtain ⟨-, hhu, hhu', -, hu', hhhu⟩ := unit_bounds hu hsmall hone
  rw [abs_le] at hroot hs
  have hg := haccurate s 1 (abs_le.mpr ⟨by linarith, by linarith⟩) le_rfl
  generalize rounded s = g at *
  rw [abs_le] at hg
  have hquotient : g / (2 * h) * (2 * h) = g := div_mul_cancel₀ g (by positivity)
  generalize g / (2 * h) = c at *
  have hc : |c| ≤ 61 / 10 * (h * u) := by
    refine le_of_mul_le_mul_right ?_ (by positivity : 0 < 2 * h)
    rw [← abs_of_pos (by positivity : 0 < 2 * h), ← abs_mul, abs_of_pos (by positivity : 0 < 2 * h),
      hquotient, abs_le]
    constructor <;> linarith
  have he := haccurate c 1 (hc.trans (by linarith)) le_rfl
  generalize rounded c = e at *
  rw [abs_le] at hc he
  have hv := haccurate (h - e) (11 / 10 * h) (abs_le.mpr ⟨by linarith, by linarith⟩) (by linarith)
  generalize rounded (h - e) = v at *
  rw [abs_le] at hv
  -- the correction is so small that its square does not count
  have hcorrection : |v - h| ≤ 82 / 10 * (h * u) := by
    rw [abs_le]
    constructor <;> linarith
  have hsquare : |(v - h) * (v - h)| ≤ 82 / 10 * (h * u) * (82 / 10 * (h * u)) :=
    abs_mul_le_mul hcorrection hcorrection
  have htiny : h * u * (h * u) ≤ h * u * (h / 1000) := mul_le_mul_of_nonneg_left hhu' hhu.le
  rw [abs_le] at hcorrection hsquare
  constructor
  · linarith
  · have hce : |(c - e) * h| ≤ 1 * u * h := by
      rw [abs_mul, abs_of_pos (by linarith : 0 < h)]
      exact mul_le_mul_of_nonneg_right (abs_le.mpr ⟨by linarith, by linarith⟩) (by linarith)
    have hve : |(v - (h - e)) * h| ≤ 11 / 10 * h * u * h := by
      rw [abs_mul, abs_of_pos (by linarith : 0 < h)]
      exact mul_le_mul_of_nonneg_right (abs_le.mpr ⟨by linarith, by linarith⟩) (by linarith)
    rw [abs_le] at hce hve
    rw [abs_lt]
    constructor <;> linarith

end Newton

/-! ### Whole sides -/

theorem root_spec {n : ℕ} (hn : 2 ≤ n) :
    1 ≤ root n ∧ |root n * root n - n| ≤ 21 / 10 * (root n * root n * (1 / 2 ^ 53)) := by
  obtain ⟨hone, hsquare⟩ := rootForRounding_spec (by omega : 1 ≤ n)
  have hn : (2 : ℚ) ≤ n := by exact_mod_cast hn
  unfold root
  generalize rootForRounding n = r at *
  have hh := accurate_nearest r r (by rw [abs_of_pos (by linarith)]) hone
  generalize nearest r = h at *
  rw [abs_le] at *
  have hr : 11 / 10 ≤ r := by nlinarith
  have hh' : 1 ≤ h := by linarith
  refine ⟨hh', ?_, ?_⟩
  · nlinarith
  · nlinarith

theorem floor_eq_sqrt {v : ℚ} {n : ℕ} (hv : 0 < v) (h : |v * v - n| < 1) (hn : ¬ IsSquare n) :
    v.floor = (Nat.sqrt n : ℤ) := by
  have hlow : Nat.sqrt n * Nat.sqrt n < n :=
    lt_of_le_of_ne (Nat.sqrt_le n) fun heq => hn ⟨_, heq.symm⟩
  have hhigh : n + 1 ≤ (Nat.sqrt n + 1) * (Nat.sqrt n + 1) := Nat.lt_succ_sqrt n
  have hlow : (Nat.sqrt n : ℚ) * Nat.sqrt n + 1 ≤ n := by exact_mod_cast hlow
  have hhigh : (n : ℚ) + 1 ≤ (Nat.sqrt n + 1) * (Nat.sqrt n + 1) := by exact_mod_cast hhigh
  rw [abs_lt] at h
  have hroot : (0 : ℚ) ≤ Nat.sqrt n := Nat.cast_nonneg _
  generalize Nat.sqrt n = k at *
  have habove : (k : ℚ) < v := lt_of_mul_self_lt_mul_self₀ hv.le (by linarith)
  have hbelow : v < k + 1 := lt_of_mul_self_lt_mul_self₀ (by linarith) (by linarith)
  refine le_antisymm (Int.lt_add_one_iff.mp (Rat.floor_lt_iff.mpr ?_)) (Rat.le_floor_iff.mpr ?_)
  · push_cast
    exact hbelow
  · push_cast
    exact habove.le

/-- Nothing is rounded where the root is a whole number. -/
theorem excess_intCast {a b k : ℤ} (ha : |a| ≤ 2 ^ 24) (hb : |b| ≤ 2 ^ 24) (hk : |k| ≤ 2 ^ 25) :
    excess nearest a b k = k * k - (a * a + b * b) := by
  have hkeep (n : ℤ) (hn : -2 ^ 53 ≤ n ∧ n ≤ 2 ^ 53) : nearest n = n :=
    nearest_intCast (abs_le.mpr hn)
  rw [abs_le] at ha hb hk
  have hresult : nearest (k * k - (a * a + b * b)) = k * k - (a * a + b * b) := by
    exact_mod_cast hkeep (k * k - (a * a + b * b)) (by constructor <;> nlinarith)
  unfold excess
  split_ifs with hnear
  · have hd : nearest (k - b) = k - b := by exact_mod_cast hkeep (k - b) (by omega)
    have hx : nearest (2 * (k - b) - a) = 2 * (k - b) - a := by
      exact_mod_cast hkeep (2 * (k - b) - a) (by omega)
    have hp : nearest (a * (2 * (k - b) - a)) = a * (2 * (k - b) - a) := by
      exact_mod_cast hkeep (a * (2 * (k - b) - a)) (by constructor <;> nlinarith)
    have hab : nearest (a - b) = a - b := by exact_mod_cast hkeep (a - b) (by omega)
    have hy : nearest (k - b - 2 * (a - b)) = k - b - 2 * (a - b) := by
      exact_mod_cast hkeep (k - b - 2 * (a - b)) (by omega)
    have hq : nearest ((k - b - 2 * (a - b)) * (k - b)) = (k - b - 2 * (a - b)) * (k - b) := by
      exact_mod_cast hkeep ((k - b - 2 * (a - b)) * (k - b)) (by constructor <;> nlinarith)
    dsimp only
    rw [hd, hx, hp, hab, hy, hq, ← hresult]
    congr 1
    ring
  · have hd : nearest (k - a) = k - a := by exact_mod_cast hkeep (k - a) (by omega)
    have hab : nearest (a - 2 * b) = a - 2 * b := by exact_mod_cast hkeep (a - 2 * b) (by omega)
    have hp : nearest (2 * (k - a) * (a - 2 * b)) = 2 * (k - a) * (a - 2 * b) := by
      exact_mod_cast hkeep (2 * (k - a) * (a - 2 * b)) (by constructor <;> nlinarith)
    have hx : nearest (4 * (k - a) - b) = 4 * (k - a) - b := by
      exact_mod_cast hkeep (4 * (k - a) - b) (by omega)
    have hq : nearest ((4 * (k - a) - b) * b) = (4 * (k - a) - b) * b := by
      exact_mod_cast hkeep ((4 * (k - a) - b) * b) (by constructor <;> nlinarith)
    have hr : nearest ((k - a) * (k - a)) = (k - a) * (k - a) := by
      exact_mod_cast hkeep ((k - a) * (k - a)) (by constructor <;> nlinarith)
    have hs : nearest ((4 * (k - a) - b) * b + (k - a) * (k - a)) =
        (4 * (k - a) - b) * b + (k - a) * (k - a) := by
      exact_mod_cast hkeep ((4 * (k - a) - b) * b + (k - a) * (k - a))
        (by constructor <;> nlinarith)
    dsimp only
    rw [hd, hab, hp, hx, hq, hr, hs, ← hresult]
    congr 1
    ring

section Sides

variable {a b : ℕ}

/-- The step starts from the root of the exact sum of squares. -/
theorem hypotenuse_eq_newton (hb : 1 ≤ b) (hab : b ≤ a) (ha : a ≤ 2 ^ 24) :
    hypotenuse a b = nearest (root (a * a + b * b) -
      nearest (excess nearest a b (root (a * a + b * b)) / (2 * root (a * a + b * b)))) := by
  have hlong : ¬ (b : ℚ) * 2 ^ (54 : ℤ) ≤ a := by
    have hb' : (1 : ℚ) ≤ b := by exact_mod_cast hb
    have ha' : (a : ℚ) ≤ 2 ^ 24 := by exact_mod_cast ha
    rw [not_le]
    calc (a : ℚ) ≤ 2 ^ 24 := ha'
      _ < 1 * 2 ^ (54 : ℤ) := by norm_num
      _ ≤ b * 2 ^ (54 : ℤ) := mul_le_mul_of_nonneg_right hb' (by norm_num)
  have hsum : nearest (nearest (a * a) + nearest (b * b)) = (a * a + b * b : ℕ) := by
    have haa := nearest_natCast (n := a * a) (by nlinarith)
    have hbb := nearest_natCast (n := b * b) (by nlinarith)
    have hadd := nearest_natCast (n := a * a + b * b) (by nlinarith)
    push_cast at haa hbb hadd ⊢
    rw [haa, hbb, hadd]
  unfold hypotenuse
  rw [if_neg hlong]
  dsimp only
  rw [hsum, Rat.num_natCast, Int.natAbs_natCast]

theorem hypotenuse_of_square {k : ℕ} (hb : 1 ≤ b) (hab : b ≤ a) (ha : a ≤ 2 ^ 24)
    (hk : a * a + b * b = k * k) : hypotenuse a b = k := by
  have hk' : k ≤ 2 ^ 25 := by nlinarith
  have hexcess := excess_intCast (a := a) (b := b) (k := k)
    (by rw [Nat.abs_cast]; exact_mod_cast ha) (by rw [Nat.abs_cast]; exact_mod_cast hab.trans ha)
    (by rw [Nat.abs_cast]; exact_mod_cast hk')
  have hzero : (k : ℚ) * k - (a * a + b * b) = 0 := by
    rw [sub_eq_zero]
    exact_mod_cast hk.symm
  simp only [Int.cast_natCast] at hexcess
  rw [hypotenuse_eq_newton hb hab ha, root, hk, rootForRounding_square,
    nearest_natCast (by omega), hexcess, hzero, zero_div, nearest_zero, sub_zero,
    nearest_natCast (by omega)]

theorem hypotenuse_spec (hb : 1 ≤ b) (hab : b ≤ a) (ha : a ≤ 2 ^ 24) :
    0 < hypotenuse a b ∧ |hypotenuse a b * hypotenuse a b - (a * a + b * b : ℕ)| < 1 := by
  obtain ⟨hone, hroot⟩ := root_spec (n := a * a + b * b) (by nlinarith)
  rw [hypotenuse_eq_newton hb hab ha]
  generalize root (a * a + b * b) = h at *
  have hroot' := abs_le.mp hroot
  have hb' : (1 : ℚ) ≤ b := by exact_mod_cast hb
  have hab' : (b : ℚ) ≤ a := by exact_mod_cast hab
  have hsmall : (a : ℚ) * a + b * b ≤ 2 ^ 49 := by
    have hn : a * a + b * b ≤ 2 ^ 49 := by nlinarith
    exact_mod_cast hn
  have hsquares : 1 ≤ (b : ℚ) * b ∧ (b : ℚ) * b ≤ a * a := ⟨by nlinarith, by nlinarith⟩
  push_cast at hroot'
  have hspare : h * h * (1 / 2 ^ 53) ≤ 1 / 15 := by linarith
  have hah : (a : ℚ) ≤ h :=
    (lt_of_mul_self_lt_mul_self₀ (by linarith) (by linarith)).le
  have hhalf : h ≤ 2 * a :=
    (lt_of_mul_self_lt_mul_self₀ (by linarith) (by linarith)).le
  have hdifference : nearest (a - b) = a - b := by
    exact_mod_cast nearest_intCast (n := a - b) (abs_le.mpr ⟨by omega, by omega⟩)
  have hdouble : nearest (a - 2 * b) = a - 2 * b := by
    exact_mod_cast nearest_intCast (n := a - 2 * b) (abs_le.mpr ⟨by omega, by omega⟩)
  obtain ⟨s, hs, herror⟩ : ∃ s, excess nearest a b h = nearest s ∧
      |s - (h * h - (a * a + b * b))| ≤ 9 * (h * h * (1 / 2 ^ 53)) := by
    by_cases hnear : h ≤ 2 * b
    · exact excess_near (by norm_num) (by norm_num) accurate_nearest hone hb' hab' hah hdifference
        hnear
    · exact excess_far (by norm_num) (by norm_num) accurate_nearest hone hb' hhalf hah hdouble hnear
  rw [hs]
  push_cast at hroot ⊢
  exact newton_spec (by norm_num) (by norm_num) accurate_nearest hone hspare hroot herror

/-- The diagonal, rounded down, is the root of the sum of squares, rounded down. -/
theorem floor_hypotenuse (hb : 1 ≤ b) (hab : b ≤ a) (ha : a ≤ 2 ^ 24) :
    (hypotenuse a b).floor = (Nat.sqrt (a * a + b * b) : ℤ) := by
  by_cases hsquare : IsSquare (a * a + b * b)
  · obtain ⟨k, hk⟩ := hsquare
    rw [hypotenuse_of_square hb hab ha hk, hk, Nat.sqrt_eq, ← Int.cast_natCast, Rat.floor_intCast]
  · obtain ⟨hpos, herror⟩ := hypotenuse_spec hb hab ha
    exact floor_eq_sqrt hpos herror hsquare

theorem round_hypotenuse (hb : 1 ≤ b) (hab : b ≤ a) (ha : a ≤ 2 ^ 24) :
    round (hypotenuse a b) = .finite (hypotenuse a b) := by
  obtain ⟨hpos, herror⟩ := hypotenuse_spec hb hab ha
  have hsmall : hypotenuse a b ≤ (2 ^ 53 : ℕ) := by
    have haa : a * a ≤ 2 ^ 24 * 2 ^ 24 := Nat.mul_le_mul ha ha
    have hbb : b * b ≤ 2 ^ 24 * 2 ^ 24 := Nat.mul_le_mul (hab.trans ha) (hab.trans ha)
    have hn : a * a + b * b + 1 ≤ 2 ^ 53 * 2 ^ 53 := by omega
    have hn : ((a * a + b * b : ℕ) : ℚ) + 1 ≤ (2 ^ 53 : ℕ) * (2 ^ 53 : ℕ) := by exact_mod_cast hn
    rw [abs_lt] at herror
    exact (lt_of_mul_self_lt_mul_self₀ (Nat.cast_nonneg _) (by linarith)).le
  have hkept : nearest (hypotenuse a b) = hypotenuse a b := by
    rw [hypotenuse_eq_newton hb hab ha, nearest_nearest]
  rw [round_eq_finite hpos.le (hsmall.trans_lt (Nat.cast_lt.mpr (lt_tooLarge le_rfl))), hkept]

theorem exists_diagonal (ha : 1 ≤ a) (hb : 1 ≤ b) (ha' : a ≤ 2 ^ 24) (hb' : b ≤ 2 ^ 24) :
    ∃ q, diagonal a b = .ok (.finite q) ∧ q.floor = (Nat.sqrt (a * a + b * b) : ℤ) := by
  have hleft : ofInt a = .ok (.finite a) := ofInt_natCast (by omega)
  have hright : ofInt b = .ok (.finite b) := ofInt_natCast (by omega)
  unfold diagonal
  rw [hleft, hright]
  rcases lt_or_ge a b with hlt | hge
  · refine ⟨hypotenuse b a, ?_, ?_⟩
    · rw [← round_hypotenuse ha hlt.le hb']
      exact congrArg (fun q => Except.ok (round q)) (if_pos (Nat.cast_lt.mpr hlt))
    · rw [floor_hypotenuse ha hlt.le hb', Nat.add_comm (b * b)]
  · refine ⟨hypotenuse a b, ?_, floor_hypotenuse hb hge ha'⟩
    rw [← round_hypotenuse hb hge ha']
    exact congrArg (fun q => Except.ok (round q)) (if_neg (not_lt.mpr (Nat.cast_le.mpr hge)))

end Sides

end BoardDiagram.Binary64
