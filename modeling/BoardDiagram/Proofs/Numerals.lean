import BoardDiagram.Number.Numeral
import BoardDiagram.Proofs.Results

/-! When numerals can be read and numbers written: up to the limit on their digits. -/

namespace BoardDiagram.Numeral

theorem checkWritable_eq_ok {n : Int} {u : Unit} : checkWritable n = .ok u ↔ n.natAbs < bound := by
  unfold checkWritable
  split
  · simp only [reduceCtorEq, false_iff]
    omega
  · simp only [true_iff]
    omega

theorem write_eq_ok {n : Int} {text : List Char} :
    write n = .ok text ↔ n.natAbs < bound ∧ text = decimal n := by
  unfold write
  rw [bind_eq_ok]
  constructor
  · rintro ⟨u, hu, h⟩
    cases h
    exact ⟨checkWritable_eq_ok.mp hu, rfl⟩
  · rintro ⟨h, rfl⟩
    exact ⟨(), checkWritable_eq_ok.mpr h, rfl⟩

theorem read_eq_ok {digits : List Char} {n : Nat} :
    read digits = .ok n ↔ digits.length ≤ digitLimit ∧ n = value digits := by
  unfold read
  split
  · simp only [reduceCtorEq, false_iff]
    omega
  · simp only [Except.ok.injEq, eq_comm]
    omega

theorem exists_read {digits : List Char} :
    (∃ n, read digits = .ok n) ↔ digits.length ≤ digitLimit := by
  simp only [read_eq_ok, exists_and_left, exists_eq, and_true]

theorem read_ne_parse (digits : List Char) (cause : ParseError) :
    read digits ≠ .error (.parse cause) := by
  unfold read
  split <;> nofun

/-! ### The digits that numbers are written in -/

theorem digitValue?_of_isDigit {c : Char} (h : c.isDigit = true) :
    Text.digitValue? c = some (c.toNat - '0'.toNat) := by
  have hrange : 48 ≤ c.toNat ∧ c.toNat ≤ 57 := by
    simpa [Char.isDigit, UInt32.le_iff_toNat_le] using h
  have hzero : Text.zeros.find? (fun first => first ≤ c.toNat && c.toNat < first + 10) =
      some 48 := by
    apply List.find?_cons_of_pos
    simp
    omega
  rw [Text.digitValue?, hzero]
  rfl

theorem foldl_eq_ofDigitChars (high : Nat) {digits : List Char}
    (h : ∀ c ∈ digits, c.isDigit = true) :
    digits.foldl (fun high c => 10 * high + (Text.digitValue? c).getD 0) high =
      Nat.ofDigitChars 10 digits high := by
  induction digits generalizing high with
  | nil => rfl
  | cons c rest ih =>
    rw [List.foldl_cons, digitValue?_of_isDigit (h c List.mem_cons_self),
      ih _ fun d hd => h d (List.mem_cons_of_mem c hd)]
    rfl

theorem value_toDigits (n : Nat) : value (Nat.toDigits 10 n) = n := by
  have hdigits : ∀ c ∈ Nat.toDigits 10 n, c.isDigit = true := fun c hc =>
    Nat.isDigit_of_mem_toDigits (by decide) (by decide) hc
  rw [value, foldl_eq_ofDigitChars 0 hdigits, Nat.ofDigitChars_ten_toDigits]

/-! ### The size of what is read -/

theorem digitValue?_lt {c : Char} {n : Nat} (h : Text.digitValue? c = some n) : n < 10 := by
  obtain ⟨first, hfirst, rfl⟩ := Option.map_eq_some_iff.mp h
  have hrange := List.find?_some hfirst
  simp only [Bool.and_eq_true, decide_eq_true_eq] at hrange
  omega

theorem foldl_lt (high : Nat) (digits : List Char) :
    digits.foldl (fun high c => 10 * high + (Text.digitValue? c).getD 0) high <
      (high + 1) * Nat.pow 10 digits.length := by
  induction digits generalizing high with
  | nil =>
    show high < (high + 1) * 1
    omega
  | cons c rest ih =>
    have hdigit : (Text.digitValue? c).getD 0 < 10 := by
      cases hc : Text.digitValue? c with
      | none => decide
      | some n => exact digitValue?_lt hc
    calc _ < (10 * high + (Text.digitValue? c).getD 0 + 1) * Nat.pow 10 rest.length := ih _
      _ ≤ (high + 1) * 10 * Nat.pow 10 rest.length := Nat.mul_le_mul_right _ (by omega)
      _ = (high + 1) * Nat.pow 10 (c :: rest).length := by
        rw [Nat.mul_assoc, Nat.mul_comm 10]
        rfl

/-- So many digits say that a number is below the power of ten of their number. -/
theorem value_lt (digits : List Char) : value digits < Nat.pow 10 digits.length := by
  have hlt := foldl_lt 0 digits
  rwa [Nat.zero_add, Nat.one_mul] at hlt

theorem lt_bound {n : Nat} (places : Nat) (hn : n < Nat.pow 10 places)
    (hplaces : places ≤ digitLimit) : n < bound := by
  have hlimit (limit : Nat) (h : places ≤ limit) : n < Nat.pow 10 limit :=
    Nat.lt_of_lt_of_le hn (Nat.pow_le_pow_right (by decide) h)
  unfold bound
  exact hlimit digitLimit hplaces

theorem length_toDigits_le {n : Nat} (h : n < bound) : (Nat.toDigits 10 n).length ≤ digitLimit := by
  have hlimit (limit : Nat) (hpos : 0 < limit) (hn : n < Nat.pow 10 limit) :
      (Nat.toDigits 10 n).length ≤ limit :=
    (Nat.length_toDigits_le_iff (by decide) hpos).mpr hn
  unfold bound at h
  exact hlimit digitLimit (by decide) h

theorem read_lt_bound {digits : List Char} {n : Nat} (h : read digits = .ok n) : n < bound := by
  obtain ⟨hlength, rfl⟩ := read_eq_ok.mp h
  exact lt_bound digits.length (value_lt digits) hlength

end BoardDiagram.Numeral
