import BoardDiagram.Number.Written
import BoardDiagram.Proofs.Markup.Safe

/-! Numbers as they are written.  Whatever the number, its text holds only figures: digits, signs, a
point, and the letters of exponents, infinities and what is no number.  So it is safe in markup. -/

namespace BoardDiagram.Markup

/-- A character that numbers are written with. -/
def isFigure (c : Char) : Bool :=
  c.isDigit || c.isLower || c = '-' || c = '+' || c = '.'

theorem isFigure_of_isDigit {c : Char} (h : c.isDigit = true) : isFigure c = true := by
  simp [isFigure, h]

theorem isFigure_toDigits {n : Nat} {c : Char} (h : c ∈ Nat.toDigits 10 n) : isFigure c = true :=
  isFigure_of_isDigit (Nat.isDigit_of_mem_toDigits (by decide) (by decide) h)

theorem isFigure_decimal {n : Int} {c : Char} (h : c ∈ decimal n) : isFigure c = true := by
  unfold decimal at h
  split at h
  · obtain rfl | h := List.mem_cons.mp h
    · decide
    · exact isFigure_toDigits h
  · exact isFigure_toDigits h

theorem isFigure_replicate {n : Nat} {c : Char} (h : c ∈ List.replicate n '0') :
    isFigure c = true := by
  obtain ⟨-, rfl⟩ := List.mem_replicate.mp h
  decide

/-! ### The shortest digits -/

theorem isDigit_ofUnits {n : Nat} {exponent : Int} {c : Char}
    (h : c ∈ (Digits.ofUnits n exponent).digits) : c.isDigit = true := by
  have hmem : c ∈ (Nat.toDigits 10 n).reverse :=
    (List.dropWhile_sublist _).subset (List.mem_reverse.mp h)
  exact Nat.isDigit_of_mem_toDigits (by decide) (by decide) (List.mem_reverse.mp hmem)

theorem isDigit_shortest {q : Rat} {c : Char} (h : c ∈ (Digits.shortest q).digits) :
    c.isDigit = true := by
  unfold Digits.shortest at h
  dsimp only at h
  generalize hfound : List.findSome? _ _ = found at h
  cases found with
  | none =>
    obtain rfl := List.mem_singleton.mp h
    decide
  | some digits =>
    obtain ⟨more, -, hmore⟩ := List.exists_of_findSome?_eq_some hfound
    obtain ⟨n, -, rfl⟩ := Option.map_eq_some_iff.mp hmore
    exact isDigit_ofUnits h

theorem isFigure_positional {digits : Digits} (hdigits : ∀ c ∈ digits.digits, isFigure c = true)
    {c : Char} (h : c ∈ digits.positional) : isFigure c = true := by
  unfold Digits.positional at h
  dsimp only at h
  split at h
  · simp only [List.cons_append, List.mem_cons, List.mem_append] at h
    obtain rfl | rfl | h | h := h
    · decide
    · decide
    · exact isFigure_replicate h
    · exact hdigits c h
  · split at h
    · simp only [List.append_assoc, List.mem_append, List.mem_cons, List.not_mem_nil,
        or_false] at h
      obtain h | h | rfl | rfl := h
      · exact hdigits c h
      · exact isFigure_replicate h
      · decide
      · decide
    · simp only [List.mem_append, List.mem_cons] at h
      obtain h | rfl | h := h
      · exact hdigits c (List.mem_of_mem_take h)
      · decide
      · exact hdigits c (List.mem_of_mem_drop h)

theorem isFigure_scientific {digits : Digits} (hdigits : ∀ c ∈ digits.digits, isFigure c = true)
    {c : Char} (h : c ∈ digits.scientific) : isFigure c = true := by
  unfold Digits.scientific at h
  simp only [List.append_assoc, List.cons_append, List.mem_append, List.mem_cons] at h
  obtain h | rfl | h | h | h := h
  · split at h
    · rename_i first second rest heq
      rw [heq] at hdigits
      obtain rfl | h := List.mem_cons.mp h
      · exact hdigits c List.mem_cons_self
      · obtain rfl | h := List.mem_cons.mp h
        · decide
        · exact hdigits c (List.mem_cons_of_mem first h)
    · exact hdigits c h
  · decide
  · subst h
    split <;> decide
  · exact isFigure_replicate h
  · exact isFigure_toDigits h

/-! ### Pixel values -/

theorem isFigure_finiteText {q : Rat} {c : Char} (h : c ∈ Binary64.finiteText q) :
    isFigure c = true := by
  have hdigits (r : Rat) : ∀ d ∈ (Digits.shortest r).digits, isFigure d = true :=
    fun d hd => isFigure_of_isDigit (isDigit_shortest hd)
  have hunsigned (r : Rat) (h : c ∈ (if -4 < (Digits.shortest r).point &&
      (Digits.shortest r).point ≤ 16 then (Digits.shortest r).positional
      else (Digits.shortest r).scientific)) : isFigure c = true := by
    split at h
    · exact isFigure_positional (hdigits r) h
    · exact isFigure_scientific (hdigits r) h
  unfold Binary64.finiteText at h
  dsimp only at h
  split at h
  · have hzero : ['0', '.', '0'].all isFigure = true := by decide
    exact List.all_eq_true.mp hzero c h
  · split at h
    · obtain rfl | h := List.mem_cons.mp h
      · decide
      · exact hunsigned _ h
    · exact hunsigned _ h

theorem isFigure_text {a : Binary64} {c : Char} (h : c ∈ a.text) : isFigure c = true := by
  match a with
  | .finite q => exact isFigure_finiteText h
  | .infinity true | .infinity false | .nan => exact List.all_eq_true.mp (by decide) c h

theorem isFigure_pixels {a : Binary64} {c : Char} (h : c ∈ a.pixels) : isFigure c = true := by
  unfold Binary64.pixels at h
  split at h
  · split at h
    · exact isFigure_decimal h
    · exact isFigure_finiteText h
  · exact isFigure_text h

/-! ### Safety -/

/-- Figures are neither delimiters nor ampersands. -/
theorem isSafe_of_figures {s : List Char} (h : ∀ c ∈ s, isFigure c = true) : isSafe s = true := by
  refine isSafe_of_plain fun c hc => ?_
  have hne (d : Char) (hd : isFigure d = false) : c ≠ d := by
    rintro rfl
    rw [h c hc] at hd
    exact absurd hd (by decide)
  refine ⟨?_, hne '&' (by decide)⟩
  simp only [isDelimiter, Bool.or_eq_false_iff, decide_eq_false_iff_not]
  exact ⟨⟨⟨hne '<' (by decide), hne '>' (by decide)⟩, hne '"' (by decide)⟩,
    hne '\x27' (by decide)⟩

theorem isSafe_decimal (n : Int) : isSafe (decimal n) = true :=
  isSafe_of_figures fun _ => isFigure_decimal

theorem isSafe_pixels (a : Binary64) : isSafe a.pixels = true :=
  isSafe_of_figures fun _ => isFigure_pixels

end BoardDiagram.Markup
