import BoardDiagram.Text.LowerCase

/-! The lower case of words of the Latin alphabet.  Of all other characters only the capital letters
`A` to `Z` become small letters `a` to `z`, but for the sign of kelvin, which becomes a `k`, and the
dotted capital I, which becomes an `i` and a dot. -/

namespace BoardDiagram.Text

/-- A small letter of the Latin alphabet other than `k`. -/
def IsPlainSmall (c : Char) : Prop :=
  0x61 ≤ c.toNat ∧ c.toNat ≤ 0x7a ∧ c.toNat ≠ 0x6b

instance (c : Char) : Decidable (IsPlainSmall c) :=
  inferInstanceAs (Decidable (_ ∧ _ ∧ _))

theorem toNat_toLower (c : Char) :
    c.toLower.toNat = if 0x41 ≤ c.toNat ∧ c.toNat ≤ 0x5a then c.toNat + 0x20 else c.toNat := by
  have hrange : (c.val ≥ 'A'.val ∧ c.val ≤ 'Z'.val) ↔ 0x41 ≤ c.toNat ∧ c.toNat ≤ 0x5a := by
    rw [ge_iff_le, UInt32.le_iff_toNat_le, UInt32.le_iff_toNat_le]
    rfl
  unfold Char.toLower
  split
  · rename_i h
    rw [if_pos (hrange.mp h)]
    have hlow : c.val.toNat ≤ 0x5a := (hrange.mp h).2
    show (c.val + ('a'.val - 'A'.val)).toNat = c.val.toNat + 0x20
    rw [UInt32.toNat_add]
    exact Nat.mod_eq_of_lt (Nat.lt_of_le_of_lt (Nat.add_le_add_right hlow _) (by decide))
  · rename_i h
    rw [if_neg (mt hrange.mpr h)]

/-- The lower case of a character that stands between others. -/
def lowerAt (before : List Char) (c : Char) (rest : List Char) : List Char :=
  if c.toNat = 0x3a3 then
    [Char.ofNat (if meetsCased before && !meetsCased rest then 0x3c2 else 0x3c3)]
  else lowerChar c

theorem lowerAfter_cons (before : List Char) (c : Char) (rest : List Char) :
    lowerAfter before (c :: rest) = lowerAt before c rest ++ lowerAfter (c :: before) rest := rfl

/-! ### Runs of capital letters -/

theorem capitalRuns_eq_cons : capitalRuns = (0x41, 0x5a, 1, 0x61) :: capitalRuns.tail := rfl

/-- Behind the Latin capitals come runs that start beyond ASCII, and their small letters lie there
too, but for that of the sign of kelvin. -/
theorem beyond_of_mem_tail : ∀ run ∈ capitalRuns.tail, 0x80 ≤ run.1 ∧
    (0x80 ≤ run.2.2.2 ∨ run.2.2.2 = 0x6b ∧ run.1 = run.2.1) := by
  decide +kernel

theorem lowerChar_of_lt {c : Char} (h : c.toNat < 0x80) : lowerChar c = [c.toLower] := by
  have hlower := toNat_toLower c
  rw [lowerChar, if_neg (by omega), capitalRuns_eq_cons, List.find?_cons]
  by_cases hcapital : 0x41 ≤ c.toNat ∧ c.toNat ≤ 0x5a
  · have hnat : 0x61 + (c.toNat - 0x41) = c.toLower.toNat := by
      rw [hlower, if_pos hcapital]
      omega
    simp only [hcapital, decide_true, Bool.and_self, Nat.mod_one, hnat, Char.ofNat_toNat]
  · have hhead : (decide (0x41 ≤ c.toNat) && decide (c.toNat ≤ 0x5a)) = false := by
      simpa using hcapital
    have hsame : c = c.toLower := by
      rw [← Char.ofNat_toNat c.toLower, hlower, if_neg hcapital, Char.ofNat_toNat]
    simp only [hhead, Bool.false_and, ← hsame]
    generalize hfind : List.find? _ capitalRuns.tail = found
    cases found with
    | none => rfl
    | some run =>
      have hfirst := (beyond_of_mem_tail run (List.mem_of_find?_eq_some hfind)).1
      have hrange := List.find?_some hfind
      simp only [Bool.and_eq_true, decide_eq_true_eq] at hrange
      omega

/-! ### Beyond ASCII -/

theorem not_isPlainSmall_ofNat {n : Nat} (h : 0x80 ≤ n ∨ n = 0x6b) :
    ¬ IsPlainSmall (Char.ofNat n) := by
  obtain h | rfl := h
  · by_cases hvalid : n.isValidChar
    · rw [Char.ofNat, dif_pos hvalid]
      intro hsmall
      have hle : n ≤ 0x7a := hsmall.2.1
      omega
    · rw [Char.ofNat, dif_neg hvalid]
      decide
  · decide

theorem exists_mem_lowerAt {c : Char} (h : 0x80 ≤ c.toNat) (before rest : List Char) :
    ∃ d ∈ lowerAt before c rest, ¬ IsPlainSmall d := by
  unfold lowerAt
  split
  · refine ⟨_, List.mem_singleton_self _, not_isPlainSmall_ofNat (.inl ?_)⟩
    split <;> decide
  · unfold lowerChar
    split
    · exact ⟨Char.ofNat 0x307, by simp, by decide⟩
    · split
      · rename_i first last step lower hfind
        have hmem := List.mem_of_find?_eq_some hfind
        have hrange := List.find?_some hfind
        simp only [Bool.and_eq_true, decide_eq_true_eq] at hrange
        rw [capitalRuns_eq_cons] at hmem
        refine ⟨_, List.mem_singleton_self _, not_isPlainSmall_ofNat ?_⟩
        obtain hhead | htail := List.mem_cons.mp hmem
        · cases hhead
          omega
        · have hbeyond := (beyond_of_mem_tail _ htail).2
          dsimp only at hbeyond
          omega
      · refine ⟨c, List.mem_singleton_self c, fun hsmall => ?_⟩
        have := hsmall.2.1
        omega

theorem lowerAfter_of_lt (before : List Char) {s : List Char} (h : ∀ c ∈ s, c.toNat < 0x80) :
    lowerAfter before s = s.map Char.toLower := by
  induction s generalizing before with
  | nil => rfl
  | cons c rest ih =>
    have hc := h c List.mem_cons_self
    have hat : lowerAt before c rest = [c.toLower] := by
      rw [lowerAt, if_neg (by omega), lowerChar_of_lt hc]
    rw [lowerAfter_cons, hat, ih _ fun d hd => h d (List.mem_cons_of_mem c hd)]
    rfl

theorem exists_mem_lowerAfter (before : List Char) {s : List Char} {c : Char} (hc : c ∈ s)
    (h : 0x80 ≤ c.toNat) : ∃ d ∈ lowerAfter before s, ¬ IsPlainSmall d := by
  induction s generalizing before with
  | nil => contradiction
  | cons first rest ih =>
    rw [lowerAfter_cons]
    obtain rfl | hc := List.mem_cons.mp hc
    · obtain ⟨d, hd, hsmall⟩ := exists_mem_lowerAt h before rest
      exact ⟨d, List.mem_append_left _ hd, hsmall⟩
    · obtain ⟨d, hd, hsmall⟩ := ih (first :: before) hc
      exact ⟨d, List.mem_append_right _ hd, hsmall⟩

/-- A text has a word of the alphabet without `k` as its lower case when it is that word in capital
or small letters. -/
theorem lower_eq_iff {word : List Char} (hword : ∀ c ∈ word, IsPlainSmall c) (s : List Char) :
    lower s = word ↔ s.map Char.toLower = word := by
  by_cases hs : ∀ c ∈ s, c.toNat < 0x80
  · rw [lower, lowerAfter_of_lt [] hs]
  · simp only [Classical.not_forall, Nat.not_lt] at hs
    obtain ⟨c, hc, hlarge⟩ := hs
    constructor
    · intro h
      obtain ⟨d, hd, hsmall⟩ := exists_mem_lowerAfter [] hc hlarge
      exact absurd (hword d (h ▸ hd)) hsmall
    · intro h
      have hmem : c.toLower ∈ word := h ▸ List.mem_map_of_mem hc
      have hle := (hword _ hmem).2.1
      rw [toNat_toLower, if_neg (by omega)] at hle
      omega

end BoardDiagram.Text
