import BoardDiagram.Proofs.Numerals
import BoardDiagram.Proofs.Text

/-! The texts that are read as integers: an optional sign, and groups of digits joined by
underscores.  A text that starts with more digits than can be read is reported for that, whatever
follows, and every other text for being no integer. -/

namespace BoardDiagram.Numeral

/-- What may stand before the digits of an integer. -/
inductive Sign where
  | none
  | plus
  | minus

namespace Sign

def text : Sign → List Char
  | .none => []
  | .plus => ['+']
  | .minus => ['-']

def apply : Sign → Nat → Int
  | .minus, n => -n
  | _, n => n

end Sign

/-- Groups of decimal digits of any script. -/
structure AreGroups (groups : List (List Char)) : Prop where
  ne_nil : groups ≠ []
  group_ne_nil : ∀ group ∈ groups, group ≠ []
  digits : ∀ group ∈ groups, ∀ c ∈ group, Text.isDecimalDigit c = true

/-- Groups of digits with single underscores between them. -/
def joined (groups : List (List Char)) : List Char :=
  ['_'].intercalate groups

/-- `s` is a numeral for `n`, with no more digits than can be read. -/
def IsInteger (s : List Char) (n : Int) : Prop :=
  ∃ sign groups, AreGroups groups ∧ s = Sign.text sign ++ joined groups ∧
    groups.flatten.length ≤ digitLimit ∧ n = sign.apply (value groups.flatten)

/-- `s` starts with a numeral of `count` digits, more than can be read. -/
def IsTooLong (s : List Char) (count : Nat) : Prop :=
  ∃ sign groups rest, AreGroups groups ∧ s = Sign.text sign ++ (joined groups ++ rest) ∧
    (∀ c ∈ rest.head?, isDigitOrMark c = false) ∧
    count = groups.flatten.length ∧ digitLimit < count

/-- Why a text is not read as an integer. -/
inductive IsNoInteger (s : List Char) : Fault → Prop
  | tooLong {count : Nat} : IsTooLong s count → IsNoInteger s (.longNumeral count)
  | other : (∀ n, ¬ IsInteger s n) → (∀ count, ¬ IsTooLong s count) →
      IsNoInteger s (.notAnInteger s)

/-! ### Groups of digits -/

theorem isDecimalDigit_underscore : Text.isDecimalDigit '_' = false := by
  decide +kernel

theorem AreGroups.underscore_not_mem {groups : List (List Char)} (h : AreGroups groups) :
    ∀ group ∈ groups, '_' ∉ group := by
  intro group hgroup hmem
  have hdigit := h.digits group hgroup '_' hmem
  rw [isDecimalDigit_underscore] at hdigit
  contradiction

theorem AreGroups.isDigitOrMark {groups : List (List Char)} (h : AreGroups groups) :
    ∀ c ∈ joined groups, isDigitOrMark c = true := by
  intro c hc
  obtain rfl | ⟨group, hgroup, hc⟩ := Text.mem_intercalate hc
  · decide +kernel
  · rw [Numeral.isDigitOrMark, h.digits group hgroup c hc, Bool.true_or]

theorem AreGroups.split {groups : List (List Char)} (h : AreGroups groups) :
    (joined groups).splitOn '_' = groups :=
  List.splitOn_intercalate '_' h.underscore_not_mem h.ne_nil

theorem AreGroups.any_isEmpty {groups : List (List Char)} (h : AreGroups groups) :
    groups.any List.isEmpty = false := by
  rw [List.any_eq_false]
  intro group hgroup
  simpa using h.group_ne_nil group hgroup

/-- Digits and underscores are joined groups unless two underscores meet or one stands at an end. -/
theorem areGroups_splitOn {s : List Char} (hs : ∀ c ∈ s, isDigitOrMark c = true)
    (h : (s.splitOn '_').any List.isEmpty = false) : AreGroups (s.splitOn '_') := by
  rw [List.any_eq_false] at h
  refine ⟨List.splitOn_ne_nil '_' s, fun group hgroup => by simpa using h group hgroup, ?_⟩
  intro group hgroup c hc
  have hmem : c ∈ s ∧ c ≠ '_' := by
    have hflat : c ∈ (s.splitOn '_').flatten := List.mem_flatten.mpr ⟨group, hgroup, hc⟩
    rw [List.splitOn_eq_splitOnP, Text.flatten_splitOnP, List.mem_filter] at hflat
    simpa using hflat
  have hmark := hs c hmem.1
  rw [isDigitOrMark, Bool.or_eq_true, decide_eq_true_eq] at hmark
  exact hmark.resolve_right hmem.2

/-! ### Reading -/

section Reading

variable {groups : List (List Char)} {rest : List Char}

theorem readUnsigned_joined (h : AreGroups groups)
    (hrest : ∀ c ∈ rest.head?, isDigitOrMark c = false) (negative : Bool) (fault : Fault) :
    readUnsigned negative fault (joined groups ++ rest) =
      if digitLimit < groups.flatten.length then .error (.longNumeral groups.flatten.length)
      else if rest.isEmpty then
        .ok (if negative then -(value groups.flatten : Int) else value groups.flatten)
      else .error fault := by
  have htake : rest.takeWhile isDigitOrMark = [] ∧ rest.dropWhile isDigitOrMark = rest := by
    cases rest with
    | nil => exact ⟨rfl, rfl⟩
    | cons c rest =>
      have hc : ¬ isDigitOrMark c = true := Bool.eq_false_iff.mp (hrest c rfl)
      exact ⟨List.takeWhile_cons_of_neg hc, List.dropWhile_cons_of_neg hc⟩
  unfold readUnsigned read
  rw [List.takeWhile_append_of_pos h.isDigitOrMark, List.dropWhile_append_of_pos h.isDigitOrMark,
    htake.1, htake.2, List.append_nil, h.split]
  dsimp only
  rw [h.any_isEmpty, if_neg Bool.false_ne_true]
  split
  · rfl
  · rfl

/-- Without groups of digits at its start a text is refused. -/
theorem exists_joined_or_readUnsigned (s : List Char) :
    (∃ groups rest, AreGroups groups ∧ s = joined groups ++ rest ∧
      ∀ c ∈ rest.head?, isDigitOrMark c = false) ∨
    ∀ negative fault, readUnsigned negative fault s = .error fault := by
  cases h : ((s.takeWhile isDigitOrMark).splitOn '_').any List.isEmpty with
  | true =>
    refine .inr fun negative fault => ?_
    unfold readUnsigned
    dsimp only
    rw [if_pos h]
  | false =>
    have hmarks : ∀ c ∈ s.takeWhile isDigitOrMark, isDigitOrMark c = true := fun c hc =>
      List.all_eq_true.mp List.all_takeWhile c hc
    refine .inl ⟨_, s.dropWhile isDigitOrMark, areGroups_splitOn hmarks h, ?_, fun c hc => ?_⟩
    · rw [joined, List.intercalate_splitOn, List.takeWhile_append_dropWhile]
    · have hhead := List.head?_dropWhile_not isDigitOrMark s
      rw [Option.mem_def.mp hc] at hhead
      exact hhead

/-- A sign in front of what does not start with one. -/
theorem readInteger_sign (sign : Sign) {s : List Char}
    (h : ∀ c ∈ s.head?, c ≠ '-' ∧ c ≠ '+') : readInteger (sign.text ++ s) =
      readUnsigned (match sign with | .minus => true | _ => false)
        (.notAnInteger (sign.text ++ s)) s := by
  cases sign with
  | minus => rfl
  | plus => rfl
  | none =>
    rw [Sign.text, List.nil_append]
    unfold readInteger
    split
    · exact absurd rfl (h '-' rfl).1
    · exact absurd rfl (h '+' rfl).2
    · rfl

/-- A numeral without a sign starts with a digit. -/
theorem AreGroups.head_ne_sign (h : AreGroups groups) (rest : List Char) :
    ∀ c ∈ (joined groups ++ rest).head?, c ≠ '-' ∧ c ≠ '+' := by
  obtain ⟨group, others, rfl⟩ := List.exists_cons_of_ne_nil h.ne_nil
  obtain ⟨first, digits, rfl⟩ :=
    List.exists_cons_of_ne_nil (h.group_ne_nil group List.mem_cons_self)
  have hdigit : Text.isDecimalDigit first = true :=
    h.digits _ List.mem_cons_self first List.mem_cons_self
  have hhead : (joined ((first :: digits) :: others) ++ rest).head? = some first := by
    cases others <;> rfl
  rintro c hc
  obtain rfl : first = c := Option.some.inj (hhead.symm.trans hc)
  constructor
  · rintro rfl
    exact absurd hdigit (by decide +kernel)
  · rintro rfl
    exact absurd hdigit (by decide +kernel)

theorem readInteger_joined (h : AreGroups groups)
    (hrest : ∀ c ∈ rest.head?, isDigitOrMark c = false) (sign : Sign) :
    readInteger (sign.text ++ (joined groups ++ rest)) =
      if digitLimit < groups.flatten.length then .error (.longNumeral groups.flatten.length)
      else if rest.isEmpty then .ok (sign.apply (value groups.flatten))
      else .error (.notAnInteger (sign.text ++ (joined groups ++ rest))) := by
  rw [readInteger_sign sign (h.head_ne_sign rest), readUnsigned_joined h hrest]
  cases sign <;> rfl

end Reading

variable {s : List Char}

theorem readInteger_of_isInteger {n : Int} (h : IsInteger s n) : readInteger s = .ok n := by
  obtain ⟨sign, groups, hgroups, rfl, hlength, rfl⟩ := h
  have hrest : ∀ c ∈ ([] : List Char).head?, isDigitOrMark c = false := nofun
  have hread := readInteger_joined hgroups hrest sign
  rw [List.append_nil, if_neg (Nat.not_lt.mpr hlength)] at hread
  exact hread

theorem readInteger_of_isTooLong {count : Nat} (h : IsTooLong s count) :
    readInteger s = .error (.longNumeral count) := by
  obtain ⟨sign, groups, rest, hgroups, rfl, hrest, rfl, hlong⟩ := h
  rw [readInteger_joined hgroups hrest, if_pos hlong]

/-- Behind its sign a text is read without one. -/
theorem exists_sign (s : List Char) : ∃ sign body, s = Sign.text sign ++ body ∧
    ∀ fault, (∀ negative, readUnsigned negative (.notAnInteger s) body = .error fault) →
      readInteger s = .error fault := by
  unfold readInteger
  split
  · exact ⟨.minus, _, rfl, fun fault h => h true⟩
  · exact ⟨.plus, _, rfl, fun fault h => h false⟩
  · exact ⟨.none, s, rfl, fun fault h => h false⟩

/-- A text is an integer, has too many digits, or is reported for being no integer. -/
theorem isInteger_or_isTooLong_or (s : List Char) : (∃ n, IsInteger s n) ∨
    (∃ count, IsTooLong s count) ∨ readInteger s = .error (.notAnInteger s) := by
  obtain ⟨sign, body, hs, hrefused⟩ := exists_sign s
  obtain ⟨groups, rest, hgroups, rfl, hrest⟩ | hnone := exists_joined_or_readUnsigned body
  · by_cases hlong : digitLimit < groups.flatten.length
    · exact .inr (.inl ⟨_, sign, groups, rest, hgroups, hs, hrest, rfl, hlong⟩)
    · cases rest with
      | nil =>
        rw [List.append_nil] at hs
        exact .inl ⟨_, sign, groups, hgroups, hs, Nat.not_lt.mp hlong, rfl⟩
      | cons c rest =>
        refine .inr (.inr ?_)
        rw [hs, readInteger_joined hgroups hrest, if_neg hlong]
        rfl
  · exact .inr (.inr (hrefused _ fun negative => hnone negative _))

theorem readInteger_eq_ok {n : Int} : readInteger s = .ok n ↔ IsInteger s n := by
  refine ⟨fun h => ?_, readInteger_of_isInteger⟩
  obtain ⟨m, hm⟩ | ⟨count, hcount⟩ | hother := isInteger_or_isTooLong_or s
  · rw [readInteger_of_isInteger hm] at h
    cases h
    exact hm
  · rw [readInteger_of_isTooLong hcount] at h
    contradiction
  · rw [hother] at h
    contradiction

theorem readInteger_eq_error {fault : Fault} :
    readInteger s = .error fault ↔ IsNoInteger s fault := by
  constructor
  · intro h
    obtain ⟨m, hm⟩ | ⟨count, hcount⟩ | hother := isInteger_or_isTooLong_or s
    · rw [readInteger_of_isInteger hm] at h
      contradiction
    · rw [readInteger_of_isTooLong hcount] at h
      cases h
      exact .tooLong hcount
    · have hread := hother
      rw [h] at hread
      cases hread
      refine .other (fun n hn => ?_) fun count hcount => ?_
      · rw [readInteger_of_isInteger hn] at hother
        contradiction
      · rw [readInteger_of_isTooLong hcount] at hother
        cases hother
  · rintro (hcount | ⟨hinteger, hlong⟩)
    · exact readInteger_of_isTooLong hcount
    · obtain ⟨m, hm⟩ | ⟨count, hcount⟩ | hother := isInteger_or_isTooLong_or s
      · exact absurd hm (hinteger m)
      · exact absurd hcount (hlong count)
      · exact hother

/-- A numeral holds signs, underscores and digits. -/
theorem mem_of_isInteger {n : Int} (h : IsInteger s n) {c : Char} (hc : c ∈ s) :
    c ∈ ['+', '-', '_'] ∨ Text.isDecimalDigit c = true := by
  obtain ⟨sign, groups, hgroups, rfl, -⟩ := h
  obtain hsign | hjoined := List.mem_append.mp hc
  · cases sign <;> simp_all [Sign.text]
  · have hmark := hgroups.isDigitOrMark c hjoined
    rw [isDigitOrMark, Bool.or_eq_true, decide_eq_true_eq] at hmark
    obtain hdigit | rfl := hmark
    · exact .inr hdigit
    · exact .inl (by decide)

theorem isBlank_of_isDecimalDigit {c : Char} (h : Text.isDecimalDigit c = true) :
    Text.isBlank c = false := by
  have hall : ∀ first ∈ Text.zeros, ∀ k < 10, Text.isBlank (Char.ofNat (first + k)) = false := by
    decide +kernel
  rw [Text.isDecimalDigit, Text.digitValue?, Option.isSome_map] at h
  obtain ⟨first, hfirst⟩ := Option.isSome_iff_exists.mp h
  have hrange := List.find?_some hfirst
  simp only [Bool.and_eq_true, decide_eq_true_eq] at hrange
  have hc := hall first (List.mem_of_find?_eq_some hfirst) (c.toNat - first) (by omega)
  rwa [show first + (c.toNat - first) = c.toNat by omega, Char.ofNat_toNat] at hc

theorem solid_of_isInteger {n : Int} (h : IsInteger s n) : ∀ c ∈ s, Text.isBlank c = false := by
  intro c hc
  obtain hmark | hdigit := mem_of_isInteger h hc
  · simp only [List.mem_cons, List.not_mem_nil, or_false] at hmark
    obtain rfl | rfl | rfl := hmark <;> decide
  · exact isBlank_of_isDecimalDigit hdigit

/-- What is read can be written. -/
theorem natAbs_lt_bound {n : Int} (h : IsInteger s n) : n.natAbs < bound := by
  obtain ⟨sign, groups, -, -, hlength, rfl⟩ := h
  have hvalue := lt_bound _ (value_lt groups.flatten) hlength
  cases sign <;> simpa [Sign.apply] using hvalue

end BoardDiagram.Numeral
