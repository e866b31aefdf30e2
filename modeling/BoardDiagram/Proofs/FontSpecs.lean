import BoardDiagram.Font
import BoardDiagram.Proofs.Integers
import BoardDiagram.Proofs.LowerCase
import Mathlib.Data.List.Forall2

/-! Specifications of fonts, part by part.  A part that sets a measure replaces what earlier parts
set it to, and only what is left at the end has to be positive.  The first part that is neither
blank nor sets a measure decides the report. -/

namespace BoardDiagram.Font

open Text

/-- What a font has a size in. -/
inductive Measure where
  | height
  | width
  deriving DecidableEq

namespace Measure

def names : Measure → List (List Char)
  | .height => ["h".toList, "height".toList]
  | .width => ["w".toList, "width".toList]

/-- `name` is one of the names of a measure, in letters of any case. -/
def IsNamed (measure : Measure) (name : List Char) : Prop :=
  name.map Char.toLower ∈ measure.names

/-- The value of a measure that is not set. -/
def standard : Measure → Int
  | .height => 16
  | .width => 8

end Measure

/-- What a part of a specification sets, if anything.  White space may stand around the part, its
name and its value. -/
inductive Sets : List Char → Option (Measure × Int) → Prop
  | nothing {blank : List Char} : isBlankText blank = true → Sets blank none
  | value {a b c d name value : List Char} {measure : Measure} {n : Int} :
      isBlankText a = true → isBlankText b = true → isBlankText c = true → isBlankText d = true →
      measure.IsNamed name → Numeral.IsInteger value n →
      Sets ((a ++ name ++ b) ++ '=' :: (c ++ value ++ d)) (some (measure, n))

/-- Why a part of a specification is refused. -/
inductive IsRefused : List Char → Fault → Prop
  | noAssignment {part : List Char} : isBlankText part = false → '=' ∉ part →
      IsRefused part (.noAssignment (strip part))
  | unknownParameter {name value : List Char} : '=' ∉ name →
      (∀ measure : Measure, ¬ measure.IsNamed (strip name)) →
      IsRefused (name ++ '=' :: value) (.unknownParameter (lower (strip name)))
  | noInteger {name value : List Char} {measure : Measure} {fault : Fault} : '=' ∉ name →
      measure.IsNamed (strip name) → Numeral.IsNoInteger (strip value) fault →
      IsRefused (name ++ '=' :: value) fault

/-- The values that a measure is set to, in order. -/
def valuesOf (measure : Measure) (settings : List (Option (Measure × Int))) : List Int :=
  settings.filterMap fun setting =>
    setting.bind fun pair => if pair.1 = measure then some pair.2 else none

/-- The last value that a measure is set to, or the standard one. -/
def lastValue (measure : Measure) (settings : List (Option (Measure × Int))) : Int :=
  (valuesOf measure settings).getLast?.getD measure.standard

/-- The outcome is the font of a height and a width if both are positive, and else the report that
they are not. -/
def IsFontOf (height width : Int) : Except Fault Font → Prop
  | .ok font => (0 < height ∧ 0 < width) ∧ font.height = height ∧ font.width = width
  | .error fault => ¬ (0 < height ∧ 0 < width) ∧ fault = .fontNotPositive height width

/-! ### Names -/

theorem Measure.isPlainSmall_of_mem_names (measure : Measure) :
    ∀ name ∈ measure.names, ∀ c ∈ name, IsPlainSmall c := by
  have hall : (measure.names.all fun name => name.all fun c => decide (IsPlainSmall c)) = true := by
    cases measure <;> decide
  simp only [List.all_eq_true, decide_eq_true_eq] at hall
  exact hall

theorem Measure.isNamed_iff (measure : Measure) (name : List Char) :
    measure.IsNamed name ↔ lower name ∈ measure.names := by
  constructor
  · intro h
    rwa [(lower_eq_iff (measure.isPlainSmall_of_mem_names _ h) name).mpr rfl]
  · intro h
    rw [IsNamed, (lower_eq_iff (measure.isPlainSmall_of_mem_names _ h) name).mp rfl]
    exact h

theorem Measure.mem_names_height {name : List Char} : name ∈ Measure.height.names ↔
    (name = "h".toList || name = "height".toList) = true := by
  rw [Bool.or_eq_true, decide_eq_true_eq, decide_eq_true_eq]
  exact List.mem_pair

theorem Measure.mem_names_width {name : List Char} : name ∈ Measure.width.names ↔
    (name = "w".toList || name = "width".toList) = true := by
  rw [Bool.or_eq_true, decide_eq_true_eq, decide_eq_true_eq]
  exact List.mem_pair

theorem Measure.not_mem_names_height : ∀ name ∈ Measure.width.names,
    name ∉ Measure.height.names := by
  decide

/-- A name holds letters only. -/
theorem Measure.IsNamed.toLower_mem {measure : Measure} {name : List Char}
    (h : measure.IsNamed name) {c : Char} (hc : c ∈ name) : IsPlainSmall c.toLower :=
  measure.isPlainSmall_of_mem_names _ h _ (List.mem_map_of_mem hc)

theorem not_isBlank_of_toLower {c : Char} (h : IsPlainSmall c.toLower) : isBlank c = false := by
  obtain ⟨hlow, hhigh, -⟩ := h
  have hlower := toNat_toLower c
  simp only [isBlank, Bool.or_eq_false_iff, Bool.and_eq_false_iff, decide_eq_false_iff_not]
  split at hlower <;> omega

/-! ### One part -/

/-- Trimming takes the white space away that stands around a text. -/
theorem strip_surrounded {before s after : List Char} (h : ∀ c ∈ s, isBlank c = false)
    (hbefore : isBlankText before = true) (hafter : isBlankText after = true) :
    strip (before ++ s ++ after) = s := by
  rw [strip_append_blank hafter, strip_blank_append hbefore, strip, trimStart_solid h,
    trimEnd_solid h]

/-- A text is what trimming leaves of it, with white space around that. -/
theorem exists_eq_surrounded (s : List Char) : ∃ before after, isBlankText before = true ∧
    isBlankText after = true ∧ s = before ++ strip s ++ after := by
  obtain ⟨before, hbefore, hs⟩ := exists_eq_append_trimStart s
  obtain ⟨after, hafter, htrim⟩ := exists_eq_trimEnd_append (trimStart s)
  refine ⟨before, after, hbefore, hafter, ?_⟩
  rw [strip, List.append_assoc, ← htrim]
  exact hs

theorem strip_assignment (name value : List Char) :
    strip (name ++ '=' :: value) = trimStart name ++ '=' :: trimEnd value := by
  have hsign : ∀ c ∈ ['='], isBlank c = false := List.forall_mem_singleton.mpr (by decide)
  have hend : trimEnd ('=' :: value) = '=' :: trimEnd value := trimEnd_solid_append hsign value
  have hsolid : ∃ c ∈ '=' :: value, isBlank c = false := ⟨'=', List.mem_cons_self, by decide⟩
  by_cases hname : isBlankText name = true
  · rw [strip, trimStart_blank_append hname, trimStart_eq_nil hname]
    exact hend
  · rw [strip, trimStart_append _ (exists_solid (Bool.eq_false_iff.mpr hname)),
      trimEnd_append _ hsolid, hend]

/-- A part is taken apart at its first sign of equality. -/
theorem assign_assignment (size : Size) {name : List Char} (value : List Char) (h : '=' ∉ name) :
    size.assign (name ++ '=' :: value) =
      if lower (strip name) ∈ Measure.height.names then
        (Numeral.readInteger (strip value)).map fun height => { size with height }
      else if lower (strip name) ∈ Measure.width.names then
        (Numeral.readInteger (strip value)).map fun width => { size with width }
      else .error (.unknownParameter (lower (strip name))) := by
  have hname : ∀ c ∈ trimStart name, (decide (c ≠ '=')) = true := by
    intro c hc
    have hmem := mem_of_mem_trimStart hc
    exact decide_eq_true fun heq => h (heq ▸ hmem)
  have htake : (trimStart name ++ '=' :: trimEnd value).takeWhile (fun c => decide (c ≠ '=')) =
      trimStart name := by
    rw [List.takeWhile_append_of_pos hname, List.takeWhile_cons_of_neg (by decide),
      List.append_nil]
  have hdrop : (trimStart name ++ '=' :: trimEnd value).dropWhile (fun c => decide (c ≠ '=')) =
      '=' :: trimEnd value := by
    rw [List.dropWhile_append_of_pos hname, List.dropWhile_cons_of_neg (by decide)]
  have hempty : (trimStart name ++ '=' :: trimEnd value).isEmpty = false := by simp
  have hsign : (trimStart name ++ '=' :: trimEnd value).contains '=' = true := by simp
  unfold Size.assign
  rw [strip_assignment]
  dsimp only
  rw [hempty, hsign, htake, hdrop, List.drop_one, List.tail_cons, strip_trimStart, strip_trimEnd]
  simp only [Measure.mem_names_height, Measure.mem_names_width]
  rfl

/-- The size of a measure. -/
def Size.get (size : Size) : Measure → Int
  | .height => size.height
  | .width => size.width

/-- The size after a setting. -/
def Size.set (size : Size) : Option (Measure × Int) → Size
  | none => size
  | some (.height, height) => { size with height }
  | some (.width, width) => { size with width }

theorem Size.get_set (size : Size) (pair : Measure × Int) (measure : Measure) :
    (size.set (some pair)).get measure = if pair.1 = measure then pair.2 else size.get measure := by
  obtain ⟨set, n⟩ := pair
  cases set <;> cases measure <;> rfl

theorem assign_of_isNamed (size : Size) {name : List Char} (value : List Char) {measure : Measure}
    (hsign : '=' ∉ name) (hname : measure.IsNamed (strip name)) :
    size.assign (name ++ '=' :: value) =
      (Numeral.readInteger (strip value)).map fun n => size.set (some (measure, n)) := by
  rw [assign_assignment size value hsign]
  have hlower := (measure.isNamed_iff (strip name)).mp hname
  cases measure with
  | height => exact if_pos hlower
  | width =>
    rw [if_neg (Measure.not_mem_names_height _ hlower), if_pos hlower]
    rfl

theorem assign_of_not_isNamed (size : Size) {name : List Char} (value : List Char)
    (hsign : '=' ∉ name) (hname : ∀ measure : Measure, ¬ measure.IsNamed (strip name)) :
    size.assign (name ++ '=' :: value) = .error (.unknownParameter (lower (strip name))) := by
  have hheight := hname .height
  have hwidth := hname .width
  rw [Measure.isNamed_iff] at hheight hwidth
  rw [assign_assignment size value hsign, if_neg hheight, if_neg hwidth]

theorem Measure.IsNamed.solid {measure : Measure} {name : List Char} (h : measure.IsNamed name) :
    ∀ c ∈ name, isBlank c = false :=
  fun _ hc => not_isBlank_of_toLower (h.toLower_mem hc)

theorem Measure.IsNamed.not_mem {measure : Measure} {name : List Char} (h : measure.IsNamed name)
    {c : Char} (hc : ¬ IsPlainSmall c.toLower) : c ∉ name :=
  fun hmem => hc (h.toLower_mem hmem)

theorem not_mem_of_isBlankText {blank : List Char} (h : isBlankText blank = true) {c : Char}
    (hc : isBlank c = false) : c ∉ blank := by
  intro hmem
  rw [List.all_eq_true.mp h c hmem] at hc
  contradiction

/-- One part sets what it says. -/
theorem assign_of_sets (size : Size) {part : List Char} {setting : Option (Measure × Int)}
    (h : Sets part setting) : size.assign part = .ok (size.set setting) := by
  cases h with
  | nothing hblank =>
    unfold Size.assign
    rw [strip_eq_nil hblank]
    rfl
  | @value a b c d name value measure n ha hb hc hd hname hvalue =>
    have hsign : '=' ∉ a ++ name ++ b := by
      have hblank : isBlank '=' = false := by decide
      have hin := hname.not_mem (c := '=') (by decide)
      simp [hin, not_mem_of_isBlankText ha hblank, not_mem_of_isBlankText hb hblank]
    have hstrip := strip_surrounded hname.solid ha hb
    rw [assign_of_isNamed size _ hsign (hstrip.symm ▸ hname),
      strip_surrounded (Numeral.solid_of_isInteger hvalue) hc hd,
      Numeral.readInteger_of_isInteger hvalue]
    rfl

theorem assign_of_isRefused (size : Size) {part : List Char} {fault : Fault}
    (h : IsRefused part fault) : size.assign part = .error fault := by
  cases h with
  | noAssignment hblank hsign =>
    have hstrip : (strip part).contains '=' = false := by
      rw [List.contains_eq_mem, decide_eq_false_iff_not]
      exact fun hmem => hsign (mem_of_mem_strip hmem)
    unfold Size.assign
    dsimp only
    rw [← isBlankText_eq, hblank, hstrip]
    rfl
  | unknownParameter hsign hname => exact assign_of_not_isNamed size _ hsign hname
  | noInteger hsign hname hvalue =>
    rw [assign_of_isNamed size _ hsign hname, Numeral.readInteger_eq_error.mpr hvalue]
    rfl

/-- Every part sets something or nothing, or is refused. -/
theorem exists_sets_or_isRefused (part : List Char) :
    (∃ setting, Sets part setting) ∨ ∃ fault, IsRefused part fault := by
  cases hblank : isBlankText part with
  | true => exact .inl ⟨none, .nothing hblank⟩
  | false =>
    by_cases hsign : '=' ∈ part
    · obtain ⟨name, value, rfl, hname⟩ := List.eq_append_cons_of_mem hsign
      by_cases hnamed : ∃ measure : Measure, measure.IsNamed (strip name)
      · obtain ⟨measure, hnamed⟩ := hnamed
        cases hread : Numeral.readInteger (strip value) with
        | ok n =>
          obtain ⟨a, b, ha, hb, hab⟩ := exists_eq_surrounded name
          obtain ⟨c, d, hc, hd, hcd⟩ := exists_eq_surrounded value
          rw [hab, hcd]
          exact .inl ⟨_, .value ha hb hc hd hnamed (Numeral.readInteger_eq_ok.mp hread)⟩
        | error fault =>
          exact .inr ⟨fault, .noInteger hname hnamed (Numeral.readInteger_eq_error.mp hread)⟩
      · exact .inr ⟨_, .unknownParameter hname fun measure h => hnamed ⟨measure, h⟩⟩
    · exact .inr ⟨_, .noAssignment hblank hsign⟩

/-! ### All parts -/

theorem foldlM_assign_of_sets {parts : List (List Char)}
    {settings : List (Option (Measure × Int))} (h : List.Forall₂ Sets parts settings)
    (size : Size) : parts.foldlM Size.assign size = .ok (settings.foldl Size.set size) := by
  induction h generalizing size with
  | nil => rfl
  | cons hpart _ ih =>
    rw [List.foldlM_cons, assign_of_sets size hpart]
    exact ih _

/-- The first part that is refused decides, whatever follows. -/
theorem foldlM_assign_of_isRefused {before : List (List Char)}
    (hbefore : ∀ part ∈ before, ∃ setting, Sets part setting) {part : List Char} {fault : Fault}
    (h : IsRefused part fault) (after : List (List Char)) (size : Size) :
    (before ++ part :: after).foldlM Size.assign size = .error fault := by
  induction before generalizing size with
  | nil =>
    rw [List.nil_append, List.foldlM_cons, assign_of_isRefused size h]
    rfl
  | cons first before ih =>
    obtain ⟨setting, hsets⟩ := hbefore first List.mem_cons_self
    rw [List.cons_append, List.foldlM_cons, assign_of_sets size hsets]
    exact ih (fun p hp => hbefore p (List.mem_cons_of_mem first hp)) _

theorem valuesOf_some (measure : Measure) (pair : Measure × Int)
    (settings : List (Option (Measure × Int))) : valuesOf measure (some pair :: settings) =
      if pair.1 = measure then pair.2 :: valuesOf measure settings
      else valuesOf measure settings := by
  by_cases h : pair.1 = measure <;> simp [valuesOf, h]

/-- After all settings a measure has the last value that it was set to. -/
theorem get_foldl_set (settings : List (Option (Measure × Int))) (size : Size)
    (measure : Measure) : (settings.foldl Size.set size).get measure =
      (valuesOf measure settings).getLast?.getD (size.get measure) := by
  induction settings generalizing size with
  | nil => rfl
  | cons setting settings ih =>
    rw [List.foldl_cons, ih]
    cases setting with
    | none => rfl
    | some pair =>
      rw [Size.get_set, valuesOf_some]
      split
      · rw [List.getLast?_cons, Option.getD_some]
      · rfl

theorem exists_first_isRefused (parts : List (List Char)) :
    (∃ settings, List.Forall₂ Sets parts settings) ∨
    ∃ before part after fault, parts = before ++ part :: after ∧
      (∀ p ∈ before, ∃ setting, Sets p setting) ∧ IsRefused part fault := by
  induction parts with
  | nil => exact .inl ⟨[], .nil⟩
  | cons part parts ih =>
    obtain ⟨setting, hsets⟩ | ⟨fault, hrefused⟩ := exists_sets_or_isRefused part
    · obtain ⟨settings, hrest⟩ | ⟨before, other, after, fault, rfl, hbefore, hrefused⟩ := ih
      · exact .inl ⟨setting :: settings, .cons hsets hrest⟩
      · refine .inr ⟨part :: before, other, after, fault, rfl, ?_, hrefused⟩
        exact List.forall_mem_cons.mpr ⟨⟨setting, hsets⟩, hbefore⟩
    · exact .inr ⟨[], part, parts, fault, rfl, fun p hp => absurd hp List.not_mem_nil, hrefused⟩

/-! ### Specifications -/

theorem comma_not_mem_of_sets {part : List Char} {setting : Option (Measure × Int)}
    (h : Sets part setting) : ',' ∉ part := by
  have hcomma : isBlank ',' = false := by decide
  cases h with
  | nothing hblank => exact not_mem_of_isBlankText hblank hcomma
  | value ha hb hc hd hname hvalue =>
    have hin := hname.not_mem (c := ',') (by decide)
    have hdigits : ',' ∉ _ := fun hmem => by
      have := Numeral.mem_of_isInteger hvalue hmem
      exact absurd this (by decide +kernel)
    simp [hin, hdigits, not_mem_of_isBlankText ha hcomma, not_mem_of_isBlankText hb hcomma,
      not_mem_of_isBlankText hc hcomma, not_mem_of_isBlankText hd hcomma]

theorem ofSpec_of_splitOn {spec : List Char} {settings : List (Option (Measure × Int))}
    (h : List.Forall₂ Sets (spec.splitOn ',') settings) :
    ofSpec spec = ofSize (lastValue .height settings) (lastValue .width settings) := by
  unfold ofSpec
  rw [foldlM_assign_of_sets h]
  show ofSize ((settings.foldl Size.set {}).get .height)
    ((settings.foldl Size.set {}).get .width) = _
  rw [get_foldl_set, get_foldl_set]
  rfl

theorem ofSpec_of_sets {parts : List (List Char)} {settings : List (Option (Measure × Int))}
    (h : List.Forall₂ Sets parts settings) : ofSpec ([','].intercalate parts) =
      ofSize (lastValue .height settings) (lastValue .width settings) := by
  by_cases hparts : parts = []
  · subst hparts
    cases h
    -- a text without parts is one blank part
    have hblank : List.Forall₂ Sets [[]] [none] := .cons (Sets.nothing rfl) .nil
    show ofSpec [] = ofSize (lastValue .height [none]) (lastValue .width [none])
    exact ofSpec_of_splitOn hblank
  · have hcomma : ∀ part ∈ parts, ',' ∉ part :=
      ((List.forall₂_and_left parts settings).mp
        (h.imp fun _ _ hsets => ⟨comma_not_mem_of_sets hsets, hsets⟩)).1
    apply ofSpec_of_splitOn
    rwa [List.splitOn_intercalate ',' hcomma hparts]

theorem natAbs_lastValue_lt {parts : List (List Char)}
    {settings : List (Option (Measure × Int))} (h : List.Forall₂ Sets parts settings)
    (measure : Measure) : (lastValue measure settings).natAbs < Numeral.bound := by
  have hvalues : ∀ n ∈ valuesOf measure settings, n.natAbs < Numeral.bound := by
    induction h with
    | nil => exact fun n hn => absurd hn List.not_mem_nil
    | cons hpart _ ih =>
      cases hpart with
      | nothing => exact ih
      | value _ _ _ _ _ hvalue =>
        rw [valuesOf_some]
        split
        · exact List.forall_mem_cons.mpr ⟨Numeral.natAbs_lt_bound hvalue, ih⟩
        · exact ih
  unfold lastValue
  cases hlast : (valuesOf measure settings).getLast? with
  | none =>
    rw [Option.getD_none]
    apply Numeral.lt_bound 2
    · cases measure <;> decide
    · decide
  | some n => exact hvalues n (List.mem_of_getLast? hlast)

theorem isFontOf_ofSize {height width : Int} (hheight : height.natAbs < Numeral.bound)
    (hwidth : width.natAbs < Numeral.bound) : IsFontOf height width (ofSize height width) := by
  unfold ofSize
  split
  · rename_i hpos
    have hheight := Int.toNat_of_nonneg (Int.le_of_lt hpos.1)
    have hwidth := Int.toNat_of_nonneg (Int.le_of_lt hpos.2)
    exact ⟨hpos, hheight, hwidth⟩
  · rename_i hpos
    have hh : Numeral.checkWritable height = .ok () := Numeral.checkWritable_eq_ok.mpr hheight
    have hw : Numeral.checkWritable width = .ok () := Numeral.checkWritable_eq_ok.mpr hwidth
    rw [hh, hw]
    exact ⟨hpos, rfl⟩

/-- The last value of each measure counts, and only that has to be positive; so parts that set
different measures can change places.  If some part can be refused, the first such part is, whatever
follows. -/
theorem ofSpec_last_wins :
    (∀ parts settings, List.Forall₂ Sets parts settings →
      IsFontOf (lastValue .height settings) (lastValue .width settings)
        (ofSpec ([','].intercalate parts))) ∧
    (∀ parts parts' settings settings', List.Forall₂ Sets parts settings →
      List.Forall₂ Sets parts' settings' →
      (∀ measure, valuesOf measure settings = valuesOf measure settings') →
      ofSpec ([','].intercalate parts) = ofSpec ([','].intercalate parts')) ∧
    (∀ (spec : List Char) before part after fault, spec.splitOn ',' = before ++ part :: after →
      (∀ p ∈ before, ∃ setting, Sets p setting) → IsRefused part fault →
      ofSpec spec = .error fault) ∧
    ∀ spec : List Char, (∃ settings, List.Forall₂ Sets (spec.splitOn ',') settings) ∨
      ∃ before part after fault, spec.splitOn ',' = before ++ part :: after ∧
        (∀ p ∈ before, ∃ setting, Sets p setting) ∧ IsRefused part fault := by
  refine ⟨fun parts settings h => ?_, fun parts parts' settings settings' h h' hvalues => ?_,
    fun spec before part after fault hspec hbefore hrefused => ?_,
    fun spec => exists_first_isRefused _⟩
  · rw [ofSpec_of_sets h]
    exact isFontOf_ofSize (natAbs_lastValue_lt h .height) (natAbs_lastValue_lt h .width)
  · rw [ofSpec_of_sets h, ofSpec_of_sets h']
    simp only [lastValue, hvalues]
  · unfold ofSpec
    rw [hspec, foldlM_assign_of_isRefused hbefore hrefused]
    rfl

/-- A height that is set twice, first to zero, on both sides of a width; the same with the width in
front; and a part that assigns nothing before one that sets a width of zero. -/
theorem ofSpec_last_wins_twice :
    let parts := [" H = 0 ".toList, [], "width=+1_2".toList, "height=\u0667".toList]
    let settings := [some (.height, 0), none, some (.width, 12), some (.height, 7)]
    let swapped := ["width=+1_2".toList, " H = 0 ".toList, "height=\u0667".toList]
    let settings' := [some (.width, 12), some (.height, 0), some (.height, 7)]
    (List.Forall₂ Sets parts settings ∧ IsFontOf 7 12 (ofSpec ([','].intercalate parts))) ∧
      (List.Forall₂ Sets swapped settings' ∧
        ofSpec ([','].intercalate parts) = ofSpec ([','].intercalate swapped)) ∧
      ofSpec "h=5, x ,w=0,y".toList = .error (.noAssignment ['x']) := by
  intro parts settings swapped settings'
  have hzero : Sets " H = 0 ".toList (some (.height, 0)) :=
    @Sets.value [' '] [' '] [' '] [' '] ['H'] ['0'] .height 0 rfl rfl rfl rfl
      (by unfold Measure.IsNamed; decide) (Numeral.readInteger_eq_ok.mp (by decide +kernel))
  have hwidth : Sets "width=+1_2".toList (some (.width, 12)) :=
    @Sets.value [] [] [] [] "width".toList "+1_2".toList .width 12 rfl rfl rfl rfl
      (by unfold Measure.IsNamed; decide) (Numeral.readInteger_eq_ok.mp (by decide +kernel))
  have hheight : Sets "height=\u0667".toList (some (.height, 7)) :=
    @Sets.value [] [] [] [] "height".toList "\u0667".toList .height 7 rfl rfl rfl rfl
      (by unfold Measure.IsNamed; decide) (Numeral.readInteger_eq_ok.mp (by decide +kernel))
  have hfive : Sets "h=5".toList (some (.height, 5)) :=
    @Sets.value [] [] [] [] ['h'] ['5'] .height 5 rfl rfl rfl rfl
      (by unfold Measure.IsNamed; decide) (Numeral.readInteger_eq_ok.mp (by decide +kernel))
  have hparts : List.Forall₂ Sets parts settings :=
    .cons hzero (.cons (.nothing rfl) (.cons hwidth (.cons hheight .nil)))
  have hswapped : List.Forall₂ Sets swapped settings' :=
    .cons hwidth (.cons hzero (.cons hheight .nil))
  have hvalues : ∀ measure, valuesOf measure settings = valuesOf measure settings' := by
    intro measure
    cases measure <;> decide
  have hrefused : IsRefused " x ".toList (.noAssignment ['x']) :=
    .noAssignment (by decide) (by decide)
  obtain ⟨hfont, hswap, hfirst, -⟩ := ofSpec_last_wins
  have hsame := hswap _ _ _ _ hparts hswapped hvalues
  refine ⟨⟨hparts, hfont parts settings hparts⟩, ⟨hswapped, hsame⟩, ?_⟩
  exact hfirst _ ["h=5".toList] " x ".toList ["w=0".toList, ['y']] _ (by decide +kernel)
    (List.forall_mem_singleton.mpr ⟨_, hfive⟩) hrefused

end BoardDiagram.Font
