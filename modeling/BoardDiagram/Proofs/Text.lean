import BoardDiagram.Text.Blank

/-! White space at the ends of a text and between its words: which characters trimming keeps, and
how words and lines come back from a text that joins them. -/

namespace BoardDiagram.Text

theorem mem_of_mem_trimStart {c : Char} {s : List Char} (h : c ∈ trimStart s) : c ∈ s :=
  (List.dropWhile_sublist isBlank).mem h

theorem mem_of_mem_trimEnd {c : Char} {s : List Char} (h : c ∈ trimEnd s) : c ∈ s := by
  rw [trimEnd, List.mem_reverse] at h
  exact List.mem_reverse.mp ((List.dropWhile_sublist isBlank).mem h)

theorem mem_of_mem_strip {c : Char} {s : List Char} (h : c ∈ strip s) : c ∈ s :=
  mem_of_mem_trimStart (mem_of_mem_trimEnd h)

theorem mem_trimStart {c : Char} {s : List Char} (hc : c ∈ s) (hb : isBlank c = false) :
    c ∈ trimStart s := by
  induction s with
  | nil => contradiction
  | cons d s ih =>
    rw [trimStart, List.dropWhile_cons]
    split
    · obtain rfl | hc := List.mem_cons.mp hc
      · simp_all
      · exact ih hc
    · exact hc

theorem mem_trimEnd {c : Char} {s : List Char} (hc : c ∈ s) (hb : isBlank c = false) :
    c ∈ trimEnd s :=
  List.mem_reverse.mpr (mem_trimStart (List.mem_reverse.mpr hc) hb)

theorem mem_strip {c : Char} {s : List Char} (hc : c ∈ s) (hb : isBlank c = false) :
    c ∈ strip s :=
  mem_trimEnd (mem_trimStart hc hb) hb

/-- What follows a character that is no white space is kept at the start. -/
theorem trimStart_append {a : List Char} (b : List Char) (h : ∃ c ∈ a, isBlank c = false) :
    trimStart (a ++ b) = trimStart a ++ b := by
  obtain ⟨c, hc, hb⟩ := h
  have hne : a.dropWhile isBlank ≠ [] := List.ne_nil_of_mem (mem_trimStart hc hb)
  rw [trimStart, trimStart, List.dropWhile_append, if_neg (by simpa using hne)]

/-- What precedes a character that is no white space is kept at the end. -/
theorem trimEnd_append (a : List Char) {b : List Char} (h : ∃ c ∈ b, isBlank c = false) :
    trimEnd (a ++ b) = a ++ trimEnd b := by
  obtain ⟨c, hc, hb⟩ := h
  have hrev := trimStart_append a.reverse ⟨c, List.mem_reverse.mpr hc, hb⟩
  rw [trimStart, trimStart] at hrev
  rw [trimEnd, trimEnd, List.reverse_append, hrev, List.reverse_append, List.reverse_reverse]

/-- Trimming keeps what lies between two characters that are no white space. -/
theorem strip_append_append {a c : List Char} (b : List Char) (ha : ∃ x ∈ a, isBlank x = false)
    (hc : ∃ x ∈ c, isBlank x = false) : strip (a ++ b ++ c) = trimStart a ++ b ++ trimEnd c := by
  rw [strip, List.append_assoc, trimStart_append _ ha, ← List.append_assoc, trimEnd_append _ hc]

/-- A text that is not blank has a character that is no white space. -/
theorem exists_solid {s : List Char} (h : isBlankText s = false) : ∃ c ∈ s, isBlank c = false := by
  obtain ⟨c, hc, hb⟩ := List.all_eq_false.mp h
  exact ⟨c, hc, Bool.eq_false_iff.mpr hb⟩

section Blank

variable {blank : List Char} (h : isBlankText blank = true)
include h

theorem trimStart_blank_append (s : List Char) : trimStart (blank ++ s) = trimStart s :=
  List.dropWhile_append_of_pos (List.all_eq_true.mp h)

theorem trimStart_eq_nil : trimStart blank = [] := by
  have htrim := trimStart_blank_append h []
  rwa [List.append_nil] at htrim

theorem trimEnd_append_blank (s : List Char) : trimEnd (s ++ blank) = trimEnd s := by
  have hrev : ∀ c ∈ blank.reverse, isBlank c = true := fun c hc =>
    List.all_eq_true.mp h c (List.mem_reverse.mp hc)
  rw [trimEnd, List.reverse_append, List.dropWhile_append_of_pos hrev, trimEnd]

theorem strip_blank_append (s : List Char) : strip (blank ++ s) = strip s := by
  rw [strip, trimStart_blank_append h, strip]

theorem strip_eq_nil : strip blank = [] := by
  have hstrip := strip_blank_append h []
  rwa [List.append_nil] at hstrip

theorem strip_append_blank (s : List Char) : strip (s ++ blank) = strip s := by
  by_cases hs : isBlankText s = true
  · rw [strip_blank_append hs, strip_eq_nil h, strip_eq_nil hs]
  · rw [strip, trimStart_append _ (exists_solid (Bool.eq_false_iff.mpr hs)),
      trimEnd_append_blank h, strip]

end Blank

theorem isBlankText_eq (s : List Char) : isBlankText s = (strip s).isEmpty := by
  cases hs : isBlankText s with
  | true => rw [strip_eq_nil hs, List.isEmpty_nil]
  | false =>
    obtain ⟨c, hc, hb⟩ := exists_solid hs
    exact (List.isEmpty_eq_false_iff.mpr (List.ne_nil_of_mem (mem_strip hc hb))).symm

theorem exists_eq_trimEnd_append (s : List Char) :
    ∃ blank, isBlankText blank = true ∧ s = trimEnd s ++ blank := by
  refine ⟨(s.reverse.takeWhile isBlank).reverse, ?_, ?_⟩
  · rw [isBlankText, List.all_reverse, List.all_takeWhile]
  · rw [trimEnd, ← List.reverse_append, List.takeWhile_append_dropWhile, List.reverse_reverse]

theorem exists_eq_append_trimStart (s : List Char) :
    ∃ blank, isBlankText blank = true ∧ s = blank ++ trimStart s :=
  ⟨s.takeWhile isBlank, List.all_takeWhile, List.takeWhile_append_dropWhile.symm⟩

theorem strip_trimEnd (s : List Char) : strip (trimEnd s) = strip s := by
  obtain ⟨blank, hblank, hs⟩ := exists_eq_trimEnd_append s
  rw [← strip_append_blank hblank (trimEnd s), ← hs]

theorem strip_eq_of_trimEnd_eq {a b : List Char} (h : trimEnd a = trimEnd b) : strip a = strip b := by
  rw [← strip_trimEnd a, h, strip_trimEnd]

theorem strip_trimStart (s : List Char) : strip (trimStart s) = strip s := by
  obtain ⟨blank, hblank, hs⟩ := exists_eq_append_trimStart s
  rw [← strip_blank_append hblank (trimStart s), ← hs]

theorem strip_strip (s : List Char) : strip (strip s) = strip s :=
  (strip_trimEnd (trimStart s)).trans (strip_trimStart s)

theorem isBlank_of_isDigit {c : Char} (h : c.isDigit = true) : isBlank c = false := by
  have hrange : 48 ≤ c.toNat ∧ c.toNat ≤ 57 := by
    simpa [Char.isDigit, UInt32.le_iff_toNat_le] using h
  simp only [isBlank, Bool.or_eq_false_iff, Bool.and_eq_false_iff, decide_eq_false_iff_not]
  omega

theorem trimStart_solid {a : List Char} (h : ∀ c ∈ a, isBlank c = false) : trimStart a = a := by
  cases a with
  | nil => rfl
  | cons c a =>
    have hc : ¬ isBlank c = true := by simp [h c List.mem_cons_self]
    rw [trimStart, List.dropWhile_cons_of_neg hc]

theorem trimEnd_solid {a : List Char} (h : ∀ c ∈ a, isBlank c = false) : trimEnd a = a := by
  have hreverse : trimStart a.reverse = a.reverse :=
    trimStart_solid fun c hc => h c (List.mem_reverse.mp hc)
  rw [trimStart] at hreverse
  rw [trimEnd, hreverse, List.reverse_reverse]

theorem trimEnd_solid_append {a : List Char} (h : ∀ c ∈ a, isBlank c = false) (b : List Char) :
    trimEnd (a ++ b) = a ++ trimEnd b := by
  by_cases hb : isBlankText b = true
  · have hnil : trimEnd b = [] := trimEnd_append_blank hb []
    rw [trimEnd_append_blank hb, trimEnd_solid h, hnil, List.append_nil]
  · exact trimEnd_append a (exists_solid (Bool.eq_false_iff.mpr hb))

theorem isBlank_of_head?_trimStart {s : List Char} {c : Char} (h : (trimStart s).head? = some c) :
    isBlank c = false := by
  have hhead := List.head?_dropWhile_not isBlank s
  rw [trimStart] at h
  rw [h] at hhead
  simpa using hhead

theorem isBlank_of_getLast?_trimEnd {s : List Char} {c : Char}
    (h : (trimEnd s).getLast? = some c) : isBlank c = false := by
  rw [trimEnd, List.getLast?_reverse] at h
  exact isBlank_of_head?_trimStart h

/-- Nothing is trimmed behind a last character that is no white space. -/
theorem trimEnd_of_getLast? {s : List Char} {c : Char} (h : s.getLast? = some c)
    (hc : isBlank c = false) : trimEnd s = s := by
  obtain ⟨front, rfl⟩ := List.getLast?_eq_some_iff.mp h
  have hsolid : ∀ d ∈ [c], isBlank d = false := List.forall_mem_singleton.mpr hc
  rw [trimEnd_append front ⟨c, List.mem_singleton_self c, hc⟩, trimEnd_solid hsolid]

theorem length_strip_le (s : List Char) : (strip s).length ≤ s.length := by
  have hstart : (trimStart s).length ≤ s.length := (List.dropWhile_sublist isBlank).length_le
  have hend : (strip s).length ≤ (trimStart s).length := by
    rw [strip, trimEnd, List.length_reverse]
    exact Nat.le_trans (List.dropWhile_sublist isBlank).length_le (Nat.le_of_eq List.length_reverse)
  omega

/-- White space that trimming keeps has other characters before and after it. -/
theorem exists_solid_around {s : List Char} {c : Char} (hb : isBlank c = true)
    (h : c ∈ strip s) : ∃ before after, s = before ++ c :: after ∧
      (∃ d ∈ before, isBlank d = false) ∧ ∃ d ∈ after, isBlank d = false := by
  obtain ⟨before, after, hs⟩ := List.append_of_mem h
  have hbefore : isBlankText before = false := by
    apply Bool.eq_false_iff.mpr
    intro hblank
    have hc : isBlankText [c] = true := by simp [isBlankText, hb]
    have hstrip : strip (before ++ c :: after) = strip after := by
      rw [strip_blank_append hblank]
      exact strip_blank_append hc after
    have hlength := length_strip_le after
    rw [← hstrip, ← hs, strip_strip, hs] at hlength
    rw [List.length_append, List.length_cons] at hlength
    omega
  have hafter : isBlankText after = false := by
    apply Bool.eq_false_iff.mpr
    intro hblank
    have hc : isBlankText (c :: after) = true := by simpa [isBlankText, hb] using hblank
    have hstrip : strip (before ++ c :: after) = strip before := strip_append_blank hc before
    have hlength := length_strip_le before
    rw [← hstrip, ← hs, strip_strip, hs] at hlength
    rw [List.length_append, List.length_cons] at hlength
    omega
  obtain ⟨front, -, hfront⟩ := exists_eq_append_trimStart s
  obtain ⟨back, -, hback⟩ := exists_eq_trimEnd_append (trimStart s)
  obtain ⟨d, hd, hdb⟩ := exists_solid hbefore
  obtain ⟨e, he, heb⟩ := exists_solid hafter
  refine ⟨front ++ before, after ++ back, ?_, ⟨d, by simp [hd], hdb⟩, e, by simp [he], heb⟩
  calc s = front ++ trimStart s := hfront
    _ = front ++ (strip s ++ back) := congrArg _ hback
    _ = front ++ before ++ c :: (after ++ back) := by
      rw [hs]
      simp only [List.append_assoc, List.cons_append]

/-! ### Words -/

theorem words_append_blank (a b : List Char) {c : Char} (h : isBlank c = true) :
    words (a ++ c :: b) = words a ++ words b := by
  rw [words, List.splitOnP_append_cons _ _ h, List.filter_append]
  rfl

theorem words_solid {w : List Char} (hne : w ≠ []) (h : ∀ c ∈ w, isBlank c = false) :
    words w = [w] := by
  rw [words, List.splitOnP_eq_singleton h]
  simp [hne]

/-- Taking a text apart at characters loses those and no others. -/
theorem flatten_splitOnP (p : Char → Bool) (s : List Char) :
    (s.splitOnP p).flatten = s.filter (!p ·) := by
  induction s with
  | nil => rfl
  | cons c s ih =>
    rw [List.splitOnP_cons_eq_if_modifyHead]
    split
    · rename_i hc
      rw [List.flatten_cons, List.nil_append, ih, List.filter_cons_of_neg (by simp [hc])]
    · rename_i hc
      obtain ⟨piece, pieces, hpieces⟩ := List.exists_cons_of_ne_nil (List.splitOnP_ne_nil p s)
      rw [List.filter_cons_of_pos (by simp [hc]), ← ih, hpieces]
      rfl

theorem flatten_words (s : List Char) : (words s).flatten = s.filter (!isBlank ·) := by
  rw [words, List.flatten_filter_not_isEmpty, flatten_splitOnP]

theorem mem_of_mem_words {s w : List Char} {c : Char} (hw : w ∈ words s) (hc : c ∈ w) :
    c ∈ s ∧ isBlank c = false := by
  have hmem : c ∈ (words s).flatten := List.mem_flatten.mpr ⟨w, hw, hc⟩
  rw [flatten_words, List.mem_filter] at hmem
  simpa using hmem

theorem exists_mem_words {s : List Char} {c : Char} (hc : c ∈ s) (hb : isBlank c = false) :
    ∃ w ∈ words s, c ∈ w := by
  have hmem : c ∈ (words s).flatten := by
    rw [flatten_words, List.mem_filter]
    exact ⟨hc, by rw [hb]; rfl⟩
  exact List.mem_flatten.mp hmem

theorem ne_nil_of_mem_words {s w : List Char} (hw : w ∈ words s) : w ≠ [] := by
  rw [words, List.mem_filter] at hw
  rintro rfl
  exact Bool.false_ne_true hw.2

theorem words_intercalate {ws : List (List Char)}
    (h : ∀ w ∈ ws, w ≠ [] ∧ ∀ c ∈ w, isBlank c = false) : words ([' '].intercalate ws) = ws := by
  induction ws with
  | nil => rfl
  | cons w ws ih =>
    have hw := h w List.mem_cons_self
    have ih := ih fun v hv => h v (List.mem_cons_of_mem w hv)
    cases ws with
    | nil => rw [List.intercalate_singleton, words_solid hw.1 hw.2]
    | cons v vs =>
      rw [List.intercalate_cons_cons, List.append_assoc, List.singleton_append,
        words_append_blank _ _ (by decide), words_solid hw.1 hw.2, ih, List.singleton_append]

theorem mem_intercalate {sep c : Char} {ws : List (List Char)} (h : c ∈ [sep].intercalate ws) :
    c = sep ∨ ∃ w ∈ ws, c ∈ w := by
  induction ws with
  | nil => simp at h
  | cons w ws ih =>
    cases ws with
    | nil => exact .inr ⟨w, List.mem_cons_self, by simpa using h⟩
    | cons v vs =>
      rw [List.intercalate_cons_cons, List.mem_append, List.mem_append, List.mem_singleton] at h
      obtain (hw | rfl) | hrest := h
      · exact .inr ⟨w, List.mem_cons_self, hw⟩
      · exact .inl rfl
      · obtain rfl | ⟨u, hu, hc⟩ := ih hrest
        · exact .inl rfl
        · exact .inr ⟨u, List.mem_cons_of_mem w hu, hc⟩

theorem mem_intercalate_of_mem {sep c : Char} {w : List Char} {ws : List (List Char)}
    (hw : w ∈ ws) (hc : c ∈ w) : c ∈ [sep].intercalate ws := by
  induction ws with
  | nil => simp at hw
  | cons v vs ih =>
    cases vs with
    | nil =>
      obtain rfl := List.mem_singleton.mp hw
      simpa using hc
    | cons u us =>
      rw [List.intercalate_cons_cons, List.mem_append, List.mem_append]
      obtain rfl | hw := List.mem_cons.mp hw
      · exact .inl (.inl hc)
      · exact .inr (ih hw)

theorem two_le_length_words {s : List Char} {c : Char} (hb : isBlank c = true)
    (h : c ∈ strip s) : 2 ≤ (words s).length := by
  obtain ⟨before, after, rfl, ⟨d, hd, hdb⟩, e, he, heb⟩ := exists_solid_around hb h
  obtain ⟨v, hv, -⟩ := exists_mem_words hd hdb
  obtain ⟨w, hw, -⟩ := exists_mem_words he heb
  have hfront := List.length_pos_of_mem hv
  have hback := List.length_pos_of_mem hw
  rw [words_append_blank _ _ hb, List.length_append]
  omega

/-! ### Lines -/

theorem lines_append_newline (a b : List Char) : lines (a ++ '\n' :: b) = lines a ++ lines b :=
  List.splitOn_append_cons_self a b

theorem lines_eq_singleton {s : List Char} (h : '\n' ∉ s) : lines s = [s] :=
  List.splitOn_eq_singleton h

theorem mem_of_mem_lines {s line : List Char} {c : Char} (hline : line ∈ lines s)
    (hc : c ∈ line) : c ∈ s ∧ c ≠ '\n' := by
  have hmem : c ∈ (lines s).flatten := List.mem_flatten.mpr ⟨line, hline, hc⟩
  rw [lines, List.splitOn_eq_splitOnP, flatten_splitOnP, List.mem_filter] at hmem
  simpa using hmem

/-- A text that starts at the end of a line adds the same lines to any other. -/
theorem exists_lines_append {after : List Char} (h : ∀ c ∈ after.head?, c = '\n') :
    ∃ rest, ∀ s, lines (s ++ after) = lines s ++ rest := by
  cases after with
  | nil => exact ⟨[], fun s => by rw [List.append_nil, List.append_nil]⟩
  | cons c after =>
    obtain rfl := h c rfl
    exact ⟨lines after, fun s => lines_append_newline s after⟩

/-- What has no line break goes to the last line. -/
theorem exists_lines_concat (s : List Char) :
    ∃ init last, ∀ t, '\n' ∉ t → lines (s ++ t) = init ++ [last ++ t] := by
  induction s with
  | nil => exact ⟨[], [], fun t ht => lines_eq_singleton ht⟩
  | cons c s ih =>
    obtain ⟨init, last, ih⟩ := ih
    by_cases hc : c = '\n'
    · refine ⟨[] :: init, last, fun t ht => ?_⟩
      rw [hc, List.cons_append, ← List.nil_append ('\n' :: _), lines_append_newline, ih t ht]
      rfl
    · have hlines : ∀ t, lines (c :: t) = (lines t).modifyHead (c :: ·) := fun t => by
        rw [lines, List.splitOn, List.splitOnP_cons_eq_if_modifyHead,
          if_neg (mt beq_iff_eq.mp hc)]
        rfl
      cases init with
      | nil =>
        refine ⟨[], c :: last, fun t ht => ?_⟩
        rw [List.cons_append, hlines, ih t ht]
        rfl
      | cons line init =>
        refine ⟨(c :: line) :: init, last, fun t ht => ?_⟩
        rw [List.cons_append, hlines, ih t ht]
        rfl

/-- A text that is not blank has a line that is not blank. -/
theorem exists_solid_line {s : List Char} (h : isBlankText s = false) :
    ∃ line ∈ lines s, isBlankText line = false := by
  obtain ⟨c, hc, hsolid⟩ := exists_solid h
  have hjoin : ['\n'].intercalate (lines s) = s := List.intercalate_splitOn '\n'
  rw [← hjoin] at hc
  obtain rfl | ⟨line, hline, hc⟩ := mem_intercalate hc
  · contradiction
  · exact ⟨line, hline, List.all_eq_false.mpr ⟨c, hc, Bool.eq_false_iff.mp hsolid⟩⟩

end BoardDiagram.Text
