import BoardDiagram.Proofs.Rows

/-! The rows that bodies are read as, printed with single spaces between their tokens.  `IsRow` says
what a row is without its text; every such row is read back, whichever way it was written first. -/

namespace BoardDiagram.Row

open Text

/-- A row of tokens that some line is read as. -/
structure IsRow (tokens : List (List Char)) : Prop where
  ne_nil : tokens ≠ []
  solid : ∀ t ∈ tokens, IsSolid t
  clean : ∀ t ∈ tokens, ∀ c ∈ t, c ∉ ['$', '-', '|', '+']
  readable : IsReadable tokens

/-- The text of rows: tokens joined by spaces, rows by line breaks. -/
def print (rows : List (List (List Char))) : List Char :=
  ['\n'].intercalate (rows.map ([' '].intercalate ·))

/-- The only white space is what a body may hold: spaces, tabs and line ends. -/
def HasPlainSpace (body : List Char) : Prop :=
  ∀ c ∈ body, isBlank c = true → c ∈ [' ', '\t', '\r', '\n']

theorem mem_clean {body : List Char} {c : Char} (h : c ∈ Row.clean body) :
    IsPlain c ∧ (c = '%' ∨ c ∈ body) := by
  rw [Row.clean, List.mem_filter, List.mem_map] at h
  obtain ⟨⟨d, hd, hdc⟩, hnoise⟩ := h
  have hnoise : isNoise c = false := by simpa using hnoise
  split at hdc
  · subst hdc
    exact ⟨⟨rfl, hnoise⟩, .inl rfl⟩
  · rename_i hglyph
    subst hdc
    exact ⟨⟨Bool.eq_false_iff.mpr hglyph, hnoise⟩, .inr hd⟩

theorem isPlain_of_solid {c : Char} (hb : isBlank c = false) (hc : c ∉ ['$', '-', '|', '+']) :
    IsPlain c := by
  have htab : c ≠ '\t' := by
    rintro rfl
    contradiction
  have hreturn : c ≠ '\r' := by
    rintro rfl
    contradiction
  simp only [List.mem_cons, List.not_mem_nil, or_false, not_or] at hc
  simp [IsPlain, isBorderGlyph, isNoise, htab, hreturn, hc]

theorem not_mem_of_isPlain {c : Char} (h : IsPlain c) : c ∉ ['$', '-', '|', '+'] := by
  obtain ⟨hglyph, hnoise⟩ := h
  simp only [isBorderGlyph, isNoise, Bool.or_eq_false_iff, decide_eq_false_iff_not] at hglyph hnoise
  simp [hglyph, hnoise]

/-! ### What is read is a row -/

theorem isRow_words {line : List Char} (hplain : ∀ c ∈ line, IsPlain c)
    (hspaced : isSpaced line = true) : IsRow (words line) := by
  simp only [isSpaced, Bool.and_eq_true, List.contains_iff_mem, List.any_eq_true,
    Bool.not_eq_true'] at hspaced
  obtain ⟨⟨hspace, d, hd, hdigit⟩, hbrace⟩ := hspaced
  have htwo : 2 ≤ (words line).length := two_le_length_words (by decide) hspace
  have hmem {w : List Char} (hw : w ∈ words line) {c : Char} (hc : c ∈ w) :
      c ∈ line ∧ isBlank c = false := mem_of_mem_words hw hc
  refine ⟨List.ne_nil_of_length_pos (by omega), fun w hw => ?_, fun w hw c hc => ?_,
    .inr ⟨htwo, ?_, fun w hw hc => ?_⟩⟩
  · exact ⟨ne_nil_of_mem_words hw, fun c hc => (hmem hw hc).2⟩
  · exact not_mem_of_isPlain (hplain c (hmem hw hc).1)
  · obtain ⟨w, hw, hdw⟩ := exists_mem_words (mem_of_mem_strip hd) (isBlank_of_isDigit hdigit)
    exact ⟨w, hw, d, hdw, hdigit⟩
  · have hin : '\x7b' ∈ strip line := mem_strip (hmem hw hc).1 rfl
    rw [List.contains_iff_mem.mpr hin] at hbrace
    contradiction

theorem isRow_chars {line : List Char} (hplain : ∀ c ∈ line, IsPlain c)
    (hblank : ∀ c ∈ line, isBlank c = true → c = ' ')
    (hne : (line.filter (· ≠ ' ')).map (fun c => [c]) ≠ []) :
    IsRow ((line.filter (· ≠ ' ')).map fun c => [c]) := by
  have hsingle {t : List Char} (ht : t ∈ (line.filter (· ≠ ' ')).map fun c => [c]) :
      ∃ c ∈ line, c ≠ ' ' ∧ t = [c] := by
    obtain ⟨c, hc, rfl⟩ := List.mem_map.mp ht
    rw [List.mem_filter, decide_eq_true_eq] at hc
    exact ⟨c, hc.1, hc.2, rfl⟩
  refine ⟨hne, fun t ht => ?_, fun t ht c hc => ?_, .inl fun t ht => ?_⟩
  · obtain ⟨c, hc, hspace, rfl⟩ := hsingle ht
    refine ⟨List.cons_ne_nil c [], fun d hd => Bool.eq_false_iff.mpr fun hb => ?_⟩
    obtain rfl := List.mem_singleton.mp hd
    exact hspace (hblank d hc hb)
  · obtain ⟨d, hd, -, rfl⟩ := hsingle ht
    obtain rfl := List.mem_singleton.mp hc
    exact not_mem_of_isPlain (hplain c hd)
  · obtain ⟨c, -, -, rfl⟩ := hsingle ht
    rfl

theorem isRow_split {line : List Char} (hplain : ∀ c ∈ line, IsPlain c)
    (hblank : ∀ c ∈ line, isBlank c = true → c = ' ') (hne : split line ≠ []) :
    IsRow (split line) := by
  unfold split at hne ⊢
  split at hne
  · rename_i hspaced
    rw [if_pos hspaced]
    exact isRow_words hplain hspaced
  · rename_i hspaced
    rw [if_neg hspaced]
    exact isRow_chars hplain hblank hne

theorem isRow_of_mem_normalize {body : List Char} (hspace : HasPlainSpace body)
    {row : List (List Char)} (h : row ∈ normalize body) : IsRow row := by
  rw [normalize, List.mem_filter, List.mem_map] at h
  obtain ⟨⟨line, hline, rfl⟩, hne⟩ := h
  have hclean {c : Char} (hc : c ∈ line) : (IsPlain c ∧ (c = '%' ∨ c ∈ body)) ∧ c ≠ '\n' := by
    obtain ⟨hc, hbreak⟩ := mem_of_mem_lines hline hc
    exact ⟨mem_clean hc, hbreak⟩
  apply isRow_split
  · intro c hc
    exact (hclean hc).1.1
  · intro c hc hb
    obtain ⟨⟨hplain, rfl | hbody⟩, hbreak⟩ := hclean hc
    · contradiction
    · -- tabs and carriage returns are noise
      have hnoise := hplain.2
      have hmem := hspace c hbody hb
      simp only [List.mem_cons, List.not_mem_nil, or_false] at hmem
      obtain rfl | rfl | rfl | rfl := hmem
      · rfl
      · contradiction
      · contradiction
      · contradiction
  · simpa using hne

/-! ### What is printed is read -/

theorem hasPlainSpace_print {rows : List (List (List Char))} (h : ∀ row ∈ rows, IsRow row) :
    HasPlainSpace (print rows) := by
  intro c hc hb
  obtain rfl | ⟨line, hline, hc⟩ := mem_intercalate hc
  · decide
  · obtain ⟨row, hrow, rfl⟩ := List.mem_map.mp hline
    obtain rfl | ⟨t, ht, hc⟩ := mem_intercalate hc
    · decide
    · have hsolid := ((h row hrow).solid t ht).2 c hc
      rw [hb] at hsolid
      contradiction

theorem isPlain_of_mem_row {row : List (List Char)} (h : IsRow row) {c : Char}
    (hc : c ∈ [' '].intercalate row) : IsPlain c ∧ c ≠ '\n' := by
  obtain rfl | ⟨t, ht, hc⟩ := mem_intercalate hc
  · exact ⟨by unfold IsPlain; decide, by decide⟩
  · have hsolid := (h.solid t ht).2 c hc
    refine ⟨isPlain_of_solid hsolid (h.clean t ht c hc), ?_⟩
    rintro rfl
    contradiction

theorem normalize_print {rows : List (List (List Char))} (h : ∀ row ∈ rows, IsRow row) :
    normalize (print rows) = rows := by
  have hlines : ∀ line ∈ rows.map ([' '].intercalate ·), '\n' ∉ line := by
    intro line hline hc
    obtain ⟨row, hrow, rfl⟩ := List.mem_map.mp hline
    exact (isPlain_of_mem_row (h row hrow) hc).2 rfl
  have hsplit : ∀ row ∈ rows, split (Row.clean ([' '].intercalate row)) = row := by
    intro row hrow
    have hrow := h row hrow
    rw [clean_plain fun c hc => (isPlain_of_mem_row hrow hc).1,
      split_intercalate hrow.solid hrow.readable]
  have hread : (rows.map ([' '].intercalate ·)).map (fun line => split (Row.clean line)) = rows := by
    rw [List.map_map]
    exact (List.map_congr_left hsplit).trans (List.map_id' rows)
  rw [print, normalize_intercalate hlines, hread, List.filter_eq_self]
  intro row hrow
  simpa using (h row hrow).ne_nil

/-- Rows are what some body is read as when each of them could be a row.  Printed, such rows are
read back, and so are the rows of a body. -/
theorem normalize_canonical :
    (∀ rows, (∃ body, HasPlainSpace body ∧ normalize body = rows) ↔ ∀ row ∈ rows, IsRow row) ∧
    (∀ rows, (∀ row ∈ rows, IsRow row) →
      HasPlainSpace (print rows) ∧ normalize (print rows) = rows) ∧
    ∀ body, HasPlainSpace body → normalize (print (normalize body)) = normalize body := by
  have hprinted (rows : List (List (List Char))) (h : ∀ row ∈ rows, IsRow row) :
      HasPlainSpace (print rows) ∧ normalize (print rows) = rows :=
    ⟨hasPlainSpace_print h, normalize_print h⟩
  refine ⟨fun rows => ⟨?_, fun h => ⟨print rows, hprinted rows h⟩⟩, hprinted, fun body hspace => ?_⟩
  · rintro ⟨body, hspace, rfl⟩ row hrow
    exact isRow_of_mem_normalize hspace hrow
  · exact normalize_print fun row hrow => isRow_of_mem_normalize hspace hrow

theorem normalize_canonical_two_rows :
    let body := "12 a \t|\r\n\n $ x\x7b1 y".toList
    let rows := [["12".toList, ['a'], ['%']], [['x'], ['\x7b'], ['1'], ['y']]]
    (HasPlainSpace body ∧ normalize body = rows ∧ ∀ row ∈ rows, IsRow row) ∧
      (HasPlainSpace (print rows) ∧ normalize (print rows) = rows) ∧
      normalize (print (normalize body)) = normalize body := by
  intro body rows
  have hspace : HasPlainSpace body := by
    have hall : body.all (fun c => !isBlank c || [' ', '\t', '\r', '\n'].contains c) = true := by
      decide
    intro c hc hb
    have hplain := List.all_eq_true.mp hall c hc
    rw [hb, Bool.not_true, Bool.false_or] at hplain
    exact List.contains_iff_mem.mp hplain
  have hbody : normalize body = rows := by decide +kernel
  obtain ⟨hiff, hprint, hbodies⟩ := normalize_canonical
  have hrows : ∀ row ∈ rows, IsRow row := (hiff rows).mp ⟨body, hspace, hbody⟩
  exact ⟨⟨hspace, hbody, hrows⟩, hprint rows hrows, hbodies body hspace⟩

end BoardDiagram.Row
