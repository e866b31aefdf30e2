import BoardDiagram.Proofs.Reading
import BoardDiagram.Proofs.Text
import Mathlib.Data.List.Forall2

/-! What reading makes of each line of a text.  The header and the rows are read from lines without
the white space at their ends; a link only loses that behind it.  So reading a text depends on less
than its lines, and lines that hold nothing can be left out. -/

namespace BoardDiagram

open Text

/-! ### One line -/

theorem Header.ofLine_congr {a b : List Char} (h : strip a = strip b) : ofLine a = ofLine b := by
  rw [ofLine, ofLine, parts?, parts?, h]

namespace Directive

theorem row?_congr {a b : List Char} (h : strip a = strip b) : row? a = row? b := by
  rw [row?, row?, h]

theorem content?_cons {rest : List Char} :
    content? ('$' :: '$' :: rest) = some (trimStart rest) := rfl

theorem content?_eq_none {line : List Char} (h : ¬ ['$', '$'] <+: line) :
    content? line = none := by
  unfold content?
  split
  · exact absurd (List.prefix_append ['$', '$'] _) h
  · rfl

/-- What is taken of a text before its first line break is not changed by what comes behind, but
for a part of that. -/
theorem firstLine_append (s t : List Char) : ∃ u, (∀ c ∈ u, c ∈ t) ∧
    firstLine (s ++ t) = firstLine s ++ u := by
  rw [firstLine, firstLine, List.takeWhile_append]
  split
  · rename_i hall
    rw [(List.takeWhile_prefix _).eq_of_length hall]
    exact ⟨_, fun c hc => (List.takeWhile_sublist _).mem hc, rfl⟩
  · exact ⟨[], nofun, (List.append_nil _).symm⟩

/-- The last `c` of a text does not lie in what has none. -/
theorem splitLast?_append {c : Char} (s : List Char) {t : List Char} (h : c ∉ t) :
    splitLast? c (s ++ t) = (splitLast? c s).map fun pair => (pair.1, pair.2 ++ t) := by
  have ht : ∀ d ∈ t.reverse, (d ≠ c : Bool) = true := by
    intro d hd
    refine decide_eq_true fun hdc => h ?_
    exact hdc ▸ List.mem_reverse.mp hd
  unfold splitLast?
  rw [List.reverse_append, List.dropWhile_append_of_pos ht, List.takeWhile_append_of_pos ht,
    List.reverse_append, List.reverse_reverse]
  split <;> simp_all

theorem not_prefix_append_blank {line blank : List Char} (h : isBlankText blank = true)
    (hline : ¬ ['$', '$'] <+: line) : ¬ ['$', '$'] <+: line ++ blank := by
  intro hprefix
  obtain hshort | ⟨tail, htail⟩ :=
    List.prefix_or_prefix_of_prefix hprefix (List.prefix_append line blank)
  · exact hline hshort
  -- the dollar signs that the line lacks would have to be among the white space
  obtain ⟨rest, hrest⟩ := hprefix
  rw [← htail, List.append_assoc, List.append_cancel_left_eq] at hrest
  cases tail with
  | nil => exact hline ⟨[], by rw [← htail, List.append_nil, List.append_nil]⟩
  | cons c tail =>
    have hdollar : c ∈ ['$', '$'] := by
      rw [← htail]
      exact List.mem_append_right line List.mem_cons_self
    have hblank := List.all_eq_true.mp h c (hrest ▸ List.mem_cons_self)
    simp only [List.mem_cons, List.not_mem_nil, or_false, or_self] at hdollar
    rw [hdollar] at hblank
    contradiction

/-- White space behind a link adds nothing to it: what it says ends at its last bracket. -/
theorem bracketed?_append_blank {blank : List Char} (h : isBlankText blank = true)
    (line : List Char) : bracketed? (line ++ blank) = bracketed? line := by
  by_cases hline : ['$', '$'] <+: line
  · obtain ⟨rest, rfl⟩ := hline
    simp only [bracketed?, List.cons_append, List.nil_append, content?_cons]
    by_cases hrest : isBlankText rest = true
    · rw [trimStart_blank_append hrest, trimStart_eq_nil h, trimStart_eq_nil hrest]
    · obtain ⟨solid, hmem, hsolid⟩ := exists_solid (Bool.eq_false_iff.mpr hrest)
      obtain ⟨c, inside, htrim⟩ :=
        List.exists_cons_of_ne_nil (List.ne_nil_of_mem (mem_trimStart hmem hsolid))
      rw [trimStart_append _ ⟨solid, hmem, hsolid⟩, htrim, List.cons_append]
      by_cases hc : c = '['
      · obtain ⟨tail, htail, hfirst⟩ := firstLine_append inside blank
        have hclose : ']' ∉ tail := fun hclose => by
          have := List.all_eq_true.mp h ']' (htail _ hclose)
          contradiction
        subst hc
        simp only [hfirst, splitLast?_append _ hclose]
        cases splitLast? ']' (firstLine inside) <;> rfl
      · simp [hc]
  · rw [bracketed?, bracketed?, content?_eq_none hline,
      content?_eq_none (not_prefix_append_blank h hline)]

theorem link?_trimEnd (line : List Char) : link? (trimEnd line) = link? line := by
  obtain ⟨blank, hblank, hline⟩ := exists_eq_trimEnd_append line
  rw [link?, link?, ← bracketed?_append_blank hblank (trimEnd line), ← hline]

theorem link?_congr {a b : List Char} (h : trimEnd a = trimEnd b) : link? a = link? b := by
  rw [← link?_trimEnd a, h, link?_trimEnd]

/-- White space before a link hides it. -/
theorem link?_of_indented {indent line : List Char} (h : isBlankText indent = true)
    (hne : indent ≠ []) : link? (indent ++ line) = none := by
  obtain ⟨c, rest, rfl⟩ := List.exists_cons_of_ne_nil hne
  have hc := List.all_eq_true.mp h c List.mem_cons_self
  have hprefix : ¬ ['$', '$'] <+: c :: rest ++ line := by
    rintro ⟨tail, htail⟩
    obtain rfl : '$' = c := (List.cons.inj htail).1
    contradiction
  rw [link?, bracketed?, content?_eq_none hprefix]
  rfl

/-- A line that is not read: it does not start with two dollar signs, or holds nothing else. -/
def IsIdle (line : List Char) : Prop :=
  ¬ ['$', '$'] <+: strip line ∨ strip line = ['$', '$']

theorem row?_of_isIdle {line : List Char} (h : IsIdle line) : row? line = none := by
  rw [row?]
  obtain hprefix | hdollars := h
  · rw [content?_eq_none hprefix]
  · rw [hdollars]
    rfl

theorem link?_of_isIdle {line : List Char} (h : IsIdle line) : link? line = none := by
  by_cases hline : ['$', '$'] <+: line
  · obtain ⟨rest, rfl⟩ := hline
    cases hrest : isBlankText rest with
    | true =>
      rw [link?, bracketed?, List.cons_append, List.cons_append, List.nil_append, content?_cons,
        trimStart_eq_nil hrest]
      rfl
    | false =>
      obtain ⟨solid, hmem, hsolid⟩ := exists_solid hrest
      have hstrip : strip (['$', '$'] ++ rest) = ['$', '$'] ++ trimEnd rest :=
        trimEnd_append ['$', '$'] ⟨solid, hmem, hsolid⟩
      rw [IsIdle, hstrip] at h
      obtain hprefix | hdollars := h
      · exact absurd (List.prefix_append _ _) hprefix
      · rw [List.append_right_eq_self] at hdollars
        exact absurd hdollars (List.ne_nil_of_mem (mem_trimEnd hmem hsolid))
  · rw [link?, bracketed?, content?_eq_none hline]
    rfl

end Directive

/-! ### All lines -/

theorem filterMap_congr₂ {α β γ : Type} {R : α → β → Prop} {f : α → Option γ} {g : β → Option γ}
    {as : List α} {bs : List β} (h : List.Forall₂ R as bs) (hfg : ∀ a b, R a b → f a = g b) :
    as.filterMap f = bs.filterMap g := by
  induction h with
  | nil => rfl
  | cons hab _ ih => rw [List.filterMap_cons, List.filterMap_cons, hfg _ _ hab, ih]

namespace Directive

theorem scan_body_congr {lines lines' : List (List Char)}
    (h : List.Forall₂ (fun line line' => strip line = strip line') lines lines') :
    (scan lines).body = (scan lines').body := by
  rw [scan, scan, filterMap_congr₂ h fun _ _ => row?_congr]

theorem scan_congr {lines lines' : List (List Char)}
    (h : List.Forall₂ (fun line line' => trimEnd line = trimEnd line') lines lines') :
    scan lines = scan lines' := by
  have hrow : ∀ line line', trimEnd line = trimEnd line' → row? line = row? line' :=
    fun line line' hline => row?_congr (strip_eq_of_trimEnd_eq hline)
  rw [scan, scan, filterMap_congr₂ h hrow, filterMap_congr₂ h fun _ _ => link?_congr]

theorem scan_insert_idle (before after : List (List Char)) {line : List Char} (h : IsIdle line) :
    scan (before ++ line :: after) = scan (before ++ after) := by
  simp only [scan, List.filterMap_append, List.filterMap_cons, row?_of_isIdle h, link?_of_isIdle h]

end Directive

namespace Diagram

theorem dropBlankLines_spec {lines : List (List Char)} (h : lines ≠ []) :
    ∃ blanks line rest, lines = blanks ++ line :: rest ∧ dropBlankLines lines = line :: rest ∧
      (∀ blank ∈ blanks, Text.isBlankText blank = true) ∧
      (Text.isBlankText line = true → rest = []) := by
  fun_induction dropBlankLines lines with
  | case1 line next rest hblank ih =>
    obtain ⟨blanks, first, others, hlines, hdrop, hblanks, hfirst⟩ := ih (List.cons_ne_nil _ _)
    refine ⟨line :: blanks, first, others, ?_, hdrop, ?_, hfirst⟩
    · rw [hlines, List.cons_append]
    · exact List.forall_mem_cons.mpr ⟨hblank, hblanks⟩
  | case2 line next rest hblank =>
    refine ⟨[], line, next :: rest, rfl, rfl, fun _ hmem => absurd hmem List.not_mem_nil, ?_⟩
    intro hline
    exact absurd hline hblank
  | case3 lines hshort =>
    obtain ⟨line, rest, rfl⟩ := List.exists_cons_of_ne_nil h
    cases rest with
    | nil =>
      refine ⟨[], line, [], rfl, rfl, ?_, fun _ => rfl⟩
      exact fun _ hmem => absurd hmem List.not_mem_nil
    | cons next rest => exact absurd rfl (hshort line next rest)

/-- Every text has a first line. -/
theorem dropBlankLines_lines (text : List Char) : dropBlankLines (lines text) =
    firstLine text :: (dropBlankLines (lines text)).tail := by
  obtain ⟨-, line, rest, -, hdrop, -⟩ := dropBlankLines_spec (List.splitOn_ne_nil '\n' text)
  rw [firstLine, lines, hdrop]
  rfl

theorem dropBlankLines_cons {line : List Char} {lines : List (List Char)}
    (hline : isBlankText line = true) (hlines : lines ≠ []) :
    dropBlankLines (line :: lines) = dropBlankLines lines := by
  cases lines with
  | nil => contradiction
  | cons next rest => rw [dropBlankLines, if_pos hline]

theorem dropBlankLines_of_solid {line : List Char} (h : isBlankText line = false)
    (rest : List (List Char)) : dropBlankLines (line :: rest) = line :: rest := by
  cases rest with
  | nil => rfl
  | cons next rest => rw [dropBlankLines, h, if_neg Bool.false_ne_true]

/-- Lines that are blank together are dropped together. -/
theorem forall₂_dropBlankLines {R : List Char → List Char → Prop} {lines lines' : List (List Char)}
    (h : List.Forall₂ R lines lines')
    (hblank : ∀ line line', R line line' → isBlankText line = isBlankText line') :
    List.Forall₂ R (dropBlankLines lines) (dropBlankLines lines') := by
  induction h with
  | nil => exact .nil
  | @cons line line' rest rest' hline hrest ih =>
    have heq := hblank line line' hline
    cases hrest with
    | nil => exact .cons hline .nil
    | cons hnext hrest =>
      rw [dropBlankLines, dropBlankLines, heq]
      split
      · exact ih
      · exact .cons hline (.cons hnext hrest)

/-- Texts whose lines correspond have first lines and directives that do. -/
theorem forall₂_firstLine_tail {R : List Char → List Char → Prop} {text text' : List Char}
    (h : List.Forall₂ R (lines text) (lines text'))
    (hblank : ∀ line line', R line line' → isBlankText line = isBlankText line') :
    R (firstLine text) (firstLine text') ∧
      List.Forall₂ R (dropBlankLines (lines text)).tail (dropBlankLines (lines text')).tail := by
  have hdropped := forall₂_dropBlankLines h hblank
  rw [dropBlankLines_lines text, dropBlankLines_lines text', List.forall₂_cons] at hdropped
  exact hdropped

/-- No line is dropped behind the first that is not blank. -/
theorem dropBlankLines_append {before : List (List Char)}
    (h : ∃ line ∈ before, isBlankText line = false) (after : List (List Char)) :
    dropBlankLines (before ++ after) = dropBlankLines before ++ after := by
  induction before with
  | nil => exact absurd h nofun
  | cons line before ih =>
    cases hline : isBlankText line with
    | false => rw [List.cons_append, dropBlankLines_of_solid hline, dropBlankLines_of_solid hline,
        List.cons_append]
    | true =>
      obtain ⟨solid, hmem, hsolid⟩ := h
      obtain rfl | hmem := List.mem_cons.mp hmem
      · rw [hline] at hsolid
        contradiction
      · have hne := List.ne_nil_of_mem hmem
        rw [List.cons_append, dropBlankLines_cons hline (List.append_ne_nil_of_left_ne_nil hne after),
          dropBlankLines_cons hline hne, ih ⟨solid, hmem, hsolid⟩]

end Diagram

end BoardDiagram
