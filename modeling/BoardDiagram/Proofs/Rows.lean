import BoardDiagram.Proofs.Text
import BoardDiagram.Row

/-! The rows of a diagram body, line by line: a body is read one line at a time, and a line gives
back the tokens that it was written with. -/

namespace BoardDiagram.Row

theorem clean_append (a b : List Char) : clean (a ++ b) = clean a ++ clean b := by
  simp [clean]

/-- A character that is neither a glyph of the edge nor noise. -/
def IsPlain (c : Char) : Prop :=
  isBorderGlyph c = false ∧ isNoise c = false

theorem clean_cons_plain {c : Char} (h : IsPlain c) (s : List Char) :
    clean (c :: s) = c :: clean s := by
  simp [clean, h.1, h.2]

theorem clean_plain {s : List Char} (h : ∀ c ∈ s, IsPlain c) : clean s = s := by
  induction s with
  | nil => rfl
  | cons c s ih =>
    rw [clean_cons_plain (h c List.mem_cons_self), ih fun d hd => h d (List.mem_cons_of_mem c hd)]

theorem clean_glyph {c : Char} (h : isBorderGlyph c = true) : clean [c] = borderToken := by
  rw [clean, List.map_cons, List.map_nil, if_pos h]
  rfl

theorem clean_glyphs {s : List Char} (h : ∀ c ∈ s, isBorderGlyph c = true) :
    clean s = List.replicate s.length '%' := by
  induction s with
  | nil => rfl
  | cons c s ih =>
    rw [← List.singleton_append, clean_append, clean_glyph (h c List.mem_cons_self),
      ih fun d hd => h d (List.mem_cons_of_mem c hd)]
    rfl

theorem clean_flatten (parts : List (List Char)) :
    clean parts.flatten = (parts.map clean).flatten := by
  induction parts with
  | nil => rfl
  | cons a parts ih => rw [List.flatten_cons, clean_append, ih, List.map_cons, List.flatten_cons]

theorem clean_intercalate {sep : Char} (h : IsPlain sep) (parts : List (List Char)) :
    clean ([sep].intercalate parts) = [sep].intercalate (parts.map clean) := by
  induction parts with
  | nil => rfl
  | cons a parts ih =>
    cases parts with
    | nil => simp
    | cons b parts =>
      rw [List.intercalate_cons_cons, clean_append, clean_append, ih,
        clean_plain (s := [sep]) (by simpa using h)]
      simp only [List.map_cons, List.intercalate_cons_cons]

/-! ### Lines -/

theorem mem_clean_newline {s : List Char} (h : '\n' ∈ clean s) : '\n' ∈ s := by
  simp only [clean, List.mem_filter, List.mem_map] at h
  obtain ⟨⟨c, hc, hcn⟩, _⟩ := h
  split at hcn
  · contradiction
  · exact hcn ▸ hc

theorem normalize_append_newline (a b : List Char) :
    normalize (a ++ '\n' :: b) = normalize a ++ normalize b := by
  have hn : IsPlain '\n' := by unfold IsPlain; decide
  rw [normalize, clean_append, clean_cons_plain hn, Text.lines, List.splitOn_append_cons_self,
    List.map_append, List.filter_append]
  rfl

theorem normalize_line {line : List Char} (h : '\n' ∉ line) :
    normalize line = [split (clean line)].filter (!·.isEmpty) := by
  rw [normalize, Text.lines, List.splitOn_eq_singleton fun hc => h (mem_clean_newline hc)]
  rfl

theorem normalize_nil : normalize [] = [] := by
  rw [normalize_line List.not_mem_nil]
  rfl

theorem normalize_newlines (n : Nat) : normalize (List.replicate n '\n') = [] := by
  induction n with
  | zero => exact normalize_nil
  | succ n ih =>
    rw [List.replicate_succ, ← List.nil_append ('\n' :: _), normalize_append_newline,
      normalize_nil, ih, List.nil_append]

theorem normalize_append_newlines (body : List Char) (n : Nat) :
    normalize (body ++ List.replicate n '\n') = normalize body := by
  cases n with
  | zero => rw [List.replicate_zero, List.append_nil]
  | succ n =>
    rw [List.replicate_succ, normalize_append_newline, normalize_newlines, List.append_nil]

theorem normalize_intercalate {lines : List (List Char)} (h : ∀ line ∈ lines, '\n' ∉ line) :
    normalize (['\n'].intercalate lines) =
      (lines.map fun line => split (clean line)).filter (!·.isEmpty) := by
  induction lines with
  | nil => exact normalize_nil
  | cons line rest ih =>
    have hline := h line List.mem_cons_self
    have ih := ih fun l hl => h l (List.mem_cons_of_mem line hl)
    cases rest with
    | nil => rw [List.intercalate_singleton, normalize_line hline, List.map_singleton]
    | cons next rest =>
      rw [List.intercalate_cons_cons, List.append_assoc, List.singleton_append,
        normalize_append_newline, ih, normalize_line hline, ← List.filter_append]
      rfl

/-! ### Tokens of a line -/

/-- A token that can stand between spaces: it is not empty and holds no white space. -/
def IsSolid (token : List Char) : Prop :=
  token ≠ [] ∧ ∀ c ∈ token, Text.isBlank c = false

theorem IsSolid.exists_mem {token : List Char} (h : IsSolid token) :
    ∃ c ∈ token, Text.isBlank c = false := by
  obtain ⟨hne, hb⟩ := h
  obtain ⟨c, hc⟩ := List.exists_mem_of_ne_nil token hne
  exact ⟨c, hc, hb c hc⟩

/-- Characters that are cut apart and none of which is a space come back as they were. -/
theorem map_filter_flatten {tokens : List (List Char)} (solid : ∀ t ∈ tokens, IsSolid t)
    (single : ∀ t ∈ tokens, t.length = 1) :
    (tokens.flatten.filter (· ≠ ' ')).map (fun c => [c]) = tokens := by
  induction tokens with
  | nil => rfl
  | cons t tokens ih =>
    obtain ⟨c, rfl⟩ := List.length_eq_one_iff.mp (single t List.mem_cons_self)
    have hc : c ≠ ' ' := by
      rintro rfl
      have := (solid [' '] List.mem_cons_self).2 ' ' (List.mem_singleton_self _)
      contradiction
    have ih := ih (fun u hu => solid u (List.mem_cons_of_mem _ hu))
      fun u hu => single u (List.mem_cons_of_mem _ hu)
    rw [List.flatten_cons, List.filter_append, List.map_append, ih]
    simp [hc]

theorem filter_intercalate_space (tokens : List (List Char)) :
    ([' '].intercalate tokens).filter (· ≠ ' ') = tokens.flatten.filter (· ≠ ' ') := by
  induction tokens with
  | nil => rfl
  | cons t tokens ih =>
    cases tokens with
    | nil => simp
    | cons u tokens =>
      rw [List.intercalate_cons_cons, List.filter_append, List.filter_append, ih,
        List.flatten_cons, List.filter_append]
      simp

/-- Tokens of one character, written without spaces, are read one by one. -/
theorem split_flatten {tokens : List (List Char)} (solid : ∀ t ∈ tokens, IsSolid t)
    (single : ∀ t ∈ tokens, t.length = 1) : split tokens.flatten = tokens := by
  have hspace : ' ' ∉ tokens.flatten := by
    intro h
    obtain ⟨t, ht, hc⟩ := List.mem_flatten.mp h
    have := (solid t ht).2 ' ' hc
    contradiction
  have hspaced : isSpaced tokens.flatten = false := by
    have hstrip : ' ' ∉ Text.strip tokens.flatten := fun h => hspace (Text.mem_of_mem_strip h)
    simp [isSpaced, hstrip]
  rw [split, hspaced, if_neg Bool.false_ne_true, map_filter_flatten solid single]

/-- Tokens that a line with spaces between them is read as: they have one character each, or there
are at least two of them, with a digit and without a brace. -/
def IsReadable (tokens : List (List Char)) : Prop :=
  (∀ t ∈ tokens, t.length = 1) ∨
    (2 ≤ tokens.length ∧ (∃ t ∈ tokens, ∃ c ∈ t, c.isDigit = true) ∧ ∀ t ∈ tokens, '\x7b' ∉ t)

theorem isSpaced_intercalate {tokens : List (List Char)} (solid : ∀ t ∈ tokens, IsSolid t)
    (two : 2 ≤ tokens.length) (digit : ∃ t ∈ tokens, ∃ c ∈ t, c.isDigit = true)
    (brace : ∀ t ∈ tokens, '\x7b' ∉ t) : isSpaced ([' '].intercalate tokens) = true := by
  have hspace : ' ' ∈ Text.strip ([' '].intercalate tokens) := by
    match tokens, two with
    | t :: u :: rest, _ =>
      -- The space behind the first token lies between two characters that are kept.
      obtain ⟨c, hc, hb⟩ := (solid u (by simp)).exists_mem
      have hlast : ∃ x ∈ [' '].intercalate (u :: rest), Text.isBlank x = false :=
        ⟨c, Text.mem_intercalate_of_mem List.mem_cons_self hc, hb⟩
      rw [List.intercalate_cons_cons,
        Text.strip_append_append _ (solid t List.mem_cons_self).exists_mem hlast]
      simp
  have hdigit : (Text.strip ([' '].intercalate tokens)).any Char.isDigit = true := by
    obtain ⟨t, ht, c, hc, hd⟩ := digit
    have hb := (solid t ht).2 c hc
    exact List.any_eq_true.mpr
      ⟨c, Text.mem_strip (Text.mem_intercalate_of_mem ht hc) hb, hd⟩
  have hbrace : '\x7b' ∉ Text.strip ([' '].intercalate tokens) := by
    intro h
    obtain h | ⟨t, ht, hc⟩ := Text.mem_intercalate (Text.mem_of_mem_strip h)
    · contradiction
    · exact brace t ht hc
  simp [isSpaced, hspace, hdigit, hbrace]

/-- Readable tokens, written with single spaces between them, are read back. -/
theorem split_intercalate {tokens : List (List Char)} (solid : ∀ t ∈ tokens, IsSolid t)
    (readable : IsReadable tokens) : split ([' '].intercalate tokens) = tokens := by
  rw [split]
  split
  · exact Text.words_intercalate solid
  · rename_i hspaced
    obtain single | ⟨two, digit, brace⟩ := readable
    · rw [filter_intercalate_space, map_filter_flatten solid single]
    · exact absurd (isSpaced_intercalate solid two digit brace) hspaced

end BoardDiagram.Row
