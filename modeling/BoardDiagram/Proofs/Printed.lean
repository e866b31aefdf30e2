import BoardDiagram.Proofs.Grids
import BoardDiagram.Proofs.Rows

/-! Boards as they are printed: a matrix of tokens with the edges of the board that are to be shown,
each row in one of the two styles.  `Sheet.text` prints a board, and reading the body back gives the
tokens at their places, the edges, and the sides on which each place borders on an edge. -/

namespace BoardDiagram

/-! ### Lists between two ends -/

section Enclose

variable {α β : Type}

/-- `inner` with `a` before it and `b` behind it, where they are asked for. -/
def enclose (first last : Bool) (a b : α) (inner : List α) : List α :=
  (if first then [a] else []) ++ inner ++ (if last then [b] else [])

variable (first last : Bool) (a b : α) (inner : List α)

@[simp] theorem length_enclose :
    (enclose first last a b inner).length = first.toNat + inner.length + last.toNat := by
  cases first <;> cases last <;> simp [enclose] <;> omega

theorem map_enclose (f : α → β) :
    (enclose first last a b inner).map f = enclose first last (f a) (f b) (inner.map f) := by
  cases first <;> cases last <;> simp [enclose]

theorem mem_enclose {x : α} (h : x ∈ enclose first last a b inner) : x = a ∨ x ∈ inner ∨ x = b := by
  cases first <;> cases last <;> simp [enclose] at h <;> grind

theorem getElem?_enclose_inner {i : Nat} (h : i < inner.length) :
    (enclose first last a b inner)[first.toNat + i]? = inner[i]? := by
  rw [enclose, List.getElem?_append_left (by cases first <;> simp <;> omega),
    List.getElem?_append_right (by cases first <;> simp)]
  cases first <;> simp

theorem getElem?_enclose_first : (enclose true last a b inner)[0]? = some a := rfl

theorem getElem?_enclose_last :
    (enclose first last a b inner)[first.toNat + inner.length]? =
      if last then some b else none := by
  rw [enclose, List.getElem?_append_right (by cases first <;> simp [Nat.add_comm])]
  cases first <;> cases last <;> simp [Nat.add_comm]

end Enclose

/-! ### What is printed -/

/-- A character that stands for itself in a row: it is neither white space, nor a glyph of the edge,
nor noise, nor the brace that starts a line or an arrow. -/
def IsSymbol (c : Char) : Prop :=
  Text.isBlank c = false ∧ c ∉ ['-', '|', '+', '%', '$', '\x7b']

instance (c : Char) : Decidable (IsSymbol c) :=
  inferInstanceAs (Decidable (_ ∧ _))

/-- A token that can be printed: a symbol, or a number of two digits or more. -/
inductive Token where
  | symbol (c : Char) (isSymbol : IsSymbol c)
  | number (digits : List Char) (two : 2 ≤ digits.length) (limit : digits.length ≤ digitLimit)
      (isDigit : ∀ c ∈ digits, c.isDigit = true)

def Token.text : Token → List Char
  | .symbol c _ => [c]
  | .number digits _ _ _ => digits

/-- A glyph that draws the edge of the board. -/
abbrev Glyph := { c : Char // Row.isBorderGlyph c = true }

/-- How a row is printed: with which glyphs at its sides, and whether with spaces between its
tokens. -/
structure Style where
  left : Glyph
  right : Glyph
  spaced : Bool

/-- The number of tokens of a line with `columns` places and the edges beside them. -/
def Sides.span (borders : Sides) (columns : Nat) : Nat :=
  borders.left.toNat + columns + borders.right.toNat

/-- A board as it is to be printed, with the given edges. -/
structure Sheet (rows columns : Nat) (borders : Sides) where
  token : Fin rows → Fin columns → Token
  style : Fin rows → Style
  /-- Without spaces, a row has tokens of one character only. -/
  compact : ∀ i, (style i).spaced = false → ∀ j, (token i j).text.length = 1
  top : Fin (borders.span columns) → Glyph
  bottom : Fin (borders.span columns) → Glyph

namespace Sheet

variable {rows columns : Nat} {borders : Sides} (sheet : Sheet rows columns borders)

/-- The parts of a row in order: tokens, and a glyph at each side where there is an edge. -/
def rowParts (i : Fin rows) : List (List Char) :=
  enclose borders.left borders.right [(sheet.style i).left.val] [(sheet.style i).right.val]
    (List.ofFn fun j => (sheet.token i j).text)

def rowText (i : Fin rows) : List Char :=
  if (sheet.style i).spaced then [' '].intercalate (sheet.rowParts i)
  else (sheet.rowParts i).flatten

def edgeText (glyphs : Fin (borders.span columns) → Glyph) : List Char :=
  List.ofFn fun k => (glyphs k).val

def lines : List (List Char) :=
  enclose borders.top borders.bottom (edgeText sheet.top) (edgeText sheet.bottom)
    (List.ofFn sheet.rowText)

def text : List Char :=
  ['\n'].intercalate sheet.lines

def rowTokens (i : Fin rows) : List (List Char) :=
  enclose borders.left borders.right Row.borderToken Row.borderToken
    (List.ofFn fun j => (sheet.token i j).text)

def edgeTokens (borders : Sides) (columns : Nat) : List (List Char) :=
  List.replicate (borders.span columns) Row.borderToken

/-- The rows of tokens that a printed board is read as. -/
def tokens : List (List (List Char)) :=
  enclose borders.top borders.bottom (edgeTokens borders columns) (edgeTokens borders columns)
    (List.ofFn sheet.rowTokens)

end Sheet

/-! ### Tokens are read as they are printed -/

theorem IsSymbol.isPlain {c : Char} (h : IsSymbol c) : Row.IsPlain c := by
  obtain ⟨hb, hc⟩ := h
  simp only [List.mem_cons, List.not_mem_nil, or_false, not_or] at hc
  have htab : c ≠ '\t' := by rintro rfl; contradiction
  have hreturn : c ≠ '\r' := by rintro rfl; contradiction
  simp [Row.IsPlain, Row.isBorderGlyph, Row.isNoise, hc, htab, hreturn]

theorem isSymbol_of_isDigit {c : Char} (h : c.isDigit = true) : IsSymbol c := by
  refine ⟨Text.isBlank_of_isDigit h, fun hc => ?_⟩
  simp only [List.mem_cons, List.not_mem_nil, or_false] at hc
  obtain rfl | rfl | rfl | rfl | rfl | rfl := hc <;> contradiction

namespace Token

variable (token : Token)

theorem isSymbol_of_mem {c : Char} (h : c ∈ token.text) : IsSymbol c := by
  cases token with
  | symbol d hd => exact List.mem_singleton.mp h ▸ hd
  | number digits two limit isDigit => exact isSymbol_of_isDigit (isDigit c h)

theorem isDigit_of_mem (hlength : token.text.length ≠ 1) {c : Char} (h : c ∈ token.text) :
    c.isDigit = true := by
  cases token with
  | symbol d _ => contradiction
  | number digits two limit isDigit => exact isDigit c h

theorem clean_text : Row.clean token.text = token.text :=
  Row.clean_plain fun _ hc => (token.isSymbol_of_mem hc).isPlain

theorem text_ne_nil : token.text ≠ [] := by
  cases token with
  | symbol c _ => exact List.cons_ne_nil c []
  | number digits two limit isDigit => exact List.ne_nil_of_length_pos (Nat.lt_of_succ_lt two)

theorem isSolid : Row.IsSolid token.text :=
  ⟨token.text_ne_nil, fun _ hc => (token.isSymbol_of_mem hc).1⟩

theorem text_ne_border : token.text ≠ Row.borderToken := by
  intro h
  have hs := token.isSymbol_of_mem (c := '%') (by simp [h, Row.borderToken])
  exact hs.2 (by simp)

theorem length_text_le : token.text.length ≤ digitLimit := by
  cases token with
  | symbol c _ =>
    show 1 ≤ digitLimit
    decide
  | number digits two limit isDigit => exact limit

end Token

/-! ### Lines are read as they are printed -/

namespace Sheet

variable {rows columns : Nat} {borders : Sides} (sheet : Sheet rows columns borders)

theorem map_clean_rowParts (i : Fin rows) :
    (sheet.rowParts i).map Row.clean = sheet.rowTokens i := by
  rw [rowParts, map_enclose, Row.clean_glyph (sheet.style i).left.property,
    Row.clean_glyph (sheet.style i).right.property, List.map_ofFn, rowTokens]
  congr 1
  exact congrArg List.ofFn (funext fun j => (sheet.token i j).clean_text)

theorem isSolid_rowTokens (i : Fin rows) : ∀ t ∈ sheet.rowTokens i, Row.IsSolid t := by
  have hborder : Row.IsSolid Row.borderToken :=
    ⟨by decide, fun c hc => by rw [List.mem_singleton.mp hc]; decide⟩
  intro t ht
  obtain rfl | ht | rfl := mem_enclose _ _ _ _ _ ht
  · exact hborder
  · obtain ⟨j, rfl⟩ := List.mem_ofFn.mp ht
    exact (sheet.token i j).isSolid
  · exact hborder

/-- The tokens of a row have one character each unless one of them is a longer number. -/
theorem length_of_mem_rowTokens {i : Fin rows}
    (single : ∀ j, (sheet.token i j).text.length = 1) :
    ∀ t ∈ sheet.rowTokens i, t.length = 1 := by
  intro t ht
  obtain rfl | ht | rfl := mem_enclose _ _ _ _ _ ht
  · rfl
  · obtain ⟨j, rfl⟩ := List.mem_ofFn.mp ht
    exact single j
  · rfl

theorem isReadable_rowTokens (wide : 2 ≤ columns ∨ borders.left = true) (i : Fin rows) :
    Row.IsReadable (sheet.rowTokens i) := by
  by_cases single : ∀ j, (sheet.token i j).text.length = 1
  · exact .inl (sheet.length_of_mem_rowTokens single)
  · obtain ⟨j, hj⟩ := Classical.not_forall.mp single
    refine .inr ⟨?_, ?_, ?_⟩
    · have hpos := j.pos
      rw [rowTokens, length_enclose, List.length_ofFn]
      obtain hwide | hleft := wide
      · omega
      · rw [hleft, Bool.toNat_true]
        omega
    · obtain ⟨c, hc⟩ := List.exists_mem_of_ne_nil _ (sheet.token i j).text_ne_nil
      refine ⟨(sheet.token i j).text, ?_, c, hc, (sheet.token i j).isDigit_of_mem hj hc⟩
      exact List.mem_append_left _ (List.mem_append_right _ (List.mem_ofFn.mpr ⟨j, rfl⟩))
    · intro t ht hbrace
      obtain rfl | ht | rfl := mem_enclose _ _ _ _ _ ht
      · simp [Row.borderToken] at hbrace
      · obtain ⟨k, rfl⟩ := List.mem_ofFn.mp ht
        exact ((sheet.token i k).isSymbol_of_mem hbrace).2 (by simp)
      · simp [Row.borderToken] at hbrace

theorem split_clean_rowText (wide : 2 ≤ columns ∨ borders.left = true) (i : Fin rows) :
    Row.split (Row.clean (sheet.rowText i)) = sheet.rowTokens i := by
  have hspace : Row.IsPlain ' ' := by unfold Row.IsPlain; decide
  rw [rowText]
  split
  · rw [Row.clean_intercalate hspace, map_clean_rowParts,
      Row.split_intercalate (sheet.isSolid_rowTokens i) (sheet.isReadable_rowTokens wide i)]
  · rename_i hcompact
    have single := sheet.compact i (by simpa using hcompact)
    rw [Row.clean_flatten, map_clean_rowParts, Row.split_flatten (sheet.isSolid_rowTokens i)
      (sheet.length_of_mem_rowTokens single)]

theorem split_clean_edgeText (glyphs : Fin (borders.span columns) → Glyph) :
    Row.split (Row.clean (edgeText glyphs)) = edgeTokens borders columns := by
  have hglyphs : ∀ c ∈ edgeText glyphs, Row.isBorderGlyph c = true := by
    intro c hc
    obtain ⟨k, rfl⟩ := List.mem_ofFn.mp hc
    exact (glyphs k).property
  have htokens : List.replicate (borders.span columns) '%' =
      (edgeTokens borders columns).flatten := by
    simp [edgeTokens, Row.borderToken]
  rw [Row.clean_glyphs hglyphs, edgeText, List.length_ofFn, htokens]
  refine Row.split_flatten (fun t ht => ?_) fun t ht => ?_
  · rw [(List.mem_replicate.mp ht).2]
    exact ⟨by decide, fun c hc => by rw [List.mem_singleton.mp hc]; decide⟩
  · rw [(List.mem_replicate.mp ht).2]
    rfl

theorem newline_not_mem_lines : ∀ line ∈ sheet.lines, '\n' ∉ line := by
  have hglyph : ∀ g : Glyph, g.val ≠ '\n' := by
    rintro ⟨c, hc⟩ rfl
    contradiction
  have hedge : ∀ glyphs : Fin (borders.span columns) → Glyph, '\n' ∉ edgeText glyphs := by
    intro glyphs hc
    obtain ⟨k, hk⟩ := List.mem_ofFn.mp hc
    exact hglyph _ hk
  have hparts : ∀ i, ∀ part ∈ sheet.rowParts i, '\n' ∉ part := by
    intro i part hpart hc
    obtain rfl | hpart | rfl := mem_enclose _ _ _ _ _ hpart
    · exact hglyph _ (List.mem_singleton.mp hc).symm
    · obtain ⟨j, rfl⟩ := List.mem_ofFn.mp hpart
      have := ((sheet.token i j).isSymbol_of_mem hc).1
      contradiction
    · exact hglyph _ (List.mem_singleton.mp hc).symm
  intro line hline hc
  obtain rfl | hline | rfl := mem_enclose _ _ _ _ _ hline
  · exact hedge _ hc
  · obtain ⟨i, rfl⟩ := List.mem_ofFn.mp hline
    rw [rowText] at hc
    split at hc
    · obtain h | ⟨part, hpart, hc⟩ := Text.mem_intercalate hc
      · contradiction
      · exact hparts i part hpart hc
    · obtain ⟨part, hpart, hc⟩ := List.mem_flatten.mp hc
      exact hparts i part hpart hc
  · exact hedge _ hc

/-- A printed board is read as its rows of tokens, whatever line breaks follow it. -/
theorem normalize_text (hcolumns : 0 < columns) (wide : 2 ≤ columns ∨ borders.left = true)
    (breaks : Nat) :
    Row.normalize (sheet.text ++ List.replicate breaks '\n') = sheet.tokens := by
  have hlines : sheet.lines.map (fun line => Row.split (Row.clean line)) = sheet.tokens := by
    rw [lines, map_enclose, split_clean_edgeText, split_clean_edgeText, List.map_ofFn, tokens]
    congr 1
    exact congrArg List.ofFn (funext fun i => sheet.split_clean_rowText wide i)
  have hne : ∀ row ∈ sheet.tokens, (!row.isEmpty) = true := by
    have hedge : edgeTokens borders columns ≠ [] := by
      simp only [edgeTokens, Sides.span, ne_eq, List.replicate_eq_nil_iff]
      omega
    intro row hrow
    obtain rfl | hrow | rfl := mem_enclose _ _ _ _ _ hrow
    · simpa using hedge
    · obtain ⟨i, rfl⟩ := List.mem_ofFn.mp hrow
      have hlength : 0 < (sheet.rowTokens i).length := by
        rw [rowTokens, length_enclose, List.length_ofFn]
        omega
      simpa using List.ne_nil_of_length_pos hlength
    · simpa using hedge
  rw [Row.normalize_append_newlines, text, Row.normalize_intercalate sheet.newline_not_mem_lines,
    hlines, List.filter_eq_self.mpr hne]

end Sheet

end BoardDiagram
