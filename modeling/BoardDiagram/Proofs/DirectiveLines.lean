import BoardDiagram.Proofs.LinkLines
import Mathlib.Data.List.TakeWhile

/-! The grammar of the lines behind the first of a diagram.  A link is two dollar signs, white
space, and in brackets an anchor and an address with a bar between them; a row is two dollar signs,
white space and a text, with white space at both ends.  A line is read exactly when it can be taken
apart in that way, and then it gives the parts: `link?_grammar` says so for links,
`RowParts.row?_line` and `exists_rowParts` for rows.  A line can be taken apart in one way only. -/

namespace BoardDiagram.Directive

open Text

/-- What stands before and after a `c` with none behind it. -/
theorem splitLast?_eq_some_iff {c : Char} {s before after : List Char} :
    splitLast? c s = some (before, after) ↔ s = before ++ c :: after ∧ c ∉ after := by
  constructor
  · intro h
    have hs : s.reverse.takeWhile (· ≠ c) ++ s.reverse.dropWhile (· ≠ c) = s.reverse :=
      List.takeWhile_append_dropWhile
    have hafter : ∀ d ∈ s.reverse.takeWhile (· ≠ c), d ≠ c := fun d hd => by
      simpa using List.mem_takeWhile_imp hd
    unfold splitLast? at h
    split at h
    · rename_i d rest hrest
      obtain ⟨rfl, rfl⟩ := Prod.mk.inj (Option.some.inj h)
      have hd : d = c := by
        have hhead := List.head?_dropWhile_not (fun d => decide (d ≠ c)) s.reverse
        rw [hrest] at hhead
        simpa using hhead
      refine ⟨?_, fun hc => hafter c (List.mem_reverse.mp hc) rfl⟩
      have hreverse := congrArg List.reverse hs
      rw [hrest, hd, List.reverse_reverse] at hreverse
      simpa using hreverse.symm
    · cases h
  · rintro ⟨rfl, hafter⟩
    exact splitLast?_last before hafter

/-- White space before a character that is none can be taken off in one way only. -/
theorem trimStart_gap {gap : List Char} (hgap : isBlankText gap = true) {c : Char}
    (hc : isBlank c = false) (rest : List Char) : trimStart (gap ++ c :: rest) = c :: rest := by
  rw [trimStart_blank_append hgap, trimStart, List.dropWhile_cons_of_neg]
  rw [hc]
  exact Bool.false_ne_true

/-- What follows the dollar signs of a line is white space and the content. -/
theorem content?_eq_some {line rest : List Char} (h : content? line = some rest) :
    ∃ gap, isBlankText gap = true ∧ line = '$' :: '$' :: (gap ++ rest) := by
  unfold content? at h
  split at h
  · rename_i tail
    obtain ⟨gap, hgap, htail⟩ := exists_eq_append_trimStart tail
    cases h
    exact ⟨gap, hgap, congrArg _ (congrArg _ htail)⟩
  · cases h

theorem solid_of_content? {line rest : List Char} {c : Char}
    (h : content? line = some (c :: rest)) : isBlank c = false := by
  unfold content? at h
  split at h
  · rename_i tail
    apply isBlank_of_head?_trimStart (s := tail)
    rw [Option.some.inj h, List.head?_cons]
  · cases h

/-! ### Links -/

/-- A line taken apart as a link. -/
structure LinkParts where
  /-- What stands between the dollar signs and the bracket that opens. -/
  gap : List Char
  /-- What stands before the bar. -/
  left : List Char
  right : List Char
  /-- What stands behind the bracket that closes. -/
  tail : List Char
  gap_blank : isBlankText gap = true
  right_bar : '|' ∉ right
  tail_bracket : ']' ∉ tail

namespace LinkParts

def inside (parts : LinkParts) : List Char :=
  parts.left ++ '|' :: parts.right

/-- The line that has these parts. -/
def line (parts : LinkParts) : List Char :=
  '$' :: '$' :: (parts.gap ++ '[' :: (parts.inside ++ ']' :: parts.tail))

theorem content?_line (parts : LinkParts) :
    content? parts.line = some ('[' :: (parts.inside ++ ']' :: parts.tail)) := by
  rw [line, content?_cons, trimStart_gap parts.gap_blank (by decide)]

theorem splitLast?_bracket (parts : LinkParts) :
    splitLast? ']' (parts.inside ++ ']' :: parts.tail) = some (parts.inside, parts.tail) :=
  splitLast?_last parts.inside parts.tail_bracket

theorem splitLast?_bar (parts : LinkParts) :
    splitLast? '|' parts.inside = some (parts.left, parts.right) :=
  splitLast?_last parts.left parts.right_bar

/-- A line can be taken apart in one way only. -/
theorem line_injective : Function.Injective line := by
  intro parts other hline
  have hcontent := congrArg content? hline
  rw [content?_line, content?_line, Option.some.injEq, List.cons.injEq] at hcontent
  obtain ⟨-, hinside⟩ := hcontent
  have hbracket := congrArg (splitLast? ']') hinside
  rw [splitLast?_bracket, splitLast?_bracket, Option.some.injEq, Prod.mk.injEq] at hbracket
  have hbar := congrArg (splitLast? '|') hbracket.1
  rw [splitLast?_bar, splitLast?_bar, Option.some.injEq, Prod.mk.injEq] at hbar
  have hgap : parts.gap = other.gap := by
    rw [line, line, hinside] at hline
    simpa using hline
  cases parts
  cases other
  simp_all

theorem bracketed?_line {parts : LinkParts} (h : '\n' ∉ parts.line) :
    bracketed? parts.line = some (strip parts.left, strip parts.right) := by
  have hinside : '\n' ∉ parts.inside ++ ']' :: parts.tail := by
    intro hmem
    apply h
    simp only [line, List.mem_cons, List.mem_append]
    simp only [List.mem_cons, List.mem_append] at hmem
    tauto
  simp only [bracketed?, content?_line, firstLine_eq hinside, splitLast?_bracket, splitLast?_bar,
    Option.bind_eq_bind, Option.bind_some]
  rfl

end LinkParts

theorem exists_linkParts {line anchor url : List Char} (hline : '\n' ∉ line)
    (h : bracketed? line = some (anchor, url)) : ∃ parts : LinkParts,
      parts.line = line ∧ strip parts.left = anchor ∧ strip parts.right = url := by
  unfold bracketed? at h
  split at h
  · rename_i rest hcontent
    obtain ⟨gap, hgap, rfl⟩ := content?_eq_some hcontent
    have hrest : '\n' ∉ rest := fun hmem => hline (by simp [hmem])
    rw [firstLine_eq hrest] at h
    simp only [Option.bind_eq_bind, Option.bind_eq_some_iff] at h
    obtain ⟨⟨inside, tail⟩, hbracket, ⟨left, right⟩, hbar, h⟩ := h
    obtain ⟨rfl, htail⟩ := splitLast?_eq_some_iff.mp hbracket
    obtain ⟨rfl, hright⟩ := splitLast?_eq_some_iff.mp hbar
    obtain ⟨hanchor, hurl⟩ := Prod.mk.inj (Option.some.inj h)
    exact ⟨⟨gap, left, right, tail, hgap, hright, htail⟩, rfl, hanchor, hurl⟩
  · cases h

theorem isAnchor_iff {anchor : List Char} :
    isAnchor anchor = true ↔ ∃ c ∈ anchorChars, anchor = [c] := by
  constructor
  · intro h
    unfold isAnchor at h
    split at h
    · rename_i c
      exact ⟨c, List.contains_iff_mem.mp h, rfl⟩
    · contradiction
  · rintro ⟨c, hc, rfl⟩
    exact List.contains_iff_mem.mpr hc

theorem link?_eq_some_iff {line anchor url : List Char} (h : '\n' ∉ line) :
    link? line = some (anchor, url) ↔ ∃ parts : LinkParts, parts.line = line ∧
      strip parts.left = anchor ∧ strip parts.right = url ∧ ∃ c ∈ anchorChars, anchor = [c] := by
  rw [link?, Option.filter_eq_some_iff, isAnchor_iff]
  constructor
  · rintro ⟨hbracketed, hanchor⟩
    obtain ⟨parts, hparts, hleft, hright⟩ := exists_linkParts h hbracketed
    exact ⟨parts, hparts, hleft, hright, hanchor⟩
  · rintro ⟨parts, rfl, rfl, rfl, hanchor⟩
    exact ⟨LinkParts.bracketed?_line h, hanchor⟩

/-- A line of links is read as its grammar says, and in no other way: the last closing bracket ends
the link, the last bar before it ends the anchor, and a line that cannot be taken apart so, or whose
anchor is not one of those allowed, is no link. -/
theorem link?_grammar {line : List Char} (h : '\n' ∉ line) :
    (∀ anchor url, link? line = some (anchor, url) ↔ ∃ parts : LinkParts, parts.line = line ∧
      strip parts.left = anchor ∧ strip parts.right = url ∧ ∃ c ∈ anchorChars, anchor = [c]) ∧
      (link? line = none ↔ ∀ parts : LinkParts, parts.line = line →
        ∀ c ∈ anchorChars, strip parts.left ≠ [c]) ∧
      ∀ parts other : LinkParts, parts.line = line → other.line = line → parts = other := by
  refine ⟨fun anchor url => link?_eq_some_iff h, ?_, ?_⟩
  · rw [Option.eq_none_iff_forall_ne_some]
    constructor
    · intro hnone parts hparts c hc hleft
      exact hnone _ ((link?_eq_some_iff h).mpr ⟨parts, hparts, rfl, rfl, c, hc, hleft⟩)
    · rintro hparts ⟨anchor, url⟩ hsome
      obtain ⟨parts, hline, hleft, -, c, hc, rfl⟩ := (link?_eq_some_iff h).mp hsome
      exact hparts parts hline c hc hleft
  · intro parts other hparts hother
    exact LinkParts.line_injective (hparts.trans hother.symm)

/-- A line with brackets inside its address, bars behind its end and white space about its parts. -/
theorem link?_grammar_signpost : ∃ parts : LinkParts,
    parts.line = "$$\t[ a |x[y]z ] |w".toList ∧ strip parts.left = ['a'] ∧
      strip parts.right = "x[y]z".toList ∧
      (∀ other : LinkParts, other.line = "$$\t[ a |x[y]z ] |w".toList → other = parts) ∧
      link? "$$\t[ a |x".toList = none := by
  obtain ⟨hread, -, hunique⟩ := link?_grammar (show '\n' ∉ "$$\t[ a |x[y]z ] |w".toList by decide)
  obtain ⟨parts, hline, hleft, hright, -⟩ := (hread ['a'] "x[y]z".toList).mp (by decide)
  exact ⟨parts, hline, hleft, hright, fun other hother => hunique other parts hother hline,
    by decide⟩

/-! ### Rows -/

/-- A line taken apart as a row. -/
structure RowParts where
  /-- What stands before the dollar signs. -/
  indent : List Char
  /-- What stands between the dollar signs and the row. -/
  gap : List Char
  text : List Char
  /-- What stands behind the row. -/
  tail : List Char
  indent_blank : isBlankText indent = true
  gap_blank : isBlankText gap = true
  tail_blank : isBlankText tail = true
  text_head : ∃ c ∈ text.head?, isBlank c = false ∧ c ≠ '['
  text_last : ∃ c ∈ text.getLast?, isBlank c = false

namespace RowParts

/-- The line that has these parts. -/
def line (parts : RowParts) : List Char :=
  parts.indent ++ '$' :: '$' :: (parts.gap ++ (parts.text ++ parts.tail))

theorem exists_cons (parts : RowParts) :
    ∃ c rest, parts.text = c :: rest ∧ isBlank c = false ∧ c ≠ '[' := by
  obtain ⟨c, hc, hsolid⟩ := parts.text_head
  obtain ⟨rest, hrest⟩ := List.head?_eq_some_iff.mp hc
  exact ⟨c, rest, hrest, hsolid⟩

theorem strip_line (parts : RowParts) :
    strip parts.line = '$' :: '$' :: (parts.gap ++ parts.text) := by
  obtain ⟨c, hc, hsolid⟩ := parts.text_last
  have htrim : trimEnd parts.text = parts.text := trimEnd_of_getLast? hc hsolid
  have hline : parts.line =
      parts.indent ++ (['$'] ++ ('$' :: parts.gap) ++ parts.text ++ parts.tail) := by
    simp [line]
  rw [hline, strip_blank_append parts.indent_blank, strip_append_blank parts.tail_blank,
    strip_append_append _ ⟨'$', by decide⟩ ⟨c, List.mem_of_getLast? hc, hsolid⟩, htrim]
  rfl

/-- A line can be taken apart in one way only. -/
theorem line_injective : Function.Injective line := by
  intro parts other hline
  obtain ⟨c, rest, htext, hsolid, -⟩ := parts.exists_cons
  obtain ⟨d, more, hmore, hother, -⟩ := other.exists_cons
  have hstrip := congrArg strip hline
  rw [strip_line, strip_line, List.cons.injEq, List.cons.injEq] at hstrip
  obtain ⟨-, -, hinside⟩ := hstrip
  have htexts : parts.text = other.text := by
    have htrim := congrArg trimStart hinside
    rwa [htext, hmore, trimStart_gap parts.gap_blank hsolid,
      trimStart_gap other.gap_blank hother, ← htext, ← hmore] at htrim
  have hgap : parts.gap = other.gap := by
    rw [htexts] at hinside
    exact List.append_cancel_right hinside
  have hbehind := congrArg trimStart hline
  rw [line, line, trimStart_gap parts.indent_blank (by decide),
    trimStart_gap other.indent_blank (by decide)] at hbehind
  have hindent : parts.indent = other.indent := by
    rw [line, line, hbehind] at hline
    exact List.append_cancel_right hline
  have htail : parts.tail = other.tail := by
    simpa [hgap, htexts] using hbehind
  cases parts
  cases other
  simp_all

theorem row?_line {parts : RowParts} (h : '\n' ∉ parts.line) :
    row? parts.line = some parts.text := by
  obtain ⟨c, rest, htext, hsolid, hbracket⟩ := parts.exists_cons
  have hrest : '\n' ∉ rest := fun hmem => h (by simp [line, htext, hmem])
  rw [row?, strip_line, content?_cons, htext, trimStart_gap parts.gap_blank hsolid]
  simp only [if_neg hbracket, firstLine_eq hrest]

end RowParts

theorem exists_rowParts {line row : List Char} (hline : '\n' ∉ line) (h : row? line = some row) :
    ∃ parts : RowParts, parts.line = line ∧ parts.text = row := by
  obtain ⟨indent, hindent, hstart⟩ := exists_eq_append_trimStart line
  obtain ⟨tail, htail, hend⟩ := exists_eq_trimEnd_append (trimStart line)
  unfold row? at h
  split at h
  · rename_i c rest hcontent
    obtain ⟨gap, hgap, hstrip⟩ := content?_eq_some hcontent
    have hparts : line = indent ++ '$' :: '$' :: (gap ++ (c :: rest ++ tail)) := by
      calc line = indent ++ (strip line ++ tail) := hstart.trans (congrArg _ hend)
        _ = _ := by rw [hstrip]; simp
    have hrest : '\n' ∉ rest := fun hmem => hline (by rw [hparts]; simp [hmem])
    rw [firstLine_eq hrest] at h
    split at h
    · cases h
    · rename_i hbracket
      cases h
      obtain ⟨d, hd⟩ : ∃ d, (c :: rest).getLast? = some d := by
        simp [List.getLast?_cons]
      have hlast : isBlank d = false := by
        apply isBlank_of_getLast?_trimEnd (s := trimStart line)
        show (strip line).getLast? = some d
        have hfront : strip line = ('$' :: '$' :: gap) ++ (c :: rest) := hstrip
        rw [hfront, List.getLast?_append, hd]
        rfl
      have hhead : isBlank c = false := solid_of_content? hcontent
      exact ⟨⟨indent, gap, c :: rest, tail, hindent, hgap, htail, ⟨c, rfl, hhead, hbracket⟩,
        ⟨d, hd, hlast⟩⟩, hparts.symm, rfl⟩
  · cases h

end BoardDiagram.Directive
