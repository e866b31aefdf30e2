import BoardDiagram.Proofs.Addresses
import BoardDiagram.Proofs.Lines

/-! Links as they are written.  A line is split at its last bar before its last closing bracket, so
an address may hold brackets; but a bar in an address is taken for the one that ends the anchor, and
its line gives no link.  In a text the last line that gives a link from an anchor counts. -/

namespace BoardDiagram

open Text

namespace Directive

/-- What stands before and after a `c` that is the last one. -/
theorem splitLast?_last {c : Char} (before : List Char) {after : List Char} (h : c ∉ after) :
    splitLast? c (before ++ c :: after) = some (before, after) := by
  have hlast : splitLast? c (before ++ [c]) = some (before, []) := by
    rw [splitLast?, List.reverse_append, List.reverse_singleton, List.singleton_append,
      List.dropWhile_cons_of_neg (by simp), List.takeWhile_cons_of_neg (by simp)]
    simp only [List.reverse_reverse, List.reverse_nil]
  rw [← List.singleton_append, ← List.append_assoc, splitLast?_append _ h, hlast]
  rfl

theorem firstLine_eq {s : List Char} (h : '\n' ∉ s) : firstLine s = s := by
  rw [firstLine, ← List.append_nil s, List.takeWhile_append_of_pos, List.takeWhile_nil]
  intro c hc
  exact decide_eq_true fun hbreak => h (hbreak ▸ hc)

theorem anchorChars_solid : ∀ c ∈ anchorChars, isBlank c = false ∧ c ≠ '\n' := by
  have hall : anchorChars.all (fun c => !isBlank c && c != '\n') = true := by decide
  intro c hc
  simpa using List.all_eq_true.mp hall c hc

/-- An anchor is no longer than one character. -/
theorem isAnchor_eq_false {anchor : List Char} {a b : Char} (hab : a ≠ b) (ha : a ∈ anchor)
    (hb : b ∈ anchor) : isAnchor anchor = false := by
  unfold isAnchor
  split
  · rw [List.mem_singleton] at ha hb
    exact absurd (ha.trans hb.symm) hab
  · rfl

end Directive

/-- A link that can be written: its anchor is one of those allowed, and its address is one line
without white space at its ends. -/
structure Link where
  anchor : Char
  url : List Char
  anchor_mem : anchor ∈ Directive.anchorChars
  url_line : '\n' ∉ url
  url_strip : strip url = url

namespace Link

open Directive

/-- The line of a link. -/
def line (link : Link) : List Char :=
  "$$ [".toList ++ link.anchor :: '|' :: link.url ++ [']']

/-- The address has a bar, as only the sign between anchor and address should be. -/
def HasBar (link : Link) : Prop :=
  '|' ∈ link.url

instance (link : Link) : Decidable link.HasBar :=
  inferInstanceAs (Decidable ('|' ∈ link.url))

variable (link : Link)

/-- A closing bracket in the address is no end of the link. -/
theorem bracketed?_line : bracketed? link.line =
    (splitLast? '|' (link.anchor :: '|' :: link.url)).map fun sides =>
      (strip sides.1, strip sides.2) := by
  have hcontent : content? link.line =
      some ('[' :: (link.anchor :: '|' :: link.url) ++ [']']) := rfl
  have hline : '\n' ∉ link.anchor :: '|' :: link.url ++ [']'] := by
    have hanchor := (anchorChars_solid _ link.anchor_mem).2
    simp [link.url_line, hanchor.symm]
  simp only [bracketed?, hcontent, List.cons_append]
  simp only [← List.cons_append, firstLine_eq hline, splitLast?_last _ List.not_mem_nil,
    Option.bind_eq_bind, Option.bind_some]
  cases splitLast? '|' (link.anchor :: '|' :: link.url) <;> rfl

theorem strip_anchor : strip [link.anchor] = [link.anchor] := by
  have hanchor := (anchorChars_solid _ link.anchor_mem).1
  have hsolid : ∃ c ∈ [link.anchor], isBlank c = false :=
    ⟨link.anchor, List.mem_singleton_self _, hanchor⟩
  have htrim : trimStart [link.anchor] = [link.anchor] := by
    rw [trimStart, List.dropWhile_cons_of_neg (by rw [hanchor]; exact Bool.false_ne_true)]
  rw [strip, htrim, trimEnd, List.reverse_singleton]
  exact congrArg List.reverse htrim

theorem link?_line_of_not_hasBar (h : ¬ link.HasBar) :
    link? link.line = some ([link.anchor], link.url) := by
  have hsplit : splitLast? '|' ([link.anchor] ++ '|' :: link.url) =
      some ([link.anchor], link.url) := splitLast?_last _ h
  have hanchor : isAnchor [link.anchor] = true := List.contains_iff_mem.mpr link.anchor_mem
  rw [List.singleton_append] at hsplit
  rw [link?, bracketed?_line, hsplit, Option.map_some, strip_anchor, link.url_strip,
    Option.filter_some, if_pos hanchor]

/-- A bar in the address moves the end of the anchor there, and there is no such anchor. -/
theorem link?_line_of_hasBar (h : link.HasBar) : link? link.line = none := by
  -- the last bar of the address
  obtain ⟨after, before, hreverse, hafter⟩ :=
    List.eq_append_cons_of_mem (List.mem_reverse.mpr h)
  have hurl : link.url = before.reverse ++ '|' :: after.reverse := by
    rw [← List.reverse_reverse link.url, hreverse]
    simp only [List.reverse_append, List.reverse_cons, List.append_assoc, List.singleton_append]
  have hsplit : splitLast? '|' ((link.anchor :: '|' :: before.reverse) ++ '|' :: after.reverse) =
      some (link.anchor :: '|' :: before.reverse, after.reverse) := by
    apply splitLast?_last
    rwa [List.mem_reverse]
  have hanchor := (anchorChars_solid _ link.anchor_mem).1
  have hdropped : isAnchor (strip (link.anchor :: '|' :: before.reverse)) = false := by
    have hbar : link.anchor ≠ '|' := fun heq => by
      have hmem := heq ▸ link.anchor_mem
      contradiction
    apply isAnchor_eq_false hbar
    · exact mem_strip List.mem_cons_self hanchor
    · exact mem_strip (List.mem_cons_of_mem _ List.mem_cons_self) rfl
  rw [List.cons_append, List.cons_append, ← hurl] at hsplit
  rw [link?, bracketed?_line, hsplit, Option.map_some, Option.filter_some, if_neg]
  rw [hdropped]
  exact Bool.false_ne_true

/-- What the line of a link gives. -/
theorem link?_line :
    link? link.line = if link.HasBar then none else some ([link.anchor], link.url) := by
  split
  · exact link?_line_of_hasBar link ‹_›
  · exact link?_line_of_not_hasBar link ‹_›

theorem row?_line : row? link.line = none := by
  have hstrip : strip link.line = link.line := by
    have h := strip_append_append (a := ['$']) (c := [']'])
      ("$ [".toList ++ link.anchor :: '|' :: link.url) ⟨'$', by decide⟩ ⟨']', by decide⟩
    exact h
  rw [row?, hstrip]
  rfl

end Link

/-! ### Links of a text -/

namespace Diagram

variable {first : List Char} {rest : List (List Char)} {header : Header}

theorem isBlankText_of_header (h : Header.ofLine first = .ok header) :
    isBlankText first = false := by
  by_contra hblank
  rw [Bool.not_eq_false] at hblank
  rw [Header.ofLine, Header.parts?, strip_eq_nil hblank] at h
  cases h

section Lines

variable (hheader : Header.ofLine first = .ok header)
  (hlines : ∀ line ∈ first :: rest, '\n' ∉ line)
include hheader hlines

theorem dropBlankLines_intercalate :
    dropBlankLines (lines (['\n'].intercalate (first :: rest))) = first :: rest := by
  rw [lines, List.splitOn_intercalate '\n' hlines (List.cons_ne_nil _ _)]
  exact dropBlankLines_of_solid (isBlankText_of_header hheader) rest

theorem content_intercalate :
    content (['\n'].intercalate (first :: rest)) = Directive.scan rest := by
  rw [content, dropBlankLines_intercalate hheader hlines, List.tail_cons]

theorem header_intercalate :
    Header.ofLine (firstLine (['\n'].intercalate (first :: rest))) = .ok header := by
  rw [firstLine, dropBlankLines_intercalate hheader hlines]
  exact hheader

end Lines

end Diagram

namespace Link

open Directive

/-- Lines that give links, and none of which can be taken for another link. -/
theorem filterMap_link?_line (links : List Link) : (links.map line).filterMap link? =
    (links.filter (¬ ·.HasBar)).map fun link => ([link.anchor], link.url) := by
  induction links with
  | nil => rfl
  | cons link links ih =>
    rw [List.map_cons, List.filterMap_cons, link?_line, ih]
    by_cases hbar : link.HasBar
    · rw [if_pos hbar, List.filter_cons_of_neg (by simpa using hbar)]
    · rw [if_neg hbar, List.filter_cons_of_pos (by simpa using hbar), List.map_cons]

theorem filterMap_link?_filter (lines : List (List Char)) :
    (lines.filter fun line => (bracketed? line).isSome).filterMap link? =
      lines.filterMap link? := by
  rw [List.filterMap_filter]
  apply List.filterMap_congr
  intro line _
  rw [link?]
  cases bracketed? line <;> rfl

theorem filterMap_row?_line (links : List Link) : (links.map line).filterMap row? = [] := by
  rw [List.filterMap_map]
  exact List.filterMap_eq_nil_iff.mpr fun link _ => row?_line link

/-- The address that a list of links gives for an anchor. -/
def lastUrl? (links : List Link) (anchor : List Char) : Option (List Char) :=
  ((links.filter fun link => ¬ link.HasBar ∧ [link.anchor] = anchor).getLast?).map url

/-- Links are read as they were written unless their address has a bar.  In a text whose lines in
brackets are those of links, each anchor has the address of its last link without a bar; and a text
of nothing but links is read. -/
theorem read_lines (links : List Link) :
    (∀ link ∈ links, link? link.line =
      if link.HasBar then none else some ([link.anchor], link.url)) ∧
    ∀ (first : List Char) (rest : List (List Char)) (header : Header),
      Header.ofLine first = .ok header → (∀ line ∈ first :: rest, '\n' ∉ line) →
      (rest.filter fun line => (bracketed? line).isSome) = links.map line →
      ∀ font,
        (rest = links.map line →
          ∃ diagram, Diagram.ofText (['\n'].intercalate (first :: rest)) font = .ok diagram) ∧
        ∀ diagram, Diagram.ofText (['\n'].intercalate (first :: rest)) font = .ok diagram →
          ∀ anchor, diagram.links.get? anchor = lastUrl? links anchor := by
  refine ⟨fun link _ => link?_line link, ?_⟩
  intro first rest header hheader hlines hlinks font
  have hline := Diagram.header_intercalate hheader hlines
  have hcontent := Diagram.content_intercalate hheader hlines
  constructor
  · intro hrest
    -- links are no rows, so there is no board, and that is a reason to read the text as none
    have hbody : (Diagram.content (['\n'].intercalate (first :: rest))).body = [] := by
      rw [hcontent, scan, hrest, filterMap_row?_line, List.flatMap_nil]
    have hboard : Diagram.attempt (Board.ofBody [] font header.coordinates) =
        .ok (.error .noRows) := rfl
    rw [← hbody] at hboard
    exact ⟨_, Diagram.ofText_eq_ok.mpr (.inr ⟨header, .error .noRows, hline, hboard, rfl⟩)⟩
  · intro diagram hdiagram anchor
    rw [Diagram.links_of_ofText hdiagram, Diagram.linksOf_of_ok hline, hcontent, scan,
      ← filterMap_link?_filter, hlinks, filterMap_link?_line, Links.get?_ofList, List.filter_map,
      List.getLast?_map, Option.map_map, List.filter_filter, lastUrl?]
    simp only [Function.comp_def, Bool.and_comm, Bool.decide_and]

/-- A link to a page whose address has a bracket, and one whose address has a bar. -/
def signposts : List Link :=
  [⟨'a', "x]".toList, by decide, by decide, by decide⟩,
    ⟨'a', "x|y".toList, by decide, by decide, by decide⟩,
    ⟨'W', [], by decide, by decide, by decide⟩]

/-- The links of a text with a row among them, and of a text of nothing but links. -/
theorem read_lines_signposts :
    (∃ diagram, Diagram.ofText "$$ T\n$$ [a|x]]\n$$ a .\n$$ [a|x|y]\n$$ [W|]".toList .default =
        .ok diagram ∧ diagram.links.get? ['a'] = some "x]".toList ∧
        diagram.links.get? ['W'] = some [] ∧ diagram.links.get? ['b'] = none) ∧
      ∃ diagram, Diagram.ofText "$$ T\n$$ [a|x]]\n$$ [a|x|y]\n$$ [W|]".toList .default =
        .ok diagram := by
  have hheader : Header.ofLine "$$ T".toList = .ok { title := ['T'] } := by decide
  have hread : (Diagram.ofText "$$ T\n$$ [a|x]]\n$$ a .\n$$ [a|x|y]\n$$ [W|]".toList
      .default).toOption.isSome = true := by decide +kernel
  obtain ⟨diagram, hdiagram⟩ := Option.isSome_iff_exists.mp hread
  rw [toOption_eq_some] at hdiagram
  obtain ⟨-, hmixed⟩ := (read_lines signposts).2 "$$ T".toList
    ["$$ [a|x]]".toList, "$$ a .".toList, "$$ [a|x|y]".toList, "$$ [W|]".toList] _
    hheader (by decide) (by decide) .default
  obtain ⟨hlinks, -⟩ := (read_lines signposts).2 "$$ T".toList (signposts.map line) _
    hheader (by decide) (by decide) .default
  have hget := hmixed diagram hdiagram
  exact ⟨⟨diagram, hdiagram, hget ['a'], hget ['W'], hget ['b']⟩, hlinks rfl⟩

/-- A link from an allowed anchor whose line gives no link, nor does a text of that line. -/
theorem not_read_line : ∃ link : Link, link.anchor = 'a' ∧ link.url = "x|y".toList ∧
    link.line = "$$ [a|x|y]".toList ∧ link? link.line ≠ some ([link.anchor], link.url) ∧
    (Diagram.linksOf "$$\n$$ [a|x|y]".toList).get? [link.anchor] ≠ some link.url := by
  exact ⟨⟨'a', "x|y".toList, by decide, by decide, by decide⟩, rfl, rfl, rfl, by decide, by decide⟩

end Link

end BoardDiagram
