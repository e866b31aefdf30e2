import BoardDiagram.Proofs.DirectiveLines

/-! What the lines behind the first say together.  Each line is a row, a link, or neither.  The rows
come one below the other; the anchors come in the order in which each is linked first, with the
address that each is linked to last.  So rows and links may be mixed with each other and with other
lines in any way: only the order among the rows and the order among the links count. -/

namespace BoardDiagram

open Text

/-! ### The order of links -/

section Order

variable {α : Type} [BEq α] [LawfulBEq α]

/-- The keys that are given, once each and in the order in which each of them is given first. -/
structure InOrderOf (keys given : List α) : Prop where
  mem_iff : ∀ key, key ∈ keys ↔ key ∈ given
  pairwise : keys.Pairwise fun a b => given.idxOf a < given.idxOf b

omit [LawfulBEq α] in
theorem InOrderOf.nodup {keys given : List α} (h : InOrderOf keys given) : keys.Nodup :=
  h.pairwise.imp fun hlt heq => absurd (heq ▸ hlt) (Nat.lt_irrefl _)

/-- One more key that is given comes behind the others, unless it is among them. -/
theorem InOrderOf.concat {keys given : List α} (h : InOrderOf keys given) (key : α) :
    InOrderOf (if key ∈ keys then keys else keys ++ [key]) (given ++ [key]) := by
  have hindex : keys.Pairwise fun a b =>
      (given ++ [key]).idxOf a < (given ++ [key]).idxOf b := by
    refine h.pairwise.imp_of_mem fun ha hb hlt => ?_
    rwa [List.idxOf_append_of_mem ((h.mem_iff _).mp ha),
      List.idxOf_append_of_mem ((h.mem_iff _).mp hb)]
  split
  · rename_i hkey
    refine ⟨fun other => ?_, hindex⟩
    rw [List.mem_append, List.mem_singleton, ← h.mem_iff]
    constructor
    · exact .inl
    · rintro (hother | rfl)
      · exact hother
      · exact hkey
  · rename_i hkey
    have hgiven : key ∉ given := mt (h.mem_iff key).mpr hkey
    refine ⟨fun other => ?_, List.pairwise_append.mpr ⟨hindex, List.pairwise_singleton _ _, ?_⟩⟩
    · rw [List.mem_append, List.mem_append, h.mem_iff]
    · intro a ha b hb
      obtain rfl := List.mem_singleton.mp hb
      have ha := (h.mem_iff a).mp ha
      rw [List.idxOf_append_of_mem ha, List.idxOf_append_of_notMem hgiven]
      have hlt := List.idxOf_lt_length_of_mem ha
      omega

end Order

namespace Links

/-- The anchors of links, in order. -/
def anchors (links : Links) : List (List Char) :=
  links.entries.map Prod.fst

theorem map_fst_insertEntry (anchor url : List Char) (entries : List (List Char × List Char)) :
    (insertEntry anchor url entries).map Prod.fst =
      if anchor ∈ entries.map Prod.fst then entries.map Prod.fst
      else entries.map Prod.fst ++ [anchor] := by
  induction entries with
  | nil => rfl
  | cons entry rest ih =>
    rw [insertEntry]
    by_cases hentry : entry.1 = anchor
    · simp [hentry]
    · rw [if_neg hentry, List.map_cons, ih]
      by_cases hanchor : anchor ∈ rest.map Prod.fst
      · rw [if_pos hanchor, List.map_cons, if_pos (List.mem_cons_of_mem _ hanchor)]
      · have hnew : anchor ∉ (entry :: rest).map Prod.fst := by
          rw [List.map_cons, List.mem_cons, not_or]
          exact ⟨Ne.symm hentry, hanchor⟩
        rw [if_neg hanchor, if_neg hnew, List.map_cons, List.cons_append]

theorem anchors_insert (links : Links) (anchor url : List Char) :
    (links.insert anchor url).anchors =
      if anchor ∈ links.anchors then links.anchors else links.anchors ++ [anchor] :=
  map_fst_insertEntry anchor url links.entries

/-- The anchors of a list of links are ordered by their first links. -/
theorem inOrder_ofList (pairs : List (List Char × List Char)) :
    InOrderOf (ofList pairs).anchors (pairs.map Prod.fst) := by
  induction pairs using List.reverseRecOn with
  | nil => exact ⟨fun _ => Iff.rfl, .nil⟩
  | append_singleton pairs pair ih =>
    rw [ofList_concat, anchors_insert, List.map_append]
    exact ih.concat pair.1

/-- The last link from an anchor gives its address. -/
theorem get?_ofList_append {before after : List (List Char × List Char)} {anchor url : List Char}
    (h : ∀ pair ∈ after, pair.1 ≠ anchor) :
    (ofList (before ++ (anchor, url) :: after)).get? anchor = some url := by
  have hafter : after.filter (·.1 = anchor) = [] :=
    List.filter_eq_nil_iff.mpr fun pair hpair => by simpa using h pair hpair
  rw [get?_ofList, List.filter_append, List.filter_cons_of_pos (by simp), hafter,
    List.getLast?_concat]
  rfl

end Links

namespace Directive

/-! ### Rows and links -/

def isRow (line : List Char) : Bool :=
  (row? line).isSome

def isLink (line : List Char) : Bool :=
  (link? line).isSome

/-- A line of a link opens with a bracket, and a row with anything else. -/
theorem row?_eq_none_of_isLink {line : List Char} (h : isLink line = true) : row? line = none := by
  obtain ⟨pair, hpair⟩ := Option.isSome_iff_exists.mp h
  rw [link?, Option.filter_eq_some_iff] at hpair
  obtain ⟨hbracketed, -⟩ := hpair
  unfold bracketed? at hbracketed
  split at hbracketed
  · rename_i rest hcontent
    obtain ⟨gap, hgap, rfl⟩ := content?_eq_some hcontent
    have hstrip : strip ('$' :: '$' :: (gap ++ '[' :: rest)) =
        '$' :: '$' :: (gap ++ '[' :: trimEnd rest) := by
      have hbracket := strip_append_append (a := ['$']) (c := '[' :: rest) ('$' :: gap)
        ⟨'$', by decide⟩ ⟨'[', by simp; decide⟩
      have htrim : trimEnd ('[' :: rest) = '[' :: trimEnd rest :=
        trimEnd_solid_append (a := ['[']) (List.forall_mem_singleton.mpr rfl) rest
      rw [htrim] at hbracket
      exact hbracket
    rw [row?, hstrip, content?_cons, trimStart_gap hgap (by decide)]
    rfl
  · cases hbracketed

theorem row?_eq_none_or_link?_eq_none (line : List Char) :
    row? line = none ∨ link? line = none := by
  cases hlink : link? line with
  | none => exact .inr rfl
  | some pair => exact .inl (row?_eq_none_of_isLink (by rw [isLink, hlink]; rfl))

theorem isRow_iff {line : List Char} (h : '\n' ∉ line) :
    isRow line = true ↔ ∃! parts : RowParts, parts.line = line := by
  rw [isRow, Option.isSome_iff_exists]
  constructor
  · rintro ⟨row, hrow⟩
    obtain ⟨parts, hparts, -⟩ := exists_rowParts h hrow
    exact ⟨parts, hparts, fun other hother => RowParts.line_injective (hother.trans hparts.symm)⟩
  · rintro ⟨parts, rfl, -⟩
    exact ⟨parts.text, RowParts.row?_line h⟩

/-- The rows that lines hold, taken apart. -/
theorem exists_rows {lines : List (List Char)} (h : ∀ line ∈ lines, '\n' ∉ line) :
    ∃ rows : List RowParts, rows.map RowParts.line = lines.filter isRow ∧
      lines.filterMap row? = rows.map RowParts.text := by
  induction lines with
  | nil => exact ⟨[], rfl, rfl⟩
  | cons line lines ih =>
    obtain ⟨rows, hlines, htexts⟩ := ih fun other hother => h other (List.mem_cons_of_mem _ hother)
    cases hrow : row? line with
    | none =>
      refine ⟨rows, ?_, ?_⟩
      · rw [List.filter_cons_of_neg (by simp [isRow, hrow]), hlines]
      · rw [List.filterMap_cons_none hrow, htexts]
    | some row =>
      obtain ⟨parts, hparts, rfl⟩ := exists_rowParts (h line List.mem_cons_self) hrow
      refine ⟨parts :: rows, ?_, ?_⟩
      · rw [List.map_cons, hparts, hlines, List.filter_cons_of_pos (by simp [isRow, hrow])]
      · rw [List.filterMap_cons_some hrow, htexts, List.map_cons]

/-- What is read from rows and links can be read from them alone. -/
theorem filterMap_filter_isSome {α β : Type} (f : α → Option β) (as : List α) :
    (as.filter fun a => (f a).isSome).filterMap f = as.filterMap f := by
  rw [List.filterMap_filter]
  refine List.filterMap_congr fun a _ => ?_
  cases f a <;> rfl

theorem scan_eq_of_filter_eq {lines other : List (List Char)}
    (hrows : lines.filter isRow = other.filter isRow)
    (hlinks : lines.filter isLink = other.filter isLink) : scan lines = scan other := by
  rw [scan, scan, ← filterMap_filter_isSome row? lines, ← filterMap_filter_isSome link? lines,
    ← filterMap_filter_isSome row? other, ← filterMap_filter_isSome link? other]
  exact congrArg₂ _ (congrArg _ (congrArg _ hrows)) (congrArg _ (congrArg _ hlinks))

/-! ### The content of lines -/

/-- The rows and links that lines hold. -/
structure IsContentOf (lines : List (List Char)) (content : Content) : Prop where
  /-- A line adds to the rows or to the links, or to neither. -/
  exclusive : ∀ before line after, lines = before ++ line :: after →
    isRow line = false ∧ content.body = (scan (before ++ after)).body ∨
      isLink line = false ∧ content.links = (scan (before ++ after)).links
  /-- The rows are those of the lines that can be taken apart as rows, with a break behind each. -/
  rows : ∃ rows : List RowParts, rows.map RowParts.line = lines.filter isRow ∧
    content.body = (rows.map RowParts.text).flatMap (· ++ ['\n'])
  /-- A row starts with neither white space nor a bracket. -/
  row_start : ∀ row ∈ (Text.lines content.body).dropLast,
    ∃ c rest, row = c :: rest ∧ isBlank c = false ∧ c ≠ '['
  anchor_allowed : ∀ anchor ∈ content.links.anchors, ∃ c ∈ anchorChars, anchor = [c]
  anchor_nodup : content.links.anchors.Nodup
  anchor_order : InOrderOf content.links.anchors ((lines.filterMap link?).map Prod.fst)
  /-- Behind the last link from an anchor its address stays. -/
  last_url : ∀ before line after anchor url, lines = before ++ line :: after →
    link? line = some (anchor, url) → (∀ other ∈ after, ∀ url', link? other ≠ some (anchor, url')) →
    content.links.get? anchor = some url

theorem lines_flatMap_concat {rows : List (List Char)} (h : ∀ row ∈ rows, '\n' ∉ row) :
    Text.lines (rows.flatMap (· ++ ['\n'])) = rows ++ [[]] := by
  induction rows with
  | nil => rfl
  | cons row rows ih =>
    rw [List.flatMap_cons, List.append_assoc, List.singleton_append, lines_append_newline,
      lines_eq_singleton (h row List.mem_cons_self),
      ih fun other hother => h other (List.mem_cons_of_mem row hother), List.singleton_append,
      List.cons_append]

theorem scan_exclusive (before : List (List Char)) (line : List Char) (after : List (List Char)) :
    isRow line = false ∧ (scan (before ++ line :: after)).body = (scan (before ++ after)).body ∨
      isLink line = false ∧
        (scan (before ++ line :: after)).links = (scan (before ++ after)).links := by
  simp only [scan, List.filterMap_append]
  obtain hrow | hlink := row?_eq_none_or_link?_eq_none line
  · exact .inl ⟨by rw [isRow, hrow]; rfl, by rw [List.filterMap_cons_none hrow]⟩
  · exact .inr ⟨by rw [isLink, hlink]; rfl, by rw [List.filterMap_cons_none hlink]⟩

theorem isContentOf_scan {lines : List (List Char)} (h : ∀ line ∈ lines, '\n' ∉ line) :
    IsContentOf lines (scan lines) := by
  obtain ⟨rows, hlines, htexts⟩ := exists_rows h
  have hbody : (scan lines).body = (rows.map RowParts.text).flatMap (· ++ ['\n']) :=
    congrArg (List.flatMap (· ++ ['\n'])) htexts
  have horder := Links.inOrder_ofList (lines.filterMap link?)
  refine ⟨?_, ⟨rows, hlines, hbody⟩, ?_, ?_, horder.nodup, horder, ?_⟩
  · rintro before line after rfl
    exact scan_exclusive before line after
  · have hbreak : ∀ row ∈ rows.map RowParts.text, '\n' ∉ row := by
      intro row hrow hmem
      obtain ⟨parts, hparts, rfl⟩ := List.mem_map.mp hrow
      have hline : parts.line ∈ lines.filter isRow := hlines ▸ List.mem_map_of_mem hparts
      exact h parts.line (List.mem_filter.mp hline).1 (by simp [RowParts.line, hmem])
    intro row hrow
    rw [hbody, lines_flatMap_concat hbreak, List.dropLast_concat] at hrow
    obtain ⟨parts, -, rfl⟩ := List.mem_map.mp hrow
    exact parts.exists_cons
  · intro anchor hanchor
    obtain ⟨pair, hpair, rfl⟩ := List.mem_map.mp ((horder.mem_iff anchor).mp hanchor)
    obtain ⟨line, -, hlink⟩ := List.mem_filterMap.mp hpair
    rw [link?, Option.filter_eq_some_iff] at hlink
    exact isAnchor_iff.mp hlink.2
  · rintro before line after anchor url rfl hlink hafter
    show (Links.ofList _).get? anchor = some url
    rw [List.filterMap_append, List.filterMap_cons_some hlink]
    refine Links.get?_ofList_append fun pair hpair hanchor => ?_
    obtain ⟨other, hother, hpair⟩ := List.mem_filterMap.mp hpair
    exact hafter other hother pair.2 (by rw [hpair, ← hanchor])

/-- Lines are read as rows and links, each in their own order. -/
theorem scan_rows_and_links :
    (∀ lines : List (List Char), (∀ line ∈ lines, '\n' ∉ line) →
      IsContentOf lines (scan lines) ∧
        ∀ line ∈ lines, isRow line = true ↔ ∃! parts : RowParts, parts.line = line) ∧
      ∀ lines other : List (List Char), lines.filter isRow = other.filter isRow →
        lines.filter isLink = other.filter isLink → scan lines = scan other := by
  refine ⟨fun lines h => ⟨isContentOf_scan h, fun line hline => isRow_iff (h line hline)⟩, ?_⟩
  exact fun lines other => scan_eq_of_filter_eq

/-- Rows and links among each other and among lines that are neither, with an anchor that is linked
twice. -/
def mixedLines : List (List Char) :=
  ["$$ [b|x]".toList, "  $$ X O ".toList, "A remark".toList, "$$ [a|y]".toList, "$$".toList,
    "$$. .".toList, "$$ [b|z]".toList]

theorem scan_rows_and_links_mixed : IsContentOf mixedLines (scan mixedLines) ∧
    (∃! parts : RowParts, parts.line = "  $$ X O ".toList) ∧
    scan mixedLines = scan ["  $$ X O ".toList, "$$. .".toList, "$$ [b|x]".toList,
      "$$ [a|y]".toList, "$$ [b|z]".toList] ∧
    scan mixedLines = ⟨"X O\n. .\n".toList, ⟨[(['b'], ['z']), (['a'], ['y'])]⟩⟩ := by
  obtain ⟨hcontent, hrows⟩ := scan_rows_and_links.1 mixedLines (by decide)
  refine ⟨hcontent, (hrows _ (by decide)).mp (by decide), ?_, by decide⟩
  exact scan_rows_and_links.2 mixedLines _ (by decide) (by decide)

end Directive

end BoardDiagram
