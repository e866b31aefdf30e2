import BoardDiagram.Proofs.Printed

/-! Reading a printed board gives the board back: its edges, its window, its cells in their places,
and the sides on which each place borders on an edge. -/

namespace BoardDiagram

namespace Sheet

variable {rows columns : Nat} {borders : Sides} (sheet : Sheet rows columns borders)

/-! ### The tokens of a printed board by place -/

theorem getElem?_tokens (i : Fin rows) :
    sheet.tokens[borders.top.toNat + i]? = some (sheet.rowTokens i) := by
  rw [tokens, getElem?_enclose_inner _ _ _ _ _ (by simp), List.getElem?_ofFn, dif_pos i.isLt]

theorem getElem?_tokens_below :
    sheet.tokens[borders.top.toNat + rows]? =
      if borders.bottom then some (edgeTokens borders columns) else none := by
  have h := getElem?_enclose_last borders.top borders.bottom (edgeTokens borders columns)
    (edgeTokens borders columns) (List.ofFn sheet.rowTokens)
  rwa [List.length_ofFn] at h

theorem getElem?_rowTokens (i : Fin rows) (j : Fin columns) :
    (sheet.rowTokens i)[borders.left.toNat + j]? = some (sheet.token i j).text := by
  rw [rowTokens, getElem?_enclose_inner _ _ _ _ _ (by simp), List.getElem?_ofFn, dif_pos j.isLt]

theorem getElem?_rowTokens_behind (i : Fin rows) :
    (sheet.rowTokens i)[borders.left.toNat + columns]? =
      if borders.right then some Row.borderToken else none := by
  have h := getElem?_enclose_last borders.left borders.right Row.borderToken Row.borderToken
    (List.ofFn fun j => (sheet.token i j).text)
  rwa [List.length_ofFn] at h

theorem getElem?_edgeTokens {k : Nat} (h : k < borders.span columns) :
    (edgeTokens borders columns)[k]? = some Row.borderToken := by
  rw [edgeTokens, List.getElem?_replicate, if_pos h]

theorem tokenAt_tokens (i : Fin rows) (j : Fin columns) :
    Grid.tokenAt sheet.tokens (borders.top.toNat + i) (borders.left.toNat + j) =
      some (sheet.token i j).text := by
  rw [Grid.tokenAt, getElem?_tokens, Option.bind_some, getElem?_rowTokens]

theorem length_le_of_mem_tokens : ∀ row ∈ sheet.tokens, ∀ t ∈ row, t.length ≤ digitLimit := by
  have hborder : Row.borderToken.length ≤ digitLimit := by decide
  have hedge : ∀ t ∈ edgeTokens borders columns, t.length ≤ digitLimit := by
    intro t ht
    rwa [(List.mem_replicate.mp ht).2]
  intro row hrow
  obtain rfl | hrow | rfl := mem_enclose _ _ _ _ _ hrow
  · exact hedge
  · obtain ⟨i, rfl⟩ := List.mem_ofFn.mp hrow
    intro t ht
    obtain rfl | ht | rfl := mem_enclose _ _ _ _ _ ht
    · exact hborder
    · obtain ⟨j, rfl⟩ := List.mem_ofFn.mp ht
      exact (sheet.token i j).length_text_le
    · exact hborder
  · exact hedge

/-! ### The frame of a printed board -/

theorem showsBorder_edgeTokens {k : Nat} (h : k < borders.span columns) :
    Grid.showsBorder (edgeTokens borders columns) k = true := by
  simp [Grid.showsBorder, getElem?_edgeTokens h]

theorem showsBorder_token (i : Fin rows) (j : Fin columns) :
    Grid.showsBorder (sheet.rowTokens i) (borders.left.toNat + j) = false := by
  simp [Grid.showsBorder, getElem?_rowTokens, (sheet.token i j).text_ne_border]

/-- The second token of a row is that of a place. -/
theorem showsBorder_second (wide : 2 ≤ columns ∨ borders.left = true) (hcolumns : 0 < columns)
    (i : Fin rows) : Grid.showsBorder (sheet.rowTokens i) 1 = false := by
  cases hleft : borders.left with
  | true =>
    have h := sheet.showsBorder_token i ⟨0, hcolumns⟩
    rwa [hleft] at h
  | false =>
    have htwo : 1 < columns := by simp [hleft] at wide; omega
    have h := sheet.showsBorder_token i ⟨1, htwo⟩
    rwa [hleft] at h

theorem rowSpan_tokens (hrows : 0 < rows) (hcolumns : 0 < columns)
    (wide : 2 ≤ columns ∨ borders.left = true) :
    Grid.rowSpan sheet.tokens =
      (↑borders.top.toNat, (borders.top.toNat : Int) + rows - 1, borders.top, borders.bottom) := by
  have hspan : 1 < borders.span columns := by
    rw [Sides.span]
    obtain hwide | hleft := wide
    · omega
    · rw [hleft, Bool.toNat_true]
      omega
  have hsecond := sheet.showsBorder_second wide hcolumns
  have htop : Grid.showsBorder (sheet.tokens.head?.getD []) 1 = borders.top := by
    rw [List.head?_eq_getElem?]
    cases h : borders.top with
    | true =>
      have hfirst : sheet.tokens[0]? = some (edgeTokens borders columns) := by
        rw [tokens, h, getElem?_enclose_first]
      rw [hfirst]
      exact showsBorder_edgeTokens hspan
    | false =>
      have hfirst : sheet.tokens[0]? = some (sheet.rowTokens ⟨0, hrows⟩) := by
        simpa [h] using sheet.getElem?_tokens ⟨0, hrows⟩
      rw [hfirst]
      exact hsecond _
  have hlength : sheet.tokens.length = borders.top.toNat + rows + borders.bottom.toNat := by
    rw [tokens, length_enclose, List.length_ofFn]
  have hbottom : Grid.showsBorder (sheet.tokens.getLast?.getD []) 1 = borders.bottom := by
    rw [List.getLast?_eq_getElem?, hlength]
    cases h : borders.bottom with
    | true =>
      have hlast := sheet.getElem?_tokens_below
      rw [h, if_pos rfl] at hlast
      rw [Bool.toNat_true, Nat.add_sub_cancel, hlast]
      exact showsBorder_edgeTokens hspan
    | false =>
      have hlast := sheet.getElem?_tokens ⟨rows - 1, by omega⟩
      rw [Bool.toNat_false, Nat.add_zero, Nat.add_sub_assoc hrows, hlast]
      exact hsecond _
  rw [Grid.rowSpan, htop, hbottom, hlength]
  cases borders.top <;> cases borders.bottom <;> simp

theorem columnSpan_rowTokens (hcolumns : 0 < columns) (i : Fin rows) :
    Grid.columnSpan (sheet.rowTokens i) =
      (↑borders.left.toNat, (borders.left.toNat : Int) + columns - 1, borders.left,
        borders.right) := by
  have hlength : (sheet.rowTokens i).length =
      borders.left.toNat + columns + borders.right.toNat := by
    rw [rowTokens, length_enclose, List.length_ofFn]
  have hleft : Grid.showsBorder (sheet.rowTokens i) 0 = borders.left := by
    cases h : borders.left with
    | true =>
      rw [Grid.showsBorder, rowTokens, h, getElem?_enclose_first]
      simp
    | false =>
      have hfirst := sheet.showsBorder_token i ⟨0, hcolumns⟩
      rwa [h] at hfirst
  have hright : (decide (1 < (sheet.rowTokens i).length) &&
      Grid.showsBorder (sheet.rowTokens i) ((sheet.rowTokens i).length - 1)) = borders.right := by
    rw [hlength]
    cases h : borders.right with
    | true =>
      have hlast := sheet.getElem?_rowTokens_behind i
      rw [h, if_pos rfl] at hlast
      rw [Bool.toNat_true, Nat.add_sub_cancel, Grid.showsBorder, hlast]
      simp
      omega
    | false =>
      have hlast := sheet.showsBorder_token i ⟨columns - 1, by omega⟩
      rw [Bool.toNat_false, Nat.add_zero, Nat.add_sub_assoc hcolumns, hlast, Bool.and_false]
  rw [Grid.columnSpan, hleft, hright, hlength]
  cases borders.left <;> cases borders.right <;> simp

/-- The window of a printed board: what lies inside the edges. -/
def window (rows columns : Nat) (borders : Sides) : Window where
  firstRow := borders.top.toNat
  lastRow := borders.top.toNat + rows - 1
  firstColumn := borders.left.toNat
  lastColumn := borders.left.toNat + columns - 1

theorem frame_tokens (hrows : 0 < rows) (hcolumns : 0 < columns)
    (wide : 2 ≤ columns ∨ borders.left = true) :
    Grid.frame sheet.tokens = .ok (window rows columns borders, borders) := by
  have hne : sheet.tokens.isEmpty = false := by
    have hlength : 0 < sheet.tokens.length := by
      rw [tokens, length_enclose, List.length_ofFn]
      omega
    simpa using List.ne_nil_of_length_pos hlength
  have hfirst := sheet.getElem?_tokens ⟨0, hrows⟩
  rw [Nat.add_zero] at hfirst
  rw [Grid.frame, hne, if_neg Bool.false_ne_true, sheet.rowSpan_tokens hrows hcolumns wide]
  dsimp only
  rw [if_neg (by omega), Int.toNat_natCast, hfirst, Option.getD_some,
    sheet.columnSpan_rowTokens hcolumns]
  dsimp only
  rw [if_neg (by omega), Int.toNat_natCast, window]
  congr <;> omega

/-! ### The places beside a place -/

section Neighbours

variable {body : List Char} {grid : Grid} (read : Grid.ofBody body = .ok grid)
  (htokens : Row.normalize body = sheet.tokens) (i : Fin rows) (j : Fin columns)
include read htokens

theorem isBorderAt_place :
    grid.isBorderAt ↑(borders.top.toNat + i.val) ↑(borders.left.toNat + j.val) = false := by
  rw [Grid.isBorderAt_ofBody read, htokens, tokenAt_tokens]
  simpa using (sheet.token i j).text_ne_border

/-- The edge above a place is that of the board, or there is none. -/
theorem isBorderAt_above :
    grid.isBorderAt (↑(borders.top.toNat + i.val) - 1) ↑(borders.left.toNat + j.val) =
      (borders.top && decide (i.val = 0)) := by
  obtain hi | hi := Nat.eq_zero_or_pos i.val
  · cases htop : borders.top with
    | true =>
      have hspan : borders.left.toNat + j.val < borders.span columns := by
        rw [Sides.span]
        omega
      have hfirst : sheet.tokens[0]? = some (edgeTokens borders columns) := by
        rw [tokens, htop, getElem?_enclose_first]
      rw [hi, Bool.toNat_true, show ((1 + 0 : Nat) : Int) - 1 = (0 : Nat) by omega,
        Grid.isBorderAt_ofBody read, htokens, Grid.tokenAt, hfirst, Option.bind_some,
        getElem?_edgeTokens hspan]
      simp
    | false =>
      rw [hi, Bool.toNat_false]
      rfl
  · have h := sheet.isBorderAt_place read htokens ⟨i.val - 1, by omega⟩ j
    rw [show ((borders.top.toNat + i.val : Nat) : Int) - 1 =
      (borders.top.toNat + (i.val - 1) : Nat) by omega, h]
    simp [Nat.ne_of_gt hi]

theorem isBorderAt_below :
    grid.isBorderAt (↑(borders.top.toNat + i.val) + 1) ↑(borders.left.toNat + j.val) =
      (borders.bottom && decide (i.val + 1 = rows)) := by
  obtain hi | hi := Nat.eq_or_lt_of_le (show i.val + 1 ≤ rows from i.isLt)
  · have hspan : borders.left.toNat + j.val < borders.span columns := by
      rw [Sides.span]
      omega
    rw [show ((borders.top.toNat + i.val : Nat) : Int) + 1 =
      (borders.top.toNat + rows : Nat) by omega, Grid.isBorderAt_ofBody read, htokens,
      Grid.tokenAt, getElem?_tokens_below]
    cases borders.bottom with
    | true => simp [getElem?_edgeTokens hspan, hi]
    | false => simp
  · have h := sheet.isBorderAt_place read htokens ⟨i.val + 1, hi⟩ j
    rw [show ((borders.top.toNat + i.val : Nat) : Int) + 1 =
      (borders.top.toNat + (i.val + 1) : Nat) by omega, h]
    simp [Nat.ne_of_lt hi]

theorem isBorderAt_before :
    grid.isBorderAt ↑(borders.top.toNat + i.val) (↑(borders.left.toNat + j.val) - 1) =
      (borders.left && decide (j.val = 0)) := by
  obtain hj | hj := Nat.eq_zero_or_pos j.val
  · cases hleft : borders.left with
    | true =>
      have hfirst : (sheet.rowTokens i)[0]? = some Row.borderToken := by
        rw [rowTokens, hleft, getElem?_enclose_first]
      rw [hj, Bool.toNat_true, show ((1 + 0 : Nat) : Int) - 1 = (0 : Nat) by omega,
        Grid.isBorderAt_ofBody read, htokens, Grid.tokenAt, getElem?_tokens, Option.bind_some,
        hfirst]
      simp
    | false =>
      rw [hj, Bool.toNat_false]
      rfl
  · have h := sheet.isBorderAt_place read htokens i ⟨j.val - 1, by omega⟩
    rw [show ((borders.left.toNat + j.val : Nat) : Int) - 1 =
      (borders.left.toNat + (j.val - 1) : Nat) by omega, h]
    simp [Nat.ne_of_gt hj]

theorem isBorderAt_behind :
    grid.isBorderAt ↑(borders.top.toNat + i.val) (↑(borders.left.toNat + j.val) + 1) =
      (borders.right && decide (j.val + 1 = columns)) := by
  obtain hj | hj := Nat.eq_or_lt_of_le (show j.val + 1 ≤ columns from j.isLt)
  · rw [show ((borders.left.toNat + j.val : Nat) : Int) + 1 =
      (borders.left.toNat + columns : Nat) by omega, Grid.isBorderAt_ofBody read, htokens,
      Grid.tokenAt, getElem?_tokens, Option.bind_some, getElem?_rowTokens_behind]
    cases borders.right with
    | true => simp [hj]
    | false => simp
  · have h := sheet.isBorderAt_place read htokens i ⟨j.val + 1, hj⟩
    rw [show ((borders.left.toNat + j.val : Nat) : Int) + 1 =
      (borders.left.toNat + (j.val + 1) : Nat) by omega, h]
    simp [Nat.ne_of_lt hj]

end Neighbours

/-! ### The board that is read -/

/-- The cells of a printed board with their places, row by row. -/
def places : List (Nat × Nat × Except Fault Cell) :=
  (List.finRange rows).flatMap fun i => (List.finRange columns).map fun j =>
    (borders.top.toNat + i.val, borders.left.toNat + j.val, Cell.ofToken (sheet.token i j).text)

theorem visible_eq_places {grid : Grid} (hwindow : grid.window = window rows columns borders)
    (hrows : 0 < rows) (hcolumns : 0 < columns)
    (hcells : ∀ (i : Fin rows) (j : Fin columns),
      (grid.cellAt ↑(borders.top.toNat + i.val) ↑(borders.left.toNat + j.val)).map Except.ok =
        some (Cell.ofToken (sheet.token i j).text)) :
    grid.visible.map (fun p => (p.row, p.column, Except.ok p.cell)) = sheet.places := by
  have hrange : ∀ s n, List.range' s n = (List.finRange n).map fun k => s + k.val := by
    intro s n
    apply List.ext_getElem <;> simp
  have hrowCount : grid.window.rowCount = rows := by
    simp only [hwindow, window, Window.rowCount]
    omega
  have hcolumnCount : grid.window.columnCount = columns := by
    simp only [hwindow, window, Window.columnCount]
    omega
  rw [Grid.visible, Window.rows, Window.columns, hrowCount, hcolumnCount, hwindow, window, hrange,
    hrange, List.map_flatMap, List.flatMap_map, places]
  congr 1
  funext i
  rw [List.filterMap_map, List.map_filterMap, ← List.filterMap_eq_map]
  congr 1
  funext j
  have h := hcells i j
  rw [Option.map_eq_some_iff] at h
  obtain ⟨cell, hcell, hok⟩ := h
  rw [Function.comp_apply, hcell, Function.comp_apply, ← hok]
  rfl

/-- A printed board is read back: the edges are those that were printed, the window is what lies
inside them, and each place of it holds the cell of its token and borders on the edges that it
should. -/
theorem ofBody_text (hrows : 0 < rows) (hcolumns : 0 < columns)
    (wide : 2 ≤ columns ∨ borders.left = true) (breaks : Nat) :
    ∃ grid, Grid.ofBody (sheet.text ++ List.replicate breaks '\n') = .ok grid ∧
      grid.borders = borders ∧
      grid.window = {
        firstRow := borders.top.toNat
        lastRow := borders.top.toNat + rows - 1
        firstColumn := borders.left.toNat
        lastColumn := borders.left.toNat + columns - 1 } ∧
      (∀ (i : Fin rows) (j : Fin columns),
        (grid.cellAt ↑(borders.top.toNat + i.val) ↑(borders.left.toNat + j.val)).map Except.ok =
          some (Cell.ofToken (sheet.token i j).text)) ∧
      grid.visible.map (fun p => (p.row, p.column, Except.ok p.cell)) = sheet.places ∧
      ∀ (i : Fin rows) (j : Fin columns),
        grid.edgesAt ↑(borders.top.toNat + i.val) ↑(borders.left.toNat + j.val) = {
          top := borders.top && decide (i.val = 0)
          bottom := borders.bottom && decide (i.val + 1 = rows)
          left := borders.left && decide (j.val = 0)
          right := borders.right && decide (j.val + 1 = columns) } := by
  have htokens := sheet.normalize_text hcolumns wide breaks
  have hframe := sheet.frame_tokens hrows hcolumns wide
  rw [← htokens] at hframe
  obtain ⟨grid, read⟩ := (Grid.exists_ofBody hframe).mpr fun row hrow t ht _ =>
    sheet.length_le_of_mem_tokens row (htokens ▸ hrow) t ht
  have hfound := (Grid.ofBody_eq_ok.mp read).1
  rw [hframe, Except.ok.injEq, Prod.mk.injEq] at hfound
  have hplace : ∀ (i : Fin rows) (j : Fin columns),
      (grid.cellAt ↑(borders.top.toNat + i.val) ↑(borders.left.toNat + j.val)).map Except.ok =
        some (Cell.ofToken (sheet.token i j).text) := by
    intro i j
    rw [Grid.cellAt_ofBody read, htokens, tokenAt_tokens, Option.map_some]
  refine ⟨grid, read, hfound.2.symm, hfound.1.symm, hplace,
    sheet.visible_eq_places hfound.1.symm hrows hcolumns hplace, ?_⟩
  intro i j
  rw [Grid.edgesAt, sheet.isBorderAt_above read htokens, sheet.isBorderAt_below read htokens,
    sheet.isBorderAt_before read htokens, sheet.isBorderAt_behind read htokens]

/-- The upper left corner of a board: a row with spaces for the sake of its number, over a row
without them. -/
def corner : Sheet 2 2 { top := true, left := true } where
  token i j :=
    if i = 0 then
      if j = 0 then .symbol '.' (by decide)
      else .number ['1', '0'] (by decide) (by decide) (List.all_eq_true.mp (by decide))
    else if j = 0 then .symbol 'X' (by decide) else .symbol 'a' (by decide)
  style i := ⟨⟨'|', by decide⟩, ⟨'|', by decide⟩, i = 0⟩
  compact := by decide
  top k := if k.val = 0 then ⟨'+', by decide⟩ else ⟨'-', by decide⟩
  bottom _ := ⟨'-', by decide⟩

theorem ofBody_text_corner :
    corner.text = "+--\n| . 10\n|Xa".toList ∧
      ∃ grid, Grid.ofBody "+--\n| . 10\n|Xa\n".toList = .ok grid ∧
        grid.borders = { top := true, left := true } ∧
        grid.window = ⟨1, 2, 1, 2⟩ ∧
        grid.edgesAt 1 1 = { top := true, left := true } ∧
        (grid.cellAt 1 2).map Except.ok = some (Cell.ofToken ['1', '0']) := by
  obtain ⟨grid, read, hborders, hwindow, hcells, _, hedges⟩ :=
    corner.ofBody_text (by decide) (by decide) (.inl (by decide)) 1
  exact ⟨by decide, grid, read, hborders, hwindow, hedges 0 0, hcells 0 1⟩

end Sheet

end BoardDiagram
