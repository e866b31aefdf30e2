import BoardDiagram.Proofs.Addresses
import BoardDiagram.Proofs.Positions

/-! What a picture depends on.  Two scenes that look alike inside their windows, and have the edge
of the board at the same places beside them, have the same picture, or the same fault.  So the order
of links, links that no visible cell leads to and cells out of sight change nothing. -/

namespace BoardDiagram

/-- The places above, below, left and right of a place. -/
def neighbours (row column : ℤ) : List (ℤ × ℤ) :=
  [(row - 1, column), (row + 1, column), (row, column - 1), (row, column + 1)]

namespace Grid

/-- Two grids show the same cells in one window, with the edge of the board at the same places
beside it. -/
structure SeenAlike (a b : Grid) : Prop where
  window : a.window = b.window
  borders : a.borders = b.borders
  cellAt : ∀ row column : ℕ, b.window.Contains row column →
    a.cellAt row column = b.cellAt row column
  isBorderAt : ∀ row column : ℕ, b.window.Contains row column →
    ∀ place ∈ neighbours row column,
      a.isBorderAt place.1 place.2 = b.isBorderAt place.1 place.2

/-- Other rows differ from those of a grid out of sight only: outside its window, and next to the
window without an edge of the board that comes or goes. -/
def HiddenChange (grid : Grid) (rows : List (List Cell)) : Prop :=
  ∀ row column : ℕ, { grid with rows }.cellAt row column ≠ grid.cellAt row column →
    ¬ grid.window.Contains row column ∧
      ∀ r c : ℕ, grid.window.Contains r c → ((row : ℤ), (column : ℤ)) ∈ neighbours r c →
        { grid with rows }.isBorderAt row column = grid.isBorderAt row column

theorem SeenAlike.refl (grid : Grid) : SeenAlike grid grid :=
  ⟨rfl, rfl, fun _ _ _ => rfl, fun _ _ _ _ _ => rfl⟩

theorem HiddenChange.seenAlike {grid : Grid} {rows : List (List Cell)}
    (h : grid.HiddenChange rows) : { grid with rows }.SeenAlike grid := by
  refine ⟨rfl, rfl, ?_, ?_⟩
  · intro row column hplace
    by_contra hchanged
    exact (h row column hchanged).1 hplace
  · rintro row column hplace ⟨r, c⟩ hbeside
    cases r with
    | negSucc r => rfl
    | ofNat r =>
      cases c with
      | negSucc c => rfl
      | ofNat c =>
        by_cases hcell : { grid with rows }.cellAt r c = grid.cellAt r c
        · exact congrArg (Option.any Cell.isBorder) hcell
        · exact (h r c hcell).2 row column hplace hbeside

section SeenAlike

variable {a b : Grid} (h : SeenAlike a b)
include h

theorem SeenAlike.visible : a.visible = b.visible := by
  rw [visible_eq, visible_eq, h.window]
  apply List.filterMap_congr
  intro place hplace
  rw [h.cellAt place.1 place.2 (Window.mem_places.mp hplace)]

theorem SeenAlike.edgesAt {row column : ℕ} (hplace : b.window.Contains row column) :
    a.edgesAt row column = b.edgesAt row column := by
  have hborder := h.isBorderAt row column hplace
  simp only [neighbours, List.forall_mem_cons, List.not_mem_nil] at hborder
  obtain ⟨habove, hbelow, hleft, hright, -⟩ := hborder
  rw [Grid.edgesAt, Grid.edgesAt, habove, hbelow, hleft, hright]

theorem SeenAlike.ofGrid (font : Font) (requested : Bool) :
    Layout.ofGrid a font requested = Layout.ofGrid b font requested := by
  rw [Layout.ofGrid, Layout.ofGrid, Layout.drawsCoordinates, Layout.drawsCoordinates, h.window,
    h.borders]

end SeenAlike

end Grid

namespace Drawing.Scene

/-- Two scenes are to be drawn in the same way, and show the same of their grids, with the same
addresses for the tokens that can be seen. -/
structure SeenAlike (a b : Scene) : Prop where
  font : a.font = b.font
  firstColor : a.firstColor = b.firstColor
  startMove : a.startMove = b.startMove
  grid : a.grid.SeenAlike b.grid
  links : ∀ placed ∈ b.grid.visible,
    a.links.get? placed.cell.token = b.links.get? placed.cell.token

/-- The same scene with other links is seen alike if these give the same addresses. -/
theorem seenAlike_withLinks {scene : Scene} {links : Links} (h : ∀ placed ∈ scene.grid.visible,
    links.get? placed.cell.token = scene.links.get? placed.cell.token) :
    { scene with links }.SeenAlike scene :=
  ⟨rfl, rfl, rfl, .refl scene.grid, h⟩

theorem seenAlike_withRows {scene : Scene} {rows : List (List Cell)}
    (h : scene.grid.HiddenChange rows) :
    { scene with grid := { scene.grid with rows } }.SeenAlike scene :=
  ⟨rfl, rfl, rfl, h.seenAlike, fun _ _ => rfl⟩

section SeenAlike

variable {a b : Scene} (h : SeenAlike a b) (hlayout : a.layout = b.layout)
include h hlayout

/-- Such scenes differ in their grids and links at most. -/
theorem SeenAlike.eq_with : a = { b with grid := a.grid, links := a.links } := by
  obtain ⟨grid, layout, font, firstColor, startMove, links⟩ := a
  obtain rfl : font = b.font := h.font
  obtain rfl : firstColor = b.firstColor := h.firstColor
  obtain rfl : startMove = b.startMove := h.startMove
  obtain rfl : layout = b.layout := hlayout
  rfl

/-- A cell is drawn from its token, the edges beside it and the address of its token. -/
theorem SeenAlike.cell_eq {placed : Placed} (hplaced : placed ∈ b.grid.visible)
    (x y : Binary64) : a.cell placed x y = b.cell placed x y := by
  have hedges := h.grid.edgesAt (Grid.mem_visible.mp hplaced).1
  have hlink : a.links.contains placed.cell.token = b.links.contains placed.cell.token :=
    congrArg Option.isSome (h.links placed hplaced)
  rw [h.eq_with hlayout]
  unfold cell
  cases placed.cell.kind with
  | empty star => simp only [point, hedges]
  | markup mark => simp only [point, hedges]
  | letter =>
    simp only [point, letter, hedges, hlink]
    rfl
  | border => rfl
  | space => rfl
  | stone color mark => rfl
  | move number => rfl
  | unknown => rfl

theorem SeenAlike.linked_eq {placed : Placed} (hplaced : placed ∈ b.grid.visible)
    (x y : Binary64) : a.linked placed.cell x y = b.linked placed.cell x y := by
  rw [linked, linked, h.links placed hplaced, hlayout]

theorem SeenAlike.body_eq : a.body = b.body := by
  unfold body center
  rw [h.grid.visible, hlayout]
  refine bind_congr fun centers => ?_
  rw [mapM_congr fun placed hplaced => h.cell_eq hlayout hplaced _ _]

theorem SeenAlike.overlay_eq : a.overlay = b.overlay := by
  unfold overlay center
  rw [h.grid.visible, hlayout]
  refine bind_congr fun centers => ?_
  rw [List.flatMap_congr fun placed hplaced => h.linked_eq hlayout hplaced _ _]

theorem SeenAlike.picture_eq (boardSize : ℤ) (title : List Char) :
    picture a boardSize title = picture b boardSize title := by
  unfold picture labelSize
  rw [h.body_eq hlayout, h.overlay_eq hlayout, hlayout, h.grid.borders, h.font]

end SeenAlike

/-- A picture depends on what can be seen only: scenes that are seen alike, with the layouts of
their grids, have the same picture or the same fault.  In particular the order of links, links from
tokens that no visible cell shows, and changes out of sight do not matter, and a link that is added
and taken away again leaves nothing behind. -/
theorem picture_eq_of_seenAlike {scene : Scene} {requested : Bool}
    (hlayout : Layout.ofGrid scene.grid scene.font requested = .ok scene.layout)
    (boardSize : ℤ) (title : List Char) :
    (∀ other : Scene, Layout.ofGrid other.grid other.font requested = .ok other.layout →
      other.SeenAlike scene → picture other boardSize title = picture scene boardSize title) ∧
    (∀ links : Links, (scene.links.entries.map Prod.fst).Nodup →
      links.entries.Perm scene.links.entries →
      picture { scene with links } boardSize title = picture scene boardSize title) ∧
    (∀ anchor, (∀ placed ∈ scene.grid.visible, placed.cell.token ≠ anchor) →
      picture { scene with links := scene.links.erase anchor } boardSize title =
        picture scene boardSize title ∧
      ∀ url, picture { scene with links := scene.links.insert anchor url } boardSize title =
        picture scene boardSize title) ∧
    (∀ rows, scene.grid.HiddenChange rows →
      picture { scene with grid := { scene.grid with rows } } boardSize title =
        picture scene boardSize title) ∧
    (∀ anchor url, scene.links.get? anchor = none →
      (scene.links.insert anchor url).erase anchor = scene.links ∧
      picture { scene with links := (scene.links.insert anchor url).erase anchor } boardSize title =
        picture scene boardSize title) := by
  refine ⟨fun other hother h => ?_, fun links hnodup hperm => ?_, fun anchor hanchor => ⟨?_, ?_⟩,
    fun rows hrows => ?_, fun anchor url hanchor => ?_⟩
  · rw [h.font, h.grid.ofGrid, hlayout, Except.ok.injEq] at hother
    exact h.picture_eq hother.symm boardSize title
  · have hlinks := seenAlike_withLinks fun placed _ =>
      Links.get?_of_perm hnodup hperm placed.cell.token
    exact hlinks.picture_eq rfl boardSize title
  · have hlinks : { scene with links := scene.links.erase anchor }.SeenAlike scene := by
      apply seenAlike_withLinks
      intro placed hplaced
      rw [Links.get?_erase, if_neg (hanchor placed hplaced)]
    exact hlinks.picture_eq rfl boardSize title
  · intro url
    have hlinks : { scene with links := scene.links.insert anchor url }.SeenAlike scene := by
      apply seenAlike_withLinks
      intro placed hplaced
      rw [Links.get?_insert, if_neg (hanchor placed hplaced)]
    exact hlinks.picture_eq rfl boardSize title
  · exact (seenAlike_withRows hrows).picture_eq rfl boardSize title
  · have hsame := Links.erase_insert hanchor url
    exact ⟨hsame, by rw [hsame]⟩

/-- The corner of a board with a letter that leads somewhere. -/
def linkedCorner : Scene where
  grid := {
    rows := [[⟨['%'], .border⟩, ⟨['%'], .border⟩], [⟨['%'], .border⟩, ⟨['a'], .letter⟩]]
    window := ⟨1, 1, 1, 1⟩
    borders := { top := true, left := true } }
  layout := {
    window := ⟨1, 1, 1, 1⟩
    diameter := 17
    radius := .finite (17 / 2)
    width := 21
    height := 21
    offsetX := 2
    offsetY := 2
    coordinates := false }
  font := .default
  links := ⟨[(['a'], ['x']), (['b'], ['y'])]⟩

/-- The same corner with a stone where the edges meet, and with its links in another order. -/
def disguisedCorner : Scene :=
  { linkedCorner with
    grid := { linkedCorner.grid with
      rows := [[⟨['X'], .stone .black none⟩, ⟨['%'], .border⟩],
        [⟨['%'], .border⟩, ⟨['a'], .letter⟩]] }
    links := ⟨[(['b'], ['z']), (['a'], ['x'])]⟩ }

theorem disguisedCorner_seenAlike : disguisedCorner.SeenAlike linkedCorner := by
  have hplace : ∀ row column, linkedCorner.grid.window.Contains row column →
      row = 1 ∧ column = 1 := by
    rintro row column ⟨hfirst, hlast, hleft, hright⟩
    exact ⟨le_antisymm hlast hfirst, le_antisymm hright hleft⟩
  refine ⟨rfl, rfl, rfl, ⟨rfl, rfl, ?_, ?_⟩, by decide +kernel⟩
  · intro row column hinside
    obtain ⟨rfl, rfl⟩ := hplace row column hinside
    decide +kernel
  · intro row column hinside
    obtain ⟨rfl, rfl⟩ := hplace row column hinside
    decide +kernel

theorem picture_eq_of_seenAlike_corner :
    Grid.ofBody "+-\n|a".toList = .ok linkedCorner.grid ∧
      Grid.ofBody "X-\n|a".toList = .ok disguisedCorner.grid ∧
      Layout.ofGrid linkedCorner.grid .default false = .ok linkedCorner.layout ∧
      linkedCorner.grid ≠ disguisedCorner.grid ∧ linkedCorner.links ≠ disguisedCorner.links ∧
      picture disguisedCorner 19 ['T'] = picture linkedCorner 19 ['T'] := by
  refine ⟨by decide +kernel, by decide +kernel, by decide +kernel, by decide +kernel,
    by decide +kernel, ?_⟩
  exact (@picture_eq_of_seenAlike linkedCorner false (by decide +kernel) 19 ['T']).1
    disguisedCorner (by decide +kernel) disguisedCorner_seenAlike

end Drawing.Scene

end BoardDiagram
