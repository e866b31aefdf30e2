import BoardDiagram.Proofs.Layouts
import BoardDiagram.Proofs.Session

/-! Which texts get an image, for a font of ordinary size.  Numerals with too many digits are a fault
when a text is read.  The numbers of a diagram that has been read are a fault when it is drawn: a
side that is out of the range of binary64 arithmetic, a move whose number is too long, or a topmost
row whose number is no word of 64 bits.  Nothing else goes wrong. -/

namespace BoardDiagram

namespace Drawing

/-! ### Cells -/

namespace Scene

variable (scene : Scene) (hheight : scene.font.height ≤ 2 ^ 24) (hwidth : scene.font.width ≤ 2 ^ 24)

include hheight

theorem exists_labelSize :
    ∃ size : ℕ, scene.labelSize = .ok size ∧ size ≤ 2 ^ 24 := by
  obtain ⟨c, hc, hc0, hc1⟩ :=
    Binary64.exists_round (q := 9 / 10) (n := 0) (by norm_num) (by norm_num) (by norm_num)
  have hheight' : (scene.font.height : ℚ) ≤ 2 ^ 24 := by exact_mod_cast hheight
  have hheight0 : (0 : ℚ) ≤ scene.font.height := Nat.cast_nonneg _
  obtain ⟨v, hv, hv0, hv1⟩ := Binary64.exists_round (q := scene.font.height * c) (n := 24)
    (by norm_num) (mul_nonneg hheight0 hc0) (by nlinarith)
  have hfloor : 0 ≤ v.floor := Rat.le_floor_iff.mpr (by simpa using hv0)
  refine ⟨v.floor.toNat, ?_, ?_⟩
  · unfold labelSize
    rw [bind_eq_ok]
    refine ⟨_, Binary64.ofInt_natCast (by omega), ?_⟩
    rw [Shape.constant, hc, Binary64.finite_mul_finite, hv, Int.toNat_of_nonneg hfloor]
    rfl
  · have hle : (v.floor : ℚ) ≤ (2 ^ 24 : ℤ) := (Rat.floor_le v).trans (by exact_mod_cast hv1)
    have := Int.cast_le.mp hle
    omega

include hwidth

theorem exists_centered (text color : List Char) (x y : Binary64) :
    ∃ markup, scene.centered text color x y = .ok markup := by
  obtain ⟨size, hsize, hsmall⟩ := scene.exists_labelSize hheight
  have hhalf := Binary64.halfOf_natCast (n := scene.font.height) (by omega)
  have hlabel := Binary64.ofInt_natCast (n := size) (by omega)
  unfold centered
  rw [exists_bind_eq_ok]
  refine ⟨size, hsize, ?_⟩
  dsimp only
  split
  · simp only [exists_bind_eq_ok]
    exact ⟨_, Binary64.ofInt_natCast (by omega), _, hhalf, _, hlabel, _, rfl⟩
  · simp only [exists_bind_eq_ok]
    exact ⟨_, Binary64.halfOf_natCast (by omega), _, hhalf, _, hlabel, _, rfl⟩

/-- Only the number of a move may be too long. -/
theorem exists_cell (placed : Placed) (x y : Binary64) :
    (∃ markup, scene.cell placed x y = .ok markup) ↔
      ∀ number, placed.cell.kind = .move number →
        ((if number = 0 then 10 else number : ℕ) + scene.startMove - 1).natAbs < Numeral.bound := by
  unfold cell
  -- of all kinds only moves and letters show a text, and a letter is no number
  split
  case h_4 number hkind =>
    simp only [exists_bind_eq_ok, moveLabel, Numeral.write_eq_ok, hkind, Kind.move.injEq,
      forall_eq']
    constructor
    · rintro ⟨text, ⟨hshort, -⟩, -⟩
      exact hshort
    · intro hshort
      obtain ⟨markup, hmarkup⟩ := scene.exists_centered hheight hwidth _ _ x y
      exact ⟨_, ⟨hshort, rfl⟩, markup, hmarkup, _, rfl⟩
  case h_5 hkind =>
    obtain ⟨markup, hmarkup⟩ :=
      scene.exists_centered hheight hwidth placed.cell.token Palette.black x y
    refine iff_of_true ?_ (fun number hnumber => ?_)
    · simp only [exists_bind_eq_ok, letter]
      exact ⟨_, bind_eq_ok.mpr ⟨markup, hmarkup, rfl⟩, _, rfl⟩
    · rw [hkind] at hnumber
      cases hnumber
  all_goals
    rename_i hkind
    refine iff_of_true ⟨_, rfl⟩ fun number hnumber => ?_
    rw [hkind] at hnumber
    cases hnumber

theorem exists_body {centers : Centers} (hcenters : scene.layout.centers = .ok centers) :
    (∃ markup, scene.body = .ok markup) ↔
      ∀ placed ∈ scene.grid.visible, ∀ number, placed.cell.kind = .move number →
        ((if number = 0 then 10 else number : ℕ) + scene.startMove - 1).natAbs < Numeral.bound := by
  have hcells : (∃ pieces, scene.grid.visible.mapM (fun placed =>
      scene.cell placed (scene.center centers placed).1 (scene.center centers placed).2) =
        .ok pieces) ↔
      ∀ placed ∈ scene.grid.visible, ∀ number, placed.cell.kind = .move number →
        ((if number = 0 then 10 else number : ℕ) + scene.startMove - 1).natAbs < Numeral.bound := by
    simp only [exists_mapM_eq_ok, scene.exists_cell hheight hwidth]
  rw [← hcells]
  unfold body
  simp only [exists_bind_eq_ok]
  constructor
  · rintro ⟨found, hfound, pieces, hpieces, -⟩
    rw [hcenters, Except.ok.injEq] at hfound
    rw [hfound]
    exact ⟨pieces, hpieces⟩
  · rintro ⟨pieces, hpieces⟩
    exact ⟨centers, hcenters, pieces, hpieces, _, rfl⟩

end Scene

/-! ### Coordinates -/

namespace Margin

variable {margin : Margin} (hheight : margin.font.height ≤ 2 ^ 24)
  (hwidth : margin.font.width ≤ 2 ^ 24)

theorem exists_rowNumbers : (∃ numbers, margin.rowNumbers = .ok numbers) ↔
    -2 ^ 63 ≤ firstRowNumber margin.borders margin.boardSize margin.layout.window.rowCount ∧
      firstRowNumber margin.borders margin.boardSize margin.layout.window.rowCount < 2 ^ 63 := by
  have hpower : Int.pow 2 63 = 2 ^ 63 := by decide
  unfold rowNumbers
  dsimp only
  rw [hpower]
  split
  · rename_i hrange
    simp only [Bool.or_eq_true, decide_eq_true_eq] at hrange
    refine iff_of_false nofun ?_
    omega
  · rename_i hrange
    simp only [Bool.or_eq_true, decide_eq_true_eq] at hrange
    refine iff_of_true ⟨_, rfl⟩ ?_
    omega

/-- The index of a column without a label can be written if the size of the board can. -/
theorem unlabelled?_lt {size : ℕ} (hsize : size < Numeral.bound) (hboard : margin.boardSize = size)
    {index : ℕ} (h : margin.unlabelled? = some index) : index < Numeral.bound := by
  have hlabels : columnLabels.length < Numeral.bound :=
    Numeral.lt_bound 2 (by decide) (by decide)
  have hfirst (columns : ℕ) : firstColumnIndex margin.borders size columns ≤ size := by
    unfold firstColumnIndex
    split
    · exact Nat.zero_le _
    · split
      · omega
      · exact Nat.zero_le _
  unfold unlabelled? at h
  dsimp only at h
  rw [hboard] at h
  split at h
  · cases h
    exact max_lt ((hfirst _).trans_lt hsize) hlabels
  · cases h

include hwidth

theorem exists_numberX (number : ℤ) : ∃ x, margin.numberX number = .ok x := by
  unfold numberX
  split
  · exact ⟨_, Binary64.ofInt_natCast (n := 6) (by norm_num)⟩
  · simp only [exists_bind_eq_ok]
    have hleft := Binary64.ofInt_natCast (n := 6 + margin.font.width) (by omega)
    rw [Nat.cast_add] at hleft
    exact ⟨_, Binary64.halfOf_natCast (by omega), _, hleft, _, rfl⟩

include hheight

theorem exists_rows :
    (∃ markup, margin.rows = .ok markup) ↔ ∃ numbers, margin.rowNumbers = .ok numbers := by
  have hsize := Binary64.ofInt_natCast (n := margin.font.height) (by omega)
  have hbase := Binary64.ofInt_natCast (n := 14 + margin.font.height) (by omega)
  have hhalf := Binary64.halfOf_natCast (n := margin.font.height) (by omega)
  rw [Nat.cast_add] at hbase
  unfold rows
  simp only [labelSize, firstBaseline, exists_bind_eq_ok]
  constructor
  · rintro ⟨-, -, numbers, hnumbers, -⟩
    exact ⟨numbers, hnumbers⟩
  · rintro ⟨numbers, hnumbers⟩
    refine ⟨_, bind_eq_ok.mpr ⟨_, hsize, rfl⟩, numbers, hnumbers, _,
      bind_eq_ok.mpr ⟨_, hbase, bind_eq_ok.mpr ⟨_, hhalf, rfl⟩⟩, ?_⟩
    simp only [pure, Except.pure, Except.ok.injEq, exists_eq', and_true]
    refine exists_mapM_eq_ok.mpr fun pair _ => ?_
    obtain ⟨x, hx⟩ := exists_numberX hwidth pair.1
    exact exists_bind_eq_ok.mpr ⟨x, hx, _, rfl⟩

theorem exists_columns {centers : Centers} {size : ℕ}
    (hcenters : margin.layout.centers = .ok centers) (hsize : size < Numeral.bound)
    (hboard : margin.boardSize = size) :
    ∃ markup, margin.columns = .ok markup := by
  have hlabel := Binary64.ofInt_natCast (n := margin.font.height) (by omega)
  have hhalf := Binary64.halfOf_natCast (n := margin.font.width) (by omega)
  have htop := Binary64.ofInt_natCast (n := 18) (by norm_num)
  unfold columns
  simp only [labelSize, exists_bind_eq_ok]
  refine ⟨_, bind_eq_ok.mpr ⟨_, hlabel, rfl⟩, centers, hcenters, _, hhalf, _, htop, ?_⟩
  cases hindex : margin.unlabelled? with
  | none => exact ⟨_, rfl⟩
  | some index =>
    have hshort := Numeral.checkWritable_eq_ok (n := index) (u := ()).mpr
      (unlabelled?_lt hsize hboard hindex)
    dsimp only
    rw [hshort]
    exact ⟨_, rfl⟩

end Margin

theorem exists_coordinates (margin : Margin) {centers : Centers} {size : ℕ}
    (hheight : margin.font.height ≤ 2 ^ 24) (hwidth : margin.font.width ≤ 2 ^ 24)
    (hcenters : margin.layout.centers = .ok centers) (hsize : size < Numeral.bound)
    (hboard : margin.boardSize = size) :
    (∃ markup, coordinates margin = .ok markup) ↔ (margin.layout.coordinates = true →
      firstRowNumber margin.borders margin.boardSize margin.layout.window.rowCount < 2 ^ 63) := by
  have hnonneg : 0 ≤ firstRowNumber margin.borders margin.boardSize
      margin.layout.window.rowCount := by
    unfold firstRowNumber
    rw [hboard]
    split
    · exact Int.natCast_nonneg _
    · split
      · exact Int.natCast_nonneg _
      · exact le_rfl
  unfold coordinates
  split
  · rename_i hdrawn
    have hrows : (∃ markup, margin.rows = .ok markup) ↔
        firstRowNumber margin.borders margin.boardSize margin.layout.window.rowCount < 2 ^ 63 := by
      rw [Margin.exists_rows hheight hwidth, Margin.exists_rowNumbers]
      exact and_iff_right (by omega)
    obtain ⟨columns, hcolumns⟩ := Margin.exists_columns hheight hwidth hcenters hsize hboard
    simp only [exists_bind_eq_ok, hdrawn, forall_const]
    rw [← hrows]
    constructor
    · rintro ⟨rows, hrows, -⟩
      exact ⟨rows, hrows⟩
    · rintro ⟨rows, hrows⟩
      exact ⟨rows, hrows, columns, hcolumns, _, rfl⟩
  · rename_i hdrawn
    exact iff_of_true ⟨_, rfl⟩ fun h => absurd h hdrawn

/-! ### Documents -/

theorem exists_background {layout : Layout} : (∃ markup, background layout = .ok markup) ↔
    layout.width < Binary64.tooLarge ∧ layout.height < Binary64.tooLarge := by
  have hzero := Binary64.ofInt_natCast (n := 0) (by norm_num)
  unfold background
  simp only [exists_bind_eq_ok, Binary64.ofInt_eq_ok]
  constructor
  · rintro ⟨-, -, width, ⟨hwidth, -⟩, height, ⟨hheight, -⟩, -⟩
    exact ⟨hwidth, hheight⟩
  · rintro ⟨hwidth, hheight⟩
    exact ⟨_, hzero, _, ⟨hwidth, rfl⟩, _, ⟨hheight, rfl⟩, _, rfl⟩

theorem lt_bound_of_lt_tooLarge {n : ℕ} (h : n < Binary64.tooLarge) : n < Numeral.bound :=
  Numeral.lt_bound (54 + 970) (h.trans_le Binary64.tooLarge_le) (by decide)

end Drawing

/-! ### Diagrams -/

namespace Board

/-- Nothing goes wrong with the layout of a grid. -/
theorem ofBody_eq_error {body : List Char} {font : Font} {coordinates : Bool} {fault : Fault}
    (hheight : font.height ≤ 2 ^ 24) (hwidth : font.width ≤ 2 ^ 24) :
    ofBody body font coordinates = .error fault ↔ Grid.ofBody body = .error fault := by
  cases hgrid : Grid.ofBody body with
  | error found => simp [ofBody, hgrid, bind, Except.bind]
  | ok grid =>
    obtain ⟨layout, hlayout⟩ := Layout.exists_ofGrid hheight hwidth grid coordinates
    obtain ⟨hrow, hcolumn⟩ := Grid.window_of_frame (Grid.ofBody_eq_ok.mp hgrid).1
    have hsize := Layout.checkSize_ofGrid hheight hwidth hrow hcolumn hlayout
    have hboard : ofBody body font coordinates = .ok ⟨grid, layout⟩ :=
      ofBody_eq_ok.mpr ⟨hgrid, hlayout, hsize⟩
    rw [hboard]
    exact iff_of_false nofun nofun

end Board

namespace Diagram

/-- No numeral of a text has too many digits.  Tokens count where the text starts a diagram whose
rows have a frame. -/
structure Readable (text : List Char) : Prop where
  header : ∀ parts, Header.parts? (firstLine text) = some parts →
    parts.size.length ≤ digitLimit ∧ parts.start.length ≤ digitLimit
  tokens : ∀ parts found, Header.parts? (firstLine text) = some parts →
    Grid.frame (Row.normalize (content text).body) = .ok found →
      ∀ tokens ∈ Row.normalize (content text).body, ∀ token ∈ tokens,
        token.all Char.isDigit = true → token.length ≤ digitLimit

/-- All numbers that a board is drawn with are in range: those that enter binary64 arithmetic, those
that moves show, and the number of the topmost row, which has to be a word of 64 bits. -/
structure Drawable (diagram : Diagram) (board : Board) : Prop where
  width : board.layout.width < Binary64.tooLarge
  height : board.layout.height < Binary64.tooLarge
  moves : ∀ placed ∈ board.grid.visible, ∀ number, placed.cell.kind = .move number →
    (if number = 0 then 10 else number) + diagram.header.startMove ≤ Numeral.bound
  rows : board.layout.coordinates = true →
    Drawing.firstRowNumber board.grid.borders diagram.header.boardSize
      board.layout.window.rowCount < 2 ^ 63

variable {text : List Char} {font : Font}

theorem exists_ofText (hheight : font.height ≤ 2 ^ 24) (hwidth : font.width ≤ 2 ^ 24) :
    (∃ diagram, ofText text font = .ok diagram) ↔ Readable text := by
  cases hparts : Header.parts? (firstLine text) with
  | none =>
    -- without a header a text is a failed diagram, whatever its numerals are
    have hline : Header.ofLine (firstLine text) = .error (.parse .noHeader) := by
      rw [Header.ofLine, hparts]
    refine iff_of_true ⟨_, ofText_eq_ok.mpr (.inl ⟨_, hline, rfl⟩)⟩ ⟨?_, ?_⟩
    · intro parts h
      rw [hparts] at h
      cases h
    · intro parts found h
      rw [hparts] at h
      cases h
  | some parts =>
    constructor
    · rintro ⟨diagram, hdiagram⟩
      obtain ⟨cause, hline, -⟩ | ⟨header, outcome, hheader, houtcome, -⟩ := ofText_eq_ok.mp hdiagram
      · exact absurd hline (Header.ofLine_ne_parse hparts cause)
      refine ⟨?_, ?_⟩
      · intro _ h
        exact (Header.exists_ofLine h).mp ⟨header, hheader⟩
      · intro _ found _ hframe
        obtain ⟨board, hboard⟩ | ⟨cause, hcause⟩ := exists_attempt.mp ⟨outcome, houtcome⟩
        · exact (Grid.exists_ofBody hframe).mp ⟨board.grid, (Board.ofBody_eq_ok.mp hboard).1⟩
        · rw [Board.ofBody_eq_error hheight hwidth, Grid.ofBody_eq_parse, hframe] at hcause
          cases hcause
    · intro h
      obtain ⟨header, hheader⟩ := (Header.exists_ofLine hparts).mpr (h.header parts hparts)
      obtain ⟨outcome, houtcome⟩ : ∃ outcome, attempt
          (Board.ofBody (content text).body font header.coordinates) = .ok outcome := by
        rw [exists_attempt]
        cases hframe : Grid.frame (Row.normalize (content text).body) with
        | error cause =>
          refine .inr ⟨cause, ?_⟩
          rw [Board.ofBody_eq_error hheight hwidth, Grid.ofBody_eq_parse, hframe]
        | ok found =>
          obtain ⟨grid, hgrid⟩ :=
            (Grid.exists_ofBody hframe).mpr (h.tokens parts found hparts hframe)
          cases hboard : Board.ofBody (content text).body font header.coordinates with
          | ok board => exact .inl ⟨board, rfl⟩
          | error fault =>
            rw [Board.ofBody_eq_error hheight hwidth, hgrid] at hboard
            cases hboard
      exact ⟨_, ofText_eq_ok.mpr (.inr ⟨header, outcome, hheader, houtcome, rfl⟩)⟩

theorem exists_picture {diagram : Diagram} {board : Board} {requested : Bool}
    (hheight : diagram.font.height ≤ 2 ^ 24) (hwidth : diagram.font.width ≤ 2 ^ 24)
    (hlayout : Layout.ofGrid board.grid diagram.font requested = .ok board.layout)
    (hsize : diagram.header.boardSize < Numeral.bound) :
    (∃ picture, Drawing.picture (diagram.scene board) diagram.header.boardSize
      diagram.header.title = .ok picture) ↔ Drawable diagram board := by
  obtain ⟨centers, hcenters⟩ := Layout.exists_centers hheight hwidth hlayout
  have hbody := (diagram.scene board).exists_body hheight hwidth hcenters
  have hcoordinates := Drawing.exists_coordinates
    ⟨board.layout, board.grid.borders, diagram.header.boardSize, diagram.font⟩ hheight hwidth
    hcenters hsize rfl
  have hmoves : (∀ placed ∈ board.grid.visible, ∀ number, placed.cell.kind = .move number →
      ((if number = 0 then 10 else number : ℕ) + (diagram.header.startMove : ℤ) - 1).natAbs <
        Numeral.bound) ↔
      ∀ placed ∈ board.grid.visible, ∀ number, placed.cell.kind = .move number →
        (if number = 0 then 10 else number) + diagram.header.startMove ≤ Numeral.bound := by
    refine forall₄_congr fun placed _ number _ => ?_
    split <;> omega
  unfold Drawing.picture
  dsimp only
  simp only [exists_bind_eq_ok]
  constructor
  · rintro ⟨background, hbackground, -, -, -, -, body, hdrawn, coordinates, hmargin, -⟩
    obtain ⟨hwide, hhigh⟩ := Drawing.exists_background.mp ⟨background, hbackground⟩
    exact ⟨hwide, hhigh, hmoves.mp (hbody.mp ⟨body, hdrawn⟩), hcoordinates.mp ⟨_, hmargin⟩⟩
  · -- links never fail, and the width and height can be written since they are in range
    intro h
    obtain ⟨background, hbackground⟩ := Drawing.exists_background.mpr ⟨h.width, h.height⟩
    obtain ⟨size, hlabel, -⟩ := (diagram.scene board).exists_labelSize hheight
    obtain ⟨body, hdrawn⟩ := hbody.mpr (hmoves.mpr h.moves)
    obtain ⟨coordinates, hmargin⟩ := hcoordinates.mpr h.rows
    refine ⟨background, hbackground, _, hlabel, _, bind_eq_ok.mpr ⟨centers, hcenters, rfl⟩, body,
      hdrawn, coordinates, hmargin, _, Shape.openDocument_eq_ok.mpr ⟨⟨?_, ?_⟩, rfl⟩, _, rfl⟩
    · exact Drawing.lt_bound_of_lt_tooLarge h.width
    · exact Drawing.lt_bound_of_lt_tooLarge h.height

theorem ofLine_lt_bound {line : List Char} {header : Header}
    (h : Header.ofLine line = .ok header) : header.boardSize < Numeral.bound := by
  cases hparts : Header.parts? line with
  | none =>
    rw [Header.ofLine, hparts] at h
    cases h
  | some parts =>
    exact Header.readOr_lt_bound (Numeral.lt_bound 2 (by decide) (by decide))
      ((Header.ofLine_eq_ok hparts).mp h).1

theorem exists_picture_ofText {diagram : Diagram} {board : Board} (hheight : font.height ≤ 2 ^ 24)
    (hwidth : font.width ≤ 2 ^ 24) (h : ofText text font = .ok diagram)
    (hboard : diagram.board? = some board) :
    (∃ picture, diagram.picture = .ok picture) ↔ Drawable diagram board := by
  obtain ⟨rfl, hheader, hfound⟩ := ofBody_of_ofText h hboard
  have hlayout := (Board.ofBody_eq_ok.mp hfound).2.1
  have hdrawn := exists_picture hheight hwidth hlayout (ofLine_lt_bound hheader)
  unfold Diagram.picture
  rw [toOption_eq_some.mp hboard]
  exact hdrawn

/-- A text gets an image: that of the diagram that it is, or the notice, which has no width and no
height, if it is none. -/
def Answers (text : List Char) (font : Font) : Prop :=
  ∃ diagram picture, ofText text font = .ok diagram ∧ diagram.picture = .ok picture ∧
    (diagram.isValid = false → picture.width = none ∧ picture.height = none)

/-- A text gets an image exactly when its numerals can be read and, if it is a diagram, the numbers
that this is drawn with are in range. -/
theorem answers_iff (hheight : font.height ≤ 2 ^ 24) (hwidth : font.width ≤ 2 ^ 24) :
    Answers text font ↔ Readable text ∧ ∀ diagram board, ofText text font = .ok diagram →
      diagram.board? = some board → Drawable diagram board := by
  constructor
  · rintro ⟨diagram, picture, hdiagram, hpicture, -⟩
    refine ⟨(exists_ofText hheight hwidth).mp ⟨diagram, hdiagram⟩, ?_⟩
    intro other board hother hboard
    rw [hdiagram, Except.ok.injEq] at hother
    subst hother
    exact (exists_picture_ofText hheight hwidth hdiagram hboard).mp ⟨picture, hpicture⟩
  · rintro ⟨hreadable, hdrawable⟩
    obtain ⟨diagram, hdiagram⟩ := (exists_ofText hheight hwidth).mpr hreadable
    cases hboard : diagram.board? with
    | some board =>
      obtain ⟨picture, hpicture⟩ := (exists_picture_ofText hheight hwidth hdiagram hboard).mpr
        (hdrawable diagram board hdiagram hboard)
      refine ⟨diagram, picture, hdiagram, hpicture, fun hinvalid => ?_⟩
      rw [isValid, hboard] at hinvalid
      cases hinvalid
    | none =>
      have hinvalid : diagram.isValid = false := by
        rw [isValid, hboard]
        rfl
      obtain ⟨picture, hpicture⟩ := exists_notice
      obtain ⟨height, hnotice⟩ := Drawing.notice_eq_document hpicture
      refine ⟨diagram, picture, hdiagram, (picture_of_invalid hinvalid).trans hpicture, fun _ => ?_⟩
      rw [hnotice]
      exact ⟨rfl, rfl⟩

theorem answers_iff_signpost : Font.default.height ≤ 2 ^ 24 ∧ Font.default.width ≤ 2 ^ 24 ∧
    Readable signpost ∧ ∃ diagram board, ofText signpost .default = .ok diagram ∧
      diagram.board? = some board ∧ Drawable diagram board := by
  have hdrawn : (ofText signpost .default).toOption.any (fun diagram =>
      diagram.board?.isSome && diagram.picture.toOption.isSome) = true := by decide +kernel
  simp only [Option.any_eq_true, Bool.and_eq_true, Option.isSome_iff_exists, toOption_eq_some]
    at hdrawn
  obtain ⟨diagram, hdiagram, ⟨board, hboard⟩, picture, hpicture⟩ := hdrawn
  have hanswers : Answers signpost .default := by
    refine ⟨diagram, picture, hdiagram, hpicture, fun hinvalid => ?_⟩
    rw [isValid, hboard] at hinvalid
    cases hinvalid
  obtain ⟨hreadable, hdrawable⟩ := (answers_iff (by decide) (by decide)).mp hanswers
  exact ⟨by decide, by decide, hreadable, diagram, board, hdiagram, hboard,
    hdrawable diagram board hdiagram hboard⟩

/-- A header with one digit too many. -/
def longHeader : List Char :=
  "$$".toList ++ List.replicate (digitLimit + 1) '1'

/-- A diagram of the upper left corner of a board with `2 ^ 63` rows. -/
def hugeBoard : List Char :=
  "$$c9223372036854775808\n$$ +--\n$$ | . .".toList

/-- A text whose header cannot be read and a diagram that cannot be drawn: neither gets an image,
not even the notice. -/
theorem not_answers : ofText longHeader .default = .error (.longNumeral (digitLimit + 1)) ∧
    ¬ Answers longHeader .default ∧ (∃ diagram, ofText hugeBoard .default = .ok diagram ∧
      diagram.isValid = true ∧ diagram.picture = .error .outOfRange) ∧
    ¬ Answers hugeBoard .default := by
  have hread : (ofText longHeader .default).map (fun _ => ()) =
      .error (.longNumeral (digitLimit + 1)) := by decide +kernel
  have hlong := map_eq_error.mp hread
  have hdrawn : (ofText hugeBoard .default).toOption.any (fun diagram =>
      diagram.isValid && diagram.picture = .error .outOfRange) = true := by decide +kernel
  simp only [Option.any_eq_true, Bool.and_eq_true, decide_eq_true_eq, toOption_eq_some] at hdrawn
  obtain ⟨diagram, hdiagram, hvalid, hpicture⟩ := hdrawn
  refine ⟨hlong, ?_, ⟨diagram, hdiagram, hvalid, hpicture⟩, ?_⟩
  · rintro ⟨other, picture, hother, -⟩
    rw [hlong] at hother
    cases hother
  · rintro ⟨other, picture, hother, hshown, -⟩
    rw [hdiagram, Except.ok.injEq] at hother
    subst hother
    rw [hpicture] at hshown
    cases hshown

end Diagram

end BoardDiagram
