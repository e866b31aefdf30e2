import BoardDiagram.Diagram
import BoardDiagram.Proofs.Grids
import BoardDiagram.Proofs.Numerals

/-! Which texts can be read.  A text that is no diagram is read as a failed diagram, so only
numerals with too many digits are left to go wrong: those of the header, and the tokens of the rows
where these have a frame. -/

namespace BoardDiagram

/-! ### Headers -/

namespace Header

theorem exists_readOr (default : Nat) {digits : List Char} :
    (∃ n, readOr default digits = .ok n) ↔ digits.length ≤ digitLimit := by
  unfold readOr
  split
  · rename_i hempty
    rw [List.isEmpty_iff] at hempty
    rw [hempty]
    exact iff_of_true ⟨_, rfl⟩ (Nat.zero_le _)
  · rw [exists_map_eq_ok, Numeral.exists_read]

theorem readOr_ne_parse (default : Nat) (digits : List Char) (cause : ParseError) :
    readOr default digits ≠ .error (.parse cause) := by
  unfold readOr
  split
  · nofun
  · exact mt map_eq_error.mp (Numeral.read_ne_parse digits cause)

theorem readOr_lt_bound {default n : Nat} {digits : List Char} (hdefault : default < Numeral.bound)
    (h : readOr default digits = .ok n) : n < Numeral.bound := by
  unfold readOr at h
  split at h
  · cases h
    exact hdefault
  · obtain ⟨m, hm, hn⟩ := map_eq_ok.mp h
    have hvalue := Numeral.read_lt_bound hm
    split at hn <;> omega

section Parts

variable {line : List Char} {parts : Parts}

theorem ofLine_eq_ok (h : parts? line = some parts) {header : Header} :
    ofLine line = .ok header ↔ readOr 19 parts.size = .ok header.boardSize ∧
      readOr 1 parts.start = .ok header.startMove ∧ header.firstColor = parts.color ∧
      header.coordinates = parts.coordinates ∧ header.title = parts.title := by
  unfold ofLine
  rw [h]
  simp only [bind_eq_ok]
  constructor
  · rintro ⟨boardSize, hsize, startMove, hstart, h⟩
    cases h
    exact ⟨hsize, hstart, rfl, rfl, rfl⟩
  · rintro ⟨hsize, hstart, hcolor, hcoordinates, htitle⟩
    refine ⟨header.boardSize, hsize, header.startMove, hstart, ?_⟩
    rw [← hcolor, ← hcoordinates, ← htitle]
    rfl

theorem exists_ofLine (h : parts? line = some parts) : (∃ header, ofLine line = .ok header) ↔
    parts.size.length ≤ digitLimit ∧ parts.start.length ≤ digitLimit := by
  rw [← exists_readOr 19, ← exists_readOr 1]
  unfold ofLine
  rw [h]
  simp only [exists_bind_eq_ok]
  constructor
  · rintro ⟨boardSize, hsize, startMove, hstart, -⟩
    exact ⟨⟨boardSize, hsize⟩, ⟨startMove, hstart⟩⟩
  · rintro ⟨⟨boardSize, hsize⟩, ⟨startMove, hstart⟩⟩
    exact ⟨boardSize, hsize, startMove, hstart, _, rfl⟩

theorem ofLine_ne_parse (h : parts? line = some parts) (cause : ParseError) :
    ofLine line ≠ .error (.parse cause) := by
  unfold ofLine
  rw [h]
  intro hline
  cases hsize : readOr 19 parts.size with
  | error fault =>
    simp only [hsize, bind, Except.bind, Except.error.injEq] at hline
    exact readOr_ne_parse 19 parts.size cause (hsize.trans (congrArg _ hline))
  | ok boardSize =>
    cases hstart : readOr 1 parts.start with
    | error fault =>
      simp only [hsize, hstart, bind, Except.bind, Except.error.injEq] at hline
      exact readOr_ne_parse 1 parts.start cause (hstart.trans (congrArg _ hline))
    | ok startMove =>
      simp only [hsize, hstart, bind, Except.bind] at hline
      cases hline

end Parts

end Header

/-! ### Diagrams -/

namespace Board

theorem ofBody_eq_ok {body : List Char} {font : Font} {coordinates : Bool} {board : Board} :
    ofBody body font coordinates = .ok board ↔ Grid.ofBody body = .ok board.grid ∧
      Layout.ofGrid board.grid font coordinates = .ok board.layout ∧
        board.layout.checkSize font = .ok () := by
  unfold ofBody
  simp only [bind_eq_ok]
  constructor
  · rintro ⟨grid, hgrid, layout, hlayout, size, hsize, h⟩
    cases h
    exact ⟨hgrid, hlayout, hsize⟩
  · rintro ⟨hgrid, hlayout, hsize⟩
    exact ⟨board.grid, hgrid, board.layout, hlayout, (), hsize, rfl⟩

end Board

namespace Diagram

theorem attempt_eq_ok {α : Type} {result : Except Fault α} {outcome : Except ParseError α} :
    attempt result = .ok outcome ↔
      (∃ a, result = .ok a ∧ outcome = .ok a) ∨
        ∃ cause, result = .error (.parse cause) ∧ outcome = .error cause := by
  unfold attempt
  split <;> simp_all [eq_comm]

theorem exists_attempt {α : Type} {result : Except Fault α} :
    (∃ outcome, attempt result = .ok outcome) ↔
      (∃ a, result = .ok a) ∨ ∃ cause, result = .error (.parse cause) := by
  simp only [attempt_eq_ok]
  constructor
  · rintro ⟨outcome, ⟨a, ha, -⟩ | ⟨cause, hcause, -⟩⟩
    · exact .inl ⟨a, ha⟩
    · exact .inr ⟨cause, hcause⟩
  · rintro (⟨a, ha⟩ | ⟨cause, hcause⟩)
    · exact ⟨.ok a, .inl ⟨a, ha, rfl⟩⟩
    · exact ⟨.error cause, .inr ⟨cause, hcause, rfl⟩⟩

/-- A text that has been read is a failed diagram or one with a header of its own. -/
theorem ofText_eq_ok {text : List Char} {font : Font} {diagram : Diagram} :
    ofText text font = .ok diagram ↔
      (∃ cause, Header.ofLine (firstLine text) = .error (.parse cause) ∧
        diagram = { text, font, outcome := .error cause }) ∨
      (∃ header outcome, Header.ofLine (firstLine text) = .ok header ∧
        attempt (Board.ofBody (content text).body font header.coordinates) = .ok outcome ∧
        diagram = { text, font, header, links := (content text).links, outcome }) := by
  unfold ofText
  rw [bind_eq_ok]
  constructor
  · rintro ⟨outcome, houtcome, h⟩
    obtain ⟨header, hheader, rfl⟩ | ⟨cause, hheader, rfl⟩ := attempt_eq_ok.mp houtcome
    · obtain ⟨board, hboard, h⟩ := bind_eq_ok.mp h
      cases h
      exact .inr ⟨header, board, hheader, hboard, rfl⟩
    · cases h
      exact .inl ⟨cause, hheader, rfl⟩
  · rintro (⟨cause, hheader, rfl⟩ | ⟨header, outcome, hheader, houtcome, rfl⟩)
    · exact ⟨.error cause, attempt_eq_ok.mpr (.inr ⟨cause, hheader, rfl⟩), rfl⟩
    · exact ⟨.ok header, attempt_eq_ok.mpr (.inl ⟨header, hheader, rfl⟩),
        bind_eq_ok.mpr ⟨outcome, houtcome, rfl⟩⟩

/-- The board of a diagram is that of the rows of its text. -/
theorem ofBody_of_ofText {text : List Char} {font : Font} {diagram : Diagram} {board : Board}
    (h : ofText text font = .ok diagram) (hboard : diagram.board? = some board) :
    diagram.font = font ∧ Header.ofLine (firstLine text) = .ok diagram.header ∧
      Board.ofBody (content text).body font diagram.header.coordinates = .ok board := by
  have houtcome := toOption_eq_some.mp hboard
  obtain ⟨cause, -, rfl⟩ | ⟨header, outcome, hheader, hattempt, rfl⟩ := ofText_eq_ok.mp h
  · cases hboard
  · dsimp only at houtcome
    subst houtcome
    obtain ⟨found, hfound, heq⟩ | ⟨cause, -, heq⟩ := attempt_eq_ok.mp hattempt
    · cases heq
      exact ⟨rfl, hheader, hfound⟩
    · cases heq

/-- The links of a text.  One that starts no diagram has none. -/
def linksOf (text : List Char) : Links :=
  if (Header.parts? (firstLine text)).isSome then (content text).links else {}

theorem linksOf_of_ok {text : List Char} {header : Header}
    (h : Header.ofLine (firstLine text) = .ok header) : linksOf text = (content text).links := by
  rw [linksOf]
  cases hparts : Header.parts? (firstLine text) with
  | none =>
    rw [Header.ofLine, hparts] at h
    cases h
  | some parts => rfl

theorem linksOf_of_parse {text : List Char} {cause : ParseError}
    (h : Header.ofLine (firstLine text) = .error (.parse cause)) : linksOf text = {} := by
  rw [linksOf]
  cases hparts : Header.parts? (firstLine text) with
  | none => rfl
  | some parts => exact absurd h (Header.ofLine_ne_parse hparts cause)

theorem links_of_ofText {text : List Char} {font : Font} {diagram : Diagram}
    (h : ofText text font = .ok diagram) : diagram.links = linksOf text := by
  obtain ⟨cause, hheader, rfl⟩ | ⟨header, outcome, hheader, -, rfl⟩ := ofText_eq_ok.mp h
  · exact (linksOf_of_parse hheader).symm
  · exact (linksOf_of_ok hheader).symm

/-- Texts with the same header and rows are read alike but for their links. -/
theorem ofText_congr {text text' : List Char}
    (hheader : Header.ofLine (firstLine text) = Header.ofLine (firstLine text'))
    (hbody : (content text).body = (content text').body) (font : Font) :
    ofText text' font = (ofText text font).map fun diagram =>
      { diagram with text := text', links := linksOf text' } := by
  unfold ofText
  dsimp only
  rw [hheader, hbody]
  cases hline : Header.ofLine (firstLine text') with
  | error fault =>
    cases fault with
    | parse cause => rw [linksOf_of_parse hline]; rfl
    | _ => rfl
  | ok header =>
    dsimp only [attempt, bind, Except.bind]
    rw [linksOf_of_ok hline]
    split <;> rfl

end Diagram

end BoardDiagram
