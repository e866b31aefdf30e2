import BoardDiagram.Grid
import BoardDiagram.Proofs.Numerals

/-! The grid of a body against its rows of tokens: the cells are those of the tokens, place by
place, and the edge of the board is drawn where the token of the edge stands. -/

namespace BoardDiagram

/-- The only token of the edge of the board is its glyph. -/
theorem Kind.ofToken_eq_border {token : List Char} :
    Kind.ofToken token = .ok .border ↔ token = Row.borderToken := by
  constructor
  · intro h
    unfold Kind.ofToken at h
    split at h
    · split at h
      · rename_i c kind hc
        cases h
        unfold Kind.ofSymbol? at hc
        split at hc <;> simp_all [Row.borderToken]
      · split at h
        · obtain ⟨n, _, hn⟩ := map_eq_ok.mp h
          contradiction
        · split at h <;> cases h
    · split at h
      · obtain ⟨n, _, hn⟩ := map_eq_ok.mp h
        contradiction
      · cases h
  · rintro rfl
    rfl

namespace Kind

theorem exists_ofToken {token : List Char} : (∃ kind, ofToken token = .ok kind) ↔
    (token.all Char.isDigit = true → token.length ≤ digitLimit) := by
  have hone : 1 ≤ digitLimit := by decide
  unfold ofToken
  split
  · rename_i c
    refine iff_of_true ?_ fun _ => hone
    split
    · exact ⟨_, rfl⟩
    · split
      · exact exists_map_eq_ok.mpr (Numeral.exists_read.mpr hone)
      · split <;> exact ⟨_, rfl⟩
  · split
    · rename_i hdigits
      rw [exists_map_eq_ok, Numeral.exists_read]
      rw [Bool.and_eq_true] at hdigits
      exact ⟨fun h _ => h, fun h => h hdigits.2⟩
    · rename_i hdigits
      refine iff_of_true ⟨_, rfl⟩ fun hall => ?_
      cases token with
      | nil => exact Nat.zero_le _
      | cons c rest => exact absurd (Bool.and_eq_true_iff.mpr ⟨rfl, hall⟩) hdigits

theorem ofToken_ne_parse (token : List Char) (cause : ParseError) :
    ofToken token ≠ .error (.parse cause) := by
  unfold ofToken
  split
  · split
    · nofun
    · split
      · exact mt map_eq_error.mp (Numeral.read_ne_parse _ cause)
      · split <;> nofun
  · split
    · exact mt map_eq_error.mp (Numeral.read_ne_parse _ cause)
    · nofun

end Kind

theorem Cell.exists_ofToken {token : List Char} : (∃ cell, Cell.ofToken token = .ok cell) ↔
    (token.all Char.isDigit = true → token.length ≤ digitLimit) :=
  exists_map_eq_ok.trans Kind.exists_ofToken

theorem Cell.isBorder_of_ofToken {token : List Char} {cell : Cell}
    (h : Cell.ofToken token = .ok cell) : cell.isBorder = decide (token = Row.borderToken) := by
  obtain ⟨kind, hkind, rfl⟩ := map_eq_ok.mp h
  rw [Cell.isBorder]
  have hiff : kind = .border ↔ token = Row.borderToken := by
    rw [← Kind.ofToken_eq_border, hkind, Except.ok.injEq]
  exact decide_eq_decide.mpr hiff

namespace Grid

def tokenAt (rows : List (List (List Char))) (row column : Nat) : Option (List Char) :=
  rows[row]?.bind (·[column]?)

/-- The cells of a body are those of its tokens, within the frame of its rows. -/
theorem ofBody_eq_ok {body : List Char} {grid : Grid} :
    ofBody body = .ok grid ↔
      frame (Row.normalize body) = .ok (grid.window, grid.borders) ∧
        (Row.normalize body).map (·.mapM Cell.ofToken) = grid.rows.map .ok := by
  unfold ofBody
  dsimp only
  cases hframe : frame (Row.normalize body) with
  | error cause => simp
  | ok pair =>
    obtain ⟨window, borders⟩ := pair
    simp only [bind_eq_ok, mapM_eq_ok, Except.ok.injEq, Prod.mk.injEq]
    constructor
    · rintro ⟨rows, hrows, h⟩
      cases h
      exact ⟨⟨rfl, rfl⟩, hrows⟩
    · rintro ⟨⟨rfl, rfl⟩, hrows⟩
      exact ⟨grid.rows, hrows, rfl⟩

theorem ofBody_eq_parse {body : List Char} {cause : ParseError} :
    ofBody body = .error (.parse cause) ↔ frame (Row.normalize body) = .error cause := by
  unfold ofBody
  dsimp only
  cases hframe : frame (Row.normalize body) with
  | error found => simp
  | ok pair =>
    refine iff_of_false (fun h => ?_) nofun
    cases hrows : (Row.normalize body).mapM fun row => row.mapM Cell.ofToken with
    | ok rows =>
      rw [hrows] at h
      cases h
    | error fault =>
      rw [hrows] at h
      cases h
      obtain ⟨row, -, hrow⟩ := exists_mem_of_mapM_eq_error hrows
      obtain ⟨token, -, htoken⟩ := exists_mem_of_mapM_eq_error hrow
      exact Kind.ofToken_ne_parse token cause (map_eq_error.mp htoken)

/-- Rows with a frame make a grid if their numerals can be read. -/
theorem exists_ofBody {body : List Char} {found : Window × Sides}
    (h : frame (Row.normalize body) = .ok found) : (∃ grid, ofBody body = .ok grid) ↔
      ∀ tokens ∈ Row.normalize body, ∀ token ∈ tokens,
        token.all Char.isDigit = true → token.length ≤ digitLimit := by
  have hcells : (∃ rows, (Row.normalize body).mapM (fun row => row.mapM Cell.ofToken) = .ok rows) ↔
      ∀ tokens ∈ Row.normalize body, ∀ token ∈ tokens,
        token.all Char.isDigit = true → token.length ≤ digitLimit := by
    simp only [exists_mapM_eq_ok, Cell.exists_ofToken]
  rw [← hcells]
  unfold ofBody
  dsimp only
  rw [h, exists_bind_eq_ok]
  constructor
  · rintro ⟨rows, hrows, -⟩
    exact ⟨rows, hrows⟩
  · rintro ⟨rows, hrows⟩
    exact ⟨rows, hrows, _, rfl⟩

theorem cellAt_ofNat (grid : Grid) (row column : Nat) :
    grid.cellAt row column = grid.rows[row]?.bind (·[column]?) := rfl

section Tokens

variable {body : List Char} {grid : Grid} (h : ofBody body = .ok grid)
include h

theorem cellAt_ofBody (row column : Nat) :
    (grid.cellAt row column).map Except.ok =
      (tokenAt (Row.normalize body) row column).map Cell.ofToken := by
  have hrow := congrArg (·[row]?) (ofBody_eq_ok.mp h).2
  simp only [List.getElem?_map] at hrow
  rw [cellAt_ofNat, tokenAt]
  cases hcells : grid.rows[row]? with
  | none =>
    rw [hcells, Option.map_none, Option.map_eq_none_iff] at hrow
    rw [hrow]
    rfl
  | some cells =>
    rw [hcells, Option.map_some, Option.map_eq_some_iff] at hrow
    obtain ⟨tokens, htokens, hcell⟩ := hrow
    have hcolumn := congrArg (·[column]?) (mapM_eq_ok.mp hcell)
    simp only [List.getElem?_map] at hcolumn
    rw [htokens, Option.bind_some, Option.bind_some, hcolumn]

theorem isBorderAt_ofBody (row column : Nat) :
    grid.isBorderAt row column =
      decide (tokenAt (Row.normalize body) row column = some Row.borderToken) := by
  have hcell := cellAt_ofBody h row column
  rw [isBorderAt]
  cases hc : grid.cellAt row column with
  | none =>
    rw [hc, Option.map_none, eq_comm, Option.map_eq_none_iff] at hcell
    rw [hcell]
    rfl
  | some cell =>
    rw [hc, Option.map_some, eq_comm, Option.map_eq_some_iff] at hcell
    obtain ⟨token, htoken, hcell⟩ := hcell
    rw [htoken, Option.any_some, Cell.isBorder_of_ofToken hcell]
    simp

end Tokens

end Grid

end BoardDiagram
