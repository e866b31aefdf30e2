import BoardDiagram.Cell
import BoardDiagram.Drawing.Shape
import BoardDiagram.Proofs.Numerals

/-! What tokens stand for, class by class.  Stones and marks have symbols of their own, and moves
are written in digits alone; so a token says which class its cell is in, and the cell has what the
drawing of that class asks for. -/

namespace BoardDiagram

/-- A token of digits alone. -/
def IsNumeral (token : List Char) : Prop :=
  token ≠ [] ∧ ∀ c ∈ token, c.isDigit = true

namespace Kind

variable {c : Char} {token : List Char}

theorem ofSymbol?_of_isDigit (h : c.isDigit = true) : ofSymbol? c = none := by
  unfold ofSymbol?
  split
  all_goals first
    | rfl
    | exact absurd h (by decide)

theorem ofSymbol?_ne_move (number : Nat) : ofSymbol? c ≠ some (.move number) := by
  intro h
  unfold ofSymbol? at h
  split at h <;> cases h

theorem ofToken_of_isNumeral (h : IsNumeral token) :
    ofToken token = (Numeral.read token).map .move := by
  obtain ⟨hne, hdigits⟩ := h
  unfold ofToken
  split
  · rename_i c
    have hc := hdigits c List.mem_cons_self
    rw [ofSymbol?_of_isDigit hc]
    dsimp only
    rw [if_pos hc]
  · rw [if_pos]
    rw [Bool.and_eq_true, List.all_eq_true]
    exact ⟨by simpa using hne, hdigits⟩

theorem eq_move_of_isNumeral {kind : Kind} (hnumeral : IsNumeral token)
    (h : ofToken token = .ok kind) : kind = .move (Nat.ofDigitChars 10 token 0) := by
  rw [ofToken_of_isNumeral hnumeral] at h
  obtain ⟨number, hread, rfl⟩ := map_eq_ok.mp h
  obtain ⟨-, rfl⟩ := Numeral.read_eq_ok.mp hread
  rw [Numeral.value, Numeral.foldl_eq_ofDigitChars 0 hnumeral.2]

/-- The kind of a token of digits is a move, that of a symbol what the symbol says, and no other
token is a stone, a move or a mark. -/
theorem ofToken_cases {kind : Kind} (h : ofToken token = .ok kind) :
    (IsNumeral token ∧ kind = .move (Nat.ofDigitChars 10 token 0)) ∨
      (∃ c, token = [c] ∧ ofSymbol? c = some kind) ∨ kind = .letter ∨ kind = .unknown := by
  by_cases hnumeral : IsNumeral token
  · exact .inl ⟨hnumeral, eq_move_of_isNumeral hnumeral h⟩
  · refine .inr ?_
    unfold ofToken at h
    split at h
    · rename_i c
      split at h
      · rename_i found hfound
        cases h
        exact .inl ⟨c, rfl, hfound⟩
      · rw [if_neg fun hdigit => hnumeral ⟨List.cons_ne_nil c [], by simpa using hdigit⟩] at h
        split at h
        · cases h
          exact .inr (.inl rfl)
        · cases h
          exact .inr (.inr rfl)
    · rw [if_neg] at h
      · cases h
        exact .inr (.inr rfl)
      · rw [Bool.and_eq_true, List.all_eq_true]
        exact fun hdigits => hnumeral ⟨by simpa using hdigits.1, hdigits.2⟩

end Kind

namespace Cell

section OfToken

variable {token : List Char} {cell : Cell} (h : ofToken token = .ok cell)
include h

theorem kind_of_ofToken : cell.token = token ∧ Kind.ofToken token = .ok cell.kind := by
  obtain ⟨kind, hkind, rfl⟩ := map_eq_ok.mp h
  exact ⟨rfl, hkind⟩

/-- A move is written in digits alone, and all that is written in digits alone is a move. -/
theorem kind_eq_move (number : Nat) : cell.kind = .move number ↔
    IsNumeral cell.token ∧ number = Nat.ofDigitChars 10 cell.token 0 := by
  obtain ⟨rfl, hcell⟩ := kind_of_ofToken h
  constructor
  · intro hmove
    rw [hmove] at hcell
    obtain ⟨hnumeral, hnumber⟩ | ⟨c, -, hsymbol⟩ | hletter | hunknown := Kind.ofToken_cases hcell
    · exact ⟨hnumeral, Kind.move.inj hnumber⟩
    · exact absurd hsymbol (Kind.ofSymbol?_ne_move number)
    · cases hletter
    · cases hunknown
  · rintro ⟨hnumeral, rfl⟩
    exact Kind.eq_move_of_isNumeral hnumeral hcell

end OfToken

end Cell

end BoardDiagram
