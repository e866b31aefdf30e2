import BoardDiagram.Drawing.Shape
import BoardDiagram.Proofs.Markup.Figures

/-! The elements that stones, labels and links are written as, spelled out: the name of each tag,
and its attributes in their order. -/

namespace BoardDiagram

namespace Markup

theorem escapeChar_of_isFigure {c : Char} (h : isFigure c = true) : escapeChar c = [c] := by
  unfold escapeChar
  split
  all_goals first
    | rfl
    | exact absurd h (by decide)

theorem escape_of_figures {s : List Char} (h : ∀ c ∈ s, isFigure c = true) : escape s = s := by
  induction s with
  | nil => rfl
  | cons c rest ih =>
    have hrest := ih fun d hd => h d (List.mem_cons_of_mem c hd)
    rw [escape, List.flatMap_cons, escapeChar_of_isFigure (h c List.mem_cons_self)]
    exact congrArg (c :: ·) hrest

/-- A number has no character that is written as an entity. -/
theorem escape_decimal (n : Int) : escape (decimal n) = decimal n :=
  escape_of_figures fun _ hc => isFigure_decimal hc

/-- A disc with an outline. -/
def disc (x y radius stroke fill className : List Char) : Markup := [
  .void "circle".toList [⟨"cx".toList, x⟩, ⟨"cy".toList, y⟩, ⟨"r".toList, radius⟩,
    ⟨"stroke".toList, stroke⟩, ⟨"fill".toList, fill⟩, ⟨"class".toList, className⟩],
  .data ['\n']]

/-- A text that starts at a place. -/
def caption (x y fill className size content : List Char) : Markup := [
  .start "text".toList [⟨"x".toList, x⟩, ⟨"y".toList, y⟩, ⟨"fill".toList, fill⟩,
    ⟨"class".toList, className⟩,
    ⟨"style".toList, "font-size:".toList ++ size ++ "px".toList⟩],
  .data content, .stop "text".toList, .data ['\n']]

/-- A square that leads to an address. -/
def anchored (x y side address : List Char) : Markup := [
  .start "a".toList [⟨"href".toList, address⟩], .data ['\n'],
  .void "rect".toList [⟨"x".toList, x⟩, ⟨"y".toList, y⟩, ⟨"width".toList, side⟩,
    ⟨"height".toList, side⟩, ⟨"stroke".toList, "rgb(242, 176, 109)".toList⟩,
    ⟨"fill".toList, "rgb(202, 106, 69)".toList⟩, ⟨"fill-opacity".toList, "0.4".toList⟩,
    ⟨"class".toList, "linkClass".toList⟩],
  .data ['\n'], .stop "a".toList, .data ['\n']]

end Markup

namespace Shape

open Markup

theorem stone_eq (x y radius : Binary64) (ring fill : List Char) {className : List Char}
    (h : className ≠ []) : stone x y radius ring fill (some className) =
      disc x.pixels y.pixels radius.pixels ring fill className := by
  obtain ⟨c, rest, rfl⟩ := List.exists_cons_of_ne_nil h
  rfl

theorem label_eq (x y : Binary64) (text color className : List Char) (size : Binary64) :
    label x y text color className size =
      caption x.pixels y.pixels color className size.pixels (escape text) := rfl

theorem linkArea_eq (x y radius : Binary64) (url : List Char) : linkArea x y radius url =
    anchored (x - radius).pixels (y - radius).pixels (radius * .finite 2).pixels (escape url) := rfl

end Shape

end BoardDiagram
