import BoardDiagram.Drawing.Shape
import BoardDiagram.Proofs.Markup.Figures
import BoardDiagram.Proofs.Markup.Nesting

/-! Shapes as markup.  Every shape is a fragment, whatever the numbers in it and whatever the texts
of its label and its link; only the area of a link has an address. -/

namespace BoardDiagram.Shape

open Markup

theorem quiet_classAttr {name : Option (List Char)} (h : ∀ text ∈ name, isSafe text = true) :
    Quiet (classAttr name) := by
  unfold classAttr
  split
  · rename_i c rest
    exact .attr rfl (h (c :: rest) rfl) .nil
  · exact .nil

/-! ### Shapes -/

theorem quiet_circle (x y radius : Binary64) {stroke fill : List Char}
    (hstroke : isSafe stroke = true) (hfill : isSafe fill = true) :
    Quiet (circle x y radius stroke fill) :=
  .attr rfl (isSafe_pixels x) <| .attr rfl (isSafe_pixels y) <| .attr rfl (isSafe_pixels radius) <|
    .attr rfl hstroke <| .attr rfl hfill .nil

theorem fragment_rect (x y width height : Binary64) {fill : List Char}
    {className : Option (List Char)} (hfill : isSafe fill = true)
    (hclass : ∀ text ∈ className, isSafe text = true) :
    Fragment [] (rect x y width height fill className) :=
  .leaf rfl <| .append (.attr rfl (isSafe_pixels x) <| .attr rfl (isSafe_pixels y) <|
    .attr rfl (isSafe_pixels width) <| .attr rfl (isSafe_pixels height) <| .attr rfl hfill .nil)
    (quiet_classAttr hclass)

theorem fragment_stone (x y radius : Binary64) {ring fill : List Char}
    {className : Option (List Char)} (hring : isSafe ring = true) (hfill : isSafe fill = true)
    (hclass : ∀ text ∈ className, isSafe text = true) :
    Fragment [] (stone x y radius ring fill className) :=
  .leaf rfl ((quiet_circle x y radius hring hfill).append (quiet_classAttr hclass))

section Marks

variable (x y radius : Binary64) {color : List Char} (hcolor : isSafe color = true)
include hcolor

theorem fragment_circleMark : Fragment [] (circleMark x y radius color) :=
  .append (.leaf rfl (quiet_circle x y _ hcolor (by decide)))
    (.leaf rfl (quiet_circle x y _ hcolor (by decide)))

theorem fragment_squareMark : Fragment [] (squareMark x y radius color) :=
  .leaf rfl <| .attr rfl (isSafe_pixels _) <| .attr rfl (isSafe_pixels _) <|
    .attr rfl (isSafe_pixels _) <| .attr rfl (isSafe_pixels _) <| .attr rfl hcolor <|
    .attr rfl rfl .nil

omit hcolor in
theorem isSafe_corner : isSafe (corner x y) = true :=
  isSafe_append (isSafe_pixels x) (isSafe_cons rfl (isSafe_pixels y))

theorem fragment_triangleMark : Fragment [] (triangleMark x y radius color) := by
  refine .leaf rfl (.attr rfl ?_ (.attr rfl hcolor (.attr rfl rfl .nil)))
  exact isSafe_append (isSafe_append (isSafe_corner _ _) (isSafe_cons rfl (isSafe_corner _ _)))
    (isSafe_cons rfl (isSafe_corner _ _))

theorem fragment_hoshiMark : Fragment [] (hoshiMark x y color) :=
  .leaf rfl <| .attr rfl (isSafe_pixels x) <| .attr rfl (isSafe_pixels y) <| .attr rfl rfl <|
    .attr rfl hcolor <| .attr rfl hcolor .nil

theorem fragment_segment (x1 y1 x2 y2 : Binary64) : Fragment [] (segment x1 y1 x2 y2 color) :=
  .leaf rfl <| .attr rfl (isSafe_pixels x1) <| .attr rfl (isSafe_pixels y1) <|
    .attr rfl (isSafe_pixels x2) <| .attr rfl (isSafe_pixels y2) <| .attr rfl hcolor .nil

theorem fragment_crossMark : Fragment [] (crossMark x y radius color) :=
  .append (fragment_segment hcolor _ _ _ _) (fragment_segment hcolor _ _ _ _)

theorem fragment_mark (m : Mark) : Fragment [] (mark x y radius color m) := by
  cases m with
  | hoshi => exact fragment_hoshiMark x y hcolor
  | circle => exact fragment_circleMark x y radius hcolor
  | square => exact fragment_squareMark x y radius hcolor
  | triangle => exact fragment_triangleMark x y radius hcolor
  | cross => exact fragment_crossMark x y radius hcolor

theorem fragment_intersection (closed : Sides) :
    Fragment [] (intersection x y radius color closed) := by
  have hline (side : Bool) (x1 y1 x2 y2 : Binary64) :
      Fragment [] (if side then [] else segment x1 y1 x2 y2 color) := by
    cases side with
    | false => exact fragment_segment hcolor x1 y1 x2 y2
    | true => exact .nil
  exact (((hline closed.top _ _ _ _).append (hline closed.bottom _ _ _ _)).append
    (hline closed.left _ _ _ _)).append (hline closed.right _ _ _ _)

end Marks

theorem fragment_label (x y : Binary64) (text : List Char) {color className : List Char}
    (size : Binary64) (hcolor : isSafe color = true) (hclass : isSafe className = true) :
    Fragment [] (label x y text color className size) := by
  refine .line rfl ?_ (.data (isSafe_escape text))
  refine .attr rfl (isSafe_pixels x) (.attr rfl (isSafe_pixels y) ?_)
  refine .attr rfl hcolor (.attr rfl hclass ?_)
  refine .attr rfl (isSafe_append (isSafe_append ?_ (isSafe_pixels size)) ?_) .nil <;> decide

theorem fragment_linkArea (x y radius : Binary64) (url : List Char) :
    Fragment [escape url] (linkArea x y radius url) := by
  have harea : Fragment [] (leaf "rect" [pixelAttr "x" (x - radius), pixelAttr "y" (y - radius),
      pixelAttr "width" (radius * .finite 2), pixelAttr "height" (radius * .finite 2),
      attr "stroke" Palette.board, attr "fill" Palette.link, attr "fill-opacity" "0.4".toList,
      attr "class" Palette.linkClass]) :=
    .leaf rfl <| .attr rfl (isSafe_pixels _) <| .attr rfl (isSafe_pixels _) <|
      .attr rfl (isSafe_pixels _) <| .attr rfl (isSafe_pixels _) <| .attr rfl rfl <|
      .attr rfl rfl <| .attr rfl rfl <| .attr rfl rfl .nil
  have hhref : [attr "href" (escape url)].all isWrittenAttribute = true := by
    simp only [List.all_cons, List.all_nil, isWrittenAttribute, attr, isSafe_escape, Bool.and_true]
    decide
  have hbreak : Fragment [] [newline] := .data (by decide)
  exact (Fragment.element rfl hhref (hbreak.append harea)).append hbreak

end BoardDiagram.Shape
