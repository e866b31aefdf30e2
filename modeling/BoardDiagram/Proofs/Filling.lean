import BoardDiagram.Proofs.Text
import BoardDiagram.Text.Wrap
import Mathlib.Logic.Function.Iterate

/-! Filling a text into lines, as a loop.  Its state is the lines laid so far and the chunks left,
and each pass takes chunks for one more line.  A pass leaves out white space only, the line that it
adds is neither empty nor too wide, and it uses up some of what is left.  So the loop ends for every
text, and its lines hold all characters of the text but white space, in order. -/

namespace BoardDiagram.Text

/-- A text is another with some of the white space left out. -/
structure Thins (s t : List Char) : Prop where
  sublist : s.Sublist t
  solid : s.filter (!isBlank ·) = t.filter (!isBlank ·)

namespace Thins

theorem refl (s : List Char) : Thins s s :=
  ⟨List.Sublist.refl s, rfl⟩

theorem trans {r s t : List Char} (hrs : Thins r s) (hst : Thins s t) : Thins r t :=
  ⟨hrs.sublist.trans hst.sublist, hrs.solid.trans hst.solid⟩

theorem append {s s' t t' : List Char} (h : Thins s t) (h' : Thins s' t') :
    Thins (s ++ s') (t ++ t') := by
  refine ⟨h.sublist.append h'.sublist, ?_⟩
  rw [List.filter_append, List.filter_append, h.solid, h'.solid]

theorem nil {blank : List Char} (h : isBlankText blank = true) : Thins [] blank := by
  refine ⟨List.nil_sublist blank, (List.filter_eq_nil_iff.mpr fun c hc => ?_).symm⟩
  simp [List.all_eq_true.mp h c hc]

end Thins

namespace Wrap

/-! ### Levelling -/

theorem isBlank_of_isSpacing {c : Char} (h : isSpacing c = true) : isBlank c = true := by
  rw [isSpacing, Bool.or_eq_true, decide_eq_true_eq, Bool.and_eq_true, decide_eq_true_eq,
    decide_eq_true_eq] at h
  obtain rfl | hrange := h
  · decide
  · simp [isBlank, hrange]

theorem solid_expandTabs (column : Nat) (s : List Char) :
    (expandTabs column s).filter (!isBlank ·) = s.filter (!isBlank ·) := by
  fun_induction expandTabs column s with
  | case1 => rfl
  | case2 column rest step ih =>
    have hspaces : (List.replicate step ' ').filter (!isBlank ·) = [] := by
      apply List.filter_eq_nil_iff.mpr
      intro d hd
      rw [List.eq_of_mem_replicate hd]
      decide
    rw [List.filter_append, hspaces, ih, List.filter_cons_of_neg (by decide), List.nil_append]
  | case3 column c rest htab ih =>
    rw [List.filter_cons, List.filter_cons, ih]

theorem length_expandTabs_le (column : Nat) (s : List Char) :
    (expandTabs column s).length ≤ 8 * s.length := by
  fun_induction expandTabs column s with
  | case1 => exact Nat.le_refl 0
  | case2 column rest step ih =>
    rw [List.length_append, List.length_replicate, List.length_cons]
    omega
  | case3 column c rest htab ih =>
    rw [List.length_cons, List.length_cons]
    omega

theorem solid_levelled (s : List Char) :
    (levelled s).filter (!isBlank ·) = s.filter (!isBlank ·) := by
  rw [← solid_expandTabs 0 s, levelled]
  induction expandTabs 0 s with
  | nil => rfl
  | cons c rest ih =>
    rw [List.map_cons, List.filter_cons, List.filter_cons, ih]
    by_cases hspacing : isSpacing c = true
    · rw [if_pos hspacing, isBlank_of_isSpacing hspacing]
      rfl
    · rw [if_neg hspacing]

theorem length_levelled_le (s : List Char) : (levelled s).length ≤ 8 * s.length := by
  rw [levelled, List.length_map]
  exact length_expandTabs_le 0 s

/-! ### Chunks -/

theorem ne_nil_of_mem_chunksAfter {before s chunk : List Char}
    (h : chunk ∈ chunksAfter before s) : chunk ≠ [] := by
  fun_induction chunksAfter before s with
  | case1 => exact absurd h List.not_mem_nil
  | case2 before c rest n ih =>
    obtain rfl | h := List.mem_cons.mp h
    · have hpos := chunkLength_pos before c rest
      rw [Ne, List.take_eq_nil_iff, not_or]
      exact ⟨Nat.ne_of_gt hpos, List.cons_ne_nil c rest⟩
    · exact ih h

theorem weight_eq (chunks : List (List Char)) :
    weight chunks = chunks.flatten.length + chunks.length := by
  induction chunks with
  | nil => rfl
  | cons chunk rest ih =>
    rw [weight_cons, ih, List.flatten_cons, List.length_append, List.length_cons]
    omega

theorem length_le_length_flatten {pieces : List (List Char)} (h : ∀ piece ∈ pieces, piece ≠ []) :
    pieces.length ≤ pieces.flatten.length := by
  induction pieces with
  | nil => exact Nat.le_refl 0
  | cons piece rest ih =>
    obtain ⟨hpiece, hrest⟩ := List.forall_mem_cons.mp h
    have hpos := List.length_pos_iff.mpr hpiece
    have ih := ih hrest
    rw [List.flatten_cons, List.length_append, List.length_cons]
    omega

theorem weight_chunks_le (s : List Char) : weight (chunks (levelled s)) ≤ 16 * s.length := by
  have hcount : (chunks (levelled s)).length ≤ (chunks (levelled s)).flatten.length :=
    length_le_length_flatten fun _ h => ne_nil_of_mem_chunksAfter h
  have hlength := length_levelled_le s
  rw [flatten_chunks] at hcount
  rw [weight_eq, flatten_chunks]
  omega

/-! ### One line -/

theorem dropBlankStart_thins (chunks : List (List Char)) :
    Thins (dropBlankStart chunks).flatten chunks.flatten := by
  unfold dropBlankStart
  split
  · split
    · rename_i chunk rest hblank
      exact (Thins.nil hblank).append (Thins.refl rest.flatten)
    · exact Thins.refl _
  · exact Thins.refl _

theorem mem_of_mem_dropBlankStart {chunk : List Char} {chunks : List (List Char)}
    (h : chunk ∈ dropBlankStart chunks) : chunk ∈ chunks := by
  unfold dropBlankStart at h
  split at h
  · split at h
    · exact List.mem_cons_of_mem _ h
    · exact h
  · exact h

theorem dropBlankEnd_concat (line : List (List Char)) (chunk : List Char) :
    dropBlankEnd (line ++ [chunk]) =
      if isBlankText chunk then line else line ++ [chunk] := by
  rw [dropBlankEnd, List.getLast?_concat, List.dropLast_concat]

theorem dropBlankEnd_thins (line : List (List Char)) :
    Thins (dropBlankEnd line).flatten line.flatten := by
  obtain rfl | ⟨line, chunk, rfl⟩ := List.eq_nil_or_concat line
  · exact Thins.refl []
  · rw [List.concat_eq_append, dropBlankEnd_concat]
    split
    · rename_i hblank
      rw [List.flatten_concat]
      simpa using (Thins.refl line.flatten).append (Thins.nil hblank)
    · exact Thins.refl _

theorem breakPoint_le (room : Nat) (chunk : List Char) : breakPoint room chunk ≤ room := by
  unfold breakPoint
  dsimp only
  split
  · rw [List.length_reverse]
    have hdrop := (List.dropWhile_suffix (· ≠ '-') (l := (chunk.take room).reverse)).length_le
    rw [List.length_reverse, List.length_take] at hdrop
    omega
  · exact Nat.le_refl room

theorem length_fit_le (room : Nat) (chunks : List (List Char)) :
    (fit room chunks).1.flatten.length ≤ room := by
  fun_induction fit room chunks with
  | case1 room => exact Nat.zero_le room
  | case2 room chunk rest hchunk line left hfit ih =>
    rw [hfit] at ih
    dsimp only at ih
    rw [List.flatten_cons, List.length_append]
    omega
  | case3 room chunk rest hchunk => exact Nat.zero_le room

/-- The chunks of a line and those left over, as they are taken from chunks of which none is empty.
Only the last chunk of the line may be empty, and then it is dropped. -/
structure IsTaken (width : Nat) (chunks line rest : List (List Char)) : Prop where
  flatten : line.flatten ++ rest.flatten = chunks.flatten
  length_le : line.flatten.length ≤ width
  line_ne_nil : ∀ chunk ∈ dropBlankEnd line, chunk ≠ []
  rest_ne_nil : ∀ chunk ∈ rest, chunk ≠ []

theorem mem_of_mem_dropBlankEnd {chunk : List Char} {line : List (List Char)}
    (h : chunk ∈ dropBlankEnd line) : chunk ∈ line := by
  unfold dropBlankEnd at h
  split at h
  · split at h
    · exact (List.dropLast_sublist line).mem h
    · exact h
  · exact h

/-- A piece without characters is blank, and so it is not kept at the end of a line. -/
theorem ne_nil_of_mem_dropBlankEnd_concat {line : List (List Char)}
    (h : ∀ chunk ∈ line, chunk ≠ []) (piece : List Char) :
    ∀ chunk ∈ dropBlankEnd (line ++ [piece]), chunk ≠ [] := by
  rw [dropBlankEnd_concat]
  split
  · exact h
  · rename_i hsolid
    refine List.forall_mem_append.mpr ⟨h, List.forall_mem_singleton.mpr fun hnil => ?_⟩
    rw [hnil] at hsolid
    exact hsolid rfl

section Taken

variable {width : Nat} {line rest : List (List Char)} {chunk : List Char}
  (h : ∀ piece ∈ line ++ chunk :: rest, piece ≠ []) (hroom : line.flatten.length ≤ width)
include h hroom

theorem isTaken_whole : IsTaken width (line ++ chunk :: rest) line (chunk :: rest) := by
  obtain ⟨hline, hleft⟩ := List.forall_mem_append.mp h
  exact ⟨List.flatten_append.symm, hroom,
    fun piece hpiece => hline piece (mem_of_mem_dropBlankEnd hpiece), hleft⟩

/-- A chunk that no line can hold is cut, and what is left of it is not empty. -/
theorem isTaken_cut (hlong : width < chunk.length) {n : Nat}
    (hn : n = breakPoint (width - line.flatten.length) chunk) :
    IsTaken width (line ++ chunk :: rest) (line ++ [chunk.take n]) (chunk.drop n :: rest) := by
  obtain ⟨hline, hleft⟩ := List.forall_mem_append.mp h
  have hbreak : n ≤ width - line.flatten.length := hn ▸ breakPoint_le _ chunk
  constructor
  case flatten =>
    rw [List.flatten_concat, List.flatten_cons, List.append_assoc,
      ← List.append_assoc _ _ rest.flatten, List.take_append_drop, List.flatten_append,
      List.flatten_cons]
  case length_le =>
    rw [List.flatten_concat, List.length_append, List.length_take]
    omega
  case line_ne_nil => exact ne_nil_of_mem_dropBlankEnd_concat hline _
  case rest_ne_nil =>
    refine List.forall_mem_cons.mpr ⟨?_, (List.forall_mem_cons.mp hleft).2⟩
    rw [Ne, List.drop_eq_nil_iff]
    omega

end Taken

theorem isTaken_takeLine {width : Nat} {chunks : List (List Char)}
    (h : ∀ chunk ∈ chunks, chunk ≠ []) :
    IsTaken width chunks (takeLine width chunks).1 (takeLine width chunks).2 := by
  have happend := fit_append width chunks
  have hroom := length_fit_le width chunks
  unfold takeLine
  split
  · rename_i line hfit
    rw [hfit, List.append_nil] at happend
    rw [hfit] at hroom
    subst happend
    refine ⟨List.append_nil _, hroom, fun chunk hchunk => ?_, nofun⟩
    exact h chunk (mem_of_mem_dropBlankEnd hchunk)
  · rename_i line chunk rest hfit
    rw [hfit] at happend hroom
    dsimp only at happend hroom
    subst happend
    split
    · rename_i hlong
      exact isTaken_cut h hroom hlong rfl
    · exact isTaken_whole h hroom

end Wrap

/-! ### The loop -/

open Wrap

/-- What the loop that fills lines works on. -/
structure Filling where
  /-- The lines laid so far. -/
  lines : List (List Char) := []
  /-- The chunks that are left. -/
  left : List (List Char)
  deriving DecidableEq

namespace Filling

/-- The state in which the loop starts. -/
def ofText (s : List Char) : Filling where
  left := chunks (levelled s)

/-- The chunks that a pass takes from. -/
def chunks (f : Filling) : List (List Char) :=
  if f.lines.isEmpty then f.left else dropBlankStart f.left

/-- The chunks of the line that a pass lays. -/
def line (width : Nat) (f : Filling) : List (List Char) :=
  dropBlankEnd (takeLine width f.chunks).1

/-- One pass of the loop. -/
def pass (width : Nat) (f : Filling) : Filling where
  lines := if (f.line width).isEmpty then f.lines else f.lines ++ [(f.line width).flatten]
  left := (takeLine width f.chunks).2

theorem chunks_thins (f : Filling) : Thins f.chunks.flatten f.left.flatten := by
  unfold chunks
  split
  · exact Thins.refl _
  · exact dropBlankStart_thins _

theorem mem_left_of_mem_chunks {f : Filling} {chunk : List Char} (h : chunk ∈ f.chunks) :
    chunk ∈ f.left := by
  unfold chunks at h
  split at h
  · exact h
  · exact mem_of_mem_dropBlankStart h

/-- What holds of the state after each pass over a text. -/
structure Fills (width : Nat) (text : List Char) (f : Filling) : Prop where
  thins : Thins (f.lines.flatten ++ f.left.flatten) text
  line : ∀ line ∈ f.lines, line ≠ [] ∧ line.length ≤ width
  chunk : ∀ chunk ∈ f.left, chunk ≠ []

theorem fills_ofText (width : Nat) (s : List Char) : Fills width (levelled s) (ofText s) where
  thins := by
    rw [ofText, flatten_chunks]
    exact Thins.refl _
  line := nofun
  chunk := fun _ h => ne_nil_of_mem_chunksAfter h

/-- A pass drops blank chunks only, and a line that it adds has a chunk that is not empty. -/
theorem Fills.pass {width : Nat} {text : List Char} {f : Filling} (h : Fills width text f) :
    Fills width text (f.pass width) := by
  have htaken : IsTaken width f.chunks (takeLine width f.chunks).1 (takeLine width f.chunks).2 :=
    isTaken_takeLine fun chunk hchunk => h.chunk chunk (mem_left_of_mem_chunks hchunk)
  have hline : Thins (f.line width).flatten (takeLine width f.chunks).1.flatten :=
    dropBlankEnd_thins _
  have hlines : (f.pass width).lines.flatten = f.lines.flatten ++ (f.line width).flatten := by
    unfold Filling.pass
    dsimp only
    split
    · rename_i hempty
      rw [List.isEmpty_iff.mp hempty, List.flatten_nil, List.append_nil]
    · rw [List.flatten_concat]
  refine ⟨?_, ?_, htaken.rest_ne_nil⟩
  · have hleft : Thins ((f.line width).flatten ++ (f.pass width).left.flatten) f.left.flatten := by
      refine Thins.trans ?_ f.chunks_thins
      rw [← htaken.flatten]
      exact hline.append (Thins.refl _)
    rw [hlines, List.append_assoc]
    exact ((Thins.refl f.lines.flatten).append hleft).trans h.thins
  · unfold Filling.pass
    dsimp only
    split
    · exact h.line
    · rename_i hsome
      refine List.forall_mem_append.mpr ⟨h.line, List.forall_mem_singleton.mpr ⟨?_, ?_⟩⟩
      · obtain ⟨chunk, rest, hcons⟩ := List.exists_cons_of_ne_nil (mt List.isEmpty_iff.mpr hsome)
        have hchunk : chunk ≠ [] := by
          apply htaken.line_ne_nil
          show chunk ∈ f.line width
          rw [hcons]
          exact List.mem_cons_self
        rw [hcons, List.flatten_cons]
        exact List.append_ne_nil_of_left_ne_nil hchunk _
      · exact Nat.le_trans hline.sublist.length_le htaken.length_le

theorem Fills.iterate {width : Nat} {text : List Char} {f : Filling} (h : Fills width text f)
    (passes : Nat) : Fills width text ((Filling.pass width)^[passes] f) := by
  induction passes with
  | zero => exact h
  | succ passes ih =>
    rw [Function.iterate_succ_apply']
    exact ih.pass

/-! ### The end of the loop -/

/-- When nothing is left, a pass changes nothing. -/
theorem pass_of_done {width : Nat} {f : Filling} (h : f.left = []) : f.pass width = f := by
  have hchunks : f.chunks = [] := by
    unfold chunks
    rw [h]
    split <;> rfl
  obtain ⟨lines, left⟩ := f
  unfold pass line
  rw [hchunks]
  exact congrArg (Filling.mk lines) h.symm

theorem fill_nil (width : Nat) (hwidth : 0 < width) (started : Bool) :
    fill width hwidth started [] = [] := by
  rw [fill]
  cases started <;> rfl

section End

variable {width : Nat} (hwidth : 0 < width)
include hwidth

theorem weight_pass {f : Filling} (h : f.left ≠ []) :
    weight (f.pass width).left < weight f.left := by
  have hchunks : weight f.chunks ≤ weight f.left := by
    unfold chunks
    split
    · exact Nat.le_refl _
    · exact weight_dropBlankStart _
  by_cases hnone : f.chunks = []
  · -- a blank chunk was the last one, and nothing is left for a line
    have hleft : (f.pass width).left = [] := by
      rw [pass, hnone]
      rfl
    rw [hleft, weight_nil]
    obtain ⟨chunk, rest, hcons⟩ := List.exists_cons_of_ne_nil h
    rw [hcons, weight_cons]
    omega
  · exact Nat.lt_of_lt_of_le (weight_takeLine hwidth hnone) hchunks

theorem weight_iterate_le (f : Filling) (passes : Nat) :
    weight ((pass width)^[passes] f).left ≤ weight f.left - passes := by
  induction passes with
  | zero => exact Nat.le_refl _
  | succ passes ih =>
    rw [Function.iterate_succ_apply']
    by_cases hdone : ((pass width)^[passes] f).left = []
    · have hleft : (pass width ((pass width)^[passes] f)).left = [] := by
        rw [pass_of_done hdone, hdone]
      rw [hleft]
      exact Nat.zero_le _
    · have hpass := weight_pass hwidth hdone
      omega

theorem fill_left (f : Filling) : fill width hwidth (!f.lines.isEmpty) f.left =
    if f.chunks = [] then []
    else if (f.line width).isEmpty then fill width hwidth (!f.lines.isEmpty) (f.pass width).left
    else (f.line width).flatten :: fill width hwidth true (f.pass width).left := by
  have hstart : (if (!f.lines.isEmpty) = true then dropBlankStart f.left else f.left) =
      f.chunks := by
    unfold chunks
    cases f.lines.isEmpty <;> rfl
  rw [fill]
  dsimp only
  rw [hstart]
  rfl

/-- What is laid in all is not changed by a pass. -/
theorem append_fill_pass (f : Filling) : (f.pass width).lines ++
      fill width hwidth (!(f.pass width).lines.isEmpty) (f.pass width).left =
    f.lines ++ fill width hwidth (!f.lines.isEmpty) f.left := by
  rw [fill_left hwidth f]
  by_cases hnone : f.chunks = []
  · have hlines : (f.pass width).lines = f.lines := by
      rw [pass, line, hnone]
      rfl
    have hleft : (f.pass width).left = [] := by
      rw [pass, hnone]
      rfl
    rw [if_pos hnone, hlines, hleft, fill_nil]
  · rw [if_neg hnone]
    by_cases hempty : (f.line width).isEmpty = true
    · have hlines : (f.pass width).lines = f.lines := if_pos hempty
      rw [if_pos hempty, hlines]
    · have hlines : (f.pass width).lines = f.lines ++ [(f.line width).flatten] := if_neg hempty
      have hsome : (f.lines ++ [(f.line width).flatten]).isEmpty = false := by simp
      rw [if_neg hempty, hlines, hsome, List.append_assoc, List.singleton_append]
      rfl

theorem append_fill_iterate (f : Filling) (passes : Nat) : ((pass width)^[passes] f).lines ++
      fill width hwidth (!((pass width)^[passes] f).lines.isEmpty) ((pass width)^[passes] f).left =
    f.lines ++ fill width hwidth (!f.lines.isEmpty) f.left := by
  induction passes with
  | zero => rfl
  | succ passes ih =>
    rw [Function.iterate_succ_apply', append_fill_pass hwidth, ih]

/-- The loop ends for every text, within sixteen passes for each of its characters, and the lines
laid by then are those that the text is wrapped into. -/
theorem iterate_ofText (s : List Char) {passes : Nat} (hpasses : 16 * s.length ≤ passes) :
    (pass width)^[passes] (ofText s) = ⟨wrap width hwidth s, []⟩ := by
  have hweight := weight_iterate_le hwidth (ofText s) passes
  have hstart : weight (ofText s).left ≤ 16 * s.length := weight_chunks_le s
  have hdone : ((pass width)^[passes] (ofText s)).left = [] := by
    apply List.eq_nil_iff_length_eq_zero.mpr
    rw [weight_eq] at hweight
    omega
  have hlines := append_fill_iterate hwidth (ofText s) passes
  rw [hdone, fill_nil, List.append_nil] at hlines
  calc (pass width)^[passes] (ofText s)
      = ⟨((pass width)^[passes] (ofText s)).lines, []⟩ := by rw [← hdone]
    _ = ⟨wrap width hwidth s, []⟩ := by rw [hlines]; rfl

theorem fills_wrap (s : List Char) : Fills width (levelled s) ⟨wrap width hwidth s, []⟩ := by
  rw [← iterate_ofText hwidth s (Nat.le_refl _)]
  exact (fills_ofText width s).iterate _

end End

/-- A full line takes nothing of the longer chunk behind it. -/
example : pass 4 ⟨[], ["abcd".toList, "efghij".toList]⟩ =
    ⟨["abcd".toList], ["efghij".toList]⟩ := by
  decide

end Filling

/-! ### The lines of a text -/

namespace Wrap

section Lines

variable {width : Nat} (hwidth : 0 < width) (s : List Char)

theorem line_of_mem_wrap : ∀ line ∈ wrap width hwidth s, line ≠ [] ∧ line.length ≤ width :=
  (Filling.fills_wrap hwidth s).line

theorem wrap_thins : Thins (wrap width hwidth s).flatten (levelled s) := by
  have hthins := (Filling.fills_wrap hwidth s).thins
  rwa [List.flatten_nil, List.append_nil] at hthins

/-- Wrapping loses white space only. -/
theorem solid_wrap :
    (wrap width hwidth s).flatten.filter (!isBlank ·) = s.filter (!isBlank ·) :=
  (wrap_thins hwidth s).solid.trans (solid_levelled s)

theorem length_wrap_le : (wrap width hwidth s).length ≤ 8 * s.length := by
  calc (wrap width hwidth s).length
      ≤ (wrap width hwidth s).flatten.length :=
        length_le_length_flatten fun line hline => (line_of_mem_wrap hwidth s line hline).1
    _ ≤ (levelled s).length := (wrap_thins hwidth s).sublist.length_le
    _ ≤ 8 * s.length := length_levelled_le s

theorem wrap_ne_nil {s : List Char} (h : isBlankText s = false) : wrap width hwidth s ≠ [] := by
  intro hnil
  obtain ⟨c, hc, hsolid⟩ := exists_solid h
  have hmem : c ∈ s.filter (!isBlank ·) := List.mem_filter.mpr ⟨hc, by simp [hsolid]⟩
  rw [← solid_wrap hwidth s, hnil] at hmem
  exact absurd hmem List.not_mem_nil

end Lines

end Wrap

end BoardDiagram.Text
