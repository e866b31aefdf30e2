import BoardDiagram.Proofs.CanonicalRows
import Mathlib.Logic.Relation

/-! Changes to a diagram body that its rows do not show: noise anywhere, other glyphs for the edge
of the board, and lines without tokens.  A body is read line by line, and a line after its noise is
gone and its edges are written alike, so one change is not seen, and neither is any number of them.
In particular runs of line breaks can be joined before the lines are taken apart. -/

namespace BoardDiagram.Row

open Relation Text

/-- The glyphs that the edge of the board can be written with. -/
def edgeGlyphs : List Char :=
  ['-', '|', '+', '%']

/-- The characters of a line without tokens. -/
def IsVoid (line : List Char) : Prop :=
  ∀ c ∈ line, c ∈ [' ', '\t', '\r', '$']

/-- A change to a body that its rows do not show. -/
inductive Respelling : List Char → List Char → Prop
  /-- Noise is put anywhere. -/
  | noise (before after : List Char) {c : Char} : c ∈ ['\t', '\r', '$'] →
      Respelling (before ++ after) (before ++ c :: after)
  /-- A glyph of the edge is replaced. -/
  | glyph (before after : List Char) {c d : Char} : c ∈ edgeGlyphs → d ∈ edgeGlyphs →
      Respelling (before ++ c :: after) (before ++ d :: after)
  /-- A line without tokens is put before, between or behind others. -/
  | voidLine (before after : List (List Char)) {line : List Char} : IsVoid line →
      Respelling (['\n'].intercalate (before ++ after))
        (['\n'].intercalate (before ++ line :: after))

/-- A text with one line break for each run of them. -/
def joinBreaks : List Char → List Char
  | '\n' :: '\n' :: rest => joinBreaks ('\n' :: rest)
  | c :: rest => c :: joinBreaks rest
  | [] => []

/-! ### What one change keeps -/

theorem clean_noise {c : Char} (h : c ∈ ['\t', '\r', '$']) (s : List Char) :
    clean (c :: s) = clean s := by
  simp only [List.mem_cons, List.not_mem_nil, or_false] at h
  obtain rfl | rfl | rfl := h <;> rfl

theorem clean_edgeGlyph {c : Char} (h : c ∈ edgeGlyphs) (s : List Char) :
    clean (c :: s) = '%' :: clean s := by
  simp only [edgeGlyphs, List.mem_cons, List.not_mem_nil, or_false] at h
  obtain rfl | rfl | rfl | rfl := h <;> rfl

theorem normalize_congr {a b : List Char} (h : clean a = clean b) : normalize a = normalize b := by
  rw [normalize, normalize, h]

theorem clean_of_isVoid {line : List Char} (h : IsVoid line) : ∀ c ∈ clean line, c = ' ' := by
  induction line with
  | nil => exact fun c hc => absurd hc List.not_mem_nil
  | cons c line ih =>
    have hline := ih fun d hd => h d (List.mem_cons_of_mem c hd)
    obtain rfl | hnoise := List.mem_cons.mp (h c List.mem_cons_self)
    · have hspace : IsPlain ' ' := by unfold IsPlain; decide
      rw [clean_cons_plain hspace]
      exact List.forall_mem_cons.mpr ⟨rfl, hline⟩
    · rwa [clean_noise hnoise]

theorem split_spaces {line : List Char} (h : ∀ c ∈ line, c = ' ') : split line = [] := by
  have hspaced : isSpaced line = false := by
    have hdigit : (strip line).any Char.isDigit = false := by
      rw [List.any_eq_false]
      intro c hc
      rw [h c (mem_of_mem_strip hc)]
      decide
    rw [isSpaced, hdigit, Bool.and_false, Bool.false_and]
  have hfilter : line.filter (· ≠ ' ') = [] := by
    rw [List.filter_eq_nil_iff]
    intro c hc
    simp [h c hc]
  rw [split, hspaced, if_neg Bool.false_ne_true, hfilter, List.map_nil]

theorem normalize_of_isVoid {line : List Char} (h : IsVoid line) : normalize line = [] := by
  have hbreak : '\n' ∉ line := fun hmem => by
    have := h '\n' hmem
    contradiction
  rw [normalize_line hbreak, split_spaces (clean_of_isVoid h)]
  rfl

/-- A body that is joined from pieces at line breaks has the rows of all its pieces. -/
theorem normalize_pieces (pieces : List (List Char)) :
    normalize (['\n'].intercalate pieces) = pieces.flatMap normalize := by
  induction pieces with
  | nil => exact normalize_nil
  | cons piece pieces ih =>
    cases pieces with
    | nil => rw [List.intercalate_singleton, List.flatMap_singleton]
    | cons next pieces =>
      rw [List.intercalate_cons_cons, List.append_assoc, List.singleton_append,
        normalize_append_newline, ih]
      rfl

/-- One change keeps the rows. -/
theorem normalize_of_respelling {body body' : List Char} (h : Respelling body body') :
    normalize body' = normalize body := by
  cases h with
  | noise before after hc =>
    apply normalize_congr
    rw [clean_append, clean_append, clean_noise hc]
  | glyph before after hc hd =>
    apply normalize_congr
    rw [clean_append, clean_append, clean_edgeGlyph hc, clean_edgeGlyph hd]
  | voidLine before after hline =>
    rw [normalize_pieces, normalize_pieces, List.flatMap_append, List.flatMap_append,
      List.flatMap_cons, normalize_of_isVoid hline, List.nil_append]

/-- Any number of changes keeps the rows. -/
theorem normalize_of_respellings {body body' : List Char} (h : ReflTransGen Respelling body body') :
    normalize body' = normalize body := by
  induction h with
  | refl => rfl
  | tail _ hstep ih => exact (normalize_of_respelling hstep).trans ih

/-! ### Bodies as changes of simpler ones -/

theorem respellings_clean_append (before body : List Char) :
    ReflTransGen Respelling (before ++ clean body) (before ++ body) := by
  induction body generalizing before with
  | nil => exact .refl
  | cons c body ih =>
    have hrest := ih (before ++ [c])
    rw [List.append_assoc, List.append_assoc] at hrest
    by_cases hnoise : c ∈ ['\t', '\r', '$']
    · rw [clean_noise hnoise]
      exact .head (.noise before _ hnoise) hrest
    · by_cases hedge : c ∈ edgeGlyphs
      · rw [clean_edgeGlyph hedge]
        exact .head (.glyph before _ (by decide) hedge) hrest
      · have hplain : IsPlain c := by
          simp only [edgeGlyphs, List.mem_cons, List.not_mem_nil, or_false, not_or] at hnoise hedge
          simp [IsPlain, isBorderGlyph, isNoise, hnoise, hedge]
        rwa [clean_cons_plain hplain]

theorem respellings_joinBreaks_append (before body : List Char) :
    ReflTransGen Respelling (before ++ joinBreaks body) (before ++ body) := by
  fun_induction joinBreaks body generalizing before with
  | case1 rest ih =>
    have hline : Respelling (before ++ '\n' :: rest) (before ++ '\n' :: '\n' :: rest) := by
      have hempty : IsVoid [] := fun c hc => absurd hc List.not_mem_nil
      simpa using Respelling.voidLine [before] [rest] hempty
    exact (ih before).tail hline
  | case2 c rest _ ih =>
    have hrest := ih (before ++ [c])
    rwa [List.append_assoc, List.append_assoc] at hrest
  | case3 => exact .refl

/-- Every body is a change of what is left of it without noise, with one glyph for the edge and
with single line breaks. -/
theorem respellings_joinBreaks_clean (body : List Char) :
    ReflTransGen Respelling (joinBreaks (clean body)) body :=
  (respellings_joinBreaks_append [] (clean body)).trans (respellings_clean_append [] body)

theorem mem_of_mem_joinBreaks {body : List Char} {c : Char} (h : c ∈ joinBreaks body) :
    c ∈ body := by
  fun_induction joinBreaks body with
  | case1 rest ih => exact List.mem_cons_of_mem '\n' (ih h)
  | case2 d rest _ ih =>
    obtain rfl | hrest := List.mem_cons.mp h
    · exact List.mem_cons_self
    · exact List.mem_cons_of_mem d (ih hrest)
  | case3 => exact h

/-- Runs of line breaks can be joined before the lines are taken apart. -/
theorem normalize_eq_joinBreaks (body : List Char) : normalize body =
    ((lines (joinBreaks (clean body))).map split).filter (!·.isEmpty) := by
  have hclean : clean (joinBreaks (clean body)) = joinBreaks (clean body) :=
    clean_plain fun c hc => (mem_clean (mem_of_mem_joinBreaks hc)).1
  rw [normalize_of_respellings (respellings_joinBreaks_clean body), normalize, hclean]

/-- Rows are read line by line, so that a body can be cut at any line break, and changes that do
not matter change no row. -/
theorem normalize_linewise :
    (∀ body, normalize body =
      ((lines (joinBreaks (clean body))).map split).filter (!·.isEmpty)) ∧
    (∀ a b, normalize (a ++ '\n' :: b) = normalize a ++ normalize b) ∧
    ∀ body body', ReflTransGen Respelling body body' → normalize body' = normalize body :=
  ⟨normalize_eq_joinBreaks, normalize_append_newline, fun _ _ h => normalize_of_respellings h⟩

/-- Two rows, and the same with noise in a number, another edge, and lines without tokens before
and between them. -/
theorem normalize_linewise_two_rows :
    let rows := [["12".toList, ['%']], [['x'], ['%']]]
    normalize "12 |\nx+".toList = rows ∧
      ReflTransGen Respelling "12 |\nx+".toList "\n1\t2 -\n $\r\nx+".toList ∧
      normalize "\n1\t2 -\n $\r\nx+".toList = rows := by
  intro rows
  have hrows : normalize "12 |\nx+".toList = rows := by decide +kernel
  have hfirst : Respelling "12 |\nx+".toList "\n12 |\nx+".toList :=
    @Respelling.voidLine [] ["12 |".toList, "x+".toList] [] nofun
  have hnoise : Respelling "\n12 |\nx+".toList "\n1\t2 |\nx+".toList :=
    @Respelling.noise "\n1".toList "2 |\nx+".toList '\t' (by decide)
  have hedge : Respelling "\n1\t2 |\nx+".toList "\n1\t2 -\nx+".toList :=
    @Respelling.glyph "\n1\t2 ".toList "\nx+".toList '|' '-' (by decide) (by decide)
  have hvoid : IsVoid [' ', '$', '\r'] := by simp [IsVoid]
  have hline : Respelling "\n1\t2 -\nx+".toList "\n1\t2 -\n $\r\nx+".toList :=
    @Respelling.voidLine ["\n1\t2 -".toList] ["x+".toList] [' ', '$', '\r'] hvoid
  have hchanges : ReflTransGen Respelling "12 |\nx+".toList "\n1\t2 -\n $\r\nx+".toList :=
    (((ReflTransGen.single hfirst).tail hnoise).tail hedge).tail hline
  obtain ⟨-, -, hkeep⟩ := normalize_linewise
  exact ⟨hrows, hchanges, (hkeep _ _ hchanges).trans hrows⟩

end BoardDiagram.Row
