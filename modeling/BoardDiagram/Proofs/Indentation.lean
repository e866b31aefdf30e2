import BoardDiagram.Proofs.Retouching

/-! White space before the lines of a text.  The first line and the rows are read as if it were not
there, but a link is read only from a line that starts with its dollar signs: indentation hides
it.  Nothing else depends on indentation. -/

namespace BoardDiagram

open Text

namespace Directive

/-- A link is read from a line without indentation, and then from what is left of it without the
white space at its ends. -/
theorem link?_eq_ite (line : List Char) :
    link? line = if trimStart line = line then link? (strip line) else none := by
  split
  · rename_i hline
    rw [strip, hline, link?_trimEnd]
  · rename_i hline
    obtain ⟨indent, hindent, heq⟩ := exists_eq_append_trimStart line
    have hne : indent ≠ [] := by
      rintro rfl
      exact hline heq.symm
    rw [heq, link?_of_indented hindent hne]

theorem scan_body_strip (lines : List (List Char)) :
    (scan (lines.map strip)).body = (scan lines).body :=
  scan_body_congr (List.forall₂_map_left_iff.mpr
    (List.forall₂_same.mpr fun line _ => strip_strip line))

/-- The links are those of the lines without indentation. -/
theorem scan_links_strip (lines : List (List Char)) : (scan lines).links =
    (scan ((lines.filter fun line => trimStart line = line).map strip)).links := by
  refine congrArg Links.ofList ?_
  rw [List.filterMap_map, List.filterMap_filter]
  refine congrArg (List.filterMap · lines) (funext fun line => ?_)
  rw [link?_eq_ite]
  simp only [decide_eq_true_eq, Function.comp_apply]

end Directive

namespace Diagram

/-- A line is another one with spaces and tabs before it. -/
def Indents (line line' : List Char) : Prop :=
  ∃ indent, (∀ c ∈ indent, c = ' ' ∨ c = '\t') ∧ line' = indent ++ line

theorem isBlankText_indent {indent : List Char} (h : ∀ c ∈ indent, c = ' ' ∨ c = '\t') :
    isBlankText indent = true := by
  refine List.all_eq_true.mpr fun c hc => ?_
  obtain rfl | rfl := h c hc <;> rfl

theorem Indents.strip_eq {line line' : List Char} (h : Indents line line') :
    strip line = strip line' := by
  obtain ⟨indent, hindent, rfl⟩ := h
  rw [strip_blank_append (isBlankText_indent hindent)]

/-- A line with white space before it holds no link, and one without is the line itself. -/
theorem Indents.link?_eq {line line' : List Char} (h : Indents line line') :
    Directive.link? line' = if line' = line then Directive.link? line else none := by
  obtain ⟨indent, hindent, rfl⟩ := h
  cases indent with
  | nil => rw [List.nil_append, if_pos rfl]
  | cons c indent =>
    rw [Directive.link?_of_indented (isBlankText_indent hindent) (List.cons_ne_nil c indent),
      if_neg (mt List.append_left_eq_self.mp (List.cons_ne_nil c indent))]

/-! ### Texts -/

/-- The lines behind the one that starts the diagram. -/
def directives (text : List Char) : List (List Char) :=
  (dropBlankLines (lines text)).tail

/-- Each line behind the first, with what another text has in its place. -/
def directivePairs (text text' : List Char) : List (List Char × List Char) :=
  (directives text).zip (directives text')

/-- The links on the lines that another text leaves as they are. -/
def linksKept (text text' : List Char) : Links :=
  .ofList (((directivePairs text text').filter fun pair => pair.2 = pair.1).filterMap
    fun pair => Directive.link? pair.1)

theorem filterMap_link?_of_indents {lines lines' : List (List Char)}
    (h : List.Forall₂ Indents lines lines') : lines'.filterMap Directive.link? =
      ((lines.zip lines').filter fun pair => pair.2 = pair.1).filterMap
        fun pair => Directive.link? pair.1 := by
  induction h with
  | nil => rfl
  | @cons line line' rest rest' hline _ ih =>
    rw [List.filterMap_cons, List.zip_cons_cons, List.filter_cons, hline.link?_eq, ih]
    by_cases heq : line' = line
    · simp only [heq, decide_true, if_true, List.filterMap_cons]
    · simp only [heq, decide_false, if_false, Bool.false_eq_true]

section Indented

variable {text text' : List Char} (h : List.Forall₂ Indents (lines text) (lines text'))
include h

theorem indents_firstLine_directives :
    Indents (firstLine text) (firstLine text') ∧
      List.Forall₂ Indents (directives text) (directives text') :=
  forall₂_firstLine_tail h fun line line' hline => by
    rw [isBlankText_eq, isBlankText_eq, hline.strip_eq]

theorem header_of_indents :
    Header.ofLine (firstLine text) = Header.ofLine (firstLine text') :=
  Header.ofLine_congr (indents_firstLine_directives h).1.strip_eq

theorem body_of_indents : (content text).body = (content text').body :=
  Directive.scan_body_congr ((indents_firstLine_directives h).2.imp fun _ _ => Indents.strip_eq)

theorem links_of_indents : (content text').links = linksKept text text' :=
  congrArg Links.ofList (filterMap_link?_of_indents (indents_firstLine_directives h).2)

/-- Where no link is indented, all links are kept. -/
theorem linksKept_eq (hkept : ∀ pair ∈ directivePairs text text',
    pair.2 = pair.1 ∨ Directive.link? pair.1 = none) :
    linksKept text text' = (content text).links := by
  have hlength := (indents_firstLine_directives h).2.length_eq
  have hfst : (directivePairs text text').map Prod.fst = directives text :=
    List.map_fst_zip (Nat.le_of_eq hlength)
  refine congrArg Links.ofList ?_
  rw [List.filterMap_filter, ← directives, ← hfst, List.filterMap_map]
  refine List.filterMap_congr fun pair hpair => ?_
  obtain hsame | hnone := hkept pair hpair
  · simp only [hsame, decide_true, if_true, Function.comp_apply]
  · simp only [hnone, ite_self, Function.comp_apply]

end Indented

/-! ### Diagrams -/

/-- Indentation changes nothing of a diagram but its links, and of those it leaves the ones whose
lines have none.  So two diagrams are shown alike exactly when they have the same links, as they do
where no link is indented.  The rows that lines hold do not depend on white space at their ends, and
their links are those of the lines that start without it. -/
theorem ofText_of_indents {text text' : List Char}
    (h : List.Forall₂ Indents (lines text) (lines text')) (font : Font) :
    (∀ fault, ofText text' font = .error fault ↔ ofText text font = .error fault) ∧
    (∀ diagram, ofText text font = .ok diagram → ∃ diagram', ofText text' font = .ok diagram' ∧
      diagram'.header = diagram.header ∧ diagram'.outcome = diagram.outcome ∧
      diagram'.warnings = diagram.warnings ∧
      diagram'.links = (if (Header.parts? (firstLine text)).isSome then linksKept text text'
        else {}) ∧
      (ShownAlike diagram diagram' ↔ diagram'.links = diagram.links) ∧
      ((∀ pair ∈ directivePairs text text',
        pair.2 = pair.1 ∨ Directive.link? pair.1 = none) → ShownAlike diagram diagram')) ∧
    ∀ lines, (Directive.scan (lines.map strip)).body = (Directive.scan lines).body ∧
      (Directive.scan lines).links = (Directive.scan
        ((lines.filter fun line => trimStart line = line).map strip)).links := by
  have hread := ofText_congr (header_of_indents h) (body_of_indents h) font
  have hparts : Header.parts? (firstLine text') = Header.parts? (firstLine text) := by
    rw [Header.parts?, Header.parts?, (indents_firstLine_directives h).1.strip_eq]
  have hlinks : linksOf text' =
      if (Header.parts? (firstLine text)).isSome then linksKept text text' else {} := by
    rw [linksOf, hparts, links_of_indents h]
  refine ⟨fun fault => by rw [hread, map_eq_error], fun diagram hdiagram => ?_, fun lines =>
    ⟨Directive.scan_body_strip lines, Directive.scan_links_strip lines⟩⟩
  -- with the same links only the text differs
  have halike (hsame : linksOf text' = diagram.links) :
      ShownAlike diagram { diagram with text := text', links := linksOf text' } := by
    rw [hsame]
    exact shownAlike_withText diagram text'
  refine ⟨{ diagram with text := text', links := linksOf text' }, by rw [hread, hdiagram]; rfl,
    rfl, rfl, by rw [warnings_eq, warnings_eq], hlinks, ⟨fun hshown => hshown.links.symm, halike⟩,
    fun hkept => halike ?_⟩
  rw [hlinks, linksKept_eq h hkept, links_of_ofText hdiagram, linksOf]

/-- A diagram with two links. -/
def crossroads : List Char :=
  "$$ Here\n$$ a b\n$$ [a|x]\n$$ [b|y]".toList

/-- The diagram with white space before its first line, its row and its second link. -/
def crossroadsIndented : List Char :=
  "\t$$ Here\n  $$ a b\n$$ [a|x]\n $$ [b|y]".toList

theorem indents_crossroads : List.Forall₂ Indents (lines crossroads) (lines crossroadsIndented) :=
  .cons ⟨['\t'], by simp, rfl⟩ (.cons ⟨[' ', ' '], by simp, rfl⟩ (.cons ⟨[], nofun, rfl⟩
    (.cons ⟨[' '], by simp, rfl⟩ .nil)))

theorem ofText_of_indents_crossroads :
    ∃ diagram diagram', ofText crossroads .default = .ok diagram ∧
      ofText crossroadsIndented .default = .ok diagram' ∧ diagram.isValid = true ∧
      diagram'.outcome = diagram.outcome ∧
      diagram.links = ⟨[(['a'], ['x']), (['b'], ['y'])]⟩ ∧ diagram'.links = ⟨[(['a'], ['x'])]⟩ := by
  have hread : (ofText crossroads .default).toOption.any (fun diagram =>
      diagram.isValid && diagram.links = ⟨[(['a'], ['x']), (['b'], ['y'])]⟩) = true := by
    decide +kernel
  simp only [Option.any_eq_true, Bool.and_eq_true, decide_eq_true_eq, toOption_eq_some] at hread
  obtain ⟨diagram, hdiagram, hvalid, hlinks⟩ := hread
  obtain ⟨diagram', hdiagram', -, houtcome, -, hkept, -⟩ :=
    (ofText_of_indents indents_crossroads .default).2.1 diagram hdiagram
  refine ⟨diagram, diagram', hdiagram, hdiagram', hvalid, houtcome, hlinks, hkept.trans ?_⟩
  decide +kernel

/-- A letter with a link. -/
def letterLink : List Char :=
  "$$\n$$ . a\n$$ [a|x]".toList

/-- The letter with a space before its link. -/
def letterLinkIndented : List Char :=
  "$$\n$$ . a\n $$ [a|x]".toList

/-- The space takes the link away, from the diagram and from its picture. -/
theorem not_shownAlike_indented :
    List.Forall₂ Indents (lines letterLink) (lines letterLinkIndented) ∧
      (∃ diagram diagram', ofText letterLink .default = .ok diagram ∧
        ofText letterLinkIndented .default = .ok diagram' ∧ diagram.isValid = true ∧
        diagram.links ≠ diagram'.links ∧ diagram.picture ≠ diagram'.picture) ∧
      (Directive.scan ((lines letterLinkIndented).map strip)).links ≠
        (Directive.scan (lines letterLinkIndented)).links := by
  have hread : (ofText letterLink .default).toOption.any (fun diagram =>
      (ofText letterLinkIndented .default).toOption.any fun diagram' =>
        diagram.isValid && !decide (diagram.links = diagram'.links) &&
          !decide (diagram.picture = diagram'.picture)) = true := by
    decide +kernel
  simp only [Option.any_eq_true, Bool.and_eq_true, Bool.not_eq_true', decide_eq_false_iff_not,
    toOption_eq_some] at hread
  obtain ⟨diagram, hdiagram, diagram', hdiagram', ⟨hvalid, hlinks⟩, hpicture⟩ := hread
  have hindents : List.Forall₂ Indents (lines letterLink) (lines letterLinkIndented) :=
    .cons ⟨[], nofun, rfl⟩ (.cons ⟨[], nofun, rfl⟩ (.cons ⟨[' '], by simp, rfl⟩ .nil))
  exact ⟨hindents, ⟨diagram, diagram', hdiagram, hdiagram', hvalid, hlinks, hpicture⟩,
    by decide +kernel⟩

end Diagram

end BoardDiagram
