import BoardDiagram.Notice
import BoardDiagram.Proofs.Lines
import Mathlib.Logic.Relation

/-! Changes to a text that its diagram does not show: blank lines before the first, white space at
the ends of lines, and lines that say nothing.  Each of them leaves the first line and the rows and
links as they were read, and so does any number of them. -/

namespace BoardDiagram.Diagram

open Relation Text

/-- A change to a text that does not matter. -/
inductive Retouch : List Char → List Char → Prop
  /-- A blank line is put before all others. -/
  | blankLine {blank : List Char} (text : List Char) : isBlankText blank = true → '\n' ∉ blank →
      Retouch text (blank ++ '\n' :: text)
  /-- White space is put at the end of a line. -/
  | lineEnd (before : List Char) {blank after : List Char} : isBlankText blank = true →
      '\n' ∉ blank → (∀ c ∈ after.head?, c = '\n') →
      Retouch (before ++ after) (before ++ blank ++ after)
  /-- A line that is not read is put behind one that is not blank. -/
  | idleLine {before line after : List Char} : isBlankText before = false →
      Directive.IsIdle line → '\n' ∉ line → (∀ c ∈ after.head?, c = '\n') →
      Retouch (before ++ after) (before ++ '\n' :: line ++ after)

/-- A text with a carriage return before each line break. -/
def withReturns (text : List Char) : List Char :=
  text.flatMap fun c => if c = '\n' then ['\r', '\n'] else [c]

theorem retouch_withReturns_append (before text : List Char) :
    ReflTransGen Retouch (before ++ text) (before ++ withReturns text) := by
  induction text generalizing before with
  | nil => exact .refl
  | cons c text ih =>
    by_cases hc : c = '\n'
    · subst hc
      have hend : Retouch (before ++ '\n' :: text) (before ++ ['\r'] ++ '\n' :: text) :=
        .lineEnd before (by decide) (by decide) fun c hc => (Option.some.inj hc).symm
      have hrest := ih (before ++ ['\r', '\n'])
      rw [List.append_assoc, List.append_assoc] at hrest
      rw [List.append_assoc] at hend
      exact .head hend hrest
    · have hrest := ih (before ++ [c])
      rw [List.append_assoc, List.append_assoc] at hrest
      rwa [withReturns, List.flatMap_cons, if_neg hc]

/-- Line breaks can be written with carriage returns. -/
theorem retouch_withReturns (text : List Char) : ReflTransGen Retouch text (withReturns text) :=
  retouch_withReturns_append [] text

/-! ### What one change keeps -/

/-- Two texts are read alike. -/
structure ReadAlike (text text' : List Char) : Prop where
  header : Header.ofLine (firstLine text) = Header.ofLine (firstLine text')
  content : content text = content text'

theorem ReadAlike.refl (text : List Char) : ReadAlike text text :=
  ⟨rfl, rfl⟩

theorem ReadAlike.trans {a b c : List Char} (hab : ReadAlike a b) (hbc : ReadAlike b c) :
    ReadAlike a c :=
  ⟨hab.header.trans hbc.header, hab.content.trans hbc.content⟩

theorem readAlike_of_trimEnd {text text' : List Char} (h : List.Forall₂
    (fun line line' => trimEnd line = trimEnd line') (lines text) (lines text')) :
    ReadAlike text text' := by
  obtain ⟨hfirst, hrest⟩ := forall₂_firstLine_tail h fun line line' hline => by
    rw [isBlankText_eq, isBlankText_eq, strip_eq_of_trimEnd_eq hline]
  exact ⟨Header.ofLine_congr (strip_eq_of_trimEnd_eq hfirst), Directive.scan_congr hrest⟩

theorem readAlike_blankLine {blank : List Char} (text : List Char)
    (hblank : isBlankText blank = true) (hbreak : '\n' ∉ blank) :
    ReadAlike text (blank ++ '\n' :: text) := by
  have hdrop : dropBlankLines (lines (blank ++ '\n' :: text)) = dropBlankLines (lines text) := by
    rw [lines_append_newline, lines_eq_singleton hbreak]
    exact dropBlankLines_cons hblank (List.splitOn_ne_nil '\n' text)
  exact ⟨by rw [firstLine, firstLine, hdrop], by rw [content, content, hdrop]⟩

section EndOfLine

variable {before after : List Char} (hafter : ∀ c ∈ after.head?, c = '\n')
include hafter

theorem readAlike_lineEnd {blank : List Char} (hblank : isBlankText blank = true)
    (hbreak : '\n' ∉ blank) : ReadAlike (before ++ after) (before ++ blank ++ after) := by
  obtain ⟨rest, hrest⟩ := exists_lines_append hafter
  obtain ⟨init, last, hlast⟩ := exists_lines_concat before
  have hlines := hlast [] List.not_mem_nil
  rw [List.append_nil, List.append_nil] at hlines
  refine readAlike_of_trimEnd ?_
  rw [hrest, hrest, hlines, hlast blank hbreak]
  -- only the last of the lines before differs
  have hsame : ∀ lines, List.Forall₂ (fun line line' => trimEnd line = trimEnd line') lines lines :=
    fun lines => List.forall₂_same.mpr fun _ _ => rfl
  exact List.rel_append (List.rel_append (hsame init)
    (.cons (trimEnd_append_blank hblank last).symm .nil)) (hsame rest)

theorem readAlike_idleLine {line : List Char} (hbefore : isBlankText before = false)
    (hidle : Directive.IsIdle line) (hbreak : '\n' ∉ line) :
    ReadAlike (before ++ after) (before ++ '\n' :: line ++ after) := by
  obtain ⟨rest, hrest⟩ := exists_lines_append hafter
  have hsolid := exists_solid_line hbefore
  have hplain : dropBlankLines (lines (before ++ after)) =
      firstLine before :: ((dropBlankLines (lines before)).tail ++ rest) := by
    rw [hrest, dropBlankLines_append hsolid, dropBlankLines_lines before]
    rfl
  have hlonger : dropBlankLines (lines (before ++ '\n' :: line ++ after)) =
      firstLine before :: ((dropBlankLines (lines before)).tail ++ line :: rest) := by
    rw [hrest, lines_append_newline, lines_eq_singleton hbreak, List.append_assoc,
      dropBlankLines_append hsolid, dropBlankLines_lines before]
    rfl
  refine ⟨by rw [firstLine, firstLine, hplain, hlonger]; rfl, ?_⟩
  rw [content, content, hplain, hlonger]
  exact (Directive.scan_insert_idle _ rest hidle).symm

end EndOfLine

/-- One change keeps what is read. -/
theorem readAlike_of_retouch {text text' : List Char} (h : Retouch text text') :
    ReadAlike text text' := by
  cases h with
  | blankLine _ hblank hbreak => exact readAlike_blankLine text hblank hbreak
  | lineEnd before hblank hbreak hafter => exact readAlike_lineEnd hafter hblank hbreak
  | idleLine hbefore hidle hbreak hafter => exact readAlike_idleLine hafter hbefore hidle hbreak

/-- Any number of changes keeps what one change keeps. -/
theorem readAlike_of_retouches {text text' : List Char} (h : ReflTransGen Retouch text text') :
    ReadAlike text text' := by
  induction h with
  | refl => exact .refl text
  | tail _ hstep ih => exact ih.trans (readAlike_of_retouch hstep)

/-! ### What is shown -/

/-- The diagram as it would be if read from another text. -/
def withText (diagram : Diagram) (text : List Char) : Diagram :=
  { diagram with text }

theorem filter_contentNotices (text : List Char) :
    (contentNotices text).filter Notice.isWarning = [] := by
  rw [contentNotices, List.filter_eq_nil_iff]
  intro notice hnotice
  obtain ⟨anchor, -, rfl⟩ := List.mem_map.mp hnotice
  exact Bool.false_ne_true

theorem filter_bodyNotices (body : List Char) (coordinates : Bool) :
    (bodyNotices body coordinates).filter Notice.isWarning = [] := by
  unfold bodyNotices
  split
  · unfold Grid.notices
    split <;> rfl
  · rfl

/-- The only warning is that of a text that is no diagram. -/
theorem warnings_eq (diagram : Diagram) : diagram.warnings =
    match diagram.outcome with
    | .ok _ => []
    | .error cause => [.readingFailed cause] := by
  have hsize : (if Header.ignoresSize (firstLine diagram.text) then [Notice.sizeIgnored]
      else []).filter Notice.isWarning = [] := by
    split <;> rfl
  rw [warnings, readingNotices, List.filter_append, apply_ite (List.filter Notice.isWarning),
    List.filter_append, List.filter_append, hsize, filter_contentNotices, filter_bodyNotices,
    List.filter_nil, List.nil_append, List.nil_append, ite_self, List.nil_append]
  cases diagram.outcome <;> rfl

theorem ofText_of_readAlike {text text' : List Char} (h : ReadAlike text text') (font : Font) :
    ofText text' font = (ofText text font).map (·.withText text') := by
  rw [ofText_congr h.header (congrArg _ h.content)]
  cases hread : ofText text font with
  | error fault => rfl
  | ok diagram =>
    have hlinks : linksOf text' = diagram.links := by
      obtain ⟨cause, hheader, rfl⟩ | ⟨header, outcome, hheader, -, rfl⟩ := ofText_eq_ok.mp hread
      · exact linksOf_of_parse (h.header ▸ hheader)
      · rw [linksOf_of_ok (h.header ▸ hheader), h.content]
    rw [hlinks]
    rfl

/-- Two diagrams agree in all that they show, though their texts may differ. -/
structure ShownAlike (a b : Diagram) : Prop where
  font : a.font = b.font
  header : a.header = b.header
  links : a.links = b.links
  outcome : a.outcome = b.outcome
  isValid : a.isValid = b.isValid
  warnings : a.warnings = b.warnings
  picture : a.picture = b.picture

theorem shownAlike_withText (diagram : Diagram) (text : List Char) :
    ShownAlike diagram (diagram.withText text) := by
  refine ⟨rfl, rfl, rfl, rfl, rfl, ?_, rfl⟩
  rw [warnings_eq, warnings_eq]
  rfl

/-- Changes that do not matter, carriage returns among them, change nothing of a diagram but its
text, and a text that cannot be read has the same fault as before. -/
theorem shownAlike_of_retouches (text : List Char) :
    ReflTransGen Retouch text (withReturns text) ∧
      ∀ text', ReflTransGen Retouch text text' → ∀ font,
        (∀ fault, ofText text' font = .error fault ↔ ofText text font = .error fault) ∧
        ∀ diagram, ofText text font = .ok diagram →
          ∃ diagram', ofText text' font = .ok diagram' ∧ ShownAlike diagram diagram' := by
  refine ⟨retouch_withReturns text, fun text' h font => ?_⟩
  have hread := ofText_of_readAlike (readAlike_of_retouches h) font
  refine ⟨fun fault => ?_, fun diagram hdiagram => ?_⟩
  · rw [hread, map_eq_error]
  · exact ⟨diagram.withText text', by rw [hread, hdiagram]; rfl, shownAlike_withText diagram text'⟩

/-- A diagram with a link, and the same with a blank line before it, a remark after its first line
and white space at two ends of lines. -/
theorem shownAlike_of_retouches_remark :
    ∃ diagram diagram',
      ofText "$$ Here\n$$ . a\n$$ [a|x]".toList .default = .ok diagram ∧
      ofText "\t\n$$ Here\r\nSee there.\n$$ . a\n$$ [a|x] ".toList .default = .ok diagram' ∧
      diagram.isValid = true ∧ diagram.links = ⟨[(['a'], ['x'])]⟩ ∧
      ShownAlike diagram diagram' := by
  have hblank : Retouch "$$ Here\n$$ . a\n$$ [a|x]".toList
      "\t\n$$ Here\n$$ . a\n$$ [a|x]".toList :=
    @Retouch.blankLine ['\t'] _ (by decide) (by decide)
  have hreturn : Retouch "\t\n$$ Here\n$$ . a\n$$ [a|x]".toList
      "\t\n$$ Here\r\n$$ . a\n$$ [a|x]".toList :=
    @Retouch.lineEnd "\t\n$$ Here".toList ['\r'] "\n$$ . a\n$$ [a|x]".toList (by decide)
      (by decide) fun c hc => (Option.some.inj hc).symm
  have hremark : Retouch "\t\n$$ Here\r\n$$ . a\n$$ [a|x]".toList
      "\t\n$$ Here\r\nSee there.\n$$ . a\n$$ [a|x]".toList :=
    @Retouch.idleLine "\t\n$$ Here\r".toList "See there.".toList "\n$$ . a\n$$ [a|x]".toList
      (by decide) (.inl (by decide)) (by decide) fun c hc => (Option.some.inj hc).symm
  have hspace : Retouch "\t\n$$ Here\r\nSee there.\n$$ . a\n$$ [a|x]".toList
      "\t\n$$ Here\r\nSee there.\n$$ . a\n$$ [a|x] ".toList :=
    @Retouch.lineEnd "\t\n$$ Here\r\nSee there.\n$$ . a\n$$ [a|x]".toList [' '] [] (by decide)
      (by decide) nofun
  have hread : (ofText "$$ Here\n$$ . a\n$$ [a|x]".toList .default).toOption.any (fun diagram =>
      diagram.isValid && diagram.links = ⟨[(['a'], ['x'])]⟩) = true := by decide +kernel
  simp only [Option.any_eq_true, Bool.and_eq_true, decide_eq_true_eq, toOption_eq_some] at hread
  obtain ⟨diagram, hdiagram, hvalid, hlinks⟩ := hread
  obtain ⟨-, hshown⟩ := (shownAlike_of_retouches _).2 _
    (((ReflTransGen.single hblank).tail hreturn).tail hremark |>.tail hspace) .default
  obtain ⟨diagram', hdiagram', halike⟩ := hshown diagram hdiagram
  exact ⟨diagram, diagram', hdiagram, hdiagram', hvalid, hlinks, halike⟩

end BoardDiagram.Diagram
