import BoardDiagram.Proofs.Lines
import BoardDiagram.Proofs.Markup.Documents
import BoardDiagram.Proofs.Reading

/-! Sessions with a diagram.  After its text has been read, a diagram can be looked at, drawn and
recorded, and its links can be changed, any number of times and in any order.  An operation changes
nothing but the links, so a session keeps what reading has found: a diagram stays valid or invalid,
its answers agree with each other, and all invalid diagrams look the same. -/

namespace BoardDiagram

/-- What can be done with a diagram. -/
inductive Operation where
  /-- Look at its state. -/
  | look
  | draw
  /-- Ask for its game record. -/
  | record
  /-- Add a link to a copy of its links. -/
  | editCopy (anchor url : List Char)
  | setLink (anchor url : List Char)
  | dropLink (anchor : List Char)

inductive Answer where
  | state (diagram : Diagram)
  | picture (result : Except Fault Drawing.Picture)
  | record (record : Diagram.Record)
  | links (links : Links)

def Operation.apply (diagram : Diagram) : Operation → Diagram × Answer
  | .look => (diagram, .state diagram)
  | .draw => (diagram, .picture diagram.picture)
  | .record => (diagram, .record diagram.gameRecord)
  | .editCopy anchor url => (diagram, .links (diagram.links.insert anchor url))
  | .setLink anchor url => (diagram.setLink anchor url, .links (diagram.setLink anchor url).links)
  | .dropLink anchor => (diagram.dropLink anchor, .links (diagram.dropLink anchor).links)

namespace Diagram

open Drawing Markup Shape

/-- The diagram after some operations, and their answers. -/
def run (diagram : Diagram) : List Operation → Diagram × List Answer
  | [] => (diagram, [])
  | operation :: rest =>
    let (next, answer) := operation.apply diagram
    let (last, answers) := next.run rest
    (last, answer :: answers)

def grid? (diagram : Diagram) : Option Grid :=
  diagram.board?.map Board.grid

def layout? (diagram : Diagram) : Option Layout :=
  diagram.board?.map Board.layout

/-! ### What a session keeps -/

/-- Two diagrams are alike but for their links. -/
structure SameReading (a b : Diagram) : Prop where
  text : b.text = a.text
  font : b.font = a.font
  header : b.header = a.header
  outcome : b.outcome = a.outcome

theorem SameReading.refl (a : Diagram) : SameReading a a :=
  ⟨rfl, rfl, rfl, rfl⟩

theorem SameReading.trans {a b c : Diagram} (hab : SameReading a b) (hbc : SameReading b c) :
    SameReading a c :=
  ⟨hbc.text.trans hab.text, hbc.font.trans hab.font, hbc.header.trans hab.header,
    hbc.outcome.trans hab.outcome⟩

theorem SameReading.board? {a b : Diagram} (h : SameReading a b) : b.board? = a.board? := by
  rw [Diagram.board?, Diagram.board?, h.outcome]

theorem SameReading.isValid {a b : Diagram} (h : SameReading a b) : b.isValid = a.isValid := by
  rw [Diagram.isValid, Diagram.isValid, h.board?]

theorem sameReading_apply (diagram : Diagram) (operation : Operation) :
    SameReading diagram (operation.apply diagram).1 := by
  cases operation <;> exact ⟨rfl, rfl, rfl, rfl⟩

theorem sameReading_run (diagram : Diagram) (operations : List Operation) :
    SameReading diagram (diagram.run operations).1 := by
  induction operations generalizing diagram with
  | nil => exact .refl diagram
  | cons operation operations ih => exact (sameReading_apply diagram operation).trans (ih _)

theorem run_append (diagram : Diagram) (before after : List Operation) :
    diagram.run (before ++ after) =
      (((diagram.run before).1.run after).1,
        (diagram.run before).2 ++ ((diagram.run before).1.run after).2) := by
  induction before generalizing diagram with
  | nil => rfl
  | cons operation before ih => simp only [List.cons_append, run, ih]

@[simp] theorem length_answers (diagram : Diagram) (operations : List Operation) :
    (diagram.run operations).2.length = operations.length := by
  induction operations generalizing diagram with
  | nil => rfl
  | cons operation operations ih => simp only [run, List.length_cons, ih]

/-- An operation is answered in its own place, by the diagram that those before it have left. -/
theorem getElem?_answers (diagram : Diagram) (before after : List Operation)
    (operation : Operation) :
    (diagram.run (before ++ operation :: after)).2[before.length]? =
      some (operation.apply (diagram.run before).1).2 := by
  rw [run_append, List.getElem?_append_right (Nat.le_of_eq (length_answers _ _)),
    length_answers, Nat.sub_self]
  rfl

/-- Every answer of a session is given by a diagram that differs from the first in its links
only. -/
theorem exists_of_mem_answers {diagram : Diagram} {operations : List Operation} {answer : Answer}
    (h : answer ∈ (diagram.run operations).2) :
    ∃ seen operation, SameReading diagram seen ∧ answer = (Operation.apply seen operation).2 := by
  induction operations generalizing diagram with
  | nil => exact absurd h List.not_mem_nil
  | cons operation operations ih =>
    -- the answer is that of the first operation, or of one that starts from the next diagram
    obtain rfl | h := List.mem_cons.mp h
    · exact ⟨diagram, operation, .refl diagram, rfl⟩
    · obtain ⟨seen, other, hseen, rfl⟩ := ih h
      exact ⟨seen, other, (sameReading_apply diagram operation).trans hseen, rfl⟩

/-! ### Agreement of the answers -/

/-- What a diagram says about itself agrees with whether it is valid. -/
structure Consistent (diagram : Diagram) : Prop where
  message : diagram.isValid = true ↔ diagram.failureMessage = []
  board : diagram.isValid = true ↔ diagram.grid?.isSome = true ∧ diagram.layout?.isSome = true
  size : diagram.isValid = true ↔ diagram.width?.isSome = true ∧ diagram.height?.isSome = true

theorem consistent (diagram : Diagram) : Consistent diagram := by
  have hnotice : failureNotice ≠ [] := by decide
  cases houtcome : diagram.outcome with
  | ok board =>
    refine ⟨?_, ?_, ?_⟩ <;>
      simp [isValid, failureMessage, grid?, layout?, width?, height?, board?, houtcome,
        Except.toOption]
  | error cause =>
    refine ⟨?_, ?_, ?_⟩ <;>
      simp [isValid, failureMessage, grid?, layout?, width?, height?, board?, houtcome,
        Except.toOption, hnotice]

/-- The value of an attribute of a given name, as it is written. -/
def attribute? (name : String) (attributes : List Attribute) : Option (List Char) :=
  (attributes.find? (·.name = name.toList)).map Attribute.value

/-- A picture that has failed just when the diagram is invalid, and that else has the size of the
diagram, which the document shows as well. -/
structure Shows (diagram : Diagram) (picture : Picture) : Prop where
  failed : picture.failed = !diagram.isValid
  size : ∀ layout, diagram.layout? = some layout →
    picture.width = some layout.width ∧ picture.height = some layout.height ∧
      picture.width = diagram.width? ∧ picture.height = diagram.height?
  root : ∀ layout, diagram.layout? = some layout →
    ∃ attributes rest, pieces? picture.xml = some (.start "svg".toList attributes :: rest) ∧
      attribute? "width" attributes = some (decimal layout.width) ∧
      attribute? "height" attributes = some (decimal layout.height) ∧
      attribute? "viewBox" attributes =
        some ("0 0 ".toList ++ decimal layout.width ++ ' ' :: decimal layout.height)

theorem shows_picture {diagram : Diagram} {picture : Picture} (h : diagram.picture = .ok picture) :
    Shows diagram picture := by
  unfold Diagram.picture at h
  cases houtcome : diagram.outcome with
  | error cause =>
    rw [houtcome] at h
    obtain ⟨height, rfl⟩ := notice_eq_document h
    have hlayout : diagram.layout? = none := by
      simp [layout?, board?, houtcome, Except.toOption]
    refine ⟨?_, fun layout hsome => ?_, fun layout hsome => ?_⟩
    · simp [Picture.failed, isValid, board?, houtcome, Except.toOption]
    · rw [hlayout] at hsome
      cases hsome
    · rw [hlayout] at hsome
      cases hsome
  | ok board =>
    rw [houtcome] at h
    obtain ⟨content, hcontent, rfl⟩ := picture_eq_document h
    have hboard : diagram.board? = some board := by
      simp [board?, houtcome, Except.toOption]
    have hlayout : diagram.layout? = some board.layout := by
      rw [layout?, hboard, Option.map_some]
    refine ⟨?_, fun layout hsome => ?_, fun layout hsome => ?_⟩
    · simp [Picture.failed, isValid, hboard]
    · rw [hlayout] at hsome
      cases hsome
      refine ⟨rfl, rfl, ?_, ?_⟩
      · rw [width?, hboard]
        rfl
      · rw [height?, hboard]
        rfl
    · rw [hlayout] at hsome
      cases hsome
      have hquiet := quiet_rootAttributes board.layout.width board.layout.height
      refine ⟨rootAttributes board.layout.width board.layout.height, _,
        (pieces?_document hquiet _ hcontent).1, ?_, ?_, ?_⟩ <;> rfl

/-- What a picture shows of a diagram does not depend on the links. -/
theorem Shows.of_sameReading {diagram before after : Diagram} {picture : Picture}
    (h : Shows before picture) (hbefore : SameReading diagram before)
    (hafter : SameReading diagram after) : Shows after picture := by
  have hboard : after.board? = before.board? := hafter.board?.trans hbefore.board?.symm
  have hlayout : after.layout? = before.layout? := congrArg (Option.map Board.layout) hboard
  refine ⟨?_, fun layout hsome => ?_, fun layout hsome => h.root layout (hlayout ▸ hsome)⟩
  · rw [h.failed, isValid, isValid, hboard]
  · obtain ⟨hwidth, hheight, hwidth', hheight'⟩ := h.size layout (hlayout ▸ hsome)
    refine ⟨hwidth, hheight, ?_, ?_⟩
    · rw [hwidth', width?, width?, hboard]
    · rw [hheight', height?, height?, hboard]

/-! ### What reading leaves behind -/

/-- A diagram as reading its text has left it.  The first line that is not blank decides: if it
starts no diagram, header and links are the default ones, and else they are those of the text. -/
def IsReadingOf (diagram : Diagram) (text : List Char) : Prop :=
  ∃ blanks line rest, Text.lines text = blanks ++ line :: rest ∧
    (∀ blank ∈ blanks, Text.isBlankText blank = true) ∧
    (Text.isBlankText line = true → rest = []) ∧
    ((∃ cause, Header.ofLine line = .error (.parse cause) ∧ diagram.isValid = false ∧
        diagram.header = {} ∧ diagram.links = {}) ∨
      (Header.ofLine line = .ok diagram.header ∧ diagram.links = (Directive.scan rest).links))

theorem isReadingOf_ofText {text : List Char} {font : Font} {diagram : Diagram}
    (h : ofText text font = .ok diagram) : diagram.IsReadingOf text := by
  obtain ⟨blanks, line, rest, hlines, hdrop, hblanks, hline⟩ :=
    dropBlankLines_spec (List.splitOn_ne_nil '\n' text)
  have hfirst : firstLine text = line := by
    rw [firstLine, Text.lines, hdrop]
    rfl
  have hcontent : content text = Directive.scan rest := by
    rw [content, Text.lines, hdrop]
    rfl
  refine ⟨blanks, line, rest, hlines, hblanks, hline, ?_⟩
  rw [ofText_eq_ok, hfirst, hcontent] at h
  obtain ⟨cause, hheader, rfl⟩ | ⟨header, outcome, hheader, -, rfl⟩ := h
  · exact .inl ⟨cause, hheader, rfl, rfl, rfl⟩
  · exact .inr ⟨hheader, rfl⟩

/-! ### The notice -/

theorem exists_notice : ∃ picture, notice failureNotice = .ok picture := by
  have hdrawn : (notice failureNotice).toOption.isSome = true := by decide +kernel
  obtain ⟨picture, hpicture⟩ := Option.isSome_iff_exists.mp hdrawn
  exact ⟨picture, toOption_eq_some.mp hpicture⟩

theorem picture_of_invalid {diagram : Diagram} (h : diagram.isValid = false) :
    diagram.picture = notice failureNotice := by
  unfold Diagram.picture
  cases houtcome : diagram.outcome with
  | ok board => simp [isValid, board?, houtcome, Except.toOption] at h
  | error cause => rfl

/-! ### Sessions -/

/-- Whatever is done with a diagram that has been read, and in whatever order: it agrees with
itself, its validity, header, grid and layout stay as they were, and so they are in every state and
picture that it gives back.  Where it is looked at or drawn, that is the state or the picture which
the operations before have left.  Two invalid diagrams have the same picture, whatever their texts
and fonts and whatever has been done with them. -/
theorem run_consistent {text : List Char} {font : Font} {diagram : Diagram}
    (h : ofText text font = .ok diagram) (operations : List Operation) :
    diagram.IsReadingOf text ∧
      Consistent (diagram.run operations).1 ∧ SameReading diagram (diagram.run operations).1 ∧
      (diagram.run operations).1.isValid = diagram.isValid ∧
      (diagram.run operations).1.grid? = diagram.grid? ∧
      (diagram.run operations).1.layout? = diagram.layout? ∧
      (∀ before after, operations = before ++ .look :: after →
        (diagram.run operations).2[before.length]? = some (.state (diagram.run before).1)) ∧
      (∀ before after, operations = before ++ .draw :: after →
        (diagram.run operations).2[before.length]? =
          some (.picture (diagram.run before).1.picture)) ∧
      (∀ seen, .state seen ∈ (diagram.run operations).2 →
        Consistent seen ∧ SameReading diagram seen) ∧
      (∀ picture, .picture (.ok picture) ∈ (diagram.run operations).2 →
        Shows (diagram.run operations).1 picture) ∧
      ((diagram.run operations).1.isValid = false → ∃ picture,
        (diagram.run operations).1.picture = .ok picture ∧
        ∀ otherText otherFont other otherOperations, ofText otherText otherFont = .ok other →
          (other.run otherOperations).1.isValid = false →
          (other.run otherOperations).1.picture = .ok picture) := by
  have hrun := sameReading_run diagram operations
  refine ⟨isReadingOf_ofText h, consistent _, hrun, hrun.isValid, ?_, ?_, ?_, ?_, ?_, ?_,
    ?_⟩
  · exact congrArg (Option.map Board.grid) hrun.board?
  · exact congrArg (Option.map Board.layout) hrun.board?
  · rintro before after rfl
    exact getElem?_answers diagram before after .look
  · rintro before after rfl
    exact getElem?_answers diagram before after .draw
  · intro seen hseen
    obtain ⟨before, operation, hbefore, hanswer⟩ := exists_of_mem_answers hseen
    cases operation with
    | look =>
      cases hanswer
      exact ⟨consistent seen, hbefore⟩
    | _ => cases hanswer
  · intro picture hpicture
    obtain ⟨before, operation, hbefore, hanswer⟩ := exists_of_mem_answers hpicture
    cases operation with
    | draw =>
      have hdrawn : before.picture = .ok picture := (Answer.picture.inj hanswer).symm
      exact (shows_picture hdrawn).of_sameReading hbefore hrun
    | _ => cases hanswer
  · intro hinvalid
    obtain ⟨picture, hpicture⟩ := exists_notice
    refine ⟨picture, (picture_of_invalid hinvalid).trans hpicture, ?_⟩
    intro _ _ other otherOperations _ hother
    exact (picture_of_invalid hother).trans hpicture

/-- Draw, exchange a link for another, look, and draw again. -/
def relinking : List Operation :=
  [.draw, .setLink ['b'] ['/'], .dropLink ['a'], .look, .draw]

/-- A diagram that is drawn before and after its links are changed. -/
theorem run_consistent_signpost :
    ∃ diagram, ofText signpost .default = .ok diagram ∧ diagram.isValid = true ∧
      diagram.IsReadingOf signpost ∧
      (∀ picture, .picture (.ok picture) ∈ (diagram.run relinking).2 → picture.failed = false) ∧
      ∃ first seen last,
        (diagram.run relinking).2 =
          [.picture (.ok first),
            .links ⟨[(['a'], "x?y&z".toList), (['b'], ['/'])]⟩,
            .links ⟨[(['b'], ['/'])]⟩,
            .state seen,
            .picture (.ok last)] ∧
        first.failed = false ∧ last.failed = false ∧
        seen.isValid = true ∧ seen.links = ⟨[(['b'], ['/'])]⟩ := by
  have hread : (ofText signpost .default).toOption.any (fun diagram =>
      diagram.isValid && diagram.links = ⟨[(['a'], "x?y&z".toList)]⟩ &&
        diagram.picture.toOption.isSome &&
        ((diagram.setLink ['b'] ['/']).dropLink ['a']).picture.toOption.isSome) = true := by
    decide +kernel
  simp only [Option.any_eq_true, Bool.and_eq_true, Option.isSome_iff_exists, decide_eq_true_eq,
    toOption_eq_some] at hread
  obtain ⟨diagram, hdiagram, ⟨⟨hvalid, hlinks⟩, first, hfirst⟩, last, hlast⟩ := hread
  obtain ⟨hreading, -, -, hsame, -, -, -, -, hstates, hpictures, -⟩ :=
    run_consistent hdiagram relinking
  have hset : (diagram.setLink ['b'] ['/']).links =
      ⟨[(['a'], "x?y&z".toList), (['b'], ['/'])]⟩ := by
    rw [setLink, hlinks]
    rfl
  have hdrop : ((diagram.setLink ['b'] ['/']).dropLink ['a']).links = ⟨[(['b'], ['/'])]⟩ := by
    rw [dropLink, hset]
    rfl
  have hanswers : (diagram.run relinking).2 =
      [.picture (.ok first), .links ⟨[(['a'], "x?y&z".toList), (['b'], ['/'])]⟩,
        .links ⟨[(['b'], ['/'])]⟩, .state ((diagram.setLink ['b'] ['/']).dropLink ['a']),
        .picture (.ok last)] := by
    simp only [relinking, run, Operation.apply, hfirst, hset, hdrop, hlast]
  have hshown : ∀ picture, .picture (.ok picture) ∈ (diagram.run relinking).2 →
      picture.failed = false := by
    intro picture hpicture
    rw [(hpictures picture hpicture).failed, hsame, hvalid]
    rfl
  refine ⟨diagram, hdiagram, hvalid, hreading, hshown, first, _, last, hanswers, ?_, ?_, ?_,
    hdrop⟩
  · exact hshown first (by simp [hanswers])
  · exact hshown last (by simp [hanswers])
  · rw [(hstates _ (by rw [hanswers]; simp)).2.isValid, hvalid]

end Diagram

end BoardDiagram
