import BoardDiagram.Proofs.Reading
import BoardDiagram.Proofs.Text

/-! The line that starts a diagram, taken apart.  All its parts may be left out and their characters
may stand in the title too, so each part is as long as the text allows: `Spelling.IsLongest`.  Every
line with two dollar signs has such a spelling, which decides how the line is read, and a header is
read from each of its spellings. -/

namespace BoardDiagram.Header

open Text

/-- No character of `p` stands at the start of `s`. -/
def Stops (p : Char → Bool) (s : List Char) : Prop :=
  ∀ c ∈ s.head?, p c = false

theorem Stops.append {p : Char → Bool} {a b : List Char} (ha : ∀ c ∈ a, p c = false)
    (hb : Stops p b) : Stops p (a ++ b) := by
  cases a with
  | nil => exact hb
  | cons c a =>
    rintro d ⟨⟩
    exact ha _ List.mem_cons_self

theorem Stops.of_append {p : Char → Bool} {a b : List Char} (h : Stops p (a ++ b)) : Stops p a := by
  cases a with
  | nil => rintro d ⟨⟩
  | cons c a =>
    rintro d ⟨⟩
    exact h _ rfl

theorem stops_dropWhile (p : Char → Bool) (s : List Char) : Stops p (s.dropWhile p) := by
  intro c hc
  have hhead := List.head?_dropWhile_not p s
  rw [Option.mem_def.mp hc] at hhead
  exact hhead

/-! ### Spellings -/

def colorText : Option Color → List Char
  | none => []
  | some .black => ['B']
  | some .white => ['W']

def coordinatesText (coordinates : Bool) : List Char :=
  if coordinates then ['c'] else []

def startText (start : List Char) : List Char :=
  if start.isEmpty then [] else 'm' :: start

theorem mem_colorText {color : Option Color} {c : Char} (h : c ∈ colorText color) :
    c = 'B' ∨ c = 'W' := by
  match color with
  | none => contradiction
  | some .black => exact .inl (List.mem_singleton.mp h)
  | some .white => exact .inr (List.mem_singleton.mp h)

theorem mem_coordinatesText {coordinates : Bool} {c : Char} (h : c ∈ coordinatesText coordinates) :
    c = 'c' := by
  cases coordinates with
  | false => contradiction
  | true => exact List.mem_singleton.mp h

/-- The parts of a line that starts a diagram, as they are spelled.  A part may be left out; `rest`
is the title with the white space around it. -/
structure Spelling where
  color : Option Color
  coordinates : Bool
  size : List Char
  start : List Char
  rest : List Char

namespace Spelling

variable (s : Spelling)

def afterSize : List Char :=
  startText s.start ++ s.rest

def afterCoordinates : List Char :=
  s.size ++ s.afterSize

def afterColor : List Char :=
  coordinatesText s.coordinates ++ s.afterCoordinates

def text : List Char :=
  '$' :: '$' :: (colorText s.color ++ s.afterColor)

/-- No part could have been longer, given the parts before it. -/
structure IsLongest : Prop where
  size_isDigit : ∀ c ∈ s.size, c.isDigit = true
  start_isDigit : ∀ c ∈ s.start, c.isDigit = true
  color : s.color = none → Stops (fun c => c = 'W' || c = 'B') s.afterColor
  coordinates : s.coordinates = false → Stops (· = 'c') s.afterCoordinates
  size : Stops Char.isDigit s.afterSize
  start : s.start ≠ [] → Stops Char.isDigit s.rest
  noStart : s.start = [] → ∀ after, s.rest = 'm' :: after → Stops Char.isDigit after

/-- The number that digits stand for, and `default` for no digits or zero. -/
def numberOr (default : Nat) (digits : List Char) : Nat :=
  if Numeral.value digits = 0 then default else Numeral.value digits

/-- What a line is read as: too many digits are reported, first those of the board size. -/
def outcome : Except Fault Header :=
  if digitLimit < s.size.length then .error (.longNumeral s.size.length)
  else if digitLimit < s.start.length then .error (.longNumeral s.start.length)
  else .ok {
    firstColor := s.color.getD .black
    coordinates := s.coordinates
    boardSize := numberOr 19 s.size
    startMove := numberOr 1 s.start
    title := strip s.rest }

end Spelling

/-! ### Reading one part -/

theorem splitColor_append {color : Option Color} {rest : List Char}
    (h : color = none → Stops (fun c => c = 'W' || c = 'B') rest) :
    splitColor (colorText color ++ rest) = (color.getD .black, rest) := by
  match color with
  | some .white => rfl
  | some .black => rfl
  | none =>
    show splitColor rest = (.black, rest)
    unfold splitColor
    split
    · simp [Stops] at h
    · simp [Stops] at h
    · rfl

theorem exists_splitColor (s : List Char) : ∃ color, s = colorText color ++ (splitColor s).2 ∧
    (color = none → Stops (fun c => c = 'W' || c = 'B') (splitColor s).2) := by
  unfold splitColor
  split
  · exact ⟨some .white, rfl, nofun⟩
  · exact ⟨some .black, rfl, nofun⟩
  · rename_i hwhite hblack
    refine ⟨none, rfl, fun _ c hc => ?_⟩
    obtain ⟨rest, rfl⟩ := List.head?_eq_some_iff.mp hc
    simp only [Bool.or_eq_false_iff, decide_eq_false_iff_not]
    exact ⟨fun h => hwhite rest (h ▸ rfl), fun h => hblack rest (h ▸ rfl)⟩

theorem splitCoordinates_append {coordinates : Bool} {rest : List Char}
    (h : coordinates = false → Stops (· = 'c') rest) :
    splitCoordinates (coordinatesText coordinates ++ rest) = (coordinates, rest) := by
  cases coordinates with
  | true => rfl
  | false =>
    show splitCoordinates rest = (false, rest)
    unfold splitCoordinates
    split
    · simp [Stops] at h
    · rfl

theorem exists_splitCoordinates (s : List Char) :
    ∃ coordinates, s = coordinatesText coordinates ++ (splitCoordinates s).2 ∧
      (coordinates = false → Stops (· = 'c') (splitCoordinates s).2) := by
  unfold splitCoordinates
  split
  · exact ⟨true, rfl, nofun⟩
  · rename_i hother
    refine ⟨false, rfl, fun _ c hc => ?_⟩
    obtain ⟨rest, rfl⟩ := List.head?_eq_some_iff.mp hc
    rw [decide_eq_false_iff_not]
    exact fun h => hother rest (h ▸ rfl)

theorem splitDigits_append {digits rest : List Char} (hdigits : ∀ c ∈ digits, c.isDigit = true)
    (hrest : Stops Char.isDigit rest) : splitDigits (digits ++ rest) = (digits, rest) := by
  rw [splitDigits, List.takeWhile_append_of_pos hdigits, List.dropWhile_append_of_pos hdigits]
  cases rest with
  | nil => simp
  | cons c rest =>
    have hc : ¬ c.isDigit = true := Bool.eq_false_iff.mp (hrest c rfl)
    rw [List.takeWhile_cons_of_neg hc, List.dropWhile_cons_of_neg hc, List.append_nil]

theorem splitDigits_spec (s : List Char) : s = (splitDigits s).1 ++ (splitDigits s).2 ∧
    (∀ c ∈ (splitDigits s).1, c.isDigit = true) ∧ Stops Char.isDigit (splitDigits s).2 :=
  ⟨List.takeWhile_append_dropWhile.symm,
    fun _ hc => List.all_eq_true.mp List.all_takeWhile _ hc, stops_dropWhile _ s⟩

theorem splitStart_append {start rest : List Char} (hstart : ∀ c ∈ start, c.isDigit = true)
    (hrest : start ≠ [] → Stops Char.isDigit rest)
    (hno : start = [] → ∀ after, rest = 'm' :: after → Stops Char.isDigit after) :
    splitStart (startText start ++ rest) = (start, rest) := by
  cases start with
  | nil =>
    show splitStart rest = ([], rest)
    unfold splitStart
    split
    · rename_i after
      rw [← List.nil_append after,
        splitDigits_append (fun _ hc => absurd hc List.not_mem_nil) (hno rfl after rfl)]
      rfl
    · rfl
  | cons c start =>
    have hdigits : splitDigits ((c :: start) ++ rest) = (c :: start, rest) :=
      splitDigits_append hstart (hrest (List.cons_ne_nil c start))
    simp only [startText, List.isEmpty_cons, Bool.false_eq_true, if_false, List.cons_append,
      splitStart] at hdigits ⊢
    rw [hdigits]
    rfl

theorem splitStart_spec (s : List Char) : s = startText (splitStart s).1 ++ (splitStart s).2 ∧
    (∀ c ∈ (splitStart s).1, c.isDigit = true) ∧
    ((splitStart s).1 ≠ [] → Stops Char.isDigit (splitStart s).2) ∧
    ((splitStart s).1 = [] →
      ∀ after, (splitStart s).2 = 'm' :: after → Stops Char.isDigit after) := by
  unfold splitStart
  split
  · rename_i rest
    obtain ⟨hjoin, hdigits, hstops⟩ := splitDigits_spec rest
    dsimp only
    split
    · rename_i hempty
      refine ⟨rfl, by simp, fun h => absurd rfl h, fun _ after hafter => ?_⟩
      obtain rfl := (List.cons.inj hafter).2
      rw [List.isEmpty_iff.mp hempty, List.nil_append] at hjoin
      rwa [← hjoin] at hstops
    · rename_i hempty
      refine ⟨?_, hdigits, fun _ => hstops, fun h => absurd (List.isEmpty_iff.mpr h) hempty⟩
      rw [startText, if_neg hempty, List.cons_append, ← hjoin]
  · rename_i hother
    exact ⟨rfl, by simp, fun h => absurd rfl h, fun _ after h => absurd h (hother after)⟩

/-! ### Reading a line -/

theorem parts_of_longest {s : Spelling} (h : s.IsLongest) :
    Parts.ofText (colorText s.color ++ s.afterColor) =
      ⟨s.color.getD .black, s.coordinates, s.size, s.start, strip s.rest⟩ := by
  unfold Parts.ofText
  rw [splitColor_append h.color]
  dsimp only
  rw [Spelling.afterColor, splitCoordinates_append h.coordinates]
  dsimp only
  rw [Spelling.afterCoordinates, splitDigits_append h.size_isDigit h.size]
  dsimp only
  rw [Spelling.afterSize, splitStart_append h.start_isDigit h.start h.noStart]

theorem exists_longest (rest : List Char) :
    ∃ s : Spelling, s.IsLongest ∧ s.text = '$' :: '$' :: rest := by
  obtain ⟨color, hcolor, hcolorStops⟩ := exists_splitColor rest
  generalize (splitColor rest).2 = rest₁ at *
  obtain ⟨coordinates, hcoordinates, hcoordinatesStops⟩ := exists_splitCoordinates rest₁
  generalize (splitCoordinates rest₁).2 = rest₂ at *
  obtain ⟨hsize, hsizeDigits, hsizeStops⟩ := splitDigits_spec rest₂
  generalize splitDigits rest₂ = size at *
  obtain ⟨hstart, hstartDigits, hstartStops, hno⟩ := splitStart_spec size.2
  generalize splitStart size.2 = start at *
  refine ⟨⟨color, coordinates, size.1, start.1, start.2⟩, ?_, ?_⟩
  · constructor <;>
      simp only [Spelling.afterColor, Spelling.afterCoordinates, Spelling.afterSize, ← hstart,
        ← hsize, ← hcoordinates] <;> assumption
  · simp only [Spelling.text, Spelling.afterColor, Spelling.afterCoordinates, Spelling.afterSize,
      ← hstart, ← hsize, ← hcoordinates, ← hcolor]

theorem readOr_eq {default : Nat} {digits : List Char} (h : digits.length ≤ digitLimit) :
    readOr default digits = .ok (Spelling.numberOr default digits) := by
  unfold readOr Spelling.numberOr
  split
  · rename_i hempty
    rw [List.isEmpty_iff.mp hempty]
    rfl
  · rw [Numeral.read_eq_ok.mpr ⟨h, rfl⟩]
    rfl

theorem readOr_eq_error {default : Nat} {digits : List Char} (h : digitLimit < digits.length) :
    readOr default digits = .error (.longNumeral digits.length) := by
  have hempty : digits.isEmpty = false := by
    cases digits with
    | nil => contradiction
    | cons => rfl
  rw [readOr, hempty, Numeral.read, if_pos h]
  rfl

/-- A line starts a diagram: but for white space at its ends it is one line, with two dollar signs
at the start. -/
def StartsDiagram (line : List Char) : Prop :=
  ['$', '$'] <+: strip line ∧ '\n' ∉ strip line

theorem parts?_of_not_startsDiagram {line : List Char} (h : ¬ StartsDiagram line) :
    parts? line = none := by
  unfold parts?
  split
  · rename_i rest hrest
    rw [StartsDiagram, hrest] at h
    simpa using h
  · rfl

theorem parts?_of_longest {line : List Char} {s : Spelling} (hs : s.IsLongest)
    (hline : '\n' ∉ strip line) (h : strip line = s.text) :
    parts? line = some ⟨s.color.getD .black, s.coordinates, s.size, s.start, strip s.rest⟩ := by
  rw [h, Spelling.text, List.mem_cons, List.mem_cons, not_or, not_or] at hline
  rw [parts?, h, Spelling.text]
  show (if (colorText s.color ++ s.afterColor).contains '\n' then none
    else some (Parts.ofText (colorText s.color ++ s.afterColor))) = _
  rw [if_neg (by simpa using hline.2.2), parts_of_longest hs]

theorem ofLine_of_longest {line : List Char} {s : Spelling} (hs : s.IsLongest)
    (hline : '\n' ∉ strip line) (h : strip line = s.text) : ofLine line = s.outcome := by
  unfold ofLine Spelling.outcome
  rw [parts?_of_longest hs hline h]
  dsimp only
  split
  · rename_i hsize
    rw [readOr_eq_error hsize]
    rfl
  · rename_i hsize
    rw [readOr_eq (Nat.not_lt.mp hsize)]
    split
    · rename_i hstart
      rw [readOr_eq_error hstart]
      rfl
    · rename_i hstart
      rw [readOr_eq (Nat.not_lt.mp hstart)]
      rfl

theorem StartsDiagram.exists_longest {line : List Char} (h : StartsDiagram line) :
    ∃ s : Spelling, s.IsLongest ∧ strip line = s.text := by
  obtain ⟨rest, hrest⟩ := h.1
  obtain ⟨s, hs, htext⟩ := Header.exists_longest rest
  exact ⟨s, hs, hrest.symm.trans htext.symm⟩

theorem exists_parse_iff (line : List Char) :
    (∃ cause, ofLine line = .error (.parse cause)) ↔ ¬ StartsDiagram line := by
  constructor
  · rintro ⟨cause, hcause⟩ hstarts
    obtain ⟨s, hs, htext⟩ := hstarts.exists_longest
    exact ofLine_ne_parse (parts?_of_longest hs hstarts.2 htext) cause hcause
  · intro h
    refine ⟨.noHeader, ?_⟩
    rw [ofLine, parts?_of_not_startsDiagram h]

/-! ### Headers that are read -/

theorem one_le_numberOr {default : Nat} (h : 1 ≤ default) (digits : List Char) :
    1 ≤ Spelling.numberOr default digits := by
  unfold Spelling.numberOr
  split <;> omega

theorem Spelling.outcome_eq_ok {s : Spelling} {header : Header} : s.outcome = .ok header ↔
    (s.size.length ≤ digitLimit ∧ s.start.length ≤ digitLimit) ∧
      ⟨s.color.getD .black, s.coordinates, numberOr 19 s.size, numberOr 1 s.start, strip s.rest⟩ =
        header := by
  unfold outcome
  split
  · rename_i hsize
    exact iff_of_false nofun fun h => absurd h.1.1 (Nat.not_le.mpr hsize)
  · rename_i hsize
    split
    · rename_i hstart
      exact iff_of_false nofun fun h => absurd h.1.2 (Nat.not_le.mpr hstart)
    · rename_i hstart
      rw [Except.ok.injEq]
      exact (and_iff_right ⟨Nat.not_lt.mp hsize, Nat.not_lt.mp hstart⟩).symm

theorem exists_longest_of_ok {line : List Char} {header : Header} (h : ofLine line = .ok header) :
    ∃ s : Spelling, s.IsLongest ∧ strip line = s.text ∧ s.outcome = .ok header := by
  have hstarts : StartsDiagram line := by
    by_cases hstarts : StartsDiagram line
    · exact hstarts
    · obtain ⟨cause, hcause⟩ := (exists_parse_iff line).mpr hstarts
      rw [h] at hcause
      cases hcause
  obtain ⟨s, hs, htext⟩ := hstarts.exists_longest
  exact ⟨s, hs, htext, (ofLine_of_longest hs hstarts.2 htext).symm.trans h⟩

theorem ok_bounds {line : List Char} {header : Header} (h : ofLine line = .ok header) :
    1 ≤ header.boardSize ∧ 1 ≤ header.startMove ∧ strip header.title = header.title := by
  obtain ⟨s, -, -, houtcome⟩ := exists_longest_of_ok h
  obtain ⟨-, rfl⟩ := Spelling.outcome_eq_ok.mp houtcome
  exact ⟨one_le_numberOr (by decide) _, one_le_numberOr (by decide) _, strip_strip _⟩

/-! ### Headers that are written -/

/-- A header that can be written: its numbers are positive and not too long, and its title is one
line without white space at its ends. -/
structure IsWritable (header : Header) : Prop where
  boardSize_pos : 1 ≤ header.boardSize
  boardSize_lt : header.boardSize < Numeral.bound
  startMove_pos : 1 ≤ header.startMove
  startMove_lt : header.startMove < Numeral.bound
  title_line : '\n' ∉ header.title
  title_strip : strip header.title = header.title

/-- A way to write a header.  Black may be left out, and so may nineteen for the board size and one
for the first move. -/
structure IsSpelling (header : Header) (s : Spelling) : Prop where
  color : s.color = some header.firstColor ∨ s.color = none ∧ header.firstColor = .black
  coordinates : s.coordinates = header.coordinates
  size : s.size = Nat.toDigits 10 header.boardSize ∨ s.size = [] ∧ header.boardSize = 19
  start : s.start = Nat.toDigits 10 header.startMove ∨ s.start = [] ∧ header.startMove = 1
  rest : s.rest = ' ' :: header.title

theorem isDigit_of_written {n default : Nat} {digits : List Char}
    (h : digits = Nat.toDigits 10 n ∨ digits = [] ∧ n = default) :
    ∀ c ∈ digits, c.isDigit = true := by
  obtain rfl | ⟨rfl, -⟩ := h
  · intro c hc
    exact Nat.isDigit_of_mem_toDigits (by decide) (by decide) hc
  · intro c hc
    exact absurd hc List.not_mem_nil

theorem numberOr_of_written {n default : Nat} {digits : List Char} (hn : 1 ≤ n)
    (h : digits = Nat.toDigits 10 n ∨ digits = [] ∧ n = default) :
    Spelling.numberOr default digits = n := by
  obtain rfl | ⟨rfl, rfl⟩ := h
  · rw [Spelling.numberOr, Numeral.value_toDigits, if_neg (by omega)]
  · rfl

theorem length_le_of_written {n default : Nat} {digits : List Char} (hn : n < Numeral.bound)
    (h : digits = Nat.toDigits 10 n ∨ digits = [] ∧ n = default) :
    digits.length ≤ digitLimit := by
  obtain rfl | ⟨rfl, -⟩ := h
  · exact Numeral.length_toDigits_le hn
  · exact Nat.zero_le _

section Spelling

variable {header : Header} {s : Spelling} (h : IsSpelling header s)
include h

theorem stops_afterSize {p : Char → Bool} (hm : p 'm' = false) (hspace : p ' ' = false) :
    Stops p s.afterSize := by
  rw [Spelling.afterSize, h.rest, startText]
  split
  · rintro c ⟨⟩
    exact hspace
  · rintro c ⟨⟩
    exact hm

theorem stops_afterCoordinates {p : Char → Bool} (hdigit : ∀ c, c.isDigit = true → p c = false)
    (hm : p 'm' = false) (hspace : p ' ' = false) : Stops p s.afterCoordinates :=
  Stops.append (fun c hc => hdigit c (isDigit_of_written h.size c hc)) (stops_afterSize h hm hspace)

theorem isLongest_of_isSpelling : s.IsLongest where
  size_isDigit := isDigit_of_written h.size
  start_isDigit := isDigit_of_written h.start
  color _ := by
    apply Stops.append
    · intro c hc
      rw [mem_coordinatesText hc]
      rfl
    · apply stops_afterCoordinates h _ rfl rfl
      intro c hc
      simp only [Bool.or_eq_false_iff, decide_eq_false_iff_not]
      constructor <;> rintro rfl <;> contradiction
  coordinates _ := by
    apply stops_afterCoordinates h _ rfl rfl
    intro c hc
    rw [decide_eq_false_iff_not]
    rintro rfl
    contradiction
  size := stops_afterSize h rfl rfl
  start _ := by
    rw [h.rest]
    rintro c ⟨⟩
    rfl
  noStart _ after hafter := by
    rw [h.rest] at hafter
    cases hafter

end Spelling

namespace Spelling

variable {s : Spelling}

/-- Everything before the title. -/
def front (s : Spelling) : List Char :=
  '$' :: '$' :: (colorText s.color ++ coordinatesText s.coordinates ++ s.size ++ startText s.start)

theorem text_eq (s : Spelling) : s.text = s.front ++ s.rest := by
  simp [text, front, afterColor, afterCoordinates, afterSize]

theorem front_solid (h : s.IsLongest) : ∀ c ∈ s.front, isBlank c = false := by
  have hstart : ∀ c ∈ startText s.start, isBlank c = false := by
    intro c hc
    unfold startText at hc
    split at hc
    · contradiction
    · obtain rfl | hc := List.mem_cons.mp hc
      · rfl
      · exact isBlank_of_isDigit (h.start_isDigit c hc)
  intro c hc
  simp only [front, List.mem_cons, List.mem_append] at hc
  obtain rfl | rfl | ((hc | hc) | hc) | hc := hc
  · rfl
  · rfl
  · obtain rfl | rfl := mem_colorText hc <;> rfl
  · rw [mem_coordinatesText hc]
    rfl
  · exact isBlank_of_isDigit (h.size_isDigit c hc)
  · exact hstart c hc

/-- White space at the end of a title is no part of a line, and what is left is spelled alike. -/
def trimmed (s : Spelling) : Spelling :=
  { s with rest := trimEnd s.rest }

theorem IsLongest.trimmed (h : s.IsLongest) : s.trimmed.IsLongest := by
  obtain ⟨blank, -, hrest⟩ := exists_eq_trimEnd_append s.rest
  have hafterSize : s.afterSize = s.trimmed.afterSize ++ blank := by
    rw [afterSize, afterSize, List.append_assoc]
    exact congrArg _ hrest
  have hafterCoordinates : s.afterCoordinates = s.trimmed.afterCoordinates ++ blank := by
    rw [afterCoordinates, afterCoordinates, hafterSize, List.append_assoc]
    rfl
  have hafterColor : s.afterColor = s.trimmed.afterColor ++ blank := by
    rw [afterColor, afterColor, hafterCoordinates, List.append_assoc]
    rfl
  exact {
    size_isDigit := h.size_isDigit
    start_isDigit := h.start_isDigit
    color := fun hcolor => (hafterColor ▸ h.color hcolor).of_append
    coordinates := fun hcoordinates => (hafterCoordinates ▸ h.coordinates hcoordinates).of_append
    size := (hafterSize ▸ h.size).of_append
    start := fun hstart => (hrest ▸ h.start hstart).of_append
    noStart := fun hstart after hafter => by
      refine (h.noStart hstart (after ++ blank) ?_).of_append
      rw [hrest, show trimEnd s.rest = 'm' :: after from hafter, List.cons_append] }

theorem strip_text (h : s.IsLongest) : strip s.text = s.trimmed.text := by
  have hfront : ∃ c ∈ s.front, isBlank c = false := ⟨'$', List.mem_cons_self, rfl⟩
  rw [text_eq, text_eq, strip, trimStart_append _ hfront, trimStart_solid (front_solid h),
    trimEnd_solid_append (front_solid h)]
  rfl

theorem ofLine_text (h : s.IsLongest) (hrest : '\n' ∉ s.rest) : ofLine s.text = s.outcome := by
  have hline : '\n' ∉ strip s.text := by
    intro hmem
    have hmem := mem_of_mem_strip hmem
    rw [text_eq, List.mem_append] at hmem
    obtain hmem | hmem := hmem
    · have hsolid := front_solid h _ hmem
      contradiction
    · exact hrest hmem
  have houtcome : s.trimmed.outcome = s.outcome := by
    unfold outcome trimmed
    rw [strip_trimEnd]
  rw [ofLine_of_longest h.trimmed hline (strip_text h), houtcome]

end Spelling

theorem ofLine_of_isSpelling {header : Header} {s : Spelling} (hwritable : IsWritable header)
    (h : IsSpelling header s) : ofLine s.text = .ok header := by
  have hrest : '\n' ∉ s.rest := by
    rw [h.rest]
    simpa using hwritable.title_line
  have hsize : ¬ digitLimit < s.size.length :=
    Nat.not_lt.mpr (length_le_of_written hwritable.boardSize_lt h.size)
  have hstart : ¬ digitLimit < s.start.length :=
    Nat.not_lt.mpr (length_le_of_written hwritable.startMove_lt h.start)
  have hcolor : s.color.getD .black = header.firstColor := by
    obtain hcolor | ⟨hcolor, hblack⟩ := h.color
    · rw [hcolor]
      rfl
    · rw [hcolor, hblack]
      rfl
  have htitle : strip s.rest = header.title := by
    have hspace : isBlankText [' '] = true := rfl
    rw [h.rest, ← hwritable.title_strip]
    exact (strip_blank_append hspace _).trans (strip_strip _)
  rw [Spelling.ofLine_text (isLongest_of_isSpelling h) hrest, Spelling.outcome, if_neg hsize,
    if_neg hstart, numberOr_of_written hwritable.boardSize_pos h.size,
    numberOr_of_written hwritable.startMove_pos h.start, hcolor, h.coordinates, htitle]

/-- A line is refused as no header when it does not start a diagram.  Otherwise it has a longest
spelling, which decides how it is read: too many digits are reported, and else a header is read,
with positive numbers and a stripped title.  A header that can be written is read from each of its
spellings. -/
theorem ofLine_reads_spellings :
    (∀ line, (∃ cause, ofLine line = .error (.parse cause)) ↔ ¬ StartsDiagram line) ∧
    (∀ line, StartsDiagram line → (∃ s : Spelling, s.IsLongest ∧ strip line = s.text) ∧
      ∀ s : Spelling, s.IsLongest → strip line = s.text → ofLine line = s.outcome) ∧
    (∀ line header, ofLine line = .ok header →
      1 ≤ header.boardSize ∧ 1 ≤ header.startMove ∧ strip header.title = header.title) ∧
    ∀ header s, IsWritable header → IsSpelling header s → ofLine s.text = .ok header := by
  refine ⟨exists_parse_iff, fun line hstarts => ⟨hstarts.exists_longest, ?_⟩, fun _ _ => ok_bounds,
    fun _ _ => ofLine_of_isSpelling⟩
  intro s hs htext
  exact ofLine_of_longest hs hstarts.2 htext

/-- A title may start with what would be a color and a board size. -/
theorem ofLine_reads_spellings_m12 :
    let line := "  $$m12 W9 m5".toList
    let header : Header := { startMove := 12, title := "W9 m5".toList }
    let s : Spelling := ⟨none, false, [], "12".toList, " W9 m5".toList⟩
    (StartsDiagram line ∧ s.IsLongest ∧ strip line = s.text ∧ IsWritable header ∧
      IsSpelling header s) ∧ ofLine line = s.outcome ∧ ofLine s.text = .ok header ∧
      1 ≤ header.boardSize ∧ 1 ≤ header.startMove ∧ strip header.title = header.title := by
  intro line header s
  have hstarts : StartsDiagram line := ⟨⟨"m12 W9 m5".toList, rfl⟩, by decide⟩
  have hwritable : IsWritable header := {
    boardSize_pos := by decide
    boardSize_lt := Numeral.lt_bound 2 (by decide) (by decide)
    startMove_pos := by decide
    startMove_lt := Numeral.lt_bound 2 (by decide) (by decide)
    title_line := by decide
    title_strip := rfl }
  have hspelling : IsSpelling header s := {
    color := .inr ⟨rfl, rfl⟩
    coordinates := rfl
    size := .inr ⟨rfl, rfl⟩
    start := .inl (by decide)
    rest := rfl }
  have hlongest : s.IsLongest := isLongest_of_isSpelling hspelling
  obtain ⟨-, hreads, hok, hwritten⟩ := ofLine_reads_spellings
  have hheader : ofLine s.text = .ok header := hwritten header s hwritable hspelling
  exact ⟨⟨hstarts, hlongest, rfl, hwritable, hspelling⟩, (hreads line hstarts).2 s hlongest rfl,
    hheader, hok s.text header hheader⟩

end BoardDiagram.Header
