import BoardDiagram.Proofs.Markup.Safe

/-! A reader of markup that knows nothing of how it was written.  It goes through a text character
by character, takes it apart into tags and character data, and refuses what is neither.
`pieces?_write` says that it finds the pieces of well-formed markup again, with each stretch of
character data in one piece. -/

namespace BoardDiagram.Markup

/-- A character that may stand in the name of an element or attribute. -/
def isNameChar (c : Char) : Bool :=
  c.isAlphanum || c = '-'

def isName (name : List Char) : Bool :=
  !name.isEmpty && name.all isNameChar

/-- What a reader has seen of the piece that it is in. -/
inductive Place where
  /-- Between tags, behind some character data. -/
  | data (text : List Char)
  /-- Behind the bracket that opens a tag. -/
  | opened
  /-- In the name of a tag that ends an element. -/
  | stopName (name : List Char)
  | startName (name : List Char)
  /-- Behind a space in a tag. -/
  | gap (name : List Char) (attributes : List Attribute)
  | attributeName (name : List Char) (attributes : List Attribute) (key : List Char)
  /-- Behind the name of an attribute. -/
  | assigned (name : List Char) (attributes : List Attribute) (key : List Char)
  | value (name : List Char) (attributes : List Attribute) (key value : List Char)
  /-- Behind the value of an attribute. -/
  | valued (name : List Char) (attributes : List Attribute)
  /-- Behind the slash of an element without content. -/
  | closing (name : List Char) (attributes : List Attribute)

def dataPiece (text : List Char) : Markup :=
  if text.isEmpty then [] else [.data text]

/-- Reads one character: the pieces that end with it, and the place behind it. -/
def step : Place → Char → Option (Markup × Place)
  | .data text, c =>
    if c = '<' then some (dataPiece text, .opened) else some ([], .data (text ++ [c]))
  | .opened, c =>
    if c = '/' then some ([], .stopName [])
    else if isNameChar c then some ([], .startName [c])
    else none
  | .stopName name, c =>
    if c = '>' then if isName name then some ([.stop name], .data []) else none
    else if isNameChar c then some ([], .stopName (name ++ [c]))
    else none
  | .startName name, c =>
    if c = '>' then some ([.start name []], .data [])
    else if c = '/' then some ([], .closing name [])
    else if c = ' ' then some ([], .gap name [])
    else if isNameChar c then some ([], .startName (name ++ [c]))
    else none
  | .gap name attributes, c =>
    if c = '/' then some ([], .closing name attributes)
    else if isNameChar c then some ([], .attributeName name attributes [c])
    else none
  | .attributeName name attributes key, c =>
    if c = '=' then some ([], .assigned name attributes key)
    else if isNameChar c then some ([], .attributeName name attributes (key ++ [c]))
    else none
  | .assigned name attributes key, c =>
    if c = '"' then some ([], .value name attributes key []) else none
  | .value name attributes key value, c =>
    if c = '"' then some ([], .valued name (attributes ++ [⟨key, value⟩]))
    else if c = '<' then none
    else some ([], .value name attributes key (value ++ [c]))
  | .valued name attributes, c =>
    if c = '>' then some ([.start name attributes], .data [])
    else if c = '/' then some ([], .closing name attributes)
    else if c = ' ' then some ([], .gap name attributes)
    else none
  | .closing name attributes, c =>
    if c = '>' then some ([.void name attributes], .data []) else none

/-- Reads a text from a place on: the pieces that end in it, and the place behind it. -/
def read (place : Place) : List Char → Option (Markup × Place)
  | [] => some ([], place)
  | c :: rest => do
    let (ended, next) ← step place c
    let (pieces, last) ← read next rest
    return (ended ++ pieces, last)

/-- The tags and character data of a whole text, unless it is no markup. -/
def pieces? (text : List Char) : Option Markup :=
  match read (.data []) text with
  | some (pieces, .data rest) => some (pieces ++ dataPiece rest)
  | _ => none

/-! ### Reading a text in parts -/

theorem read_append {place next last : Place} {a b : List Char} {m n : Markup}
    (ha : read place a = some (m, next)) (hb : read next b = some (n, last)) :
    read place (a ++ b) = some (m ++ n, last) := by
  induction a generalizing place m with
  | nil =>
    obtain ⟨rfl, rfl⟩ := Prod.mk.inj (Option.some.inj ha)
    exact hb
  | cons c a ih =>
    simp only [read, Option.bind_eq_bind, Option.bind_eq_some_iff] at ha
    obtain ⟨⟨ended, middle⟩, hc, ⟨pieces, reached⟩, hrest, ha⟩ := ha
    obtain ⟨rfl, rfl⟩ := Prod.mk.inj (Option.some.inj ha)
    simp [read, hc, ih hrest, List.append_assoc]

/-- A step that ends no piece. -/
theorem read_cons {place next last : Place} {c : Char} {text : List Char} {m : Markup}
    (hc : step place c = some ([], next)) (h : read next text = some (m, last)) :
    read place (c :: text) = some (m, last) := by
  simp [read, hc, h]

/-- A stretch of characters each of which is added to what has been seen of a piece. -/
theorem read_collect {f : List Char → Place} {text : List Char}
    (h : ∀ c ∈ text, ∀ seen, step (f seen) c = some ([], f (seen ++ [c])))
    (seen : List Char) : read (f seen) text = some ([], f (seen ++ text)) := by
  induction text generalizing seen with
  | nil => rw [List.append_nil]; rfl
  | cons c text ih =>
    have hrest := ih (fun d hd => h d (List.mem_cons_of_mem c hd)) (seen ++ [c])
    rw [List.append_assoc] at hrest
    exact read_cons (h c List.mem_cons_self seen) hrest

theorem isNameChar_ne {c d : Char} (hc : isNameChar c = true) (hd : isNameChar d = false) :
    c ≠ d := by
  rintro rfl
  rw [hc] at hd
  exact absurd hd (by decide)

/-- A name is not empty, and the characters by which a reader knows that it has ended are not in
it. -/
theorem isName_cases {name : List Char} (h : isName name = true) :
    ∃ c rest, name = c :: rest ∧
      ∀ d ∈ name, isNameChar d = true ∧ d ≠ '>' ∧ d ≠ '/' ∧ d ≠ ' ' ∧ d ≠ '=' := by
  obtain _ | ⟨c, rest⟩ := name
  · exact absurd h (by decide)
  · refine ⟨c, rest, rfl, fun d hd => ?_⟩
    have hname : isNameChar d = true := List.all_eq_true.mp (Bool.and_eq_true_iff.mp h).2 d hd
    exact ⟨hname, isNameChar_ne hname (by decide), isNameChar_ne hname (by decide),
      isNameChar_ne hname (by decide), isNameChar_ne hname (by decide)⟩

/-! ### Reading tags -/

def isWrittenAttribute (a : Attribute) : Bool :=
  isName a.name && isSafe a.value

/-- A tag with names and safe values, or safe character data. -/
def isWritten : Piece → Bool
  | .start name attributes | .void name attributes =>
    isName name && attributes.all isWrittenAttribute
  | .stop name => isName name
  | .data text => isSafe text

/-- The place behind the name and some attributes of a tag. -/
def behind (name : List Char) : List Attribute → Place
  | [] => .startName name
  | attributes => .valued name attributes

theorem behind_append (name : List Char) (attributes : List Attribute) (a : Attribute) :
    behind name (attributes ++ [a]) = .valued name (attributes ++ [a]) := by
  cases attributes <;> rfl

theorem step_behind_space (name : List Char) (attributes : List Attribute) :
    step (behind name attributes) ' ' = some ([], .gap name attributes) := by
  cases attributes <;> rfl

theorem step_behind_close (name : List Char) (attributes : List Attribute) :
    step (behind name attributes) '>' = some ([.start name attributes], .data []) := by
  cases attributes <;> rfl

theorem read_value {name key value : List Char} {attributes : List Attribute}
    (h : isSafe value = true) :
    read (.value name attributes key []) value = some ([], .value name attributes key value) := by
  refine read_collect (f := .value name attributes key) (fun c hc seen => ?_) []
  have hdelimiter := isDelimiter_of_isSafe h c hc
  simp only [isDelimiter, Bool.or_eq_false_iff, decide_eq_false_iff_not] at hdelimiter
  rw [step, if_neg hdelimiter.1.2, if_neg hdelimiter.1.1.1]

theorem read_attribute {a : Attribute} (h : isWrittenAttribute a = true) (name : List Char)
    (attributes : List Attribute) :
    read (behind name attributes) a.write = some ([], behind name (attributes ++ [a])) := by
  obtain ⟨key, value⟩ := a
  obtain ⟨hkey, hvalue⟩ := Bool.and_eq_true_iff.mp h
  obtain ⟨c, rest, rfl, hchars⟩ := isName_cases hkey
  have hopen : read (.gap name attributes) (c :: rest) =
      some ([], .attributeName name attributes (c :: rest)) := by
    obtain ⟨hc, _, hslash, _⟩ := hchars c List.mem_cons_self
    refine read_cons (by rw [step, if_neg hslash, if_pos hc]) ?_
    refine read_collect (f := .attributeName name attributes) (fun d hd seen => ?_) [c]
    obtain ⟨hd, _, _, _, hequals⟩ := hchars d (List.mem_cons_of_mem c hd)
    rw [step, if_neg hequals, if_pos hd]
  have hclose : read (.value name attributes (c :: rest) value) ['"'] =
      some ([], behind name (attributes ++ [⟨c :: rest, value⟩])) := by
    rw [behind_append]
    rfl
  have htail : read (.attributeName name attributes (c :: rest)) ('=' :: '"' :: (value ++ ['"'])) =
      some ([], behind name (attributes ++ [⟨c :: rest, value⟩])) :=
    read_cons rfl (read_cons rfl (read_append (read_value hvalue) hclose))
  have hwrite : Attribute.write ⟨c :: rest, value⟩ =
      ' ' :: ((c :: rest) ++ '=' :: '"' :: (value ++ ['"'])) := by
    simp [Attribute.write]
  rw [hwrite]
  exact read_cons (step_behind_space name attributes) (read_append hopen htail)

theorem read_attributes {attributes : List Attribute}
    (h : attributes.all isWrittenAttribute = true) (name : List Char) (seen : List Attribute) :
    read (behind name seen) (attributes.flatMap Attribute.write) =
      some ([], behind name (seen ++ attributes)) := by
  induction attributes generalizing seen with
  | nil =>
    rw [List.append_nil]
    rfl
  | cons a attributes ih =>
    obtain ⟨ha, h⟩ := Bool.and_eq_true_iff.mp h
    have hrest := ih h (seen ++ [a])
    rw [List.append_assoc] at hrest
    exact read_append (read_attribute ha name seen) hrest

theorem read_opening {name : List Char} {attributes : List Attribute} (hname : isName name = true)
    (h : attributes.all isWrittenAttribute = true) (text : List Char) :
    read (.data text) ('<' :: name ++ attributes.flatMap Attribute.write) =
      some (dataPiece text, behind name attributes) := by
  obtain ⟨c, rest, rfl, hchars⟩ := isName_cases hname
  have hopen : read .opened (c :: rest) = some ([], behind (c :: rest) []) := by
    obtain ⟨hc, _, hslash, _⟩ := hchars c List.mem_cons_self
    refine read_cons (by rw [step, if_neg hslash, if_pos hc]) ?_
    refine read_collect (f := .startName) (fun d hd seen => ?_) [c]
    obtain ⟨hd, hclose, hslash, hspace, _⟩ := hchars d (List.mem_cons_of_mem c hd)
    rw [step, if_neg hclose, if_neg hslash, if_neg hspace, if_pos hd]
  have htag : read (.data text) ['<'] = some (dataPiece text, .opened) := by
    simp [read, step]
  simpa using read_append htag (read_append hopen (read_attributes h (c :: rest) []))

theorem read_stop {name : List Char} (h : isName name = true) (text : List Char) :
    read (.data text) (Piece.stop name).write =
      some (dataPiece text ++ [.stop name], .data []) := by
  have htag : read (.data text) ['<', '/'] = some (dataPiece text, .stopName []) := by
    simp [read, step]
  have hname : read (.stopName []) name = some ([], .stopName name) := by
    obtain ⟨_, _, rfl, hchars⟩ := isName_cases h
    refine read_collect (f := .stopName) (fun d hd seen => ?_) []
    obtain ⟨hd, hclose, _⟩ := hchars d hd
    rw [step, if_neg hclose, if_pos hd]
  have hclose : read (.stopName name) ['>'] = some ([.stop name], .data []) := by
    simp [read, step, h]
  simpa [Piece.write] using read_append (read_append htag hname) hclose

/-- A tag ends the character data before it. -/
theorem read_tag {piece : Piece} (h : isWritten piece = true) (htag : ∀ t, piece ≠ .data t)
    (text : List Char) :
    read (.data text) piece.write = some (dataPiece text ++ [piece], .data []) := by
  cases piece with
  | start name attributes =>
    obtain ⟨hname, h⟩ := Bool.and_eq_true_iff.mp h
    have hclose : read (behind name attributes) ['>'] =
        some ([.start name attributes], .data []) := by
      simp [read, step_behind_close]
    exact read_append (read_opening hname h text) hclose
  | stop name => exact read_stop h text
  | void name attributes =>
    obtain ⟨hname, h⟩ := Bool.and_eq_true_iff.mp h
    have hclose : read (behind name attributes) [' ', '/', '>'] =
        some ([.void name attributes], .data []) :=
      read_cons (step_behind_space name attributes) rfl
    exact read_append (read_opening hname h text) hclose
  | data t => exact absurd rfl (htag t)

theorem read_data {t : List Char} (h : isSafe t = true) (text : List Char) :
    read (.data text) t = some ([], .data (text ++ t)) := by
  refine read_collect (f := .data) (fun c hc seen => ?_) text
  have hdelimiter := isDelimiter_of_isSafe h c hc
  simp only [isDelimiter, Bool.or_eq_false_iff, decide_eq_false_iff_not] at hdelimiter
  rw [step, if_neg hdelimiter.1.1.1]

/-! ### Reading markup -/

/-- Markup behind some character data, with each stretch of character data in one piece. -/
def settle (text : List Char) : Markup → Markup
  | [] => dataPiece text
  | .data more :: rest => settle (text ++ more) rest
  | piece :: rest => dataPiece text ++ piece :: settle [] rest

theorem settle_tag {piece : Piece} (htag : ∀ t, piece ≠ .data t) (text : List Char)
    (rest : Markup) : settle text (piece :: rest) = dataPiece text ++ piece :: settle [] rest := by
  cases piece with
  | data t => exact absurd rfl (htag t)
  | _ => rfl

theorem read_write {markup : Markup} (h : ∀ piece ∈ markup, isWritten piece = true)
    (text : List Char) :
    ∃ pieces rest, read (.data text) markup.write = some (pieces, .data rest) ∧
      pieces ++ dataPiece rest = settle text markup := by
  induction markup generalizing text with
  | nil => exact ⟨[], text, rfl, rfl⟩
  | cons piece markup ih =>
    have hpiece := h piece List.mem_cons_self
    have hrest : ∀ piece ∈ markup, isWritten piece = true :=
      fun p hp => h p (List.mem_cons_of_mem piece hp)
    -- character data is held back until a tag ends it
    by_cases hdata : ∃ t, piece = .data t
    · obtain ⟨t, rfl⟩ := hdata
      obtain ⟨pieces, rest, hread, hsettle⟩ := ih hrest (text ++ t)
      exact ⟨pieces, rest, read_append (read_data hpiece text) hread, hsettle⟩
    · have htag : ∀ t, piece ≠ .data t := fun t ht => hdata ⟨t, ht⟩
      obtain ⟨pieces, rest, hread, hsettle⟩ := ih hrest []
      refine ⟨_, rest, read_append (read_tag hpiece htag text) hread, ?_⟩
      rw [settle_tag htag, ← hsettle]
      simp

theorem pieces?_write {markup : Markup} (h : ∀ piece ∈ markup, isWritten piece = true) :
    pieces? markup.write = some (settle [] markup) := by
  obtain ⟨pieces, rest, hread, hsettle⟩ := read_write h []
  rw [pieces?, hread, ← hsettle]

end BoardDiagram.Markup
