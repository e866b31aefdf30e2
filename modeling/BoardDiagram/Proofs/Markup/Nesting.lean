import BoardDiagram.Proofs.Markup.Reader
import BoardDiagram.Text.Blank

/-! The structure of markup: elements lie one inside the other, a document is one element, and its
links are the values of `href`.  A fragment is a stretch of markup that may stand anywhere inside a
document.  All of this looks at tags only, so `settle`, which joins character data, keeps it. -/

namespace BoardDiagram.Markup

/-- Every tag that starts an element is followed by the one that ends it, with whole elements in
between. -/
inductive Nested : Markup → Prop where
  | nil : Nested []
  | data (text : List Char) {rest : Markup} (h : Nested rest) : Nested (.data text :: rest)
  | void (name : List Char) (attributes : List Attribute) {rest : Markup} (h : Nested rest) :
      Nested (.void name attributes :: rest)
  | element (name : List Char) (attributes : List Attribute) {content rest : Markup}
      (hcontent : Nested content) (h : Nested rest) :
      Nested (.start name attributes :: (content ++ .stop name :: rest))

/-- One element of a given name, with nothing but white space behind it. -/
def IsDocument (root : List Char) (markup : Markup) : Prop :=
  ∃ attributes content rest, markup = .start root attributes :: (content ++ .stop root :: rest) ∧
    Nested content ∧ ∀ piece ∈ rest, ∃ text, piece = .data text ∧ Text.isBlankText text = true

def tagAttributes : Piece → List Attribute
  | .start _ attributes | .void _ attributes => attributes
  | .stop _ | .data _ => []

/-- A piece starts an element of a given name. -/
def opens (name : List Char) : Piece → Bool
  | .start other _ | .void other _ => other = name
  | .stop _ | .data _ => false

/-- The addresses of the links of a document, as they are written. -/
def hrefs (markup : Markup) : List (List Char) :=
  ((markup.flatMap tagAttributes).filter (·.name = "href".toList)).map Attribute.value

theorem hrefs_append (a b : Markup) : hrefs (a ++ b) = hrefs a ++ hrefs b := by
  simp [hrefs]

theorem Nested.append {a b : Markup} (ha : Nested a) (hb : Nested b) : Nested (a ++ b) := by
  induction ha with
  | nil => exact hb
  | data text _ ih => exact .data text ih
  | void name attributes _ ih => exact .void name attributes ih
  | element name attributes hcontent _ _ ih =>
    rw [List.cons_append, List.append_assoc, List.cons_append]
    exact .element name attributes hcontent ih

/-! ### Joined character data -/

theorem nested_dataPiece_append (text : List Char) {rest : Markup} (h : Nested rest) :
    Nested (dataPiece text ++ rest) := by
  unfold dataPiece
  split
  · exact h
  · exact .data text h

/-- Joining character data goes on afresh behind a tag. -/
theorem settle_append_tag (text : List Char) (a : Markup) {tag : Piece} (htag : ∀ t, tag ≠ .data t)
    (b : Markup) : settle text (a ++ tag :: b) = settle text a ++ tag :: settle [] b := by
  induction a generalizing text with
  | nil => exact settle_tag htag text b
  | cons piece a ih =>
    by_cases hdata : ∃ t, piece = .data t
    · obtain ⟨t, rfl⟩ := hdata
      exact ih (text ++ t)
    · have hpiece : ∀ t, piece ≠ .data t := fun t ht => hdata ⟨t, ht⟩
      rw [List.cons_append, settle_tag hpiece, settle_tag hpiece, ih, List.append_assoc,
        List.cons_append]

theorem Nested.settle {markup : Markup} (h : Nested markup) (text : List Char) :
    Nested (settle text markup) := by
  induction h generalizing text with
  | nil =>
    have hdata := nested_dataPiece_append text .nil
    rw [List.append_nil] at hdata
    exact hdata
  | data more _ ih => exact ih (text ++ more)
  | void name attributes _ ih => exact nested_dataPiece_append text (.void name attributes (ih []))
  | element name attributes _ _ ihcontent ih =>
    have hstart (t : List Char) : Piece.start name attributes ≠ .data t := nofun
    have hstop (t : List Char) : Piece.stop name ≠ .data t := nofun
    rw [settle_tag hstart, settle_append_tag _ _ hstop]
    exact nested_dataPiece_append text (.element name attributes (ihcontent []) (ih []))

theorem isWritten_settle {markup : Markup} (h : ∀ piece ∈ markup, isWritten piece = true)
    {text : List Char} (htext : isSafe text = true) :
    ∀ piece ∈ settle text markup, isWritten piece = true := by
  have hdata {text : List Char} (htext : isSafe text = true) :
      ∀ piece ∈ dataPiece text, isWritten piece = true := by
    intro piece hpiece
    unfold dataPiece at hpiece
    split at hpiece
    · exact absurd hpiece List.not_mem_nil
    · obtain rfl := List.mem_singleton.mp hpiece
      exact htext
  induction markup generalizing text with
  | nil => exact hdata htext
  | cons piece markup ih =>
    have hpiece := h piece List.mem_cons_self
    have ih := @ih fun p hp => h p (List.mem_cons_of_mem piece hp)
    by_cases htag : ∃ t, piece = .data t
    · obtain ⟨t, rfl⟩ := htag
      exact ih (isSafe_append htext hpiece)
    · rw [settle_tag fun t ht => htag ⟨t, ht⟩]
      intro p hp
      obtain hp | hp := List.mem_append.mp hp
      · exact hdata htext p hp
      · obtain rfl | hp := List.mem_cons.mp hp
        · exact hpiece
        · exact ih rfl p hp

/-- What is read off the tags alone is the same when character data is joined. -/
theorem flatMap_settle {α : Type} {f : Piece → List α} (hf : ∀ t, f (.data t) = [])
    (text : List Char) (markup : Markup) : (settle text markup).flatMap f = markup.flatMap f := by
  have hdata (text : List Char) : (dataPiece text).flatMap f = [] := by
    unfold dataPiece
    split
    · rfl
    · simp [hf]
  induction markup generalizing text with
  | nil => exact hdata text
  | cons piece markup ih =>
    by_cases htag : ∃ t, piece = .data t
    · obtain ⟨t, rfl⟩ := htag
      rw [List.flatMap_cons, hf, List.nil_append]
      exact ih (text ++ t)
    · rw [settle_tag fun t ht => htag ⟨t, ht⟩, List.flatMap_append, hdata, List.nil_append,
        List.flatMap_cons, List.flatMap_cons, ih]

theorem hrefs_settle (text : List Char) (markup : Markup) :
    hrefs (settle text markup) = hrefs markup := by
  rw [hrefs, flatMap_settle (fun _ => rfl), hrefs]

theorem filter_opens (name : List Char) (markup : Markup) :
    markup.filter (opens name) =
      markup.flatMap fun piece => if opens name piece then [piece] else [] := by
  induction markup with
  | nil => rfl
  | cons piece markup ih =>
    rw [List.flatMap_cons, ← ih, List.filter_cons]
    split <;> rfl

theorem filter_opens_settle (name text : List Char) (markup : Markup) :
    (settle text markup).filter (opens name) = markup.filter (opens name) := by
  rw [filter_opens, filter_opens, flatMap_settle fun _ => rfl]

/-! ### Fragments -/

def isQuiet (a : Attribute) : Bool :=
  isWrittenAttribute a && a.name != "href".toList

def Quiet (attributes : List Attribute) : Prop :=
  ∀ a ∈ attributes, isQuiet a = true

theorem Quiet.nil : Quiet [] :=
  fun _ h => absurd h List.not_mem_nil

theorem Quiet.attr {name : String} {value : List Char} {attributes : List Attribute}
    (hname : (isName name.toList && name.toList != "href".toList) = true)
    (hvalue : isSafe value = true) (h : Quiet attributes) :
    Quiet (attr name value :: attributes) := by
  refine List.forall_mem_cons.mpr ⟨?_, h⟩
  obtain ⟨hname, hhref⟩ := Bool.and_eq_true_iff.mp hname
  simp only [isQuiet, isWrittenAttribute, Markup.attr, hname, hvalue, hhref, Bool.and_self]

theorem Quiet.append {a b : List Attribute} (ha : Quiet a) (hb : Quiet b) : Quiet (a ++ b) :=
  List.forall_mem_append.mpr ⟨ha, hb⟩

/-- The name of an element that may stand anywhere inside a document. -/
def isInner (name : List Char) : Bool :=
  isName name && name != "svg".toList && name != "title".toList

/-- Whole elements and character data that may stand anywhere inside a document, with links to some
addresses. -/
structure Fragment (addresses : List (List Char)) (markup : Markup) : Prop where
  nested : Nested markup
  written : ∀ piece ∈ markup, isWritten piece = true
  inner : ∀ piece ∈ markup, opens "svg".toList piece = false ∧ opens "title".toList piece = false
  hrefs : hrefs markup = addresses

theorem Fragment.nil : Fragment [] [] :=
  ⟨.nil, fun _ h => absurd h List.not_mem_nil, fun _ h => absurd h List.not_mem_nil, rfl⟩

theorem Fragment.append {addresses more : List (List Char)} {a b : Markup}
    (ha : Fragment addresses a) (hb : Fragment more b) : Fragment (addresses ++ more) (a ++ b) where
  nested := ha.nested.append hb.nested
  written := List.forall_mem_append.mpr ⟨ha.written, hb.written⟩
  inner := List.forall_mem_append.mpr ⟨ha.inner, hb.inner⟩
  hrefs := by rw [hrefs_append, ha.hrefs, hb.hrefs]

/-- Fragments that have an address or none. -/
theorem Fragment.flatMap {α : Type} {f : α → Markup} {g : α → Option (List Char)} {xs : List α}
    (h : ∀ x ∈ xs, Fragment (g x).toList (f x)) : Fragment (xs.filterMap g) (xs.flatMap f) := by
  induction xs with
  | nil => exact .nil
  | cons x xs ih =>
    have hx := h x List.mem_cons_self
    have hrest := ih fun y hy => h y (List.mem_cons_of_mem x hy)
    rw [List.flatMap_cons, List.filterMap_cons]
    cases hg : g x with
    | none =>
      rw [hg] at hx
      exact hx.append hrest
    | some address =>
      rw [hg] at hx
      exact hx.append hrest

theorem Fragment.flatten {parts : List Markup} (h : ∀ part ∈ parts, Fragment [] part) :
    Fragment [] parts.flatten := by
  induction parts with
  | nil => exact .nil
  | cons part parts ih =>
    rw [List.flatten_cons]
    exact (h part List.mem_cons_self).append (ih fun p hp => h p (List.mem_cons_of_mem part hp))

theorem Fragment.data {text : List Char} (h : isSafe text = true) : Fragment [] [.data text] where
  nested := .data text .nil
  written := List.forall_mem_singleton.mpr h
  inner := List.forall_mem_singleton.mpr ⟨rfl, rfl⟩
  hrefs := rfl

theorem isInner_name {name : List Char} (h : isInner name = true) :
    isName name = true ∧ name ≠ "svg".toList ∧ name ≠ "title".toList := by
  simp only [isInner, Bool.and_eq_true, bne_iff_ne] at h
  exact ⟨h.1.1, h.1.2, h.2⟩

theorem Quiet.attributes {attributes : List Attribute} (h : Quiet attributes) :
    attributes.all isWrittenAttribute = true ∧
      attributes.filter (·.name = "href".toList) = [] := by
  have h (a : Attribute) (ha : a ∈ attributes) :
      isWrittenAttribute a = true ∧ a.name ≠ "href".toList := by
    have h := h a ha
    rw [isQuiet, Bool.and_eq_true, bne_iff_ne] at h
    exact h
  refine ⟨List.all_eq_true.mpr fun a ha => (h a ha).1, List.filter_eq_nil_iff.mpr fun a ha => ?_⟩
  simpa using (h a ha).2

theorem Fragment.leaf {name : String} {attributes : List Attribute}
    (hname : isInner name.toList = true) (hattributes : Quiet attributes) :
    Fragment [] (leaf name attributes) := by
  obtain ⟨hname, hsvg, htitle⟩ := isInner_name hname
  obtain ⟨hwritten, hquiet⟩ := hattributes.attributes
  have hvoid : Fragment [] [.void name.toList attributes] := by
    refine ⟨.void _ _ .nil, List.forall_mem_singleton.mpr ?_, List.forall_mem_singleton.mpr ?_, ?_⟩
    · exact Bool.and_eq_true_iff.mpr ⟨hname, hwritten⟩
    · exact ⟨decide_eq_false hsvg, decide_eq_false htitle⟩
    · simp only [Markup.hrefs, List.flatMap_singleton, tagAttributes, hquiet, List.map_nil]
  exact hvoid.append (.data rfl)

/-- An element around a fragment: the addresses of its own tag come first. -/
theorem Fragment.element {name : String} {attributes : List Attribute} {content : Markup}
    {addresses : List (List Char)} (hname : isInner name.toList = true)
    (hattributes : attributes.all isWrittenAttribute = true) (h : Fragment addresses content) :
    Fragment ((attributes.filter (·.name = "href".toList)).map Attribute.value ++ addresses)
      (inline name attributes content) := by
  obtain ⟨hname, hsvg, htitle⟩ := isInner_name hname
  refine ⟨.element _ _ h.nested .nil, ?_, ?_, ?_⟩
  · intro piece hpiece
    simp only [Markup.inline, List.cons_append, List.mem_cons, List.mem_append, List.not_mem_nil,
      or_false] at hpiece
    obtain rfl | hpiece | rfl := hpiece
    · exact Bool.and_eq_true_iff.mpr ⟨hname, hattributes⟩
    · exact h.written piece hpiece
    · exact hname
  · intro piece hpiece
    simp only [Markup.inline, List.cons_append, List.mem_cons, List.mem_append, List.not_mem_nil,
      or_false] at hpiece
    obtain rfl | hpiece | rfl := hpiece
    · exact ⟨decide_eq_false hsvg, decide_eq_false htitle⟩
    · exact h.inner piece hpiece
    · exact ⟨rfl, rfl⟩
  · rw [← h.hrefs]
    simp [Markup.hrefs, Markup.inline, tagAttributes]

theorem Fragment.inline {name : String} {attributes : List Attribute} {content : Markup}
    {addresses : List (List Char)} (hname : isInner name.toList = true)
    (hattributes : Quiet attributes) (h : Fragment addresses content) :
    Fragment addresses (inline name attributes content) := by
  obtain ⟨hwritten, hquiet⟩ := hattributes.attributes
  have helement := Fragment.element hname hwritten h
  rw [hquiet] at helement
  exact helement

theorem Fragment.line {name : String} {attributes : List Attribute} {content : Markup}
    {addresses : List (List Char)} (hname : isInner name.toList = true)
    (hattributes : Quiet attributes) (h : Fragment addresses content) :
    Fragment addresses (line name attributes content) := by
  have hbreak : Fragment [] [newline] := .data rfl
  have hline := (Fragment.inline hname hattributes h).append hbreak
  rw [List.append_nil] at hline
  exact hline

theorem Fragment.block {name : String} {attributes : List Attribute} {content : Markup}
    {addresses : List (List Char)} (hname : isInner name.toList = true)
    (hattributes : Quiet attributes) (h : Fragment addresses content) :
    Fragment addresses (block name attributes content) := by
  have hbreak : Fragment [] [newline] := .data rfl
  exact .line hname hattributes (hbreak.append h)

end BoardDiagram.Markup
