import BoardDiagram.Markup

/-! Texts as they may stand in markup, in an attribute value as well as between tags: no character
that could end the value or start a tag, and an ampersand only at the start of an entity.
`unescape` reads such a text, and `unescape_escape` says that it gives back what was escaped. -/

namespace BoardDiagram.Markup

/-- The entities, with the character that each stands for. -/
def entities : List (List Char × Char) := [
  ("&amp;".toList, '&'), ("&lt;".toList, '<'), ("&gt;".toList, '>'), ("&quot;".toList, '"'),
  ("&#x27;".toList, '\x27')]

/-- A character that may not be written as it is: it could end a value or start a tag. -/
def isDelimiter (c : Char) : Bool :=
  c = '<' || c = '>' || c = '"' || c = '\x27'

/-- A text that holds no delimiter, and in which every ampersand starts an entity. -/
def isSafe : List Char → Bool
  | [] => true
  | c :: rest =>
    !isDelimiter c && (c != '&' || entities.any fun entity => entity.1.isPrefixOf (c :: rest)) &&
      isSafe rest

/-- The text with its entities replaced by the characters that they stand for. -/
def unescape (s : List Char) : List Char :=
  match s with
  | '&' :: 'a' :: 'm' :: 'p' :: ';' :: rest => '&' :: unescape rest
  | '&' :: 'l' :: 't' :: ';' :: rest => '<' :: unescape rest
  | '&' :: 'g' :: 't' :: ';' :: rest => '>' :: unescape rest
  | '&' :: 'q' :: 'u' :: 'o' :: 't' :: ';' :: rest => '"' :: unescape rest
  | '&' :: '#' :: 'x' :: '2' :: '7' :: ';' :: rest => '\x27' :: unescape rest
  | c :: rest => c :: unescape rest
  | [] => []

theorem isSafe_append {a b : List Char} (ha : isSafe a = true) (hb : isSafe b = true) :
    isSafe (a ++ b) = true := by
  induction a with
  | nil => exact hb
  | cons c a ih =>
    rw [isSafe, Bool.and_eq_true, Bool.and_eq_true] at ha
    obtain ⟨⟨hc, hentity⟩, ha⟩ := ha
    rw [List.cons_append, isSafe, hc, ih ha, Bool.true_and, Bool.and_true]
    rw [Bool.or_eq_true, List.any_eq_true] at hentity ⊢
    refine hentity.imp_right fun ⟨entity, hmem, hprefix⟩ => ⟨entity, hmem, ?_⟩
    rw [List.isPrefixOf_iff_prefix] at hprefix ⊢
    exact hprefix.trans (List.prefix_append (c :: a) b)

theorem isSafe_cons {c : Char} {s : List Char} (hc : isSafe [c] = true)
    (h : isSafe s = true) : isSafe (c :: s) = true :=
  isSafe_append hc h

theorem isSafe_flatten {texts : List (List Char)} (h : ∀ s ∈ texts, isSafe s = true) :
    isSafe texts.flatten = true := by
  induction texts with
  | nil => rfl
  | cons s texts ih =>
    rw [List.flatten_cons]
    exact isSafe_append (h s List.mem_cons_self) (ih fun t ht => h t (List.mem_cons_of_mem s ht))

theorem isSafe_of_plain {s : List Char} (h : ∀ c ∈ s, isDelimiter c = false ∧ c ≠ '&') :
    isSafe s = true := by
  induction s with
  | nil => rfl
  | cons c s ih =>
    have hc := h c List.mem_cons_self
    rw [isSafe, ih fun d hd => h d (List.mem_cons_of_mem c hd)]
    simp [hc.1, hc.2]

theorem isDelimiter_of_isSafe {s : List Char} (h : isSafe s = true) :
    ∀ c ∈ s, isDelimiter c = false := by
  induction s with
  | nil => exact fun c hc => absurd hc List.not_mem_nil
  | cons d s ih =>
    rw [isSafe, Bool.and_eq_true, Bool.and_eq_true, Bool.not_eq_true'] at h
    intro c hc
    obtain rfl | hc := List.mem_cons.mp hc
    · exact h.1.1
    · exact ih h.2 c hc

/-- A character is written as an entity, or as itself if it may be. -/
theorem escapeChar_cases (c : Char) :
    (∃ entity ∈ entities, entity.2 = c ∧ escapeChar c = entity.1) ∨
      (escapeChar c = [c] ∧ isDelimiter c = false ∧ c ≠ '&') := by
  unfold escapeChar
  split
  · exact .inl ⟨("&amp;".toList, '&'), by simp [entities], rfl, rfl⟩
  · exact .inl ⟨("&lt;".toList, '<'), by simp [entities], rfl, rfl⟩
  · exact .inl ⟨("&gt;".toList, '>'), by simp [entities], rfl, rfl⟩
  · exact .inl ⟨("&quot;".toList, '"'), by simp [entities], rfl, rfl⟩
  · exact .inl ⟨("&#x27;".toList, '\x27'), by simp [entities], rfl, rfl⟩
  · rename_i hamp hlt hgt hquot hapos
    refine .inr ⟨rfl, ?_, hamp⟩
    simp only [isDelimiter, Bool.or_eq_false_iff, decide_eq_false_iff_not]
    exact ⟨⟨⟨hlt, hgt⟩, hquot⟩, hapos⟩

theorem isSafe_entity : ∀ entity ∈ entities, isSafe entity.1 = true := by
  decide

theorem isSafe_escape (s : List Char) : isSafe (escape s) = true := by
  refine isSafe_flatten fun t ht => ?_
  obtain ⟨c, _, rfl⟩ := List.mem_map.mp ht
  obtain ⟨entity, hmem, _, hentity⟩ | ⟨hself, hc⟩ := escapeChar_cases c
  · rw [hentity]
    exact isSafe_entity entity hmem
  · rw [hself]
    exact isSafe_of_plain fun d hd => List.mem_singleton.mp hd ▸ hc

theorem unescape_cons {c : Char} (h : c ≠ '&') (rest : List Char) :
    unescape (c :: rest) = c :: unescape rest := by
  rw [unescape]
  all_goals
    intros
    simp_all

/-- Escaping loses nothing. -/
theorem unescape_escape (s : List Char) : unescape (escape s) = s := by
  induction s with
  | nil => rfl
  | cons c s ih =>
    rw [escape, List.flatMap_cons]
    obtain ⟨entity, hmem, rfl, hentity⟩ | ⟨hself, _, hc⟩ := escapeChar_cases c
    · rw [hentity]
      simp only [entities, List.mem_cons, List.not_mem_nil, or_false] at hmem
      obtain rfl | rfl | rfl | rfl | rfl := hmem <;> exact congrArg _ ih
    · rw [hself, List.singleton_append, unescape_cons hc]
      exact congrArg _ ih

end BoardDiagram.Markup
