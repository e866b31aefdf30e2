import BoardDiagram.Links
import Mathlib.Data.List.Induction

/-! Links as a map from anchors to addresses: what is found after a link has been added or taken
away, and in a list of links.  The order of the links is shown by nothing but the links themselves,
so it does not matter for addresses. -/

namespace BoardDiagram

/-- What is found after the entries of one key have been taken away. -/
theorem lookup_filter_ne {α β : Type} [BEq α] [LawfulBEq α] [DecidableEq α]
    (entries : List (α × β)) (key other : α) :
    (entries.filter (·.1 ≠ key)).lookup other =
      if other = key then none else entries.lookup other := by
  induction entries with
  | nil => simp only [List.filter_nil, List.lookup_nil, ite_self]
  | cons entry rest ih =>
    by_cases hentry : entry.1 = key
    · rw [List.filter_cons_of_neg (by simpa using hentry), ih, List.lookup_cons]
      by_cases hother : other = key
      · simp only [hother, if_true]
      · have hne : (other == entry.1) = false := beq_false_of_ne (by rwa [hentry])
        simp only [hother, hne, if_false]
    · rw [List.filter_cons_of_pos (by simpa using hentry), List.lookup_cons, List.lookup_cons, ih]
      by_cases hother : other = entry.1
      · simp [hother, hentry]
      · have hne : (other == entry.1) = false := beq_false_of_ne hother
        simp only [hne]

namespace Links

theorem ofList_concat (pairs : List (List Char × List Char)) (pair : List Char × List Char) :
    ofList (pairs ++ [pair]) = (ofList pairs).insert pair.1 pair.2 := by
  simp only [ofList, List.foldl_append, List.foldl_cons, List.foldl_nil]

/-- The last of several links from one anchor counts. -/
theorem get?_ofList (pairs : List (List Char × List Char)) (anchor : List Char) :
    (ofList pairs).get? anchor =
      ((pairs.filter (·.1 = anchor)).getLast?).map Prod.snd := by
  induction pairs using List.reverseRecOn with
  | nil => rfl
  | append_singleton pairs pair ih =>
    rw [ofList_concat, get?_insert, ih, List.filter_append]
    by_cases hpair : pair.1 = anchor
    · simp [hpair]
    · simp [hpair, Ne.symm hpair]

theorem mem_of_get?_ofList {pairs : List (List Char × List Char)} {anchor url : List Char}
    (h : (ofList pairs).get? anchor = some url) : (anchor, url) ∈ pairs := by
  rw [get?_ofList, Option.map_eq_some_iff] at h
  obtain ⟨pair, hlast, rfl⟩ := h
  have hpair := List.mem_filter.mp (List.mem_of_getLast? hlast)
  obtain rfl : pair.1 = anchor := of_decide_eq_true hpair.2
  exact hpair.1

theorem get?_erase (links : Links) (anchor other : List Char) :
    (links.erase anchor).get? other = if other = anchor then none else links.get? other :=
  lookup_filter_ne links.entries anchor other

theorem insertEntry_of_lookup_eq_none {anchor : List Char} (url : List Char)
    {entries : List (List Char × List Char)} (h : entries.lookup anchor = none) :
    insertEntry anchor url entries = entries ++ [(anchor, url)] := by
  induction entries with
  | nil => rfl
  | cons entry rest ih =>
    rw [lookup_entry] at h
    split at h
    · cases h
    · rename_i hanchor
      rw [insertEntry, if_neg (Ne.symm hanchor), ih h, List.cons_append]

/-- An anchor that is added and taken away again leaves the links as they were. -/
theorem erase_insert {links : Links} {anchor : List Char} (h : links.get? anchor = none)
    (url : List Char) : (links.insert anchor url).erase anchor = links := by
  obtain ⟨entries⟩ := links
  have hkeep : entries.filter (·.1 ≠ anchor) = entries := by
    apply List.filter_eq_self.mpr
    intro entry hentry
    have habsent : anchor ≠ entry.1 := by
      simpa using List.lookup_eq_none_iff.mp h entry hentry
    exact decide_eq_true habsent.symm
  simp only [insert, erase, insertEntry_of_lookup_eq_none url h, List.filter_append, hkeep]
  simp

theorem lookup_eq_some_iff_mem {entries : List (List Char × List Char)}
    (h : (entries.map Prod.fst).Nodup) {anchor url : List Char} :
    entries.lookup anchor = some url ↔ (anchor, url) ∈ entries := by
  induction entries with
  | nil => simp
  | cons entry rest ih =>
    rw [List.map_cons, List.nodup_cons] at h
    rw [lookup_entry, List.mem_cons]
    by_cases hanchor : anchor = entry.1
    · subst hanchor
      have hrest : (entry.1, url) ∉ rest := fun hmem => h.1 (List.mem_map.mpr ⟨_, hmem, rfl⟩)
      simp [hrest, Prod.ext_iff, eq_comm]
    · simp [hanchor, Prod.ext_iff, ih h.2]

/-- Where no anchor comes twice, the order of the links does not matter. -/
theorem get?_of_perm {links other : Links} (h : (links.entries.map Prod.fst).Nodup)
    (hperm : other.entries.Perm links.entries) (anchor : List Char) :
    other.get? anchor = links.get? anchor := by
  have hother : (other.entries.map Prod.fst).Nodup := (hperm.map Prod.fst).nodup_iff.mpr h
  ext url
  rw [get?, get?, lookup_eq_some_iff_mem h, lookup_eq_some_iff_mem hother]
  exact hperm.mem_iff

end Links

end BoardDiagram
