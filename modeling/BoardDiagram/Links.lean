/-! Links: a map from anchors to addresses that keeps the order in which anchors first came. -/

namespace BoardDiagram

/-- Anchors with their addresses, in order. -/
structure Links where
  entries : List (List Char × List Char) := []
  deriving DecidableEq

namespace Links

/-- The address of an anchor. -/
def get? (links : Links) (anchor : List Char) : Option (List Char) :=
  links.entries.lookup anchor

def contains (links : Links) (anchor : List Char) : Bool :=
  (links.get? anchor).isSome

def size (links : Links) : Nat :=
  links.entries.length

/-- Entries with the address of an anchor replaced in its place, or added at the end. -/
def insertEntry (anchor url : List Char) :
    List (List Char × List Char) → List (List Char × List Char)
  | [] => [(anchor, url)]
  | entry :: rest =>
    if entry.1 = anchor then (anchor, url) :: rest else entry :: insertEntry anchor url rest

/-- The links with an address for an anchor. -/
def insert (links : Links) (anchor url : List Char) : Links :=
  ⟨insertEntry anchor url links.entries⟩

/-- The links without an anchor. -/
def erase (links : Links) (anchor : List Char) : Links :=
  ⟨links.entries.filter (·.1 ≠ anchor)⟩

/-- The links of a list of pairs, of which later ones replace earlier ones. -/
def ofList (pairs : List (List Char × List Char)) : Links :=
  pairs.foldl (fun links pair => links.insert pair.1 pair.2) {}

theorem lookup_entry (anchor : List Char) (entry : List Char × List Char)
    (rest : List (List Char × List Char)) :
    (entry :: rest).lookup anchor =
      if anchor = entry.1 then some entry.2 else rest.lookup anchor := by
  rw [List.lookup_cons]
  by_cases h : anchor = entry.1
  · simp [h]
  · simp [h, beq_false_of_ne h]

theorem lookup_insertEntry (anchor url other : List Char)
    (entries : List (List Char × List Char)) :
    (insertEntry anchor url entries).lookup other =
      if other = anchor then some url else entries.lookup other := by
  induction entries with
  | nil => rw [insertEntry, lookup_entry]
  | cons entry rest ih =>
    rw [insertEntry, lookup_entry]
    by_cases ha : entry.1 = anchor
    · rw [if_pos ha, lookup_entry, ha]
      by_cases h : other = anchor <;> simp [h]
    · rw [if_neg ha, lookup_entry, ih]
      by_cases h : other = entry.1
      · simp [h, ha]
      · simp [h]

theorem get?_insert (links : Links) (anchor url other : List Char) :
    (links.insert anchor url).get? other =
      if other = anchor then some url else links.get? other :=
  lookup_insertEntry anchor url other links.entries

end Links

end BoardDiagram
