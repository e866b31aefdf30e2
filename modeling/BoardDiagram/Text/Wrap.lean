import BoardDiagram.Text.Blank
import BoardDiagram.Text.WordChar

/-! Text filled into lines of limited width.  A text is cut into chunks, which are runs of spaces,
words, parts of hyphenated words, and dashes between words; the chunks are then laid into lines one
after the other.  `flatten_chunks` says that cutting loses nothing, and `weight_takeLine` that each
line uses up some of the chunks. -/

namespace BoardDiagram.Text.Wrap

/-! ### Levelling -/

/-- `s` with each tab replaced by the spaces up to the next multiple of eight columns, where
`column` is the column that `s` starts in. -/
def expandTabs (column : Nat) : List Char → List Char
  | [] => []
  | c :: rest =>
    if c = '\t' then
      let step := 8 - column % 8
      List.replicate step ' ' ++ expandTabs (column + step) rest
    else c :: expandTabs (if c = '\n' || c = '\r' then 0 else column + 1) rest

/-- The characters that become spaces before a text is filled. -/
def isSpacing (c : Char) : Bool :=
  c = ' ' || (0x9 ≤ c.toNat && c.toNat ≤ 0xd)

/-- `s` with the space as the only spacing. -/
def levelled (s : List Char) : List Char :=
  (expandTabs 0 s).map fun c => if isSpacing c then ' ' else c

/-! ### Chunks

The characters before a place are given in reverse, nearest first. -/

/-- A character after which a dash may stand. -/
def isWordMark (c : Char) : Bool :=
  isWordChar c || ['!', '"', '\x27', '&', '.', ',', '?'].contains c

/-- Two or more hyphens follow, between a word mark and a word. -/
def dashFollows (before rest : List Char) : Bool :=
  match before, rest.dropWhile (· = '-') with
  | b :: _, a :: _ =>
    isWordMark b && 2 ≤ (rest.takeWhile (· = '-')).length && isWordChar a
  | _, _ => false

/-- Two letters, or two letters with a hyphen between them, stand right before. -/
def lettersBefore : List Char → Bool
  | a :: b :: rest =>
    isWordLetter a && (isWordLetter b || b = '-' && match rest with
      | c :: _ => isWordLetter c
      | [] => false)
  | _ => false

/-- Two letters, or two letters with a hyphen between them, follow. -/
def lettersAfter (rest : List Char) : Bool :=
  lettersBefore rest

/-- A hyphen follows after which the word may be cut. -/
def hyphenFollows (before : List Char) : List Char → Bool
  | '-' :: rest => lettersBefore before && lettersAfter rest
  | _ => false

/-- The word ends here: at the end, at a space, or at a dash. -/
def wordEnds (before rest : List Char) : Bool :=
  match rest with
  | [] => true
  | c :: _ => c = ' ' || dashFollows before rest

/-- The length of the word, or of its first part with the hyphen, at the start of a text. -/
def wordLength (before : List Char) : List Char → Nat
  | [] => 0
  | c :: rest =>
    if hyphenFollows (c :: before) rest then 2
    else if wordEnds (c :: before) rest then 1
    else wordLength (c :: before) rest + 1

theorem wordLength_pos (before : List Char) (c : Char) (rest : List Char) :
    0 < wordLength before (c :: rest) := by
  rw [wordLength]
  split
  · omega
  · split <;> omega

/-- The length of the chunk at the start of a text. -/
def chunkLength (before : List Char) : List Char → Nat
  | [] => 0
  | c :: rest =>
    if c = ' ' then (rest.takeWhile (· = ' ')).length + 1
    else if dashFollows before (c :: rest) then ((c :: rest).takeWhile (· = '-')).length
    else wordLength before (c :: rest)

theorem chunkLength_pos (before : List Char) (c : Char) (rest : List Char) :
    0 < chunkLength before (c :: rest) := by
  rw [chunkLength]
  split
  · omega
  · split
    · rename_i h
      unfold dashFollows at h
      split at h
      · simp only [Bool.and_eq_true, decide_eq_true_eq] at h
        omega
      · contradiction
    · exact wordLength_pos before c rest

/-- The chunks of a text that goes on after `before`. -/
def chunksAfter (before : List Char) : List Char → List (List Char)
  | [] => []
  | c :: rest =>
    let n := chunkLength before (c :: rest)
    (c :: rest).take n ::
      chunksAfter (((c :: rest).take n).reverse ++ before) ((c :: rest).drop n)
termination_by s => s.length
decreasing_by
  have := chunkLength_pos before c rest
  simp only [List.length_drop, List.length_cons]
  omega

/-- The chunks of a text. -/
def chunks (s : List Char) : List (List Char) :=
  chunksAfter [] s

theorem flatten_chunksAfter (before s : List Char) : (chunksAfter before s).flatten = s := by
  fun_induction chunksAfter before s with
  | case1 => rfl
  | case2 before c rest n ih => rw [List.flatten_cons, ih, List.take_append_drop]

theorem flatten_chunks (s : List Char) : (chunks s).flatten = s :=
  flatten_chunksAfter [] s

/-! ### Lines -/

/-- The chunks that fit into `room` characters, and those left over. -/
def fit (room : Nat) : List (List Char) → List (List Char) × List (List Char)
  | [] => ([], [])
  | chunk :: rest =>
    if chunk.length ≤ room then
      let (line, left) := fit (room - chunk.length) rest
      (chunk :: line, left)
    else ([], chunk :: rest)

/-- Where a chunk that no line can hold is cut when `room` characters are left: behind its last
hyphen within the room, if something other than hyphens stands before that, and else where the room
ends. -/
def breakPoint (room : Nat) (chunk : List Char) : Nat :=
  let hyphenated := ((chunk.take room).reverse.dropWhile (· ≠ '-')).reverse
  if hyphenated.any (· ≠ '-') then hyphenated.length else room

/-- The chunks of the next line, and those left over. -/
def takeLine (width : Nat) (chunks : List (List Char)) : List (List Char) × List (List Char) :=
  match fit width chunks with
  | (line, []) => (line, [])
  | (line, chunk :: rest) =>
    if width < chunk.length then
      let n := breakPoint (width - line.flatten.length) chunk
      (line ++ [chunk.take n], chunk.drop n :: rest)
    else (line, chunk :: rest)

/-- What is left to lay out, counted so that an empty chunk counts too. -/
def weight : List (List Char) → Nat
  | [] => 0
  | chunk :: rest => chunk.length + 1 + weight rest

@[simp] theorem weight_nil : weight [] = 0 := rfl

@[simp] theorem weight_cons (chunk : List Char) (rest : List (List Char)) :
    weight (chunk :: rest) = chunk.length + 1 + weight rest := rfl

theorem fit_append (room : Nat) (chunks : List (List Char)) :
    (fit room chunks).1 ++ (fit room chunks).2 = chunks := by
  induction chunks generalizing room with
  | nil => rfl
  | cons chunk rest ih =>
    rw [fit]
    split
    · simp [ih]
    · rfl

theorem weight_append (a b : List (List Char)) : weight (a ++ b) = weight a + weight b := by
  induction a with
  | nil => rw [List.nil_append, weight_nil, Nat.zero_add]
  | cons chunk a ih =>
    rw [List.cons_append, weight_cons, weight_cons, ih]
    omega

theorem breakPoint_pos {room : Nat} (chunk : List Char) (h : 0 < room) :
    0 < breakPoint room chunk := by
  unfold breakPoint
  dsimp only
  split
  · rename_i hany
    rw [List.any_eq_true] at hany
    obtain ⟨c, hc, _⟩ := hany
    exact List.length_pos_of_mem hc
  · exact h

theorem weight_takeLine {width : Nat} (h : 0 < width) {chunks : List (List Char)}
    (hne : chunks ≠ []) : weight (takeLine width chunks).2 < weight chunks := by
  have happ := fit_append width chunks
  unfold takeLine
  split
  · rename_i line hfit
    cases chunks with
    | nil => contradiction
    | cons c cs => rw [weight_nil, weight_cons]; omega
  · rename_i line chunk rest hfit
    rw [hfit] at happ
    have hw : weight chunks = weight line + (chunk.length + 1 + weight rest) := by
      rw [← happ]
      simp [weight_append]
    cases line with
    | nil =>
      split
      · rename_i hlong
        have hpos := breakPoint_pos chunk h
        simp only [List.flatten_nil, List.length_nil, Nat.sub_zero, weight_cons, List.length_drop]
        rw [hw, weight_nil]
        omega
      · rename_i hshort
        cases chunks with
        | nil => contradiction
        | cons c cs =>
          simp only [List.nil_append] at happ
          injection happ with hc hcs
          subst hc hcs
          rw [fit] at hfit
          split at hfit
          · simp at hfit
          · omega
    | cons c cs =>
      rw [weight_cons] at hw
      split
      · simp only [weight_cons, List.length_drop]
        omega
      · simp only [weight_cons]
        omega

/-- The chunks of a line without a blank one at the end. -/
def dropBlankEnd (line : List (List Char)) : List (List Char) :=
  match line.getLast? with
  | some chunk => if isBlankText chunk then line.dropLast else line
  | none => line

/-- The chunks without a blank one at the start. -/
def dropBlankStart : List (List Char) → List (List Char)
  | chunk :: rest => if isBlankText chunk then rest else chunk :: rest
  | [] => []

theorem weight_dropBlankStart (chunks : List (List Char)) :
    weight (dropBlankStart chunks) ≤ weight chunks := by
  unfold dropBlankStart
  split
  · split
    · rw [weight_cons]; omega
    · exact Nat.le_refl _
  · exact Nat.le_refl _

/-- The chunks laid into lines.  A blank chunk is dropped at the end of a line, and, once there is a
line, at the start of the next. -/
def fill (width : Nat) (h : 0 < width) (started : Bool) (chunks : List (List Char)) :
    List (List Char) :=
  let start := if started then dropBlankStart chunks else chunks
  if start = [] then []
  else
    let line := dropBlankEnd (takeLine width start).1
    let rest := (takeLine width start).2
    if line.isEmpty then fill width h started rest
    else line.flatten :: fill width h true rest
termination_by weight chunks
decreasing_by
  all_goals
    have hstart : weight start ≤ weight chunks := by
      show weight (if started then dropBlankStart chunks else chunks) ≤ weight chunks
      split
      · exact weight_dropBlankStart chunks
      · exact Nat.le_refl _
    exact Nat.lt_of_lt_of_le (weight_takeLine h ‹_›) hstart

/-- The lines of `s` at no more than `width` characters each. -/
def wrap (width : Nat) (h : 0 < width) (s : List Char) : List (List Char) :=
  fill width h false (chunks (levelled s))

end BoardDiagram.Text.Wrap
