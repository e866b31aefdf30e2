import BoardDiagram.CommandLine.Options
import BoardDiagram.Proofs.Results

/-! Options that only ask to be told more.  In front of other arguments they change nothing of the
request but what is told: the rest of the arguments is read without regard to them. -/

namespace BoardDiagram.CommandLine

namespace Progress

variable (progress : Progress) (links verbose : Bool)

/-- The same with more to be told. -/
def telling : Progress :=
  { progress with
    links := progress.links || links
    verbose := progress.verbose || verbose }

theorem telling_set (flag : Flag) (value : List Char) :
    (progress.telling links verbose).set flag value =
      (progress.set flag value).telling links verbose := by
  cases flag <;> simp [set, telling]

theorem telling_reject (arg : List Char) : (progress.telling links verbose).reject arg =
    (progress.reject arg).telling links verbose := rfl

theorem telling_word (text : List Char) : (progress.telling links verbose).word text =
    (progress.word text).telling links verbose := by
  obtain ⟨input⟩ := progress
  cases input <;> rfl

theorem cluster_telling (flag : Flag) (rest : List Char) :
    cluster (progress.telling links verbose) flag rest =
      (cluster progress flag rest).map fun found => (found.1.telling links verbose, found.2) := by
  induction rest generalizing progress flag with
  | nil =>
    rw [cluster, cluster, telling_set]
    split <;> rfl
  | cons c rest ih =>
    rw [cluster, cluster, telling_set, telling_set]
    split
    · rfl
    · split
      · exact ih _ _
      · rfl

theorem option_telling (flag : Flag) (isShort : Bool) (value : Option (List Char)) :
    (progress.telling links verbose).option flag isShort value =
      (progress.option flag isShort value).map fun found =>
        (found.1.telling links verbose, found.2) := by
  unfold option
  split
  · exact cluster_telling progress links verbose flag []
  · rw [telling_set]
    split
    · rfl
    · split
      · exact cluster_telling progress links verbose flag _
      · rfl

end Progress

/-- What is to be told has no influence on how arguments are read. -/
theorem collect_telling (progress : Progress) (links verbose : Bool) (words : List Word) :
    collect (progress.telling links verbose) words =
      (collect progress words).map (·.telling links verbose) := by
  -- of all that has been read so far only the input decides how words are read
  have hinput (progress : Progress) :
      (progress.telling links verbose).input = progress.input := rfl
  have hhelp (progress : Progress) : (progress.telling links verbose).help = progress.help := rfl
  fun_induction collect progress words with
  | case1 progress => rfl
  | case2 progress text rest ih => rw [collect, Progress.telling_reject, ih]
  | case3 progress text rest hnone ih =>
    simp only [collect, hinput, hnone, Progress.telling_word, ih]
  | case4 progress text rest first hsome ih =>
    simp only [collect, hinput, hsome, Progress.telling_reject, ih]
  | case5 progress rest hlast ih =>
    rw [collect, Progress.telling_reject, ih]
    exact hlast
  | case6 progress text rest hnone ih =>
    simp only [collect, hinput, hnone, Progress.telling_word, ih]
  | case7 progress text rest first hsome ih =>
    simp only [collect, hinput, hsome, Progress.telling_reject, ih]
  | case8 progress text rest hnext ih =>
    rw [collect, Progress.telling_word, ih]
    exact hnext
  | case9 progress flag isShort value rest ihRest ihValue =>
    rw [collect, Progress.option_telling]
    cases progress.option flag isShort value with
    | error message => rfl
    | ok found =>
      obtain ⟨progress, flag⟩ := found
      cases flag with
      | none =>
        simp only [Except.map, bind, Except.bind, hhelp]
        split
        · rfl
        · exact ihRest progress
      | some flag =>
        have ihValue := ihValue progress flag
        simp only [Except.map, bind, Except.bind, hhelp]
        split
        · split
          · rfl
          · rw [Progress.telling_set]
            exact ihValue
        · rfl

namespace Options

/-- The same request with more to be told. -/
def telling (options : Options) (links verbose : Bool) : Options :=
  { options with
    links := options.links || links
    verbose := options.verbose || verbose }

theorem ofArgs_cons {arg : List Char} {links verbose : Bool} {flag : Flag} {isShort : Bool}
    (hdash : ∀ args, CommandLine.scan (arg :: args) =
      (do return (← dashed arg) :: (← CommandLine.scan args)))
    (hword : dashed arg = .ok (.option flag isShort none))
    (hset : Progress.option {} flag isShort none =
      .ok (Progress.telling {} links verbose, none)) (args : List (List Char)) :
    ofArgs (arg :: args) = (ofArgs args).map (Option.map (·.telling links verbose)) := by
  have hcollect (words : List Word) : collect {} (.option flag isShort none :: words) =
      (collect {} words).map (·.telling links verbose) := by
    rw [collect, hset, ← collect_telling]
    rfl
  unfold ofArgs
  rw [hdash, hword]
  cases CommandLine.scan args with
  | error message => rfl
  | ok words =>
    simp only [bind, Except.bind, pure, Except.pure, hcollect]
    cases collect {} words with
    | error message => rfl
    | ok progress =>
      obtain ⟨input, output, font, _, _, help, extra⟩ := progress
      cases help with
      | true => rfl
      | false =>
        cases input with
        | none => rfl
        | some input => cases extra <;> rfl

/-- The arguments that only ask for more to be told, with what they ask for: the links, or
everything. -/
def tellers : List (List Char × Bool × Bool) := [
  ("--links".toList, true, false),
  ("-v".toList, false, true),
  ("--verbose".toList, false, true)]

/-- Such an argument in front of others adds to their request, if they make one. -/
theorem ofArgs_teller {teller : List Char × Bool × Bool} (h : teller ∈ tellers)
    (args : List (List Char)) : ofArgs (teller.1 :: args) =
      (ofArgs args).map (Option.map (·.telling teller.2.1 teller.2.2)) := by
  simp only [tellers, List.mem_cons, List.not_mem_nil, or_false] at h
  obtain rfl | rfl | rfl := h
  all_goals exact ofArgs_cons (fun _ => rfl) rfl rfl args

end Options

end BoardDiagram.CommandLine
