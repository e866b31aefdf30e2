import BoardDiagram.CommandLine.Run
import BoardDiagram.Proofs.Addresses
import BoardDiagram.Proofs.Arguments

/-! How runs end.  A run computes its document before it writes anything, so one that fails leaves
all files as they were; a run that does not fail delivers its document to one place, the file that
was asked for or the standard output, whether the diagram is valid or not.  What it is asked to tell
beside the document makes no difference to this, and neither does where its text comes from.  The
same bytes can be different texts, though: a file always has its line breaks unified, and the
standard input need not. -/

namespace BoardDiagram.CommandLine

/-! ### Texts -/

theorem unifyLineBreaks_of_not_mem {text : List Char} (h : '\r' ∉ text) :
    unifyLineBreaks text = text := by
  fun_induction unifyLineBreaks text with
  | case1 => exact absurd List.mem_cons_self h
  | case2 => exact absurd List.mem_cons_self h
  | case3 c rest _ _ ih => rw [ih fun hrest => h (List.mem_cons_of_mem c hrest)]
  | case4 => rfl

/-- Without carriage returns there is nothing to unify. -/
theorem LineBreaks.read_of_not_mem (breaks : LineBreaks) {text : List Char} (h : '\r' ∉ text) :
    breaks.read text = text := by
  cases breaks with
  | kept => rfl
  | unified => exact unifyLineBreaks_of_not_mem h

/-! ### Files -/

namespace Files

variable {files : Files} {path : Path}

theorem get?_put (files : Files) (way other : List Name) (bytes : ByteArray) :
    (files.put way bytes).get? other = if other = way then some bytes else files.get? other := by
  rw [get?, put, List.lookup_append, lookup_filter_ne, get?]
  by_cases hother : other = way
  · simp [hother]
  · have hne : (other == way) = false := beq_false_of_ne hother
    simp [hother, hne, List.lookup_cons]

theorem exists_of_walk {names : List Name} {folder : Option (List Name)} {way : List Name}
    (h : walk files folder names = .ok (.file way)) : ∃ bytes, files.get? way = some bytes := by
  fun_induction walk files folder names with
  | case3 folder rest hname ih => exact ih h
  | case6 name rest hname hup folder way hfolder ih => exact ih h
  | case7 name rest hname hup folder way hfolder hsome hlast =>
    rw [Except.ok.injEq, Place.file.injEq] at h
    rw [← h]
    exact Option.isSome_iff_exists.mp hsome
  | _ => cases h

/-- The file that a path leads to, or that can be made there. -/
def target? (files : Files) (path : Path) : Option (List Name) :=
  match files.locate path with
  | .ok (.file way) | .ok (.vacant way) => some way
  | _ => none

/-- A path leads to a place where a file can be written. -/
def CanWrite (files : Files) (path : Path) : Prop :=
  ∃ place, files.locate path = .ok place ∧ place ≠ .folder

/-- Bytes that are written are found where the path leads, and all other files are as before. -/
theorem exists_write (h : files.CanWrite path) (bytes : ByteArray) :
    ∃ after, files.write path bytes = .ok after ∧ ∀ way, after.get? way =
      if files.target? path = some way then some bytes else files.get? way := by
  obtain ⟨place, hplace, hfolder⟩ := h
  rw [write, target?, hplace]
  cases place with
  | folder => contradiction
  | file way =>
    refine ⟨files.put way bytes, rfl, fun other => ?_⟩
    simp only [get?_put, Option.some.injEq, eq_comm]
  | vacant way =>
    refine ⟨files.put way bytes, rfl, fun other => ?_⟩
    simp only [get?_put, Option.some.injEq, eq_comm]
  | beyond => exact ⟨files, rfl, fun other => rfl⟩

end Files

/-! ### Requests -/

namespace Options

/-- The file that the document is to be written to; without one it goes to the standard output. -/
def destination? (options : Options) : Option Path :=
  match options.output with
  | some (c :: path) => some (.ofText (c :: path))
  | _ => none

/-- A file is named that is to be read. -/
def NamesFile (options : Options) (files : Files) : Prop :=
  ∃ way, files.locate (.ofText options.input) = .ok (.file way)

/-- A path is named that is too long to be looked up. -/
def NamesTooLong (options : Options) (files : Files) : Prop :=
  files.locate (.ofText options.input) = .error .tooLong

/-- The bytes to be read: those of the standard input for a dash, or those of a file. -/
def bytes? (options : Options) (stdin : ByteArray) (files : Files) : Option ByteArray :=
  if options.input = ['-'] then some stdin
  else
    match files.locate (.ofText options.input) with
    | .ok (.file way) => files.get? way
    | _ => none

/-- What becomes of the line breaks that are read, given what becomes of those of the standard
input. -/
def lineBreaks (options : Options) (stdinBreaks : LineBreaks) : LineBreaks :=
  if options.input = ['-'] then stdinBreaks else .unified

/-- The text that is read, if there are bytes to read and they are a text. -/
def text? (options : Options) (stdinBreaks : LineBreaks) (stdin : ByteArray) (files : Files) :
    Option (List Char) :=
  (options.bytes? stdin files).bind fun bytes =>
    (String.fromUTF8? bytes).map fun text => (options.lineBreaks stdinBreaks).read text.toList

theorem text?_eq_some {options : Options} {stdinBreaks : LineBreaks} {stdin : ByteArray}
    {files : Files} {text : List Char} : options.text? stdinBreaks stdin files = some text ↔
      ∃ bytes, options.bytes? stdin files = some bytes ∧
        ∃ decoded, String.fromUTF8? bytes = some decoded ∧
          (options.lineBreaks stdinBreaks).read decoded.toList = text := by
  simp only [text?, Option.bind_eq_some_iff, Option.map_eq_some_iff]

/-- The same bytes are the same text, wherever they come from, unless they hold carriage returns
that the standard input keeps. -/
theorem text?_eq_of_bytes {options : Options} {input : List Char} {stdinBreaks : LineBreaks}
    {stdin stdin' : ByteArray} {files : Files} (hdash : options.input = ['-'])
    (hbytes : bytes? { options with input } stdin' files = some stdin)
    (hbreaks : stdinBreaks = .unified ∨
      ∀ text, String.fromUTF8? stdin = some text → '\r' ∉ text.toList) :
    text? { options with input } stdinBreaks stdin' files =
      options.text? stdinBreaks stdin files := by
  have hstdin : options.bytes? stdin files = some stdin := by
    rw [bytes?, if_pos hdash]
  rw [text?, text?, hbytes, hstdin, Option.bind_some, Option.bind_some, lineBreaks, lineBreaks,
    if_pos hdash]
  obtain rfl | hreturns := hbreaks
  · rw [ite_self]
  · refine Option.map_congr fun text htext => ?_
    rw [LineBreaks.read_of_not_mem _ (hreturns text htext),
      LineBreaks.read_of_not_mem _ (hreturns text htext)]

theorem exists_bytes {options : Options} {files : Files}
    (h : options.input = ['-'] ∨ options.NamesFile files) (stdin : ByteArray) :
    ∃ bytes, options.bytes? stdin files = some bytes ∧
      (bytes = stdin ∨ ∃ way, files.get? way = some bytes) := by
  rw [bytes?]
  split
  · exact ⟨stdin, rfl, .inl rfl⟩
  · rename_i hdash
    obtain ⟨way, hway⟩ := h.resolve_left hdash
    have hfile := hway
    rw [Files.locate] at hfile
    split at hfile
    · cases hfile
    split at hfile
    · cases hfile
    obtain ⟨bytes, hbytes⟩ := Files.exists_of_walk hfile
    exact ⟨bytes, by rw [hway]; exact hbytes, .inr ⟨way, hbytes⟩⟩

end Options

namespace Job

/-- The end of a job, and the files after it. -/
def run (job : Job) (stdinBreaks : LineBreaks) (stdin : ByteArray) (files : Files) :
    Outcome × Files :=
  match job.source.bytes stdin files with
  | .error cause => (.fault (.path cause), files)
  | .ok bytes => (job.finishBytes (job.source.lineBreaks stdinBreaks) bytes).store files

theorem lineBreaks_eq (job : Job) (stdinBreaks : LineBreaks) :
    job.source.lineBreaks stdinBreaks = job.options.lineBreaks stdinBreaks := by
  rw [source, Options.lineBreaks]
  split <;> rfl

theorem bytes_eq (job : Job) (stdin : ByteArray) (files : Files)
    (h : job.options.input = ['-'] ∨ ¬ job.options.NamesTooLong files) :
    job.source.bytes stdin files = .ok (job.options.bytes? stdin files) := by
  rw [source, Options.bytes?]
  split
  · rfl
  · rename_i hdash
    have hshort := h.resolve_left hdash
    rw [Options.NamesTooLong] at hshort
    rw [Source.bytes, Files.read]
    split
    · rename_i way hway
      rw [hway]
    · contradiction
    · rename_i hfile htooLong
      split
      · rename_i way hway
        exact absurd hway (hfile way)
      · rfl

theorem deliver_eq (job : Job) (diagram : Diagram) (document : List Char) :
    job.deliver diagram document = {
      status := if diagram.isValid then 0 else 1
      stdout := if job.options.destination?.isSome then [] else document
      stderr := unlines (job.messages diagram)
      file := job.options.destination?.map (·, document) } := by
  obtain ⟨⟨input, output, _, _, _⟩, font⟩ := job
  obtain _ | _ | ⟨c, path⟩ := output <;> rfl

end Job

/-- A job with a text to read ends as that text says. -/
theorem Job.run_of_text {job : Job} {stdinBreaks : LineBreaks} {stdin : ByteArray} {files : Files}
    {text : List Char} (h : job.options.text? stdinBreaks stdin files = some text) :
    job.run stdinBreaks stdin files = (job.finish text).store files := by
  obtain ⟨bytes, hbytes, decoded, hdecoded, rfl⟩ := Options.text?_eq_some.mp h
  -- there are bytes to read, so the path was looked up
  have hshort : job.options.input = ['-'] ∨ ¬ job.options.NamesTooLong files := by
    refine Decidable.or_iff_not_imp_left.mpr fun hfile htooLong => ?_
    rw [Options.NamesTooLong] at htooLong
    rw [Options.bytes?, if_neg hfile, htooLong] at hbytes
    cases hbytes
  rw [run, bytes_eq _ _ _ hshort, hbytes, lineBreaks_eq]
  simp only [finishBytes, hdecoded]

theorem run_eq {args : List (List Char)} {options : Options}
    (h : Options.ofArgs args = .ok (some options)) (stdinBreaks : LineBreaks) (stdin : ByteArray)
    (files : Files) : run args stdin files stdinBreaks =
      match options.font.map Font.ofSpec with
      | none => (.fault .noSpecification, files)
      | some (.error fault) =>
        (.usage ("Invalid font specification: ".toList ++ fault.message), files)
      | some (.ok font) => Job.run ⟨options, font⟩ stdinBreaks stdin files := by
  rw [run, Job.ofArgs, h]
  dsimp only
  cases options.font.map Font.ofSpec with
  | none => rfl
  | some result => cases result <;> rfl

theorem Job.ends_unread {job : Job} {files : Files} (hdash : job.options.input ≠ ['-'])
    (h : job.options.NamesTooLong files) (stdinBreaks : LineBreaks) (stdin : ByteArray) :
    job.run stdinBreaks stdin files = (.fault (.path .tooLong), files) := by
  rw [Options.NamesTooLong] at h
  rw [run, source, if_neg hdash, Source.bytes, Files.read, h]

theorem Outcome.store_eq (outcome : Outcome) (files : Files) : outcome.store files =
    match outcome.file with
    | none => (outcome, files)
    | some (path, text) =>
      match files.write path (String.ofList text).toUTF8 with
      | .ok after => (outcome, after)
      | .error cause => (.fault (.path cause), files) := by
  cases outcome <;> rfl

/-! ### Ends -/

/-- A run is refused: it ends with status two, without a document, and changes no file. -/
structure Refused (message : List Char) (files : Files) (last : Outcome × Files) : Prop where
  outcome : last.1 = .usage message
  status : last.1.status = 2
  stdout : last.1.stdout = []
  file : last.1.file = none
  kept : last.2 = files

/-- A run fails: it ends with a fault, without a document, and changes no file. -/
structure Failed (fault : Fault) (files : Files) (last : Outcome × Files) : Prop where
  outcome : last.1 = .fault fault
  stdout : last.1.stdout = []
  file : last.1.file = none
  kept : last.2 = files

/-- The document of a diagram goes to its destination and nowhere else. -/
structure Delivered (options : Options) (diagram : Diagram) (document : List Char) (files : Files)
    (last : Outcome × Files) : Prop where
  finished : ∃ result, last.1 = .finished result
  status : last.1.status = if diagram.isValid then 0 else 1
  stdout : last.1.stdout = if options.destination?.isSome then [] else document
  file : last.1.file = options.destination?.map (·, document)
  /-- What is written is found where the path leads; all other files are as they were. -/
  written : ∀ way, last.2.get? way =
    if options.destination?.bind files.target? = some way then
      some (String.ofList document).toUTF8
    else files.get? way
  kept : options.destination? = none → last.2 = files

theorem refused_usage (message : List Char) (files : Files) :
    Refused message files (.usage message, files) :=
  ⟨rfl, rfl, rfl, rfl, rfl⟩

theorem failed_fault (fault : Fault) (files : Files) : Failed fault files (.fault fault, files) :=
  ⟨rfl, rfl, rfl, rfl⟩

theorem delivered_store {job : Job} {files : Files}
    (hwritable : ∀ path ∈ job.options.destination?, files.CanWrite path) (diagram : Diagram)
    (document : List Char) : Delivered job.options diagram document files
      ((Outcome.finished (job.deliver diagram document)).store files) := by
  rw [Job.deliver_eq, Outcome.store_eq]
  simp only [Outcome.file]
  cases hdestination : job.options.destination? with
  | none =>
    refine ⟨⟨_, rfl⟩, rfl, by rw [hdestination]; rfl, by rw [hdestination]; rfl, ?_, fun _ => rfl⟩
    intro way
    rw [hdestination]
    rfl
  | some path =>
    obtain ⟨after, hafter, hget⟩ := Files.exists_write (hwritable path hdestination)
      (String.ofList document).toUTF8
    simp only [Option.map_some, hafter]
    refine ⟨⟨_, rfl⟩, rfl, by rw [hdestination]; rfl, by rw [hdestination]; rfl, ?_, ?_⟩
    · intro way
      rw [hdestination]
      exact hget way
    · intro hnone
      rw [hdestination] at hnone
      cases hnone

/-- How a run with given options ends. -/
structure Ends (options : Options) (stdinBreaks : LineBreaks) (stdin : ByteArray) (files : Files)
    (last : Outcome × Files) : Prop where
  badFont : ∀ spec fault, options.font = some spec → Font.ofSpec spec = .error fault →
    Refused ("Invalid font specification: ".toList ++ fault.message) files last
  noFile : ∀ spec font, options.font = some spec → Font.ofSpec spec = .ok font →
    options.input ≠ ['-'] → ¬ options.NamesFile files → ¬ options.NamesTooLong files →
      Refused ("Diagram file not found: ".toList ++ (Path.ofText options.input).text) files last
  readable : ∀ spec font, options.font = some spec → Font.ofSpec spec = .ok font →
    options.input = ['-'] ∨ options.NamesFile files →
      ∃ text, options.text? stdinBreaks stdin files = some text ∧
        (∀ fault, Diagram.ofText text font = .error fault → Failed fault files last) ∧
        ∀ diagram, Diagram.ofText text font = .ok diagram →
          (∀ fault, diagram.picture = .error fault → Failed fault files last) ∧
          ∀ picture, diagram.picture = .ok picture →
            Delivered options diagram picture.xml files last
  /-- A font that is given as two dashes is no specification at all, and not refused as a bad
  one. -/
  noFont : options.font = none → Failed .noSpecification files last
  /-- A path that is too long cannot be looked up, and is not refused as one without a file. -/
  tooLong : ∀ spec font, options.font = some spec → Font.ofSpec spec = .ok font →
    options.input ≠ ['-'] → options.NamesTooLong files → Failed (.path .tooLong) files last

section Run

variable {args : List (List Char)} {options : Options}
  (hargs : Options.ofArgs args = .ok (some options)) {stdin : ByteArray} {files : Files}
include hargs

theorem run_job {spec : List Char} {font : Font} (hspec : options.font = some spec)
    (hfont : Font.ofSpec spec = .ok font) (stdinBreaks : LineBreaks) (stdin : ByteArray)
    (files : Files) : run args stdin files stdinBreaks =
      Job.run ⟨options, font⟩ stdinBreaks stdin files := by
  rw [run_eq hargs, hspec, Option.map_some, hfont]

theorem run_ends_of_writable (stdinBreaks : LineBreaks)
    (hstdin : (String.fromUTF8? stdin).isSome = true)
    (hfiles : ∀ way bytes, files.get? way = some bytes → (String.fromUTF8? bytes).isSome = true)
    (hwritable : ∀ path ∈ options.destination?, files.CanWrite path) :
    Ends options stdinBreaks stdin files (run args stdin files stdinBreaks) := by
  constructor
  case badFont =>
    intro spec fault hspec hfont
    rw [run_eq hargs, hspec, Option.map_some, hfont]
    exact refused_usage _ files
  case noFile =>
    intro spec font hspec hfont hdash hnone hshort
    have hbytes : options.bytes? stdin files = none := by
      rw [Options.bytes?, if_neg hdash]
      split
      · rename_i way hway
        exact absurd ⟨way, hway⟩ hnone
      · rfl
    rw [run_job hargs hspec hfont, Job.run, Job.bytes_eq _ _ _ (.inr hshort), hbytes]
    exact refused_usage _ files
  case readable =>
    intro spec font hspec hfont hsource
    obtain ⟨bytes, hbytes, horigin⟩ := Options.exists_bytes hsource stdin
    -- wherever the bytes come from, they are a text
    have hvalid : (String.fromUTF8? bytes).isSome = true := by
      obtain rfl | ⟨way, hway⟩ := horigin
      · exact hstdin
      · exact hfiles way bytes hway
    obtain ⟨decoded, hdecoded⟩ := Option.isSome_iff_exists.mp hvalid
    obtain ⟨text, htext⟩ : ∃ text, options.text? stdinBreaks stdin files = some text :=
      ⟨_, Options.text?_eq_some.mpr ⟨bytes, hbytes, decoded, hdecoded, rfl⟩⟩
    have hrun := (run_job hargs hspec hfont stdinBreaks stdin files).trans
      (@Job.run_of_text ⟨options, font⟩ _ _ _ _ htext)
    refine ⟨text, htext, ?_, ?_⟩
    · intro fault hread
      rw [hrun, Job.finish, hread]
      exact failed_fault fault files
    · intro diagram hread
      constructor
      · intro fault hpicture
        simp only [hrun, Job.finish, hread, hpicture]
        exact failed_fault fault files
      · intro picture hpicture
        simp only [hrun, Job.finish, hread, hpicture]
        exact @delivered_store ⟨options, font⟩ files hwritable diagram picture.xml
  case noFont =>
    intro hspec
    rw [run_eq hargs, hspec]
    exact failed_fault _ files
  case tooLong =>
    intro spec font hspec hfont hdash htooLong
    rw [run_job hargs hspec hfont, Job.ends_unread hdash htooLong]
    exact failed_fault _ files

end Run

/-! ### What makes no difference -/

/-- Two runs deliver the same: they end with the same status, and leave the same document at the
same place.  They may tell different things beside it. -/
structure SameDelivery (a b : Outcome × Files) : Prop where
  status : a.1.status = b.1.status
  stdout : a.1.stdout = b.1.stdout
  file : a.1.file = b.1.file
  files : a.2 = b.2

theorem SameDelivery.refl (a : Outcome × Files) : SameDelivery a a :=
  ⟨rfl, rfl, rfl, rfl⟩

theorem SameDelivery.store {a b : Outcome} {files : Files}
    (h : SameDelivery (a, files) (b, files)) : SameDelivery (a.store files) (b.store files) := by
  rw [Outcome.store_eq, Outcome.store_eq, show a.file = b.file from h.file]
  cases hfile : b.file with
  | none => exact h
  | some target =>
    obtain ⟨path, text⟩ := target
    dsimp only
    cases files.write path (String.ofList text).toUTF8 with
    | ok after => exact ⟨h.status, h.stdout, h.file, rfl⟩
    | error cause => exact .refl _

theorem Job.sameDelivery_finish (options : Options) (font : Font) (links verbose : Bool)
    (text : List Char) (files : Files) :
    SameDelivery ((⟨{ options with links, verbose }, font⟩ : Job).finish text, files)
      ((⟨options, font⟩ : Job).finish text, files) := by
  cases hread : Diagram.ofText text font with
  | error fault =>
    simp only [finish, hread]
    exact .refl _
  | ok diagram =>
    cases hpicture : diagram.picture with
    | error fault =>
      simp only [finish, hread, hpicture]
      exact .refl _
    | ok picture =>
      simp only [finish, hread, hpicture, deliver_eq]
      exact ⟨rfl, rfl, rfl, rfl⟩

theorem Job.sameDelivery_finishBytes (options : Options) (font : Font) (links verbose : Bool)
    (breaks : LineBreaks) (bytes : Option ByteArray) (files : Files) :
    SameDelivery ((⟨{ options with links, verbose }, font⟩ : Job).finishBytes breaks bytes, files)
      ((⟨options, font⟩ : Job).finishBytes breaks bytes, files) := by
  cases bytes with
  | none => exact .refl _
  | some bytes =>
    cases htext : String.fromUTF8? bytes with
    | none =>
      simp only [finishBytes, htext]
      exact .refl _
    | some text =>
      simp only [finishBytes, htext]
      exact sameDelivery_finish options font links verbose _ files

section Run

variable {args args' : List (List Char)} {options : Options}
  (hargs : Options.ofArgs args = .ok (some options))
include hargs

theorem sameDelivery_run {links verbose : Bool}
    (hargs' : Options.ofArgs args' = .ok (some { options with links, verbose }))
    (stdinBreaks : LineBreaks) (stdin : ByteArray) (files : Files) :
    SameDelivery (run args' stdin files stdinBreaks) (run args stdin files stdinBreaks) := by
  rw [run_eq hargs', run_eq hargs]
  dsimp only
  split
  · exact .refl _
  · exact .refl _
  · rename_i font _
    have hsource : (⟨{ options with links, verbose }, font⟩ : Job).source =
        (⟨options, font⟩ : Job).source := rfl
    rw [Job.run, Job.run, hsource]
    split
    · exact .refl _
    · exact (Job.sameDelivery_finishBytes options font links verbose _ _ files).store

/-- Where a text comes from makes no difference. -/
theorem run_eq_of_text {input text : List Char} {stdinBreaks stdinBreaks' : LineBreaks}
    {stdin stdin' : ByteArray} {files : Files}
    (hargs' : Options.ofArgs args' = .ok (some { options with input }))
    (htext : options.text? stdinBreaks stdin files = some text)
    (htext' : Options.text? { options with input } stdinBreaks' stdin' files = some text) :
    run args' stdin' files stdinBreaks' = run args stdin files stdinBreaks := by
  rw [run_eq hargs', run_eq hargs]
  dsimp only
  split
  · rfl
  · rfl
  · rename_i font _
    rw [@Job.run_of_text ⟨options, font⟩ _ _ _ _ htext,
      @Job.run_of_text ⟨{ options with input }, font⟩ _ _ _ _ htext']
    rfl

/-- How a run ends whose arguments make a request.  Told more, it delivers the same document to the
same place; and the text that it reads can as well come from elsewhere.  The same bytes do for that,
unless they hold carriage returns and the standard input keeps its line breaks. -/
theorem run_ends (stdinBreaks : LineBreaks) (hstdin : (String.fromUTF8? stdin).isSome = true)
    (hfiles : ∀ way bytes, files.get? way = some bytes → (String.fromUTF8? bytes).isSome = true)
    (hwritable : ∀ path ∈ options.destination?, files.CanWrite path) :
    Ends options stdinBreaks stdin files (run args stdin files stdinBreaks) ∧
      (∀ teller ∈ Options.tellers,
        Options.ofArgs (teller.1 :: args) =
            .ok (some (options.telling teller.2.1 teller.2.2)) ∧
          SameDelivery (run (teller.1 :: args) stdin files stdinBreaks)
            (run args stdin files stdinBreaks)) ∧
      (∀ args' links verbose, Options.ofArgs args' = .ok (some { options with links, verbose }) →
        SameDelivery (run args' stdin files stdinBreaks) (run args stdin files stdinBreaks)) ∧
      (∀ args' input stdin' stdinBreaks' text,
        Options.ofArgs args' = .ok (some { options with input }) →
          options.text? stdinBreaks stdin files = some text →
            Options.text? { options with input } stdinBreaks' stdin' files = some text →
              run args' stdin' files stdinBreaks' = run args stdin files stdinBreaks) ∧
      ∀ args' input stdin', options.input = ['-'] →
        Options.ofArgs args' = .ok (some { options with input }) →
          Options.bytes? { options with input } stdin' files = some stdin →
            (stdinBreaks = .unified ∨
              ∀ text, String.fromUTF8? stdin = some text → '\r' ∉ text.toList) →
                run args' stdin' files stdinBreaks = run args stdin files stdinBreaks := by
  refine ⟨run_ends_of_writable hargs stdinBreaks hstdin hfiles hwritable, ?_, ?_, ?_, ?_⟩
  · intro teller hteller
    have htold : Options.ofArgs (teller.1 :: args) =
        .ok (some (options.telling teller.2.1 teller.2.2)) := by
      rw [Options.ofArgs_teller hteller, hargs]
      rfl
    exact ⟨htold, sameDelivery_run hargs htold stdinBreaks stdin files⟩
  · intro args' links verbose hargs'
    exact sameDelivery_run hargs hargs' stdinBreaks stdin files
  · intro args' input stdin' stdinBreaks' text hargs' htext htext'
    exact run_eq_of_text hargs hargs' htext htext'
  · intro args' input stdin' hdash hargs' hbytes hbreaks
    have hsame := Options.text?_eq_of_bytes hdash hbytes hbreaks
    obtain ⟨decoded, hdecoded⟩ := Option.isSome_iff_exists.mp hstdin
    obtain ⟨text, htext⟩ : ∃ text, options.text? stdinBreaks stdin files = some text :=
      ⟨_, Options.text?_eq_some.mpr ⟨stdin, by rw [Options.bytes?, if_pos hdash], decoded,
        hdecoded, rfl⟩⟩
    exact run_eq_of_text hargs hargs' htext (hsame.trans htext)

end Run

theorem fromUTF8?_toUTF8 (text : String) : String.fromUTF8? text.toUTF8 = some text := by
  rw [String.toUTF8_eq_toByteArray, String.fromUTF8?, dif_pos text.isValidUTF8]
  rfl

/-- A diagram on the standard input that is written to a file, and the same from another file. -/
theorem run_ends_corner :
    let corner := "$$ +---\n$$ | . X\n".toUTF8
    let files : Files := ⟨[([['d']], corner)]⟩
    let last := run ["-oo".toList, ['-']] corner files .kept
    Ends { input := ['-'], output := some ['o'] } .kept corner files last ∧
      last.1.status = 0 ∧ last.1.file.isSome ∧ (last.2.get? [['o']]).isSome ∧
      run ["-oo".toList, ['d']] .empty files .kept = last := by
  intro corner files last
  have hargs : Options.ofArgs ["-oo".toList, ['-']] =
      .ok (some { input := ['-'], output := some ['o'] }) :=
    toOption_eq_some.mp (by decide +kernel)
  have hargs' : Options.ofArgs ["-oo".toList, ['d']] =
      .ok (some { input := ['d'], output := some ['o'] }) :=
    toOption_eq_some.mp (by decide +kernel)
  have hcorner : String.fromUTF8? corner = some "$$ +---\n$$ | . X\n" := fromUTF8?_toUTF8 _
  have hreturns : ∀ text, String.fromUTF8? corner = some text → '\r' ∉ text.toList := by
    intro text htext
    rw [hcorner, Option.some_inj] at htext
    rw [← htext]
    decide
  have hfiles : ∀ way bytes, files.get? way = some bytes →
      (String.fromUTF8? bytes).isSome = true := by
    intro way bytes hbytes
    rw [Files.get?, List.lookup_cons] at hbytes
    split at hbytes
    · rw [← Option.some.inj hbytes, hcorner]
      rfl
    · cases hbytes
  have hwritable : ∀ path ∈ some (Path.ofText ['o']), files.CanWrite path := by
    intro path hpath
    rw [← Option.some.inj hpath]
    exact ⟨.vacant [['o']], by rfl, by decide⟩
  obtain ⟨hends, -, -, -, hsame⟩ :=
    run_ends hargs .kept (by rw [hcorner]; rfl) hfiles hwritable
  obtain ⟨hstatus, hfile, hwritten⟩ : last.1.status = 0 ∧ last.1.file.isSome ∧
      (last.2.get? [['o']]).isSome := by
    decide +kernel
  exact ⟨hends, hstatus, hfile, hwritten,
    hsame _ ['d'] .empty rfl hargs' (by rfl) (.inr hreturns)⟩

/-- A path that is too long, and a font that is given as two dashes, end in a fault: neither is
refused as a request that cannot be carried out.  And a carriage return ends a line in a file, but
not on a standard input that keeps its line breaks: the same bytes are a diagram in the one and none
on the other. -/
theorem not_refused_nor_alike :
    let long := List.replicate 256 'n'
    let noFont := ["--font=--".toList, ['-']]
    let returned := "$$\r$$ . X".toUTF8
    (Options.ofArgs [long]).toOption = some (some { input := long }) ∧
      (run [long] .empty {} .kept).1 = .fault (.path .tooLong) ∧
      (Options.ofArgs noFont).toOption = some (some { input := ['-'], font := none }) ∧
      (run noFont .empty {} .kept).1 = .fault .noSpecification ∧
      (run [['d']] .empty ⟨[([['d']], returned)]⟩ .kept).1.status = 0 ∧
      (run [['-']] returned ⟨[([['d']], returned)]⟩ .kept).1.status = 1 := by
  decide +kernel

end BoardDiagram.CommandLine
