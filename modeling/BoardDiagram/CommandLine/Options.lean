import BoardDiagram.Text.DecimalDigit
import BoardDiagram.Text.Quoted

/-! The arguments of the command line.  An argument is a plain word, an option with or without a
value in the same argument, or the mark after which every argument is a plain word. -/

namespace BoardDiagram.CommandLine

inductive Flag where
  | help
  | output
  | font
  | links
  | verbose
  deriving DecidableEq

namespace Flag

def takesValue : Flag → Bool
  | .output | .font => true
  | _ => false

def names : List (List Char × Flag) := [
  ("-h".toList, .help), ("--help".toList, .help),
  ("-o".toList, .output), ("--output".toList, .output),
  ("--font".toList, .font),
  ("--links".toList, .links),
  ("-v".toList, .verbose), ("--verbose".toList, .verbose)]

def named? (name : List Char) : Option Flag :=
  names.lookup name

def title (flag : Flag) : List Char :=
  ['/'].intercalate ((names.filter (·.2 = flag)).map Prod.fst)

end Flag

/-- An argument by itself. -/
inductive Word where
  | plain (text : List Char)
  /-- An option, by a name of one letter after a single dash or by a longer one, with a value if one
  is in the same argument. -/
  | option (flag : Flag) (isShort : Bool) (value : Option (List Char))
  /-- Something that looks like an option and is none. -/
  | stray (text : List Char)
  /-- The mark after which every argument is a plain word. -/
  | separator
  deriving DecidableEq

/-- What stands before and after the first equals sign. -/
def splitAtSign? (s : List Char) : Option (List Char × List Char) :=
  match s.dropWhile (· ≠ '=') with
  | _ :: value => some (s.takeWhile (· ≠ '='), value)
  | [] => none

/-- A name has one dash. -/
def isShortName (name : List Char) : Bool :=
  match name with
  | '-' :: '-' :: _ => false
  | _ => true

/-- A negative number, which is no option. -/
def isNegativeNumber (s : List Char) : Bool :=
  match s with
  | '-' :: rest =>
    let rest := if rest.getLast? = some '\n' then rest.dropLast else rest
    let whole := rest.takeWhile Text.isDecimalDigit
    match rest.dropWhile Text.isDecimalDigit with
    | [] => !whole.isEmpty
    | '.' :: decimals => !decimals.isEmpty && decimals.all Text.isDecimalDigit
    | _ => false
  | _ => false

/-- The readings of an argument as an abbreviated long option, or as a short one with its value. -/
def readings (s : List Char) : List (List Char × Flag × Option (List Char)) :=
  match s with
  | '-' :: '-' :: _ =>
    let name := s.takeWhile (· ≠ '=')
    let value := (splitAtSign? s).map Prod.snd
    (Flag.names.filter fun entry => name.isPrefixOf entry.1).map fun entry =>
      (entry.1, entry.2, value)
  | '-' :: c :: value =>
    (Flag.names.filter fun entry => entry.1 = ['-', c]).map fun entry =>
      (entry.1, entry.2, some value)
  | _ => []

/-- An argument that starts with a dash and is longer, as an option.  It is a plain word if it reads
as a negative number or holds a space. -/
def dashed (s : List Char) : Except (List Char) Word :=
  match Flag.named? s with
  | some flag => .ok (.option flag (isShortName s) none)
  | none =>
    let exact := (splitAtSign? s).bind fun (name, value) =>
      (Flag.named? name).map fun flag => Word.option flag (isShortName name) (some value)
    match exact with
    | some word => .ok word
    | none =>
      match readings s with
      | [(name, flag, value)] => .ok (.option flag (isShortName name) value)
      | [] => .ok (if isNegativeNumber s || s.contains ' ' then .plain s else .stray s)
      | several => .error ("ambiguous option: ".toList ++ s ++ " could match ".toList ++
          ", ".toList.intercalate (several.map Prod.fst))

/-- Arguments one by one, or the report of one that may be several options. -/
def scan : List (List Char) → Except (List Char) (List Word)
  | [] => .ok []
  | arg :: rest =>
    match arg with
    | ['-', '-'] => .ok (.separator :: rest.map .plain)
    | '-' :: _ :: _ => do
      let word ← dashed arg
      let words ← scan rest
      return word :: words
    | _ => do
      let words ← scan rest
      return .plain arg :: words

/-- What a run is asked to do. -/
structure Options where
  /-- The file to read, or a dash for the standard input. -/
  input : List Char
  output : Option (List Char) := none
  /-- The specification of a character cell. -/
  font : Option (List Char) := some "h=16,w=8".toList
  /-- The title and the links are told. -/
  links : Bool := false
  /-- Everything worth telling is told. -/
  verbose : Bool := false
  deriving DecidableEq

/-- Options as far as arguments have been looked at. -/
structure Progress where
  input : Option (List Char) := none
  output : Option (List Char) := none
  font : Option (List Char) := some "h=16,w=8".toList
  links : Bool := false
  verbose : Bool := false
  help : Bool := false
  /-- Arguments that mean nothing. -/
  extra : List (List Char) := []

namespace Progress

/-- The value that a text gives to an option.  Two dashes give none. -/
def valueOf (text : List Char) : Option (List Char) :=
  if text = ['-', '-'] then none else some text

def set (progress : Progress) (flag : Flag) (value : List Char) : Progress :=
  match flag with
  | .help => { progress with help := true }
  | .output => { progress with output := valueOf value }
  | .font => { progress with font := valueOf value }
  | .links => { progress with links := true }
  | .verbose => { progress with verbose := true }

def reject (progress : Progress) (arg : List Char) : Progress :=
  { progress with extra := progress.extra ++ [arg] }

/-- A plain word: the first is the input, and others mean nothing. -/
def word (progress : Progress) (text : List Char) : Progress :=
  match progress.input with
  | none => { progress with input := some text }
  | some _ => progress.reject text

end Progress

/-- The report of an option that takes no value and has one. -/
def ignoredValue (flag : Flag) (value : List Char) : List Char :=
  "argument ".toList ++ flag.title ++ ": ignored explicit argument ".toList ++ Text.quoted value

/-- Options in one argument behind a single dash, of which one has been read.  The first that takes
a value has the rest of the argument, if there is a rest; the flag that is returned still needs one.
What follows another option is the letter of the next. -/
def cluster (progress : Progress) (flag : Flag) :
    List Char → Except (List Char) (Progress × Option Flag)
  | [] => .ok (if flag.takesValue then (progress, some flag) else (progress.set flag [], none))
  | c :: rest =>
    if flag.takesValue then .ok (progress.set flag (c :: rest), none)
    else
      match Flag.named? ['-', c] with
      | some next => cluster (progress.set flag []) next rest
      | none => .error (ignoredValue flag (c :: rest))

/-- An option with what stands in the same argument.  The flag that is returned still needs a value,
and stands in the next argument. -/
def Progress.option (progress : Progress) (flag : Flag) (isShort : Bool)
    (value : Option (List Char)) : Except (List Char) (Progress × Option Flag) :=
  match value with
  | none => cluster progress flag []
  | some value =>
    if flag.takesValue then .ok (progress.set flag value, none)
    else if isShort && !value.isEmpty then cluster progress flag value
    else .error (ignoredValue flag value)

/-- The options of arguments.  Asking for help ends everything. -/
def collect (progress : Progress) : List Word → Except (List Char) Progress
  | [] => .ok progress
  | .stray text :: rest => collect (progress.reject text) rest
  | .separator :: .plain text :: rest =>
    match progress.input with
    | none => collect (progress.word text) rest
    | some _ => collect ((progress.reject ['-', '-']).reject text) rest
  | .separator :: rest => collect (progress.reject ['-', '-']) rest
  | .plain text :: .separator :: rest =>
    match progress.input with
    | none => collect (progress.word text) rest
    | some _ => collect ((progress.reject text).reject ['-', '-']) rest
  | .plain text :: rest => collect (progress.word text) rest
  | .option flag isShort value :: rest => do
    match ← progress.option flag isShort value with
    | (progress, none) => if progress.help then .ok progress else collect progress rest
    | (progress, some flag) =>
      match rest with
      | .plain text :: rest =>
        if progress.help then .ok progress else collect (progress.set flag text) rest
      | _ => .error ("argument ".toList ++ flag.title ++ ": expected one argument".toList)

/-- The request of a command line, with `none` for a request for help. -/
def Options.ofArgs (args : List (List Char)) : Except (List Char) (Option Options) := do
  let words ← scan args
  let progress ← collect {} words
  if progress.help then return none
  match progress.input with
  | none => .error "the following arguments are required: input".toList
  | some input =>
    if progress.extra.isEmpty then
      return some {
        input
        output := progress.output
        font := progress.font
        links := progress.links
        verbose := progress.verbose }
    else
      .error ("unrecognized arguments: ".toList ++ [' '].intercalate progress.extra)

end BoardDiagram.CommandLine
