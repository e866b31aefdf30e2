import BoardDiagram.CommandLine.Files
import BoardDiagram.CommandLine.Options
import BoardDiagram.Notice

/-! A run of the program as a function: from its arguments, its standard input and the files around
it to how it ends and the files after it. -/

namespace BoardDiagram.CommandLine

/-- A text with the line feed as its only line break. -/
def unifyLineBreaks : List Char → List Char
  | '\r' :: '\n' :: rest => '\n' :: unifyLineBreaks rest
  | '\r' :: rest => '\n' :: unifyLineBreaks rest
  | c :: rest => c :: unifyLineBreaks rest
  | [] => []

/-- What becomes of the line breaks of a text that is read. -/
inductive LineBreaks where
  | kept
  /-- All of them become line feeds. -/
  | unified
  deriving DecidableEq

def LineBreaks.read : LineBreaks → List Char → List Char
  | .kept, text => text
  | .unified, text => unifyLineBreaks text

/-- What a finished run leaves behind. -/
structure Result where
  status : Nat
  stdout : List Char := []
  stderr : List Char := []
  /-- A file that is written, with its path and its text. -/
  file : Option (Path × List Char) := none
  deriving DecidableEq

/-- How a run ends. -/
inductive Outcome where
  | help
  /-- The run was not asked for anything that can be done. -/
  | usage (message : List Char)
  | fault (fault : Fault)
  | finished (result : Result)
  deriving DecidableEq

/-- How the program is used. -/
def usageLine : List Char :=
  "usage: board-diagram [-h] [-o OUTPUT] [--font SPEC] [--links] [-v] input\n".toList

namespace Outcome

/-- The status with which the program ends. -/
def status : Outcome → Nat
  | .help => 0
  | .usage _ => 2
  | .fault _ => 1
  | .finished result => result.status

def stdout : Outcome → List Char
  | .help => usageLine
  | .finished result => result.stdout
  | _ => []

def stderr : Outcome → List Char
  | .help => []
  | .usage message => usageLine ++ "board-diagram: error: ".toList ++ message ++ ['\n']
  | .fault cause => cause.message ++ ['\n']
  | .finished result => result.stderr

/-- A file that is written, with its path and its text. -/
def file : Outcome → Option (Path × List Char)
  | .finished result => result.file
  | _ => none

end Outcome

inductive Source where
  | stdin
  | file (path : Path)
  deriving DecidableEq

/-- A request that can be carried out once its source has been read. -/
structure Job where
  options : Options
  font : Font

namespace Job

/-- The job of a command line, or how the run ends without one. -/
def ofArgs (args : List (List Char)) : Except Outcome Job :=
  match Options.ofArgs args with
  | .error message => .error (.usage message)
  | .ok none => .error .help
  | .ok (some options) =>
    match options.font.map Font.ofSpec with
    | none => .error (.fault .noSpecification)
    | some (.error fault) =>
      .error (.usage ("Invalid font specification: ".toList ++ fault.message))
    | some (.ok font) => .ok { options, font }

def source (job : Job) : Source :=
  if job.options.input = ['-'] then .stdin else .file (.ofText job.options.input)

/-- Lines, each with a line break at its end. -/
def unlines (lines : List (List Char)) : List Char :=
  lines.flatMap (· ++ ['\n'])

/-- What a run tells beside the document: notices, the title and the links if they are asked for,
and a failure. -/
def messages (job : Job) (diagram : Diagram) : List (List Char) :=
  let notices :=
    if job.options.verbose then diagram.notices else diagram.notices.filter Notice.isWarning
  let links :=
    if job.options.links then
      ("Title: ".toList ++ diagram.title) ::
        diagram.links.entries.map fun entry =>
          "  [".toList ++ entry.1 ++ "] ".toList ++ entry.2
    else []
  let failure := if diagram.isValid then [] else [diagram.failureMessage]
  notices.map Notice.line ++ links ++ failure

/-- What a run leaves behind for a diagram and its document. -/
def deliver (job : Job) (diagram : Diagram) (document : List Char) : Result :=
  let result : Result := {
    status := if diagram.isValid then 0 else 1
    stderr := unlines (job.messages diagram) }
  match job.options.output with
  | some (c :: path) => { result with file := some (.ofText (c :: path), document) }
  | _ => { result with stdout := document }

/-- The end of a run that has read a text. -/
def finish (job : Job) (text : List Char) : Outcome :=
  match Diagram.ofText text job.font with
  | .error fault => .fault fault
  | .ok diagram =>
    match diagram.picture with
    | .error fault => .fault fault
    | .ok picture => .finished (job.deliver diagram picture.xml)

/-- The end of a run whose source has these bytes, or does not exist. -/
def finishBytes (job : Job) (breaks : LineBreaks) : Option ByteArray → Outcome
  | some bytes =>
    match String.fromUTF8? bytes with
    | some text => job.finish (breaks.read text.toList)
    | none => .fault .notText
  | none => .usage ("Diagram file not found: ".toList ++ (Path.ofText job.options.input).text)

end Job

/-- The bytes of a source, if it exists. -/
def Source.bytes (source : Source) (stdin : ByteArray) (files : Files) :
    Except PathError (Option ByteArray) :=
  match source with
  | .stdin => .ok (some stdin)
  | .file path => files.read path

/-- What becomes of the line breaks of a source.  Those of a file are unified; the standard input is
a stream that was opened before the run, so it is given what becomes of its own. -/
def Source.lineBreaks (source : Source) (stdin : LineBreaks) : LineBreaks :=
  match source with
  | .stdin => stdin
  | .file _ => .unified

/-- The end of a run, and the files after it.  A document that cannot be written leaves no file
behind. -/
def Outcome.store (files : Files) : Outcome → Outcome × Files
  | .finished result =>
    match result.file with
    | none => (.finished result, files)
    | some (path, text) =>
      match files.write path (String.ofList text).toUTF8 with
      | .ok after => (.finished result, after)
      | .error cause => (.fault (.path cause), files)
  | outcome => (outcome, files)

/-- A run with the bytes of its standard input among files: how it ends, and the files after it.
The stream of the standard input may keep its line breaks or unify them. -/
def run (args : List (List Char)) (stdin : ByteArray) (files : Files)
    (stdinBreaks : LineBreaks := .unified) : Outcome × Files :=
  match Job.ofArgs args with
  | .error outcome => (outcome, files)
  | .ok job =>
    match job.source.bytes stdin files with
    | .error cause => (.fault (.path cause), files)
    | .ok bytes => (job.finishBytes (job.source.lineBreaks stdinBreaks) bytes).store files

end BoardDiagram.CommandLine
