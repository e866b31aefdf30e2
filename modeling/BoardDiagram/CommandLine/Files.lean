import BoardDiagram.Fault

/-! Paths, and the files of the folder in which the program runs.  `walk` follows a path name by
name, and so says which of several errors a path has: the one that comes first on the way. -/

namespace BoardDiagram.CommandLine

/-- The name of a file or a folder in the folder that holds it. -/
abbrev Name := List Char

/-- A path: what it starts from, and the names on the way. -/
structure Path where
  /-- The slashes at the start.  A path without them starts in the working folder. -/
  root : List Char
  names : List Name
  deriving DecidableEq

namespace Path

/-- The slashes that a path keeps at its start: one, or exactly two. -/
def rootOf : List Char → List Char
  | '/' :: '/' :: '/' :: _ => ['/']
  | '/' :: '/' :: _ => ['/', '/']
  | '/' :: _ => ['/']
  | _ => []

/-- The path of a text.  Empty names and names that stay in place do not count. -/
def ofText (text : List Char) : Path where
  root := rootOf text
  names := (text.splitOn '/').filter fun name => !name.isEmpty && name ≠ ['.']

def text (path : Path) : List Char :=
  let text := path.root ++ ['/'].intercalate path.names
  if text.isEmpty then ['.'] else text

end Path

def byteSize : List Char → Nat
  | [] => 0
  | c :: rest => c.utf8Size + byteSize rest

def nameLimit : Nat := 255

def pathLimit : Nat := 4095

/-- Where a path leads.  Files are named by the way from the working folder. -/
inductive Place where
  | folder
  | file (way : List Name)
  /-- Nothing is there, but a file can be made. -/
  | vacant (way : List Name)
  /-- Outside the working folder, where no file is known and one can be made. -/
  | beyond
  deriving DecidableEq

/-- The files in the working folder and the folders inside it. -/
structure Files where
  entries : List (List Name × ByteArray) := []

namespace Files

def get? (files : Files) (way : List Name) : Option ByteArray :=
  files.entries.lookup way

/-- A folder is there: the working folder, or one that holds a file. -/
def hasFolder (files : Files) (way : List Name) : Bool :=
  way.isEmpty || files.entries.any fun entry => way.isPrefixOf entry.1 && way ≠ entry.1

/-- The files with other bytes in one of them, or with one more. -/
def put (files : Files) (way : List Name) (bytes : ByteArray) : Files :=
  ⟨files.entries.filter (·.1 ≠ way) ++ [(way, bytes)]⟩

/-- The folder that holds a folder; `none` is anywhere outside the working folder. -/
def holder : Option (List Name) → Option (List Name)
  | some (name :: way) => some (name :: way).dropLast
  | _ => none

/-- Where names lead from a folder; from `none` they start outside the working folder. -/
def walk (files : Files) (folder : Option (List Name)) : List Name → Except PathError Place
  | [] => .ok .folder
  | name :: rest =>
    if nameLimit < byteSize name then .error .tooLong
    else if name = ['.', '.'] then walk files (holder folder) rest
    else
      match folder with
      | none => if rest.isEmpty then .ok .beyond else .error .missing
      | some folder =>
        let way := folder ++ [name]
        if files.hasFolder way then walk files (some way) rest
        else if (files.get? way).isSome then
          if rest.isEmpty then .ok (.file way) else .error .notFolder
        else if rest.isEmpty then .ok (.vacant way) else .error .missing

def locate (files : Files) (path : Path) : Except PathError Place :=
  if path.text.contains '\x00' then .error .nullCharacter
  else if pathLimit < byteSize path.text then .error .tooLong
  else walk files (if path.root.isEmpty then some [] else none) path.names

/-- The bytes of the file that a path leads to, if it leads to one.  A path that is too long leads
nowhere, and cannot even be looked up. -/
def read (files : Files) (path : Path) : Except PathError (Option ByteArray) :=
  match files.locate path with
  | .ok (.file way) => .ok (files.get? way)
  | .error .tooLong => .error .tooLong
  | _ => .ok none

/-- The files after bytes have been written where a path leads. -/
def write (files : Files) (path : Path) (bytes : ByteArray) : Except PathError Files := do
  match ← files.locate path with
  | .folder => .error .isFolder
  | .file way | .vacant way => return files.put way bytes
  | .beyond => return files

end Files

end BoardDiagram.CommandLine
