/-!
# Files

What a command can see of the file system: a list of entries by path.  Reading a path yields a
text or the reason why there is none.

A path that is the name of an entry leads to that entry.  Any other path is walked step by step
from the working directory, or from the root if it starts with a slash.  A step can be taken from
a directory only, also one that stays in place: a path with a slash at its end never leads to a
file.
-/

namespace RecordQuery

/-- Why a file cannot be read as text. -/
inductive ReadFailure where
  | notFound
  | notADirectory
  | isADirectory
  | notUtf8
  /-- No path holds the character NUL. -/
  | invalidName
  | nameTooLong
  /-- Any other reason, in the words of the system. -/
  | other (reason : String)
deriving DecidableEq

namespace ReadFailure

def message : ReadFailure → String
  | notFound => "No such file or directory (os error 2)"
  | notADirectory => "Not a directory (os error 20)"
  | isADirectory => "Is a directory (os error 21)"
  | notUtf8 => "stream did not contain valid UTF-8"
  | invalidName => "file name contained an unexpected NUL byte"
  | nameTooLong => "File name too long (os error 36)"
  | other reason => reason

end ReadFailure

/-- What a path leads to. -/
inductive FileEntry where
  | directory
  | file (bytes : ByteArray)
  /-- Something that cannot be read. -/
  | refused (why : ReadFailure)

/-- The visible part of a file system. -/
structure Files where
  entries : List (String × FileEntry)

namespace Files

/-- A place in the file system, by the names on the way to it.  The root has the empty name, and
steps out of the working directory keep their two dots. -/
abbrev Place := List (List Char)

/-- The greatest number of bytes in a name. -/
def greatestName : Nat := 255

/-- The greatest number of bytes in a path. -/
def greatestPath : Nat := 4095

def steps (path : String) : List (List Char) := path.toList.splitOn '/'

/-- The place one step further, which may be the same place or the one before. -/
def move (here : Place) (step : List Char) : Place :=
  if step = [] ∨ step = ['.'] then here
  else if step = ['.', '.'] then
    if here = [[]] then here
    else if here.all (· = ['.', '.']) then here ++ [step]
    else here.dropLast
  else here ++ [step]

/-- Where a path starts, and the steps from there. -/
def start (path : String) : Place × List (List Char) :=
  match steps path with
  | [] :: rest => ([[]], rest)
  | names => ([], names)

def place (name : String) : Place :=
  let (here, names) := start name
  names.foldl move here

/-- What stands at a place.  There is a directory wherever something lies below. -/
def entryAt? (files : Files) (here : Place) : Option FileEntry :=
  if here = [[]] ∨ here.all (· = ['.', '.']) then some .directory
  else
    match files.entries.find? fun entry => place entry.1 = here with
    | some (_, entry) => some entry
    | none =>
      if files.entries.any fun entry => here.isPrefixOf (place entry.1) then some .directory
      else none

/-- The place one step further, if a step can be taken. -/
def step? (files : Files) (here : Place) (step : List Char) : Except ReadFailure Place :=
  match files.entryAt? here with
  | none => .error .notFound
  | some .directory =>
    if greatestName < (String.ofList step).utf8ByteSize then .error .nameTooLong
    else .ok (move here step)
  | some (.file _) => .error .notADirectory
  | some (.refused why) => .error why

def decode (bytes : ByteArray) : Except ReadFailure String :=
  match String.fromUTF8? bytes with
  | some text => .ok text
  | none => .error .notUtf8

def textOf : Option FileEntry → Except ReadFailure String
  | none => .error .notFound
  | some .directory => .error .isADirectory
  | some (.file bytes) => decode bytes
  | some (.refused why) => .error why

def read (files : Files) (path : String) : Except ReadFailure String :=
  if path.toList.contains '\x00' then .error .invalidName
  else if path = "" then .error .notFound
  else if greatestPath < path.utf8ByteSize then .error .nameTooLong
  else
    match files.entries.lookup path with
    | some entry => textOf (some entry)
    | none => do
      let (here, names) := start path
      textOf (files.entryAt? (← names.foldlM files.step? here))

end Files

end RecordQuery
