import ChainReplica.Failure

/-!
# The place of the log file

Messages of the program may go to a file, whose directory is made if it is not
there. Of the file system this module knows only where that fails: at paths that
are no directories, in directories that nothing can be added to, and at names
that are too long. A path is walked along part by part, so that it is known
whichever way it is written.
-/

namespace ChainReplica

namespace LogFile

/-! ## Paths -/

/-- Without separators at the end, and without parts there that mean the
directory itself. Works from the end of a path. -/
def trimEnd : List Char → List Char
  | '/' :: rest => trimEnd rest
  | '.' :: '/' :: rest => trimEnd rest
  | cs => cs

/-- The directory of a path; of a path without name, the current one. -/
def directory (path : String) : String :=
  let cs := path.toList.reverse
  let absolute := path.startsWith "/"
  match trimEnd cs with
  | [] => "."
  | named =>
    let parent := trimEnd (named.dropWhile (· != '/'))
    if parent.isEmpty && absolute then "/" else String.ofList parent.reverse

/-- The parts of a path, without those that mean the directory itself. An
absolute path begins with the root as a part of its own. -/
def parts (path : String) : List (List Char) :=
  let named := (path.toList.splitOn '/').filter fun part => part != [] && part != ['.']
  if path.startsWith "/" then ['/'] :: named else named

/-- One step along a path. The directory above the root is the root. -/
def enter (here : List (List Char)) (part : List Char) : List (List Char) :=
  if part = ['.', '.'] then
    match here.getLast? with
    | none => [part]
    | some last =>
      if last = ['/'] then here
      else if last = ['.', '.'] then here ++ [part]
      else here.dropLast
  else here ++ [part]

/-- All places that a walk along parts comes to. -/
def walk (here : List (List Char)) : List (List Char) → List (List (List Char))
  | [] => []
  | part :: rest => enter here part :: walk (enter here part) rest

/-- Where a path leads. -/
def resolve (path : String) : List (List Char) := (parts path).foldl enter []

/-! ## Making the directory -/

/-- What is known of a file system. -/
structure Terrain where
  /-- Paths that are no directories. -/
  files : List String
  /-- Directories that nothing can be added to. -/
  sealed : List String
  deriving DecidableEq, Repr

def nameLimit : Nat := 255

def isTooLong (name : List Char) : Bool := nameLimit < (String.ofList name).utf8ByteSize

/-- Whether a place cannot be a directory. -/
def Terrain.blocks (t : Terrain) (place : List (List Char)) : Bool :=
  t.files.any (fun path => resolve path == place)
    || t.sealed.any (fun path => resolve path == place.dropLast && place != resolve path)
    || place.getLast?.any isTooLong

/-- What becomes of a log file. -/
inductive Opening where
  | ready
  /-- Its directory cannot be made. -/
  | refused (e : Failure)
  /-- Its directory is there, but the file cannot be made. -/
  | unwritable
  deriving DecidableEq, Repr

/-- Makes the directory of a log file, and the file. -/
def prepare (t : Terrain) (path : String) : Opening :=
  let place := directory path
  if (walk [] (parts place)).any t.blocks then
    .refused (.because .configuration ("Cannot create log directory " ++ place)
      (some "not a directory"))
  else if t.sealed.any fun path => resolve path == resolve place then .unwritable
  else .ready

end LogFile

end ChainReplica
