import PageGraft.File.Path
import PageGraft.Text.Quoted
import PageGraft.Text.Utf8

/-!
# Files

A directory with everything below it, as a value. Files are octets with the time of their last
change; writing makes the directories that are needed, and gives the file a later time than any
write before unless a time is named.
-/

namespace PageGraft.File

open PageGraft.Text

/-- The content of a file and the time of its last change. -/
structure Entry where
  octets : List UInt8
  modified : Int
deriving Repr, DecidableEq

/-- Why there is no content to read at a path. -/
inductive Obstacle where
  | notFound
  | denied
  | notDirectory
  | isDirectory
  | nameTooLong
  | inputFailed
deriving Repr, DecidableEq

/-- The words of the operating system for an obstacle at a path. The path is not known any more to a read
that breaks off. -/
def Obstacle.message (obstacle : Obstacle) (path : String) : String :=
  match obstacle with
  | .notFound => s!"[Errno 2] No such file or directory: {quoted path}"
  | .denied => s!"[Errno 13] Permission denied: {quoted path}"
  | .notDirectory => s!"[Errno 20] Not a directory: {quoted path}"
  | .isDirectory => s!"[Errno 21] Is a directory: {quoted path}"
  | .nameTooLong => s!"[Errno 36] File name too long: {quoted path}"
  | .inputFailed => "[Errno 5] Input/output error"

/-- Whether the question for a file ends with the obstacle. Otherwise the answer is that there is
none. -/
def Obstacle.isRaised : Obstacle → Bool
  | .denied | .nameTooLong | .inputFailed => true
  | .notFound | .notDirectory | .isDirectory => false

/-- The names on the way to a file or directory: from the working directory, or from the root of the
file system if the first name is a slash. Directories above the working directory are named by dots. -/
abbrev Location := List String

namespace Location

/-- The root of the file system. -/
def root : Location := ["/"]

/-- The working directory and the directories above it. -/
def isAbove (location : Location) : Bool :=
  location.all (· = "..")

def parent (location : Location) : Location :=
  if location = root then root
  else if location.isAbove then location ++ [".."]
  else location.dropLast

end Location

/-- The files of a directory and of the directories below it. `clock` is the time of the next write
without a time. Nothing can be looked for in a directory that is closed, and a file that is barred can be
looked for and not be read. -/
structure Store where
  files : List (Location × Entry) := []
  directories : List Location := []
  clock : Int := 0
  closed : List Location := []
  barred : List (Location × Obstacle) := []
deriving Repr, DecidableEq

/-- Why a file cannot be opened. A path with a null character is none. -/
inductive OpenError where
  | notPath
  | obstacle (obstacle : Obstacle) (path : String)
deriving Repr, DecidableEq

def OpenError.message : OpenError → String
  | .notPath => "embedded null byte"
  | .obstacle kind path => kind.message path

/-- Why a file has no text. -/
inductive TextError where
  | unopened (error : OpenError)
  | undecodable (error : DecodeError)
deriving Repr, DecidableEq

def TextError.message : TextError → String
  | .unopened error => error.message
  | .undecodable error => error.message

namespace Store

def file? (store : Store) (location : Location) : Option Entry :=
  store.files.lookup location

def hasDirectory (store : Store) (location : Location) : Bool :=
  location.isAbove || location = Location.root || store.directories.contains location

/-- The most octets that the name of a file has. -/
def nameLimit : Nat := 255

/-- The octets that a path does not reach. -/
def pathLimit : Nat := 4096

/-- Follows the parts of a path from a location. Only a directory can be left or entered, and only if it
is not closed. -/
def follow (store : Store) : Location → List String → Except Obstacle Location
  | location, [] => .ok location
  | location, part :: rest =>
    if store.hasDirectory location then
      if store.closed.contains location then .error .denied
      else if nameLimit < part.utf8ByteSize then .error .nameTooLong
      else if part = ".." then store.follow location.parent rest
      else store.follow (location ++ [part]) rest
    else if (store.file? location).isSome then .error .notDirectory
    else .error .notFound

/-- The location of a path in the store. With a null character in it there is none. -/
def locate (store : Store) (path : Path) : Except Obstacle Location :=
  if path.toText.toList.contains '\x00' then .error .notFound
  else if pathLimit ≤ path.toText.utf8ByteSize then .error .nameTooLong
  else store.follow (if path.root = "" then [] else Location.root) path.parts

/-- The file at a path. -/
def find (store : Store) (path : Path) : Except Obstacle Entry := do
  let location ← store.locate path
  match store.file? location with
  | some entry => .ok entry
  | none => .error (if store.hasDirectory location then .isDirectory else .notFound)

def isFile (store : Store) (path : Path) : Bool :=
  (store.find path).toOption.isSome

/-- What is in the way of reading what is at a path, where it can be looked for. -/
def barrier? (store : Store) (path : Path) : Option Obstacle :=
  (store.locate path).toOption.bind (List.lookup · store.barred)

/-- The file at a path, if it can be read. -/
def read (store : Store) (path : Path) : Except Obstacle Entry := do
  let entry ← store.find path
  match store.barrier? path with
  | some obstacle => .error obstacle
  | none => .ok entry

/-- Whether there is a file or a directory at a path, where one can be looked for. -/
def contains (store : Store) (path : Path) : Except Obstacle Bool :=
  match store.locate path with
  | .ok location => .ok ((store.file? location).isSome || store.hasDirectory location)
  | .error obstacle => if obstacle.isRaised then .error obstacle else .ok false

/-- Whether a file can be at a path: its directory is there, and it is no directory itself. -/
def canCreate (store : Store) (path : Path) : Bool :=
  match store.locate path with
  | .ok location => !store.hasDirectory location && store.hasDirectory location.dropLast
  | .error _ => false

/-- Opens a file for reading its text. -/
def openText (store : Store) (path : Path) : Except OpenError TextStream :=
  if path.toText.toList.contains '\x00' then .error .notPath
  else
    match store.read path with
    | .ok entry => .ok (.ofOctets entry.octets)
    | .error obstacle => .error (.obstacle obstacle path.toText)

/-- The text of a file, with all ends of lines written as a newline. -/
def readText (store : Store) (path : Path) : Except TextError (List Char) := do
  let stream ← (store.openText path).mapError .unopened
  match stream.error with
  | some error => throw (.undecodable error)
  | none => return stream.text

/-- The time of the last change of what is at a path. A directory is never changed. -/
def modified? (store : Store) (path : Path) : Option Int :=
  match store.locate path with
  | .ok location =>
    match store.file? location with
    | some entry => some entry.modified
    | none => if store.hasDirectory location then some 0 else none
  | .error _ => none

/-- The directories on the way to a location. -/
def parents (location : Location) : List Location :=
  (List.range location.length).map location.take

/-- Sets the entry of a location. -/
def setFile (files : List (Location × Entry)) (location : Location) (entry : Entry) :
    List (Location × Entry) :=
  match files with
  | [] => [(location, entry)]
  | (first, old) :: rest =>
    if first = location then (location, entry) :: rest
    else (first, old) :: setFile rest location entry

/-- The location at which a path would be made; directories that are missing count as there. -/
def newLocation (store : Store) (path : Path) : Location :=
  match store.locate path with
  | .ok location => location
  | .error _ => (if path.root = "" then [] else Location.root) ++ path.parts

/-- Writes a file, with a time of its own or the next time of the store. -/
def write (store : Store) (path : Path) (octets : List UInt8) (modified : Option Int) : Store :=
  let location := store.newLocation path
  { store with
    files := setFile store.files location ⟨octets, modified.getD store.clock⟩
    directories := (store.directories ++ parents location).eraseDups
    clock := store.clock + 1 }

/-- Removes a file. -/
def delete (store : Store) (path : Path) : Store :=
  let location := store.newLocation path
  { store with files := store.files.filter (·.1 ≠ location) }

def makeDirectory (store : Store) (path : Path) : Store :=
  let location := store.newLocation path
  { store with
    directories := (store.directories ++ parents location ++ [location]).eraseDups }

/-- Sets the time of the last change of a file. -/
def touch (store : Store) (path : Path) (modified : Int) : Store :=
  let location := store.newLocation path
  match store.file? location with
  | some entry =>
    { store with files := setFile store.files location { entry with modified } }
  | none => store

/-- Puts an obstacle in the way of reading what is at a path and of looking into it, or takes it away. -/
def restrict (store : Store) (path : Path) (obstacle : Option Obstacle) : Store :=
  let location := store.newLocation path
  { store with
    closed := store.closed.filter (· ≠ location) ++ (obstacle.map fun _ => location).toList
    barred := store.barred.filter (·.1 ≠ location) ++ (obstacle.map (location, ·)).toList }

end Store

/-- A change that someone else makes to the files. -/
inductive Edit where
  | write (path : String) (octets : List UInt8) (modified : Option Int)
  | delete (path : String)
  | makeDirectory (path : String)
  | touch (path : String) (modified : Int)
  | restrict (path : String) (obstacle : Option Obstacle)
deriving Repr, DecidableEq

def Store.apply (store : Store) : Edit → Store
  | .write path octets modified => store.write (.ofText path) octets modified
  | .delete path => store.delete (.ofText path)
  | .makeDirectory path => store.makeDirectory (.ofText path)
  | .touch path modified => store.touch (.ofText path) modified
  | .restrict path obstacle => store.restrict (.ofText path) obstacle

end PageGraft.File
