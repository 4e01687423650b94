import SensorHost.Settings.Text

/-!
# Settings in files

Settings can be kept in a file below a folder. A path is a sequence of parts with slashes between
them: a name leads into the folder of that name, two dots lead back to the folder above, and one
dot or nothing stays in place, though only a folder can be followed by a part.

Writing settings to a path first makes the folders on the way that are missing, unless a file
stands in their way.
-/

namespace SensorHost

/-- Files and folders, each at its place: the names that lead to it from the top, after two dots
for every folder that is left on the way. -/
structure Folder where
  files : List (List String × Frame)
  /-- The folders that were made. -/
  folders : List (List String)

namespace Folder

def empty : Folder := ⟨[], []⟩

instance : Inhabited Folder := ⟨empty⟩

/-! ## Paths -/

/-- A path has at most this many bytes. -/
def pathLimit : Nat := 4095

/-- A name has at most this many bytes. -/
def nameLimit : Nat := 255

/-- Whether a text can be used as a path at all. -/
def isPath (text : String) : Bool := !text.contains '\x00' && text.utf8ByteSize ≤ pathLimit

/-- Whether a part of a path can name a file or a folder. -/
def isName (part : String) : Bool :=
  part ≠ "" && part ≠ "." && part ≠ ".." && part.utf8ByteSize ≤ nameLimit

/-- The parts of a path that lead away from a place. -/
def steps (path : String) : List String :=
  (path.splitOn "/").filter fun part => part ≠ "" ∧ part ≠ "."

/-- The steps to the folder of what a path leads to. -/
def stepsAbove (path : String) : List String := (steps path).dropLast

/-- The place above another one. There is always one more above the top. -/
def above (place : List String) : List String :=
  if place.all (· = "..") then place ++ [".."] else place.dropLast

/-- The folder that one step leads to. -/
def enter? (f : Folder) (place : List String) (part : String) : Option (List String) :=
  if part = ".." then some (above place)
  else if f.folders.contains (place ++ [part]) then some (place ++ [part])
  else none

/-- The place of the file that a path names, whether it is there or not: the path ends in a name,
and its other steps lead to a folder. -/
def place? (f : Folder) (path : String) : Option (List String) :=
  match (path.splitOn "/").getLast? with
  | none => none
  | some last =>
    if isPath path ∧ isName last then
      ((stepsAbove path).foldlM f.enter? []).map (· ++ [last])
    else none

/-! ## Reading and writing -/

/-- The bytes of the file at a path. -/
def read? (f : Folder) (path : String) : Option Frame := do
  f.files.lookup (← f.place? path)

/-- The text of the file at a path, if there is one and its bytes are a text. -/
def text? (f : Folder) (path : String) : Option String := do
  String.fromUTF8? ⟨(← f.read? path).toArray⟩

/-- Makes the folders on a way that are missing, as far as it can be gone; whether it was gone to
its end. -/
def makeFolders (place : List String) : List String → Folder → Bool × Folder
  | [], f => (true, f)
  | part :: rest, f =>
    if part = ".." then makeFolders (above place) rest f
    else
      let inner := place ++ [part]
      if f.folders.contains inner then makeFolders inner rest f
      else if !isName part || (f.files.lookup inner).isSome then (false, f)
      else makeFolders inner rest { f with folders := inner :: f.folders }

/-- Makes the folders above what a path leads to; whether all of them are there afterwards. -/
def prepare (f : Folder) (path : String) : Bool × Folder :=
  if isPath ("/".intercalate (stepsAbove path)) then f.makeFolders [] (stepsAbove path)
  else (false, f)

/-- Writes a file into a folder that is there. -/
def write? (f : Folder) (path : String) (bytes : Frame) : Option Folder := do
  let place ← f.place? path
  if f.folders.contains place then none
  else return { f with files := (place, bytes) :: f.files.filter (·.1 ≠ place) }

/-- Writes a file, after the folders above it. -/
def store? (f : Folder) (path : String) (bytes : Frame) : Option Folder :=
  (f.prepare path).2.write? path bytes

end Folder

namespace Settings

/-- The settings in a file. -/
def load (path : String) (folder : Folder) : Except Fault Settings :=
  match folder.text? path with
  | none => .error (.config "Failed to read link config")
  | some text => ofText text

/-- The settings in a file, or the defaults if there are none. -/
def loadOrDefault (path : String) (folder : Folder) : Settings :=
  (load path folder).toOption.getD default

/-- Keeps the settings in a file. The folders above it are made first, and stay even if the
settings cannot be written. -/
def save (s : Settings) (path : String) (folder : Folder) : Except Fault Unit × Folder :=
  match folder.prepare path with
  | (false, folder) => (.error (.config "Failed to create config directory"), folder)
  | (true, folder) =>
    match s.toText with
    | .error fault => (.error fault, folder)
    | .ok text =>
      match folder.write? path text.toUTF8.toList with
      | none => (.error (.config "Failed to write link config"), folder)
      | some folder => (.ok (), folder)

end Settings

end SensorHost
