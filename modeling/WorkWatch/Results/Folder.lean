import WorkWatch.Fields
import WorkWatch.Text.Quoted
import WorkWatch.Text.Split

/-!
The files of a working directory, and writing one of them under a path. Of the directories outside
only those are known that every machine has.
-/

namespace WorkWatch

open Text

structure File where
  mode : Nat
  text : String
  deriving DecidableEq, Repr

/-- The files of a directory by name. -/
abbrev Folder := Fields File

inductive FileError where
  | missing (path : String)
  | notDirectory (path : String)
  | directory (path : String)
  | nameTooLong (path : String)
  | nullCharacter
  deriving DecidableEq, Repr

def FileError.message : FileError → String
  | .missing path => "[Errno 2] No such file or directory: " ++ quoted path
  | .notDirectory path => "[Errno 20] Not a directory: " ++ quoted path
  | .directory path => "[Errno 21] Is a directory: " ++ quoted path
  | .nameTooLong path => "[Errno 36] File name too long: " ++ quoted path
  | .nullCharacter => "embedded null byte"

def FileError.kind : FileError → String
  | .missing _ => "FileNotFoundError"
  | .notDirectory _ => "NotADirectoryError"
  | .directory _ => "IsADirectoryError"
  | .nameTooLong _ => "OSError"
  | .nullCharacter => "ValueError"

/-- A path taken apart: the slashes at its beginning and the names between slashes. -/
structure Path where
  root : String
  parts : List String
  deriving DecidableEq, Repr

namespace Path

/-- Reads a path. Empty names and single dots are dropped; two slashes at the beginning count as
such, more of them as one. -/
def parse (s : String) : Path :=
  let names := pieces '/' s.toList
  let root :=
    match names with
    | [] :: [] :: [] :: _ :: _ => "/"
    | [[], [], []] => "//"
    | [] :: [] :: _ :: _ => "//"
    | [] :: _ :: _ => "/"
    | _ => ""
  ⟨root, (names.filter fun name => !name.isEmpty && name != ['.']).map String.ofList⟩

def text (path : Path) : String :=
  if path.root.isEmpty && path.parts.isEmpty then "."
  else path.root ++ "/".intercalate path.parts

end Path

/-- Mode of a file that is readable and writable for its owner only. -/
def privateMode : Nat := 0o600

/-- Greatest length of a file name in bytes. -/
def nameLimit : Nat := 255

/-- Greatest length of a path in bytes. -/
def pathLimit : Nat := 4095

/-- Where a walk along a path has come to: the working directory, a directory below the root that
every machine has, or a directory of which only that is known that it holds the way back. -/
inductive Place where
  | working
  | system (names : List String)
  | elsewhere
  deriving DecidableEq, Repr

namespace Place

/-- The directories that every machine has, the root apart. -/
def directories : List (List String) := [["bin"], ["boot"], ["dev"], ["dev", "shm"], ["etc"],
  ["home"], ["lib"], ["media"], ["mnt"], ["opt"], ["proc"], ["root"], ["run"], ["sbin"], ["srv"],
  ["sys"], ["tmp"], ["usr"], ["usr", "bin"], ["usr", "lib"], ["usr", "local"], ["usr", "share"],
  ["var"], ["var", "lib"], ["var", "log"], ["var", "tmp"]]

/-- The files among them, which are none of a directory. -/
def devices : List (List String) := [["dev", "null"], ["dev", "zero"]]

def start (path : Path) : Place := if path.root.isEmpty then working else system []

def parent : Place → Place
  | working | elsewhere => elsewhere
  | system names => system names.dropLast

/-- The directory of a name, if there is one. -/
def directory? (name : String) : Place → Option Place
  | system names =>
    if directories.contains (names ++ [name]) then some (system (names ++ [name])) else none
  | _ => none

/-- There is a file of that name. -/
def holdsFile (folder : Folder) (name : String) : Place → Bool
  | working => (folder.get? name).isSome
  | system names => devices.contains (names ++ [name])
  | elsewhere => false

/-- The name under which a file is kept: in the working directory its own name, below the root all
names that lead to it, and elsewhere the path itself. -/
def fileName (path name : String) : Place → String
  | working => name
  | system names => "/" ++ "/".intercalate (names ++ [name])
  | elsewhere => path

end Place

namespace Folder

/-- Walks along the directories of a path. -/
def enter (folder : Folder) (path : String) (place : Place) : List String → Except FileError Place
  | [] => .ok place
  | name :: rest =>
    if name = ".." then enter folder path place.parent rest
    else if nameLimit < name.utf8ByteSize then .error (.nameTooLong path)
    else
      match place.directory? name with
      | some place => enter folder path place rest
      | none =>
        .error (if place.holdsFile folder name then .notDirectory path else .missing path)

/-- Finds the file of a path that is to be written: the name under which it is kept. -/
def locate (folder : Folder) (path : Path) : Except FileError String :=
  let text := path.text
  if text.toList.contains '\x00' then .error .nullCharacter
  else if pathLimit < text.utf8ByteSize then .error (.nameTooLong text)
  else
    match path.parts.getLast? with
    | none => .error (.directory text)
    | some name => do
      let place ← folder.enter text (.start path) path.parts.dropLast
      if name = ".." || (place.directory? name).isSome then .error (.directory text)
      else if nameLimit < name.utf8ByteSize then .error (.nameTooLong text)
      else .ok (place.fileName text name)

/-- Writes a file. -/
def write (folder : Folder) (path : Path) (text : String) : Except FileError Folder :=
  (folder.locate path).map fun name =>
    -- Only a new file is made private; one that exists keeps its mode.
    let mode := ((folder.get? name).map File.mode).getD privateMode
    folder.put name ⟨mode, text⟩

end Folder

end WorkWatch
