/- # The folders that a command writes to

A command may write one file.  Of the file system it matters only what is there: a path names a file that
can be written if it leads through folders to a name that no folder has, and the file takes what is written.
-/
import SchemaScript.Text.Bytes
import SchemaScript.Text.Quoted

namespace SchemaScript.Command

/-- Why a file cannot be written. -/
inductive FileFault where
  /-- The path names a folder. -/
  | isFolder (path : Text)
  /-- A folder on the way is not there. -/
  | notThere (path : Text)
  /-- Something on the way is no folder. -/
  | notFolder (path : Text)
  /-- The path or a name in it has too many bytes. -/
  | tooLong (path : Text)
  /-- The file takes nothing more. -/
  | full
  /-- The path holds a NUL character. -/
  | notPath
  /-- The path has no bytes. -/
  | unwritable (halves : Text.Unwritable)
deriving DecidableEq, Repr

namespace FileFault

/-- The text of a fault. -/
def message : FileFault → String
  | .isFolder path => "[Errno 21] Is a directory: " ++ Text.quoted path
  | .notThere path => "[Errno 2] No such file or directory: " ++ Text.quoted path
  | .notFolder path => "[Errno 20] Not a directory: " ++ Text.quoted path
  | .tooLong path => "[Errno 36] File name too long: " ++ Text.quoted path
  | .full => "[Errno 28] No space left on device"
  | .notPath => "embedded null byte"
  | .unwritable halves => halves.message

end FileFault

/-- The folders that are there, the one from which a path leads on that does not start at the root, and the
files that are there, of which some take nothing more.  Each is given by the names that lead to it from the
root. -/
structure Folders where
  there : List (List Text)
  current : List Text
  files : List (List Text) := []
  full : List (List Text) := []

namespace Folders

/-- The greatest number of bytes of a name. -/
def nameLimit : Nat := 255

/-- The number of bytes that a path has to stay below. -/
def pathLimit : Nat := 4096

/-- The parts of a path between its slashes. -/
def parts : Text → List Text
  | [] => [[]]
  | .char '/' :: rest => [] :: parts rest
  | p :: rest =>
    match parts rest with
    | [] => [[p]]
    | name :: names => (p :: name) :: names

/-- The names of a path; empty parts count for nothing. -/
def names (path : Text) : List Text := (parts path).filter fun p => !p.isEmpty

/-- The folder that a name leads to from a folder. -/
def enter (f : Folders) (path : Text) (folder : List Text) (name : Text) :
    Except FileFault (List Text) :=
  if name = "." then .ok folder
  else if name = ".." then .ok folder.dropLast
  else if nameLimit < name.byteCount then .error (.tooLong path)
  else if f.there.contains (folder ++ [name]) then .ok (folder ++ [name])
  else if f.files.contains (folder ++ [name]) then .error (.notFolder path)
  else .error (.notThere path)

/-- The file that a name at the end of a path stands for, in a folder. -/
def fileIn (f : Folders) (path : Text) (folder : List Text) (name : Text) :
    Except FileFault (List Text) :=
  if name = "." || name = ".." || path.getLast? = some (.char '/') then .error (.isFolder path)
  else if nameLimit < name.byteCount then .error (.tooLong path)
  else if f.there.contains (folder ++ [name]) then .error (.isFolder path)
  else if f.full.contains (folder ++ [name]) then .error .full
  else .ok (folder ++ [name])

/-- The file that a path names, by the names that lead to it from the root, as its folders list them. -/
def file (f : Folders) (path : Text) : Except FileFault (List Text) := do
  let there ← path.returned.mapError .unwritable
  if there.contains (.char '\x00') then throw .notPath
  if pathLimit ≤ path.byteCount then throw (.tooLong path)
  let start := if there.head? = some (.char '/') then [] else f.current
  let names := names there
  match names.getLast? with
  | none => throw (.isFolder path)
  | some last => f.fileIn path (← names.dropLast.foldlM (f.enter path) start) last

end Folders

end SchemaScript.Command
