import Decoding.Bytes

/-!
The files that a process can see: a table of relative names and contents. A path is
walked one component at a time from the directory of the table. Nothing outside the
table exists, so a path that leaves it finds directories only by name `.` and `..`.
-/

namespace Decoding

inductive FileError where
  | notFound
  | notDirectory
  | isDirectory
  | nameTooLong
  | nulInName
  | endOfFile
  deriving DecidableEq, Repr

def FileError.message : FileError → String
  | .notFound => "No such file or directory (os error 2)"
  | .notDirectory => "Not a directory (os error 20)"
  | .isDirectory => "Is a directory (os error 21)"
  | .nameTooLong => "File name too long (os error 36)"
  | .nulInName => "file name contained an unexpected NUL byte"
  | .endOfFile => "failed to fill whole buffer"

/-- Names and contents of the files there are. A name with slashes lies in directories. -/
structure FileTable where
  entries : List (String × Bytes) := []

namespace FileTable

/-- The components of a path, empty ones included. -/
def components (path : String) : List String :=
  (path.toList.splitOn '/').map String.ofList

/-- What a path can lead to. -/
inductive Node where
  | file (content : Bytes)
  | directory

/-- The file or directory at a place of the table, given by the names that lead there. -/
def node? (t : FileTable) (place : List String) : Option Node :=
  let places := t.entries.map fun e => ((components e.1).filter (· ∉ ["", "."]), e.2)
  match places.find? (·.1 = place) with
  | some e => some (.file e.2)
  | none =>
    if places.any fun e => place.isPrefixOf e.1 then some .directory else none

/-- Walk the components of a path from a place, or from outside the table (`none`). -/
def walk (t : FileTable) : Option (List String) → List String → Except FileError Node
  | _, [] => .ok .directory
  | place, name :: rest =>
    if name = "" ∨ name = "." then walk t place rest
    else if name = ".." then
      walk t (place.bind fun p => if p = [] then none else some p.dropLast) rest
    else if name.utf8ByteSize > 255 then .error .nameTooLong
    else match place with
      | none => .error .notFound
      | some p =>
        match t.node? (p ++ [name]) with
        | none => .error .notFound
        | some .directory => walk t (some (p ++ [name])) rest
        | some (.file content) =>
          if rest = [] then .ok (.file content) else .error .notDirectory

/-- The content of the file at a path. A path of 4096 bytes or more is too long whatever it
names. -/
def read (t : FileTable) (path : String) : Except FileError Bytes :=
  if path.contains '\x00' then .error .nulInName
  else if path = "" then .error .notFound
  else if path.utf8ByteSize > 4095 then .error .nameTooLong
  else
    let start := if path.front = '/' then none else some []
    match t.walk start (components path) with
    | .error e => .error e
    | .ok .directory => .error .isDirectory
    | .ok (.file content) => .ok content

end FileTable

end Decoding
