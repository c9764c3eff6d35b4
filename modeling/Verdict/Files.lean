-- Files: a directory with everything in it, and what reading a path in it
-- comes to. The system's errors are those of a Unix system.

namespace Verdict

/-- Why a file cannot be read. -/
inductive ReadError where
  /-- The system refuses; it numbers its errors. -/
  | system (text : String) (code : Nat)
  /-- The bytes are not UTF-8. -/
  | notText
  /-- The path has a character that no path may have. -/
  | nulInPath
  deriving DecidableEq, Repr

namespace ReadError

def notFound : ReadError := .system "No such file or directory" 2
def notADirectory : ReadError := .system "Not a directory" 20
def isADirectory : ReadError := .system "Is a directory" 21
def nameTooLong : ReadError := .system "File name too long" 36

def message : ReadError → String
  | .system text code => text ++ " (os error " ++ toString code ++ ")"
  | .notText => "stream did not contain valid UTF-8"
  | .nulInPath => "file name contained an unexpected NUL byte"

/-- The text of some bytes. -/
def textOfBytes (bytes : ByteArray) : Except ReadError String :=
  match String.fromUTF8? bytes with
  | some text => .ok text
  | none => .error .notText

end ReadError

/-- How a path is read: the text there, or why there is none. -/
abbrev Reader := String → Except ReadError String

/-- What a name in a directory stands for. -/
inductive FileEntry where
  | file (bytes : ByteArray)
  | directory

/-- The names on the way from the current directory. -/
abbrev FilePath := List String

/-- All files and directories below the current directory. A directory that
something lies in need not be named. -/
structure Files where
  entries : List (FilePath × FileEntry)

namespace Files

/-- The parts of a text between its slashes. -/
def segments : List Char → List (List Char)
  | [] => [[]]
  | c :: cs =>
    if c = '/' then [] :: segments cs
    else
      match segments cs with
      | [] => [[c]]
      | part :: parts => (c :: part) :: parts

/-- The names on the way that a text describes. -/
def names (path : String) : List String := (segments path.toList).map String.ofList

/-- A name that stands for the directory that it is in. -/
def staysHere (name : String) : Bool := name = "" || name = "."

/-- The files and directories with the given paths. -/
def ofList (entries : List (String × FileEntry)) : Files :=
  ⟨entries.map fun (path, entry) => ((names path).filter (!staysHere ·), entry)⟩

/-- The bytes of the file at a path. -/
def bytes? (files : Files) (path : FilePath) : Option ByteArray :=
  files.entries.findSome? fun (p, entry) =>
    match entry with
    | .file bytes => if p = path then some bytes else none
    | .directory => none

/-- A directory is at this path: the current one, a named one, or one with
something in it. -/
def isDirectory (files : Files) (path : FilePath) : Bool :=
  path.isEmpty || files.entries.any fun (p, entry) =>
    match entry with
    | .file _ => path.isPrefixOf p && p ≠ path
    | .directory => path.isPrefixOf p

/-- Where a walk has come to. -/
inductive Place where
  /-- A directory at or below the current one. -/
  | inside (path : FilePath)
  /-- A directory that nothing is known of. -/
  | outside
  deriving DecidableEq, Repr

/-- The directory around a directory. -/
def Place.up : Place → Place
  | .inside [] => .outside
  | .inside (name :: names) => .inside (name :: names).dropLast
  | .outside => .outside

/-- The bytes at the end of a walk. -/
def follow (files : Files) : Place → List String → Except ReadError ByteArray
  | _, [] => .error .isADirectory
  | place, name :: rest =>
    if staysHere name then follow files place rest
    else if name = ".." then follow files place.up rest
    else if 255 < name.utf8ByteSize then .error .nameTooLong
    else
      match place with
      | .outside => .error .notFound
      | .inside path =>
        let path := path ++ [name]
        match files.bytes? path with
        | some bytes => if rest.isEmpty then .ok bytes else .error .notADirectory
        | none =>
          if files.isDirectory path then follow files (.inside path) rest
          else .error .notFound

/-- The text at a path. -/
def read (files : Files) : Reader := fun path => do
  if path.toList.contains '\x00' then .error .nulInPath
  if path = "" then .error .notFound
  if 4096 ≤ path.utf8ByteSize then .error .nameTooLong
  let start :=
    match path.toList with
    | '/' :: _ => Place.outside
    | _ => .inside []
  ReadError.textOfBytes (← files.follow start (names path))

end Files

end Verdict
