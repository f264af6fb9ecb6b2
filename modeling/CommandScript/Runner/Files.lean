namespace CommandScript.Runner

inductive ReadFault where
  | notFound
  | notADirectory
  | isADirectory
  | nameTooLong
  | notText
  | nulInName
  | other (reason : String)
deriving DecidableEq, Repr

def ReadFault.message : ReadFault → String
  | .notFound => "No such file or directory (os error 2)"
  | .notADirectory => "Not a directory (os error 20)"
  | .isADirectory => "Is a directory (os error 21)"
  | .nameTooLong => "File name too long (os error 36)"
  | .notText => "stream did not contain valid UTF-8"
  | .nulInName => "file name contained an unexpected NUL byte"
  | .other reason => reason

def decodeText (bytes : ByteArray) : Except ReadFault String :=
  match String.fromUTF8? bytes with
  | some text => .ok text
  | none => .error .notText

/-- What a runner asks of files: their text, and whether a path leads to anything. -/
structure Files where
  read : String → Except ReadFault String
  isPresent : String → Bool

/-- A file or a directory. -/
inductive Node where
  | file (bytes : ByteArray)
  | directory

/-- Files and directories under absolute paths, given by their components; whatever has entries
below it is a directory. -/
structure FileTree where
  entries : List (List String × Node)

namespace FileTree

def node? (tree : FileTree) (place : List String) : Option Node :=
  match tree.entries.lookup place with
  | some node => some node
  | none =>
    if place = [] ∨ tree.entries.any (fun entry => place.isPrefixOf entry.1) then some .directory
    else none

/-- The components of a path, empty ones included. -/
def components (path : String) : List String :=
  path.splitOn "/"

/-- Goes down from a directory along components. Nothing lies below a file. -/
def walk (tree : FileTree) (place : List String) : List String → Except ReadFault Node
  | [] =>
    match tree.node? place with
    | some node => .ok node
    | none => .error .notFound
  | step :: rest =>
    match tree.node? place with
    | none => .error .notFound
    | some (.file _) => .error .notADirectory
    | some .directory =>
      if step = "" ∨ step = "." then walk tree place rest
      else if step = ".." then walk tree place.dropLast rest
      else if 255 < step.utf8ByteSize then .error .nameTooLong
      else walk tree (place ++ [step]) rest

/-- The node that a path leads to from a working directory. -/
def find (tree : FileTree) (here : List String) (path : String) : Except ReadFault Node :=
  if path.toList.contains '\x00' then .error .nulInName
  else if path = "" then .error .notFound
  else if 4095 < path.utf8ByteSize then .error .nameTooLong
  else if path.startsWith "/" then tree.walk [] (components path)
  else tree.walk here (components path)

def readText (tree : FileTree) (here : List String) (path : String) : Except ReadFault String :=
  match tree.find here path with
  | .ok (.file bytes) => decodeText bytes
  | .ok .directory => .error .isADirectory
  | .error fault => .error fault

def files (tree : FileTree) (here : List String) : Files where
  read := tree.readText here
  isPresent path := (tree.find here path).isOk

end FileTree

end CommandScript.Runner
