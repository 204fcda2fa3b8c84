import AudioRules.Access
import AudioRules.Text.Bytes

namespace AudioRules

-- Files below a directory. There is nothing else but the directories that all machines have.
structure FileTree where
  -- the name of the directory in paths, in the place of a full path
  root  : String
  -- by their paths below it
  files : List (String × Bytes)
deriving DecidableEq

namespace FileTree

-- Where a path has come to.
inductive Place
  -- a directory that is not in the tree; from the topmost one full paths start
  | outside (topmost : Bool)
  | devices
  | directory (names : List String)
  | file (bytes : Bytes)
deriving DecidableEq

-- The names along a path below the tree.
def names (path : String) : List String :=
  (path.splitOn "/").filter fun name => name != "" && name != "."

-- Of several files with a path the last one counts.
def find? (t : FileTree) (path : List String) : Option Bytes :=
  (t.files.reverse.find? fun (file, _) => names file == path).map (·.2)

def isDirectory (t : FileTree) (path : List String) : Bool :=
  t.files.any fun (file, _) => path.isPrefixOf (names file)

-- How many bytes a name has at most, and a whole path with its end.
def nameLimit : Nat := 255

def pathLimit : Nat := 4096

def missing (name : String) : AccessError :=
  if nameLimit < name.utf8ByteSize then .nameTooLong else .notFound

-- What a directory of the tree has under a name.
def enter (t : FileTree) (path : List String) (name : String) : Except AccessError Place :=
  let path := path ++ [name]
  match t.find? path with
  | some bytes => .ok (.file bytes)
  | none       =>
    if t.isDirectory path then .ok (.directory path) else .error (missing name)

-- Directories next to the tree that are on all machines.
def standard : List String := ["bin", "etc", "proc", "tmp", "usr", "var"]

-- One name further.
def step (t : FileTree) (place : Place) (name : String) : Except AccessError Place :=
  match place with
  | .file _ => .error .notADirectory
  | .outside topmost =>
    if name == "" || name == "." || name == ".." then .ok place
    else if topmost && name == t.root then .ok (.directory [])
    else if topmost && name == "dev" then .ok .devices
    else if topmost && standard.contains name then .ok (.outside false)
    else .error (missing name)
  | .devices =>
    if name == "" || name == "." then .ok .devices
    else if name == ".." then .ok (.outside true)
    -- the device that is always empty
    else if name == "null" then .ok (.file [])
    else .error (missing name)
  | .directory path =>
    if name == "" || name == "." then .ok place
    else if name == ".." then
      .ok (if path.isEmpty then .outside false else .directory path.dropLast)
    else t.enter path name

def walk (t : FileTree) (path : String) : Except AccessError Place :=
  let along := path.splitOn "/"
  let isFull := along.head?.any fun name => name == "" || name == t.root
  if path == "" then .error .notFound
  else if pathLimit ≤ path.utf8ByteSize then .error .nameTooLong
  else along.foldlM t.step (.outside isFull)

def read (t : FileTree) (path : String) : Except AccessError Bytes := do
  match ← t.walk path with
  | .file bytes => .ok bytes
  | _           => .error .isADirectory

end FileTree

end AudioRules
