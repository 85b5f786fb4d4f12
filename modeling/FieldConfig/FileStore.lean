import FieldConfig.Format
import FieldConfig.Text.Split

set_option autoImplicit false

namespace FieldConfig

inductive FileFault where
  | notFound
  | alreadyThere
  | notDirectory
  | isDirectory
  | nameTooLong
  | nulInName
deriving DecidableEq, Repr

def FileFault.reason : FileFault → String
  | .notFound => "No such file or directory (os error 2)"
  | .alreadyThere => "File exists (os error 17)"
  | .notDirectory => "Not a directory (os error 20)"
  | .isDirectory => "Is a directory (os error 21)"
  | .nameTooLong => "File name too long (os error 36)"
  | .nulInName => "file name contained an unexpected NUL byte"

inductive FileEntry where
  | directory
  | file (content : Content)
deriving DecidableEq, Repr

-- A place is the list of names on the way from the root, which is always a directory.
structure FileStore where
  entries : List (List String × FileEntry) := []
  workingDirectory : List String := []
deriving DecidableEq, Repr

namespace FileStore

def held? (store : FileStore) (place : List String) : Option FileEntry :=
  if place = [] then some .directory else store.entries.lookup place

def put (store : FileStore) (place : List String) (entry : FileEntry) : FileStore :=
  { store with entries := (place, entry) :: store.entries.filter (·.1 ≠ place) }

def names (path : String) : List String :=
  (Text.pieces '/' path.toList).map String.ofList

def origin (store : FileStore) (path : String) : List String :=
  if path.toList.head? = some '/' then [] else store.workingDirectory

def enter (store : FileStore) (place : List String) (name : String) :
    Except FileFault (List String) :=
  match store.held? place with
  | none => .error .notFound
  | some (.file _) => .error .notDirectory
  | some .directory =>
    if name = "" ∨ name = "." then .ok place
    else if name = ".." then .ok place.dropLast
    else if 255 < name.utf8ByteSize then .error .nameTooLong
    else .ok (place ++ [name])

def walk (store : FileStore) (place : List String) : List String → Except FileFault (List String)
  | [] => .ok place
  | name :: rest => do store.walk (← store.enter place name) rest

def find (store : FileStore) (path : String) : Except FileFault (List String) :=
  if '\x00' ∈ path.toList then .error .nulInName
  else if 4096 ≤ path.utf8ByteSize then .error .nameTooLong
  else store.walk (store.origin path) (names path)

def read (store : FileStore) (path : String) : Except FileFault Content := do
  match store.held? (← store.find path) with
  | none => throw .notFound
  | some .directory => throw .isDirectory
  | some (.file content) => return content

def write (store : FileStore) (path : String) (content : Content) :
    Except FileFault FileStore := do
  let place ← store.find path
  match store.held? place with
  | some .directory => throw .isDirectory
  | _ => return store.put place (.file content)

def makeDirectory (store : FileStore) (origin names : List String) :
    Except FileFault FileStore := do
  match names.reverse.dropWhile (· = "") with
  | [] => throw .alreadyThere
  | name :: way =>
    let place ← store.enter (← store.walk origin way.reverse) name
    if name = "." ∨ name = ".." then throw .alreadyThere
    match store.held? place with
    | some _ => throw .alreadyThere
    | none => return store.put place .directory

def isDirectory (store : FileStore) (origin names : List String) : Bool :=
  match store.walk origin names with
  | .ok place => store.held? place = some .directory
  | .error _ => false

def ensureDirectory (store : FileStore) (origin names : List String) :
    Except FileFault FileStore :=
  match store.makeDirectory origin names with
  | .ok store => .ok store
  | .error fault => if store.isDirectory origin names then .ok store else .error fault

-- Makes a directory. If the way to it is not there, it is made first, from the last of its names
-- to the first; `outwards` holds them in that order.
def makeWay (store : FileStore) (origin names : List String) :
    List String → Except FileFault FileStore
  | [] => store.ensureDirectory origin names
  | _ :: outwards =>
    match store.makeDirectory origin names with
    | .error .notFound => do
      (← store.makeWay origin outwards.reverse outwards).ensureDirectory origin names
    | _ => store.ensureDirectory origin names

def steps (names : List String) : List String := names.filter fun name => name ≠ "" ∧ name ≠ "."

def makeDirectories (store : FileStore) (path : String) : Except FileFault FileStore :=
  if '\x00' ∈ path.toList then .error .nulInName
  else if 4096 ≤ path.utf8ByteSize then .error .nameTooLong
  else store.makeWay (store.origin path) (names path) (steps (names path)).reverse

end FileStore
end FieldConfig
