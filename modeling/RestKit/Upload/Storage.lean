import RestKit.Text.Blank
import RestKit.Text.Uuid
/-!
# Storage

The files of uploads, by path. Any operation may fail: `fails` says which, by their number. Names
for new files come from a supply.
-/
namespace RestKit.Upload

/-- A name joined to a directory (`join`); one that starts at the root stands for itself. -/
def joined (directory name : String) : String :=
  if Text.startsWith '/' name then name
  else if directory.toList.getLast?.all (· = '/') then directory ++ name
  else directory ++ "/" ++ name

structure Storage where
  files : List (String × List UInt8) := []
  /-- Paths that are directories; they are never removed. -/
  directories : List String := []
  /-- The name of the nth file. -/
  names : Nat → Text.Uuid := .ofNat
  named : Nat := 0
  /-- Whether the nth operation fails. -/
  fails : Nat → Bool := fun _ => false
  operations : Nat := 0

namespace Storage

def has (s : Storage) (path : String) : Bool := s.files.any (·.1 == path)

def content? (s : Storage) (path : String) : Option (List UInt8) := s.files.lookup path

/-- The paths of files and directories. -/
def paths (s : Storage) : List String := s.files.map (·.1) ++ s.directories

/-- A new name. -/
def freshName (s : Storage) : Text.Uuid × Storage :=
  (s.names s.named, { s with named := s.named + 1 })

/-- Count an operation, and do it unless it fails. -/
def attempt (s : Storage) (f : List (String × List UInt8) → List (String × List UInt8)) :
    Bool × Storage :=
  let s' := { s with operations := s.operations + 1 }
  if s.fails s.operations then (false, s') else (true, { s' with files := f s.files })

def setContent (path : String) (content : List UInt8) (files : List (String × List UInt8)) :
    List (String × List UInt8) :=
  (path, content) :: files.filter (·.1 != path)

/-- Create an empty file. -/
def create (s : Storage) (path : String) : Bool × Storage := s.attempt (setContent path [])

/-- Add bytes to a file. -/
def append (s : Storage) (path : String) (bytes : List UInt8) : Bool × Storage :=
  s.attempt fun files => setContent path ((files.lookup path).getD [] ++ bytes) files

/-- Bring a file's bytes to rest. -/
def flush (s : Storage) : Bool × Storage := s.attempt id

/-- Remove a file; what is no file stays. -/
def remove (s : Storage) (path : String) : Storage :=
  { s with files := s.files.filter (·.1 != path) }

def removeAll (s : Storage) (paths : List String) : Storage := paths.foldl remove s

end Storage
end RestKit.Upload
