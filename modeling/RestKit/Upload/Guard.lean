import RestKit.Upload.File
import RestKit.Upload.Storage
/-!
# File guards

A guard holds the files of a request and removes them when it is dropped. Disarming it hands the
files on.
-/
namespace RestKit.Upload

/-- Paths of files that are removed with the guard (`PersistedFiles`). -/
structure Guard where
  paths : List String
deriving DecidableEq, Repr

namespace Guard

/-- The guard of a request's files (`from_uploads`). -/
def ofFiles (files : Files) : Guard := ⟨(Grouped.all files).map File.path⟩

def size (g : Guard) : Nat := g.paths.length

/-- Remove the files (`drop`). -/
def drop (g : Guard) (s : Storage) : Storage := s.removeAll g.paths

/-- The files, and a guard that holds none (`disarm`). -/
def disarm (g : Guard) : List String × Guard := (g.paths, ⟨[]⟩)

end Guard
end RestKit.Upload
