import Xsd.FilePath
import Xsd.Retrieval
import Xsd.Table

/-!
# File trees

The files of a directory and those below it as a value, and reading them by path.
-/

namespace Xsd

/-- The texts of files under the names on the way to them. -/
structure FileTree where
  files : Table (List (List Char)) String
deriving Inhabited

namespace FileTree

/-- The names on the way to a file. -/
def namesOf (path : String) : List (List Char) :=
  (FilePath.names path.toList).filter FilePath.counts

/-- A tree from paths without steps back. -/
def ofList (files : List (String × String)) : FileTree :=
  ⟨files.foldl (fun t f => t.insert (namesOf f.1) f.2) .empty⟩

/-- There is something below the directory, or it is the one in which the tree stands. -/
def isDirectory (t : FileTree) (directory : List (List Char)) : Bool :=
  directory.isEmpty ||
    t.files.keys.any fun names => directory.isPrefixOf names && directory.length < names.length

/-- Follow names from a directory; the answer is where they lead. A name is looked up in a
directory only. -/
def follow (t : FileTree) (place : List (List Char)) : List (List Char) →
    Except FileFault (List (List Char))
  | [] => .ok place
  | name :: rest =>
    if t.files.contains place then .error .notDirectory
    else if !t.isDirectory place then .error .missing
    else if !FilePath.counts name then follow t place rest
    else if name = ['.', '.'] then
      if place.isEmpty then .error .missing else follow t place.dropLast rest
    else follow t (place ++ [name]) rest

def read (t : FileTree) (path : String) : Except FileFault String := do
  if path.isEmpty || FilePath.isAbsolute path.toList then .error .missing
  let place ← t.follow [] (FilePath.names path.toList)
  match t.files.get? place with
  | some text => .ok text
  | none => .error (if t.isDirectory place then .isDirectory else .missing)

def toFiles (t : FileTree) : Files := ⟨t.read, t.files.size⟩

end FileTree

end Xsd
