import Interpolation.Files

/-!
# Trees of files

A tree of files knows the contents of its files. The folders that lead to a file are there because
the file is. A path is followed step by step, so that going back out of a folder asks that the
folder exists.
-/

namespace Interpolation

/-- The steps from the root to a file or folder. -/
abbrev Steps := List Text

/-- The folders and the files of a tree. -/
structure FileTree where
  folders : List Steps := []
  files : List (Steps × List UInt8) := []

namespace FileTree

def steps (path : Text) : Steps :=
  (path.splitOn '/').filter fun step => !step.isEmpty && step != ['.']

def addFolder (tree : FileTree) (path : Text) : FileTree :=
  { tree with folders := steps path :: tree.folders }

/-- Add a file, which hides one that was there before. -/
def addFile (tree : FileTree) (path : Text) (content : List UInt8) : FileTree :=
  { tree with files := (steps path, content) :: tree.files }

/-- Whether a folder is there: the root, a folder of its own, or one that leads to a file. -/
def hasFolder (tree : FileTree) (place : Steps) : Bool :=
  place.isEmpty || tree.folders.any (place.isPrefixOf ·) ||
    tree.files.any fun (file, _) => place.isPrefixOf file && place.length < file.length

def content? (tree : FileTree) (place : Steps) : Option (List UInt8) :=
  tree.files.lookup place

/-- Take the steps of a path from a place. Every place on the way has to be a folder. -/
def follow (tree : FileTree) : Steps → List Text → Except ReadError Steps
  | place, [] => .ok place
  | place, step :: rest =>
    if !tree.hasFolder place then
      .error (if (tree.content? place).isSome then .notFolder else .notFound)
    else if step.isEmpty || step = ['.'] then follow tree place rest
    else if step = ['.', '.'] then follow tree place.dropLast rest
    else follow tree (place ++ [step]) rest

/-- The files of a tree. -/
def read (tree : FileTree) : Files := fun path => do
  let place ← tree.follow [] (path.splitOn '/')
  match tree.content? place with
  | some bytes => .ok bytes
  | none => .error (if tree.hasFolder place then .isFolder else .notFound)

end FileTree

end Interpolation
