import SwapFeed.Text.Cut
import SwapFeed.Text.Split

/-!
# A directory of text files

Files are named by their path below a directory.  Looking a path up follows its parts, with `.` for
the directory itself and `..` for the one above.  A directory can be opened like a file, and has no
content.
-/

namespace SwapFeed

/-- The files below a directory, each with the parts of its path. -/
structure FileTree where
  files : List (List String × String) := []
  deriving Inhabited, Repr

namespace FileTree

open SwapFeed.Text

/-- The parts of a path between its slashes. -/
def parts (path : String) : List String :=
  (splitAll '/' path.toList).map String.ofList

/-- The tree that holds each file under its path. -/
def ofList (files : List (String × String)) : FileTree :=
  ⟨files.map fun file => (parts file.1, file.2)⟩

/-- Whether a list of parts leads to a directory. -/
def isDirectory (tree : FileTree) (place : List String) : Bool :=
  place.isEmpty ||
    tree.files.any fun file => place.isPrefixOf file.1 && place.length < file.1.length

/-- The place that the parts of a path lead to from a place. -/
def follow (tree : FileTree) (place : List String) : List String → Option (List String)
  | [] => some place
  | part :: rest =>
      if !tree.isDirectory place then none
      else if part = "" || part = "." then follow tree place rest
      else if part = ".." then
        if place.isEmpty then none else follow tree place.dropLast rest
      else follow tree (place ++ [part]) rest

/-- The content that opening a path gives; `none` if there is nothing to open. -/
def read? (tree : FileTree) (path : String) : Option String :=
  let path := beforeNul path
  if path.isEmpty || path.startsWith "/" then none
  else
    match tree.follow [] (parts path) with
    | none => none
    | some place =>
        match tree.files.lookup place with
        | some content => some content
        | none => if tree.isDirectory place then some "" else none

end FileTree

end SwapFeed
