import TaskLink.Configuration.Error
import TaskLink.Log.DebugFlags

/-!
# File trees

What lies under a path: nothing, a file with its bytes, or a directory.  A
tree in memory follows paths name by name from its root or from a working
directory.
-/

namespace TaskLink

/-- The bytes of the file under a path, or why it has none; nothing if the path does not exist. -/
abbrev FileView := String → Option (Except FileFault ByteArray)

namespace FileView

def has (view : FileView) (path : String) : Bool :=
  (view path).isSome

def readText (view : FileView) (path : String) : Except FileFault String :=
  match view path with
  | none => .error .missing
  | some (.error fault) => .error fault
  | some (.ok bytes) =>
      match String.fromUTF8? bytes with
      | some text => .ok text
      | none => .error .notText

end FileView

structure FileTree where
  directories : List (List String)
  files : List (List String × ByteArray)

namespace FileTree

def pathNames (path : String) : List String :=
  (DebugFlags.splitAtChar '/' path.toList).map String.ofList

def isDirectory (tree : FileTree) (names : List String) : Bool :=
  names.isEmpty ||
    tree.directories.any names.isPrefixOf ||
    tree.files.any fun (file, _) => names.isPrefixOf file.dropLast

/-- Follow names from a directory; each step but the last has to reach a directory. -/
def walk (tree : FileTree) (place : List String) : List String → Option (List String)
  | [] => some place
  | name :: rest =>
      if !tree.isDirectory place then none
      else if name == "" || name == "." then walk tree place rest
      else if name == ".." then walk tree place.dropLast rest
      else walk tree (place ++ [name]) rest

def view (tree : FileTree) (workingDirectory : String) : FileView := fun path =>
  let start := if path.startsWith "/" then [] else (pathNames workingDirectory).filter (· != "")
  if path == "" then none
  else
    match tree.walk start (pathNames path) with
    | none => none
    | some place =>
        if tree.isDirectory place then some (.error .isDirectory)
        else
          match tree.files.find? fun file => file.1 == place with
          | some (_, bytes) => some (.ok bytes)
          | none => none

end FileTree

end TaskLink
