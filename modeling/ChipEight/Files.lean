/-
Paths and what stands at them.

A path is shown in a normal form, without empty and single-dot components but with the
double-dot ones kept.  What stands at a path is one of seven things; whoever reads or writes a
file decides by it, and the wording of a refusal is that of the operating system.

A `Tree` is a working directory with some files in it, for use without a file system.
Outside of it there is only what a list of absolute paths says.
-/
import ChipEight.Text.Detail
import ChipEight.Word

namespace ChipEight.Files

/-- The components of a path that its normal form keeps. -/
def components (path : String) : List String :=
  (path.splitOn "/").filter fun c => !c.isEmpty && c != "."

/-- The slashes in front of an absolute path: two stay two, and more become one. -/
def root (path : String) : String :=
  match path.toList with
  | '/' :: '/' :: '/' :: _ => "/"
  | '/' :: '/' :: _ => "//"
  | '/' :: _ => "/"
  | _ => ""

/-- The normal form of a path; a path without components is the working directory. -/
def normalize (path : String) : String :=
  let text := root path ++ "/".intercalate (components path)
  if text.isEmpty then "." else text

/-- Whether a text can be handed to the operating system, which ends it at a zero character. -/
def isUsable (text : String) : Bool := !text.contains '\x00'

/-- The wording for a text that cannot be handed to the operating system. -/
def unusableMessage : String := "embedded null byte"

/-- The last component of a path. -/
def name (path : String) : String := (components path).getLast?.getD ""

/-- What stands at a path. -/
inductive Entry where
  /-- A file with its contents. -/
  | file (bytes : List Byte)
  /-- A directory. -/
  | directory
  /-- Nothing, in a directory that is there. -/
  | absent
  /-- Nothing, and a directory on the way is missing too. -/
  | unreachable
  /-- Nothing, because a file stands where a directory is needed. -/
  | blocked
  /-- Nothing, because a name on the way or the path itself is too long. -/
  | tooLong
  /-- A device that has no room for any bytes. -/
  | full
  deriving DecidableEq, Repr

/-- Why a file cannot be read or written. -/
inductive Error where
  /-- There is no such file or directory. -/
  | notFound
  /-- The user may not do that. -/
  | notPermitted
  /-- A component of the path is no directory. -/
  | notADirectory
  /-- The path is a directory. -/
  | isADirectory
  /-- The path or one of its components is too long. -/
  | nameTooLong
  /-- There is no room for the bytes. -/
  | noRoom
  deriving DecidableEq, Repr

namespace Error

/-- The number of an error. -/
def number : Error → Nat
  | notFound => 2
  | notPermitted => 13
  | notADirectory => 20
  | isADirectory => 21
  | nameTooLong => 36
  | noRoom => 28

/-- The reason of an error in words. -/
def reason : Error → String
  | notFound => "No such file or directory"
  | notPermitted => "Permission denied"
  | notADirectory => "Not a directory"
  | isADirectory => "Is a directory"
  | nameTooLong => "File name too long"
  | noRoom => "No space left on device"

/-- Whether an error concerns a path and not what is written to it. -/
def isOfPath : Error → Bool
  | noRoom => false
  | _ => true

/-- An error in words, with its number and the path if it concerns one. -/
def message (e : Error) (path : String) : String :=
  Text.Detail.describeSystem
    ([.number e.number, .text e.reason] ++ if e.isOfPath then [.text path] else [])

end Error

/-- The contents of a file. -/
def Entry.contents : Entry → Except Error (List Byte)
  | .file bytes => .ok bytes
  | .full => .ok []
  | .directory => .error .isADirectory
  | .absent | .unreachable => .error .notFound
  | .blocked => .error .notADirectory
  | .tooLong => .error .nameTooLong

/-- Whether a file can be written, with some bytes or with none. -/
def Entry.writable (someBytes : Bool) : Entry → Except Error Unit
  | .file _ | .absent => .ok ()
  | .full => if someBytes then .error .noRoom else .ok ()
  | .directory => .error .isADirectory
  | .unreachable => .error .notFound
  | .blocked => .error .notADirectory
  | .tooLong => .error .nameTooLong

/-- The greatest number of bytes of a component of a path. -/
def maxNameBytes : Nat := 255

/-- The greatest number of bytes of a path. -/
def maxPathBytes : Nat := 4095

/-- A working directory: its files with their names, where a slash leads into a directory, and
what is known of the world outside. -/
structure Tree where
  /-- The files. -/
  files : List (String × List Byte)
  /-- What stands at absolute paths, without a slash at the start. -/
  outside : List (String × Entry)

namespace Tree

/-- Where a path leads. -/
inductive Place where
  /-- Into the tree, by these components. -/
  | inside (path : List String)
  /-- Above the tree, where nothing is known to be. -/
  | above
  /-- Into the world outside, by these components from its root. -/
  | outside (path : List String)

/-- The file with these components. -/
def file? (t : Tree) (path : List String) : Option (List Byte) :=
  t.files.lookup ("/".intercalate path)

/-- Whether some file stands below these components. -/
def isDirectory (t : Tree) (path : List String) : Bool :=
  t.files.any fun f =>
    let parts := f.1.splitOn "/"
    path.isPrefixOf parts && path.length < parts.length

/-- The directory above a place. -/
def Place.parent : Place → Place
  | inside [] | above => above
  | inside (c :: path) => inside (c :: path).dropLast
  | outside path => outside path.dropLast

/-- The place under a name in a place. -/
def Place.child (name : String) : Place → Place
  | inside path => inside (path ++ [name])
  | above => above
  | outside path => outside (path ++ [name])

/-- The name that a place has or could have as a file of the tree. -/
def Place.name : Place → Option String
  | inside path => some ("/".intercalate path)
  | _ => none

/-- The file or directory at a place, if there is one. -/
def at? (t : Tree) : Place → Option Entry
  | .inside path =>
    match t.file? path with
    | some bytes => some (.file bytes)
    | none => if t.isDirectory path then some .directory else none
  | .above => none
  | .outside path => t.outside.lookup ("/".intercalate path)

/-- What stands at the end of the given components, starting from a place.  The second part
names the file of the tree that is or could be there. -/
def follow (t : Tree) : Place → List String → Entry × Option String
  | _, [] => (.directory, none)
  | place, c :: rest =>
    if c = "" ∨ c = "." then t.follow place rest
    else if c = ".." then t.follow place.parent rest
    else if maxNameBytes < c.utf8ByteSize then (.tooLong, none)
    else
      let place := place.child c
      match t.at? place with
      | some .directory => t.follow place rest
      | some found => if rest.isEmpty then (found, place.name) else (.blocked, none)
      | none => if rest.all (·.isEmpty) then (.absent, place.name) else (.unreachable, none)

/-- What stands at a path, and the name of the file of the tree that is or could be there. -/
def locate (t : Tree) (path : String) : Entry × Option String :=
  if path.isEmpty then (.unreachable, none)
  else if maxPathBytes < path.utf8ByteSize then (.tooLong, none)
  else t.follow (if path.startsWith "/" then .outside [] else .inside []) (path.splitOn "/")

/-- What stands at a path. -/
def entry (t : Tree) (path : String) : Entry := (t.locate path).1

end Tree
end ChipEight.Files
