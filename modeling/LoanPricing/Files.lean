import LoanPricing.Text.Utf8

/-!
# Files — reading by path, and why it fails

A disk answers a path with the bytes of the file there or with the reason why there are none. A
tree is a disk that is known as a whole: the files below the working directory, every directory
existing for a file in it.
-/

namespace LoanPricing

inductive FileFault where
  | notFound
  | notDirectory
  | isDirectory
  | nameTooLong
  /-- The path has a NUL character in it. -/
  | nulInPath
  /-- The file is not a text. -/
  | notUtf8
  /-- Any other reason, in the words of the system. -/
  | other (reason : String)
  deriving DecidableEq, Repr

def FileFault.message : FileFault → String
  | .notFound => "No such file or directory (os error 2)"
  | .notDirectory => "Not a directory (os error 20)"
  | .isDirectory => "Is a directory (os error 21)"
  | .nameTooLong => "File name too long (os error 36)"
  | .nulInPath => "file name contained an unexpected NUL byte"
  | .notUtf8 => "stream did not contain valid UTF-8"
  | .other reason => reason

/-- What each path holds. -/
abbrev Disk := String → Except FileFault (List UInt8)

/-- The text of a file, which has to be UTF-8. -/
def Disk.readText (disk : Disk) (path : String) : Except FileFault String :=
  match disk path with
  | .error f => .error f
  | .ok bytes =>
    match Text.Utf8.decode? bytes with
    | none => .error .notUtf8
    | some cs => .ok (String.ofList cs)

/-- A file of a tree, by the names on the way to it. -/
structure Leaf where
  place : List String
  bytes : List UInt8
  deriving DecidableEq, Repr

structure Tree where
  leaves : List Leaf
  deriving DecidableEq, Repr

namespace Tree

def names (path : String) : List String :=
  (path.toList.splitOn '/').map String.ofList

/-- A name that leads nowhere: none, or a dot. -/
def isIdle (name : String) : Bool :=
  name == "" || name == "."

def ofFiles (files : List (String × List UInt8)) : Tree :=
  { leaves := files.map fun (path, bytes) =>
      { place := (names path).filter fun name => !isIdle name, bytes } }

def file? (tree : Tree) (place : List String) : Option (List UInt8) :=
  (tree.leaves.find? fun leaf => leaf.place == place).map Leaf.bytes

def isDirectory (tree : Tree) (place : List String) : Bool :=
  place.isEmpty ||
    tree.leaves.any fun leaf => place.isPrefixOf leaf.place && place.length < leaf.place.length

/-- What the remaining names lead to from the directory at `place`. Nothing is known outside the
working directory. -/
def walk (tree : Tree) (place : List String) : List String → Except FileFault (List UInt8)
  | [] => .error .isDirectory
  | name :: rest =>
    if isIdle name then tree.walk place rest
    else if name == ".." then
      if place.isEmpty then
        if rest.all fun n => isIdle n || n == ".." then .error .isDirectory else .error .notFound
      else tree.walk place.dropLast rest
    else if 255 < name.utf8ByteSize then .error .nameTooLong
    else
      let next := place ++ [name]
      match tree.file? next with
      | some bytes => if rest.isEmpty then .ok bytes else .error .notDirectory
      | none => if tree.isDirectory next then tree.walk next rest else .error .notFound

def disk (tree : Tree) : Disk := fun path =>
  if path.toList.contains '\x00' then .error .nulInPath
  else if 4095 < path.utf8ByteSize then .error .nameTooLong
  else if path == "" then .error .notFound
  else if path.startsWith "/" then
    if (names path).all isIdle then .error .isDirectory else .error .notFound
  else tree.walk [] (names path)

end Tree

end LoanPricing
