import VirtualPrinter.Text.Lines

/-!
# Where stored data is looked for

A path is a list of names between slashes.  It is followed from the root or, without a slash in
front, from the working directory, one name at a time.  No stored file is assumed to be there: what
can be found are the directories that every system has and the device that is always empty.

## Main definitions

* `Machine.ReadFailure`, and its text `ReadFailure.message`.
* `Machine.Place`: what is found at a path, and `Place.enter`: one name further.
* `Machine.readPath`: the text at a path, or why there is none.
-/

namespace VirtualPrinter.Machine

/-- Why a file cannot be read. -/
inductive ReadFailure where
  | invalidPath
  | missing
  | notDirectory
  | directory
  | nameTooLong
deriving DecidableEq

/-- The text of a failure to read. -/
def ReadFailure.message : ReadFailure → String
  | .invalidPath => "file name contained an unexpected NUL byte"
  | .missing => "No such file or directory (os error 2)"
  | .notDirectory => "Not a directory (os error 20)"
  | .directory => "Is a directory (os error 21)"
  | .nameTooLong => "File name too long (os error 36)"

/-- The directories below the root that every system has. -/
def standardDirectories : List String := [
  "/bin", "/boot", "/dev", "/dev/pts", "/dev/shm", "/etc", "/home", "/lib", "/lib64", "/media",
  "/mnt", "/opt", "/proc", "/proc/self", "/root", "/run", "/sbin", "/srv", "/sys", "/tmp", "/usr",
  "/usr/bin", "/usr/lib", "/usr/local", "/usr/local/bin", "/usr/sbin", "/usr/share", "/var",
  "/var/cache", "/var/lib", "/var/log", "/var/tmp"]

/-- The most bytes in a name. -/
def longestName : Nat := 255

/-- The bytes in which a path has to fit, with the one that ends it. -/
def pathCapacity : Nat := 4096

/-- What is found at a path. -/
inductive Place where
  /-- A directory, by its path from the root; the root is at the empty path. -/
  | directory (path : List Char)
  /-- The device that is always empty. -/
  | empty
deriving DecidableEq

namespace Place

/-- The working directory: one below the root, with nothing in it. -/
def working : Place := .directory "/.".toList

/-- The path without its last name; the root is its own parent. -/
def parent (path : List Char) : List Char :=
  ((path.reverse.dropWhile (· != '/')).drop 1).reverse

/-- What is found one name further. -/
def enter (p : Place) (name : List Char) : Except ReadFailure Place :=
  match p with
  | .empty => .error .notDirectory
  | .directory path =>
    let inner := path ++ '/' :: name
    if name.isEmpty || name == ['.'] then .ok p
    else if name == ['.', '.'] then .ok (.directory (parent path))
    else if longestName < (String.ofList name).utf8ByteSize then .error .nameTooLong
    else if standardDirectories.contains (String.ofList inner) then .ok (.directory inner)
    else if inner == "/dev/null".toList then .ok .empty
    else .error .missing

/-- What is found at a path. -/
def find (path : List Char) : Except ReadFailure Place :=
  (Text.splitOn '/' path).foldlM enter (if path.head? == some '/' then .directory [] else working)

/-- The text that is read there. -/
def read : Place → Except ReadFailure String
  | .directory _ => .error .directory
  | .empty => .ok ""

end Place

/-- The text at a path, or why there is none. -/
def readPath (path : String) : Except ReadFailure String :=
  if path.toList.contains '\x00' then .error .invalidPath
  else if path.isEmpty then .error .missing
  else if pathCapacity ≤ path.utf8ByteSize then .error .nameTooLong
  else (Place.find path.toList).bind Place.read

end VirtualPrinter.Machine
