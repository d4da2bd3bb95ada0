/-!
# File paths

A volume in a directory has a file name, which a copy extends in front of its extension, and a path,
which is the file name below the directory of its pool. Paths are taken apart at `/`: empty parts
and parts that are a single dot name nothing, and a path whose last part is `..` has no file name.
-/

namespace DiskFleet.FilePath

/-- A path that begins at the root. -/
def isAbsolute (path : String) : Bool := path.toList.head? == some '/'

/-- The parts of a path between its slashes; `part` holds the one being read, backwards. -/
def partsFrom (part : List Char) : List Char → List (List Char)
  | [] => [part.reverse]
  | c :: rest => if c = '/' then part.reverse :: partsFrom [] rest else partsFrom (c :: part) rest

/-- The parts of a path that name something. -/
def parts (path : List Char) : List (List Char) :=
  (partsFrom [] path).filter fun part => part ≠ [] ∧ part ≠ ['.']

/-- The last part of a path, unless it leads up or there is none. -/
def fileName? (path : String) : Option String :=
  match (parts path.toList).getLast? with
  | none => none
  | some name => if name = ['.', '.'] then none else some (String.ofList name)

/-- A file name taken apart at its last dot, which must neither begin nor be missing: the stem in
front and the extension behind it. -/
def splitExtension? (name : List Char) : Option (List Char × List Char) :=
  let extension := (name.reverse.takeWhile (· ≠ '.')).reverse
  let stem := ((name.reverse.dropWhile (· ≠ '.')).drop 1).reverse
  if stem = [] then none else some (stem, extension)

/-- The file name of a copy: `base.qcow2` with the suffix `s1` is `base_s1.qcow2`. A name without an
extension gets the suffix at its end. -/
def withSuffix (path suffix : String) : String :=
  match (fileName? path).bind fun name => splitExtension? name.toList with
  | some (stem, extension) => String.ofList stem ++ "_" ++ suffix ++ "." ++ String.ofList extension
  | none => path ++ "_" ++ suffix

/-- A name below a directory. An absolute name stands alone. -/
def join (directory name : String) : String :=
  if isAbsolute name then name
  else if directory.isEmpty ∨ directory.toList.getLast? = some '/' then directory ++ name
  else directory ++ "/" ++ name

end DiskFleet.FilePath
