import PrintJob.Text.Pieces

/-! # Paths

A path is a text of names with slashes between them. Empty names and single dots in it do not count;
a leading dot does, as the current directory. -/

namespace PrintJob.Path

/-- A name that does not count: nothing or a single dot. -/
def isIdle (name : List Char) : Bool := name == [] || name == ['.']

def above : List Char := ['.', '.']

/-- The start of a path before its names: the root, a leading dot, or nothing. -/
def head : List Char → List Char
  | '/' :: _ => ['/']
  | ['.'] => ['.']
  | '.' :: '/' :: _ => ['.']
  | _ => []

/-- Drops the idle names at the end. -/
def dropIdle (names : List (List Char)) : List (List Char) :=
  (names.reverse.dropWhile isIdle).reverse

/-- The last name of a path, and the names before it. -/
def splitLast (path : List Char) : Option (List (List Char) × List Char) :=
  let names := dropIdle (Text.pieces '/' (path.drop (head path).length))
  match names.getLast? with
  | none => none
  | some last => some (names.dropLast, last)

/-- The path of the directory that holds the path. The root and the empty path have none. -/
def parent? (path : List Char) : Option (List Char) :=
  match splitLast path with
  | some (before, _) => some (head path ++ Text.join '/' (dropIdle before))
  | none => if head path == ['.'] then some [] else none

/-- The name of the file, if the path ends in a name. -/
def fileName? (path : List Char) : Option (List Char) :=
  match splitLast path with
  | some (_, last) => if last == above then none else some last
  | none => none

/-- A file name without its extension. A dot at the start begins no extension. -/
def stem (name : List Char) : List Char :=
  let before := (name.reverse.dropWhile (· != '.')).drop 1
  if before.isEmpty then name else before.reverse

/-- The path with the extension of its file name replaced. A path without a file name stays. -/
def withExtension (path extension : List Char) : List Char :=
  match splitLast path with
  | some (before, last) =>
    if last == above then path
    else head path ++ Text.join '/' (before ++ [stem last]) ++ '.' :: extension
  | none => path

end PrintJob.Path
