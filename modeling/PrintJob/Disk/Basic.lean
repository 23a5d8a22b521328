import PrintJob.Disk.Path

/-! # Disks

A disk is a tree of directories and files, kept as a list of what is at each location. An operation
that fails leaves the disk as it was, except that directories created on the way to a failure
stay. -/

namespace PrintJob

/-- A place on a disk: the names from the root down. -/
abbrev Location := List (List Char)

inductive Node where
  | directory
  | file (contents : ByteArray)

/-- What is at each location below the root. The root itself is a directory. -/
structure Disk where
  entries : List (Location × Node)

namespace Disk

def empty : Disk := ⟨[]⟩

instance : Inhabited Disk := ⟨empty⟩

/-- What is at a location, if anything. -/
def at? (disk : Disk) (location : Location) : Option Node :=
  if location = [] then some .directory else disk.entries.lookup location

/-- Puts something at a location in place of what was there. -/
def put (disk : Disk) (location : Location) (node : Node) : Disk :=
  ⟨disk.entries.filter (fun entry => entry.1 != location) ++ [(location, node)]⟩

def remove (disk : Disk) (location : Location) : Disk :=
  ⟨disk.entries.filter fun entry => entry.1 != location⟩

def isDirectory (disk : Disk) (location : Location) : Bool :=
  match disk.at? location with
  | some .directory => true
  | _ => false

/-- The largest number of bytes in a name. -/
def longestName : Nat := 255

/-- A name that a disk can hold. -/
def isName (name : List Char) : Bool :=
  !name.contains '\x00' && (String.ofList name).utf8ByteSize ≤ longestName

/-- Follows names from a location. Every name but the last leads through a directory. -/
def follow (disk : Disk) : Location → List (List Char) → Option Location
  | location, [] => some location
  | location, name :: rest =>
    if !disk.isDirectory location then none
    else if name = Path.above then disk.follow location.dropLast rest
    else if isName name then disk.follow (location ++ [name]) rest
    else none

/-- The names of a path that count. -/
def names (path : String) : List (List Char) :=
  (Text.pieces '/' path.toList).filter fun name => !Path.isIdle name

/-- A path that ends in a slash or a dot can only lead to a directory. -/
def endsInDirectory (path : String) : Bool :=
  match (Text.pieces '/' path.toList).getLast? with
  | some name => Path.isIdle name
  | none => false

/-- The location that a path leads to, whether there is something or not. -/
def locate? (disk : Disk) (path : String) : Option Location :=
  if path.isEmpty then none else disk.follow [] (names path)

def find? (disk : Disk) (path : String) : Option Node :=
  match disk.locate? path with
  | none => none
  | some location =>
    match disk.at? location with
    | some .directory => some .directory
    | some (.file contents) => if endsInDirectory path then none else some (.file contents)
    | none => none

def pathExists (disk : Disk) (path : String) : Bool := (disk.find? path).isSome

/-- The text of a file, if it is one. -/
def readText (disk : Disk) (path : String) : Option String :=
  match disk.find? path with
  | some (.file contents) => String.fromUTF8? contents
  | _ => none

/-- Creates the missing directories along names from a location. The walk ends at a file. -/
def makeDirectories (disk : Disk) : Location → List (List Char) → Bool × Disk
  | _, [] => (true, disk)
  | location, name :: rest =>
    if name = Path.above then disk.makeDirectories location.dropLast rest
    else if !isName name then (false, disk)
    else
      let next := location ++ [name]
      match disk.at? next with
      | some .directory => disk.makeDirectories next rest
      | some (.file _) => (false, disk)
      | none => (disk.put next .directory).makeDirectories next rest

/-- Creates the directory of a path and those above it where they are missing. -/
def createDirectories (disk : Disk) (path : String) : Bool × Disk :=
  disk.makeDirectories [] (names path)

/-- Writes a file, in place of one that is there already. Its directory has to be there. -/
def writeBytes (disk : Disk) (path : String) (contents : ByteArray) : Bool × Disk :=
  if endsInDirectory path then (false, disk)
  else
    match disk.locate? path with
    | none => (false, disk)
    | some location =>
      if disk.isDirectory location then (false, disk)
      else (true, disk.put location (.file contents))

def writeText (disk : Disk) (path text : String) : Bool × Disk :=
  disk.writeBytes path text.toUTF8

/-- Moves a file, in place of one that is there already. -/
def rename (disk : Disk) (source target : String) : Bool × Disk :=
  match disk.locate? source, disk.find? source, disk.locate? target with
  | some old, some (.file contents), some new =>
    if endsInDirectory target || disk.isDirectory new then (false, disk)
    else if old = new then (true, disk)
    else (true, (disk.remove old).put new (.file contents))
  | _, _, _ => (false, disk)

end Disk

end PrintJob
