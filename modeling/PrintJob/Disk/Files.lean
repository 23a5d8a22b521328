import PrintJob.Disk.Basic

/-! # Access to files

The operations on files that the program uses. Each says whether it succeeded. A disk gives one way
to carry them out. -/

namespace PrintJob

/-- Operations on files that run in a monad. -/
structure Files (m : Type → Type) where
  pathExists : String → m Bool
  /-- The text of a file; none if there is no file or its bytes are no text. -/
  readText : String → m (Option String)
  /-- Creates a directory and those above it where they are missing. -/
  createDirectories : String → m Bool
  writeText : String → String → m Bool
  rename : String → String → m Bool

def Disk.files : Files (StateM Disk) :=
  { pathExists := fun path disk => (disk.pathExists path, disk)
    readText := fun path disk => (disk.readText path, disk)
    createDirectories := fun path disk => disk.createDirectories path
    writeText := fun path text disk => disk.writeText path text
    rename := fun source target disk => disk.rename source target }

namespace Disk

@[simp] theorem files_readText (path : String) (disk : Disk) :
    files.readText path disk = (disk.readText path, disk) := rfl

@[simp] theorem files_writeText (path text : String) (disk : Disk) :
    files.writeText path text disk = disk.writeText path text := rfl

@[simp] theorem files_rename (source target : String) (disk : Disk) :
    files.rename source target disk = disk.rename source target := rfl

end Disk

end PrintJob
