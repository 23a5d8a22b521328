import PrintJob.Command.Run

/-! # The program

The command line over the files and the streams of the system. -/

namespace PrintJob

/-- Whether an action of the system succeeds. -/
def succeeds (action : IO Unit) : IO Bool :=
  try
    action
    pure true
  catch _ => pure false

/-- The files of the system. -/
def systemFiles : Files IO :=
  { pathExists := fun path => succeeds do
      let _ ← IO.FS.Handle.mk path .read
    readText := fun path =>
      try
        let text ← IO.FS.readFile path
        pure (some text)
      catch _ => pure none
    createDirectories := fun path => succeeds (IO.FS.createDirAll path)
    writeText := fun path text => succeeds (IO.FS.writeFile path text)
    rename := fun source target => succeeds (IO.FS.rename source target) }

end PrintJob

/-- Runs a command line and gives its exit code. -/
def main (args : List String) : IO UInt32 := do
  let report ← PrintJob.Command.run PrintJob.systemFiles args
  IO.print report.output
  match report.complaint with
  | some complaint => IO.eprintln complaint
  | none => pure ()
  if report.ending = .usage then IO.eprintln "error: the arguments were not understood"
  pure report.exitCode.toUInt32
