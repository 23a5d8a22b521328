import PrintJob.Disk.Files
import PrintJob.Json.Printer
import PrintJob.Json.Reader
import PrintJob.Records.Settings

/-! # Stored settings

Settings are kept in a file of JSON. They are mended when they are loaded. To save them, a temporary
file beside the target is written and then moved into its place. -/

namespace PrintJob

/-- What went wrong with a settings file. -/
inductive SettingsError where
  | unreadable (path : String)
  | malformed (path : String)
  | unwritable (path : String)
  | noDirectory (path : String)
  deriving DecidableEq, Repr

def SettingsError.message : SettingsError → String
  | unreadable path => "failed to read sequencer config " ++ path
  | malformed path => "failed to parse sequencer config " ++ path
  | unwritable path => "failed to write sequencer config " ++ path
  | noDirectory path => "failed to prepare directory " ++ path

namespace Settings

def fileText (settings : Settings) : String := settings.toJson.pretty

def ofFileText? (text : String) : Option Settings := (Json.parse? text).bind ofJson?

/-- The temporary file for a settings file. -/
def temporaryPath (path : String) : String :=
  String.ofList (Path.withExtension path.toList ['t', 'm', 'p'])

/-- The directory of a settings file, if the path names one. -/
def directoryPath (path : String) : Option String :=
  ((Path.parent? path.toList).filter fun parent => !parent.isEmpty).map String.ofList

variable {m : Type → Type} [Monad m]

def load (files : Files m) (path : String) : m (Except SettingsError Settings) := do
  match ← files.readText path with
  | none => pure (.error (.unreadable path))
  | some text =>
    match ofFileText? text with
    | none => pure (.error (.malformed path))
    | some settings => pure (.ok settings.mend)

/-- Loads a settings file, or takes the default settings if there is nothing at the path. -/
def loadIfPresent (files : Files m) (path : String) : m (Except SettingsError Settings) := do
  if ← files.pathExists path then load files path else pure (.ok {})

/-- Writes the temporary file and moves it into place. -/
def replaceFile (files : Files m) (settings : Settings) (path : String) :
    m (Except SettingsError Unit) := do
  let temporary := temporaryPath path
  if ← files.writeText temporary settings.fileText then
    if ← files.rename temporary path then pure (.ok ()) else pure (.error (.unwritable path))
  else pure (.error (.unwritable temporary))

/-- Saves settings to a file, creating its directory where it is missing. -/
def save (files : Files m) (settings : Settings) (path : String) :
    m (Except SettingsError Unit) := do
  match directoryPath path with
  | none => replaceFile files settings path
  | some directory =>
    if ← files.createDirectories directory then replaceFile files settings path
    else pure (.error (.noDirectory directory))

end Settings

end PrintJob
