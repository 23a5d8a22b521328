import PrintJob.Command.Arguments
import PrintJob.Command.Console
import PrintJob.Command.Description
import PrintJob.Reason.Decode
import PrintJob.Settings.Store
import PrintJob.Text.Blank

/-! # Running a command

A command reads and writes files, shows lines and succeeds or fails with a chain of errors. -/

namespace PrintJob.Command

inductive Ending where
  | success
  /-- The wording of the error, then that of its cause, and so on. -/
  | failure (chain : List String)
  | usage
  deriving DecidableEq, Repr

/-- What a run showed and how it ended. -/
structure Report where
  lines : List String
  ending : Ending
  deriving DecidableEq, Repr

namespace Report

def ok (lines : List String) : Report := ⟨lines, .success⟩

/-- A run that failed before it showed anything. -/
def failed (chain : List String) : Report := ⟨[], .failure chain⟩

def exitCode (report : Report) : Nat :=
  match report.ending with
  | .success => 0
  | .failure _ => 1
  | .usage => 2

def output (report : Report) : String := String.join (report.lines.map (· ++ "\n"))

/-- What the run says about its failure. -/
def complaint (report : Report) : Option String :=
  match report.ending with
  | .failure chain => some ("Error: " ++ String.intercalate ": " chain)
  | _ => none

end Report

/-! ## Status words -/

/-- The number that an argument spells: decimal, or hexadecimal behind a mark. -/
def readBits (text : String) : Except Text.NumeralError Nat :=
  match Text.trim text.toList with
  | '0' :: 'x' :: digits => Text.readNat 16 UInt64.size digits
  | '0' :: 'X' :: digits => Text.readNat 16 UInt64.size digits
  | digits => Text.readNat 10 UInt64.size digits

def runDecode (bits : String) (family : ReasonFamily) (joined : Bool) : Report :=
  match readBits bits with
  | .error error => .failed ["invalid bitmask '" ++ bits ++ "'", error.message]
  | .ok n =>
    let symbols := StatusWord.decodeFamily (BitVec.ofNat 64 n) family
    .ok (if joined then [symbols.joined] else symbols.toList)

/-! ## Jobs -/

/-- The connection and the checked capabilities of a described printer. -/
def describedPrinter (description : JobDescription) (settings : Settings) :
    Except UnreachablePrinter (Connection × Capabilities) :=
  let connection := Connection.ofSettings description.address description.port settings
  match connection.ask (fun _ => .ok description.capabilities) with
  | .ok capabilities => .ok (connection, capabilities)
  | .error error => .error error

/-- The chain of errors for a printer that gave no answer. -/
def unreachableChain (error : UnreachablePrinter) : List String :=
  ["failed to query " ++ error.target, error.message]

def runPlan (description : JobDescription) (settings : Settings) (json : Bool) : Report :=
  match describedPrinter description settings with
  | .error error => .failed (unreachableChain error)
  | .ok (_, capabilities) =>
    match SettledJob.ofDescriptors description.documents description.params capabilities with
    | .error error => .failed [error.message]
    | .ok settled => .ok (if json then [(planJson settled).pretty] else planLines settled)

/-- Submits a job to the console. -/
def runSubmit (description : JobDescription) (settings : Settings) (failAt : Option Nat) : Report :=
  match describedPrinter description settings with
  | .error error => .failed (unreachableChain error)
  | .ok (connection, capabilities) =>
    let submission : Submission :=
      { connection
        documents := description.documents
        params := description.params
        capabilities
        debugDir := settings.debugDir }
    let (outcome, console) :=
      (Console.transport failAt).session settings.source submission
        (fun job console => console.print ("submitted " ++ job.text)) {}
    match outcome with
    | .ok () => ⟨console.lines, .success⟩
    | .error chain => ⟨console.lines, .failure chain⟩

/-! ## Files -/

variable {m : Type → Type} [Monad m]

/-- The settings in effect: those of the file given, or the default ones. -/
def loadSettings (files : Files m) (path : Option String) :
    m (Except (List String) Settings) := do
  match path with
  | none => pure (.ok {})
  | some path =>
    match ← Settings.loadIfPresent files path with
    | .ok settings => pure (.ok settings)
    | .error error => pure (.error ["failed to load configuration from " ++ path, error.message])

def loadJob (files : Files m) (path : String) : m (Except (List String) JobDescription) := do
  match ← files.readText path with
  | none => pure (.error ["failed to read " ++ path])
  | some text =>
    match JobDescription.ofText? text with
    | none => pure (.error ["failed to parse job description " ++ path])
    | some description => pure (.ok description)

/-- Loads the settings and a job and goes on with them. -/
def withJob (files : Files m) (settingsPath : Option String) (path : String)
    (run : JobDescription → Settings → Report) : m Report := do
  match ← loadSettings files settingsPath with
  | .error chain => pure (.failed chain)
  | .ok settings =>
    match ← loadJob files path with
    | .error chain => pure (.failed chain)
    | .ok description => pure (run description settings)

/-- Writes a file of default settings where nothing is yet. -/
def runInitSettings (files : Files m) (path : String) : m Report := do
  if ← files.pathExists path then pure (.failed [path ++ " already exists"])
  else
    match ← Settings.save files {} path with
    | .error error => pure (.failed ["failed to write " ++ path, error.message])
    | .ok () => pure (.ok ["wrote " ++ path])

def runShowSettings (files : Files m) (path : Option String) : m Report := do
  match ← loadSettings files path with
  | .error chain => pure (.failed chain)
  | .ok settings => pure (.ok [settings.fileText])

def runAction (files : Files m) (invocation : Invocation) : m Report :=
  match invocation.action with
  | .plan path json =>
    withJob files invocation.settings path fun job settings => runPlan job settings json
  | .submit path failAt =>
    withJob files invocation.settings path fun job settings => runSubmit job settings failAt
  | .decode bits family joined => pure (runDecode bits family joined)
  | .initSettings path => runInitSettings files path
  | .showSettings => runShowSettings files invocation.settings

def versionLine : String := "printseq-cli 0.1.0"

def helpLines : List String :=
  ["Plan and inspect print jobs for network printers", "",
    "Usage: printseq-cli [--config PATH] plan JOB [--json]",
    "       printseq-cli [--config PATH] submit JOB [--fail-at N]",
    "       printseq-cli decode BITS [--table blocked|failed] [--joined]",
    "       printseq-cli config init PATH",
    "       printseq-cli [--config PATH] config show"]

/-- Carries out a command line. -/
def run (files : Files m) (args : List String) : m Report :=
  match readArguments args with
  | .error .usage => pure ⟨[], .usage⟩
  | .error .help => pure (.ok helpLines)
  | .error .version => pure (.ok [versionLine])
  | .ok invocation => runAction files invocation

end PrintJob.Command
