import PrintJob.Reason.Basic
import PrintJob.Text.Numeral
import PrintJob.Text.Pieces

/-! # Command lines

A command line is read level by level. Each level has switches, options with a value and at most one
operand, or else subcommands. An option may come anywhere on its level and only once. -/

namespace PrintJob.Command

/-- Why a command line does not lead to an action. -/
inductive Halt where
  | usage
  | help
  | version
  deriving DecidableEq, Repr

/-- What a level of the command line takes. Values and operands are tested as they are read. -/
structure Level where
  switches : List String := []
  options : List (String × (String → Bool)) := []
  operand : Option (String → Bool) := none
  subcommands : List String := []
  /-- Whether the level tells the version of the program. -/
  tellsVersion : Bool := false

/-- What a level was given. -/
structure Given where
  switches : List String := []
  options : List (String × String) := []
  operand : Option String := none
  /-- The arguments from the name of the subcommand on. -/
  rest : List String := []
  deriving DecidableEq, Repr

namespace Given

def option? (given : Given) (name : String) : Option String := given.options.lookup name

def hasSwitch (given : Given) (name : String) : Bool := given.switches.contains name

end Given

/-- The name of a long option and the value that follows an equals sign in it. -/
def splitLong (text : List Char) : String × Option String :=
  let name := text.takeWhile (· != '=')
  match text.dropWhile (· != '=') with
  | [] => (String.ofList name, none)
  | _ :: value => (String.ofList name, some (String.ofList value))

/-- An argument that cannot be the value of the option before it. -/
def looksLikeOption (arg : String) : Bool := arg.startsWith "-" && arg != "-"

namespace Level

def takeOption (level : Level) (given : Given) (name value : String) : Except Halt Given :=
  match level.options.lookup name with
  | none => .error .usage
  | some accepts =>
    if (given.option? name).isSome || !accepts value then .error .usage
    else .ok { given with options := given.options ++ [(name, value)] }

def takeSwitch (given : Given) (name : String) : Except Halt Given :=
  if given.hasSwitch name then .error .usage
  else .ok { given with switches := given.switches ++ [name] }

def takeOperand (level : Level) (given : Given) (value : String) : Except Halt Given :=
  match level.operand, given.operand with
  | some accepts, none =>
    if accepts value then .ok { given with operand := some value } else .error .usage
  | _, _ => .error .usage

/-- Takes the operands after the mark that ends the options. -/
def takeOperands (level : Level) (given : Given) : List String → Except Halt Given
  | [] => .ok given
  | value :: rest =>
    match level.takeOperand given value with
    | .error halt => .error halt
    | .ok given => level.takeOperands given rest

/-- What a cluster of one-letter options leads to. -/
def readShort (level : Level) : List Char → Halt
  | 'h' :: _ => .help
  | 'V' :: _ => if level.tellsVersion then .version else .usage
  | _ => .usage

/-- What a long option leads to that is neither a switch nor takes a value on this level. -/
def readOther (level : Level) (name : String) (value : Option String) : Halt :=
  if value.isSome then .usage
  else if name = "help" then .help
  else if name = "version" && level.tellsVersion then .version
  else .usage

/-- Reads the arguments of a level up to the name of a subcommand. -/
def read (level : Level) (given : Given) : List String → Except Halt Given
  | [] => .ok given
  | arg :: rest =>
    match arg.toList with
    | ['-', '-'] => level.takeOperands given rest
    | '-' :: '-' :: text =>
      let (name, value) := splitLong text
      if level.switches.contains name then
        if value.isSome then .error .usage
        else
          match takeSwitch given name with
          | .error halt => .error halt
          | .ok given => level.read given rest
      else if (level.options.lookup name).isSome then
        match value, rest with
        | some value, rest =>
          match level.takeOption given name value with
          | .error halt => .error halt
          | .ok given => level.read given rest
        | none, value :: rest =>
          if looksLikeOption value then .error .usage
          else
            match level.takeOption given name value with
            | .error halt => .error halt
            | .ok given => level.read given rest
        | none, [] => .error .usage
      else .error (level.readOther name value)
    | '-' :: c :: text => .error (level.readShort (c :: text))
    | _ =>
      if level.subcommands.isEmpty then
        match level.takeOperand given arg with
        | .error halt => .error halt
        | .ok given => level.read given rest
      else if level.subcommands.contains arg then .ok { given with rest := arg :: rest }
      else if arg = "help" then .error .help
      else .error .usage

end Level

/-! ## The actions -/

/-- What the program is asked to do. -/
inductive Action where
  | plan (job : String) (json : Bool)
  /-- With the number of the page transmission that is to fail. -/
  | submit (job : String) (failAt : Option Nat)
  | decode (bits : String) (family : ReasonFamily) (joined : Bool)
  | initSettings (path : String)
  | showSettings
  deriving DecidableEq, Repr

/-- An action with the path of the settings file. -/
structure Invocation where
  settings : Option String
  action : Action
  deriving DecidableEq, Repr

/-- A path has at least one character. -/
def isPath (text : String) : Bool := !text.isEmpty

/-- Reads a count that fits into a machine word. -/
def readCount? (text : String) : Option Nat :=
  match Text.readNat 10 UInt64.size text.toList with
  | .ok n => some n
  | .error _ => none

def readFamily? (text : String) : Option ReasonFamily :=
  [("blocked", ReasonFamily.blocked), ("failed", ReasonFamily.failed)].lookup text

/-- The option for the settings file, which every level has. -/
def settingsOption : String × (String → Bool) := ("config", isPath)

def topLevel : Level :=
  { options := [settingsOption]
    subcommands := ["plan", "submit", "decode", "config"]
    tellsVersion := true }

def planLevel : Level :=
  { switches := ["json"], options := [settingsOption], operand := some isPath }

def submitLevel : Level :=
  { options := [settingsOption, ("fail-at", fun text => (readCount? text).isSome)]
    operand := some isPath }

def decodeLevel : Level :=
  { switches := ["joined"]
    options := [settingsOption, ("table", fun text => (readFamily? text).isSome)]
    operand := some fun _ => true }

def configLevel : Level := { options := [settingsOption], subcommands := ["init", "show"] }

def configInitLevel : Level := { options := [settingsOption], operand := some isPath }

def configShowLevel : Level := { options := [settingsOption] }

/-- The operand of a level, which has to be there. -/
def required (given : Given) : Except Halt String :=
  match given.operand with
  | some value => .ok value
  | none => .error .usage

/-- Of the settings files given on several levels the innermost one counts. -/
def innermost (levels : List Given) : Option String := levels.findSome? (·.option? "config")

/-- Reads the arguments after the word for the settings. -/
def readConfig (top : Given) (args : List String) : Except Halt Invocation := do
  let given ← configLevel.read {} args
  match given.rest with
  | "init" :: args =>
    let leaf ← configInitLevel.read {} args
    let path ← required leaf
    .ok ⟨innermost [leaf, given, top], .initSettings path⟩
  | "show" :: args =>
    let leaf ← configShowLevel.read {} args
    .ok ⟨innermost [leaf, given, top], .showSettings⟩
  | _ => .error .usage

/-- Reads a command line without the name of the program. -/
def readArguments (args : List String) : Except Halt Invocation := do
  let top ← topLevel.read {} args
  match top.rest with
  | "plan" :: args =>
    let leaf ← planLevel.read {} args
    let job ← required leaf
    .ok ⟨innermost [leaf, top], .plan job (leaf.hasSwitch "json")⟩
  | "submit" :: args =>
    let leaf ← submitLevel.read {} args
    let job ← required leaf
    .ok ⟨innermost [leaf, top], .submit job ((leaf.option? "fail-at").bind readCount?)⟩
  | "decode" :: args =>
    let leaf ← decodeLevel.read {} args
    let bits ← required leaf
    let family := ((leaf.option? "table").bind readFamily?).getD .blocked
    .ok ⟨innermost [leaf, top], .decode bits family (leaf.hasSwitch "joined")⟩
  | "config" :: args => readConfig top args
  | _ => .error .usage

end PrintJob.Command
