/-
# The program

What the program prints and how it ends, for every action. Replies and notes of
success go to the standard output, errors to the standard error; the program ends
with a code other than zero if something is wrong.
-/

import ChatCommands.CommandSpec.Descriptor
import ChatCommands.Console.CommandLine
import ChatCommands.Console.Host
import ChatCommands.Console.Table
import ChatCommands.Json.Writer

namespace ChatCommands.Console

/-- What a run of the program leaves behind. -/
structure Finish where
  /-- The code it ends with. -/
  code : Nat := 0
  /-- What it prints on the standard output. -/
  output : String := ""
  /-- What it prints on the standard error. -/
  errors : String := ""
deriving DecidableEq, Repr, Inhabited

/-- What the program finds when it is started. -/
structure Surroundings where
  /-- The variables of the environment. -/
  environment : Environment
  files : FileTree

/-- The name and the version of the program. -/
def versionText : String := "switchboard 0.1.0"

/-- A short explanation of the usage. -/
def usageText : String :=
  "Usage: switchboard [--config <CONFIG>] <run|commands|check>"

/-! ## Notes -/

/-- Whether notes and replies are coloured. -/
def supportsColor (environment : Environment) : Bool :=
  !environment.contains "NO_COLOR" &&
    (environment.contains "COLORTERM" ||
      match environment.get? "TERM" with
      | some terminal => terminal != "dumb"
      | none => false)

/-- A line with a painted label. -/
def note (color : Bool) (style : Style) (label text : String) : String :=
  paint color [style] label ++ " " ++ text ++ "\n"

/-- The end of a run without a usable configuration. -/
def Finish.ofError (error : ConfigError) : Finish where
  code := 1
  errors := "Error: " ++ error.chain.traceback ++ "\n"

/-! ## Actions -/

/-- The file an action takes the configuration from. -/
def configPath (environment : Environment) (config? : Option String) : String :=
  config?.getD (Config.filePath (Config.directory environment))

/-- The built-in components, as they are. -/
def builtinCatalog : Catalog Builtin := Catalog.builtin id

/-- Check the configuration and the packages. -/
def check (surroundings : Surroundings) (path : String) : Finish :=
  let files := surroundings.files
  let color := supportsColor surroundings.environment
  match Config.readUnchecked files surroundings.environment path with
  | .error error => .ofError error
  | .ok config =>
    let report := (buildDispatcher files config builtinCatalog).1
    let warnings := (config.warnings files).map fun warning =>
      note color .yellow "WARN:" warning.text
    let problems := config.problems.map ConfigProblem.text ++ report.failures.map LoadError.message
    let success :=
      s!"{path} is valid; {report.packages.length} package(s), {report.commands} command(s) from " ++
        report.directory
    if problems.isEmpty then
      { output := String.join warnings ++ note color .green "OK:" success }
    else
      { code := 1
        output := String.join warnings
        errors := String.join (problems.map (note color .red "ERROR:")) }

/-- A row of the table of commands. -/
def commandRow (config : Config) (registration : Registration Builtin) : List String :=
  [config.commandPrefix ++ registration.command.usage config.parameterPrefix,
    registration.package.name ++ "." ++ registration.component.name,
    registration.command.doc?.getD ""]

/-- List the commands that can be called. -/
def listCommands (surroundings : Surroundings) (path : String) (json : Bool) : Finish :=
  match Config.read surroundings.files surroundings.environment path with
  | .error error => .ofError error
  | .ok config =>
    let dispatcher := (buildDispatcher surroundings.files config builtinCatalog).2
    let registrations := dispatcher.snapshot.commands
    let text :=
      if json then
        Json.pretty (.array (registrations.map fun registration => registration.command.toJson))
      else
        table ["Usage", "Component", "Description"] (registrations.map (commandRow config))
    { output := text ++ "\n" }

/-- Whether log files can be put into a directory, which is made if it does not
exist. -/
def canHoldLogs (files : FileTree) (directory : String) : Bool :=
  match files.find directory with
  | .ok (_, .directory) => true
  | .ok (_, .file _) => false
  | .error error => error == .notFound

/-- Begin to answer lines. Without a place for its log files the program breaks off. -/
def startSession (surroundings : Surroundings) (path : String) : Except Finish (Session Builtin) :=
  match Config.read surroundings.files surroundings.environment path with
  | .error error => .error (.ofError error)
  | .ok config =>
    if config.logDirectory?.all (canHoldLogs surroundings.files) then
      .ok ⟨(buildDispatcher surroundings.files config builtinCatalog).2, 0⟩
    else .error { code := 101 }

/-- Answer the lines of a text. -/
def runLines (surroundings : Surroundings) (path : String) (speaker : Speaker) (input : String) :
    Finish :=
  match startSession surroundings path with
  | .error finish => finish
  | .ok session =>
    { output :=
        Session.run (supportsColor surroundings.environment) speaker {} 0 session (linesOf input) }

/-- Do what a command line asks for. -/
def perform (surroundings : Surroundings) (input : String) : CommandLine → Finish
  | .version => { output := versionText ++ "\n" }
  | .help => { output := usageText ++ "\n" }
  | .unusable => { code := 2, errors := usageText ++ "\n" }
  | .act config? action =>
    let path := configPath surroundings.environment config?
    match action with
    | .check => check surroundings path
    | .commands json => listCommands surroundings path json
    | .run author channel => runLines surroundings path ⟨author, channel⟩ input

end ChatCommands.Console
