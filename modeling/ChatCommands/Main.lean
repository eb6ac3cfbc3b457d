/-
# The program itself

The outer layer of the console host: it looks at the arguments, the environment and
the files, hands them to the program and prints what comes back. Lines are answered
as they are read.
-/

import ChatCommands.Console.Program

namespace ChatCommands.Console

/-- The variables that are looked at whatever the configuration says. -/
def knownVariables : List String :=
  [Config.directoryVariable, "HOME", "NO_COLOR", "COLORTERM", "TERM"]

/-- Look variables up in the environment of the process. -/
def lookUpVariables (environment : Environment) (names : List String) : IO Environment :=
  names.foldlM
    (fun environment name => do
      match ← IO.getEnv name with
      | some value => return environment.insert name value
      | none => return environment)
    environment

/-- Take up what is under a path of the file system. Nothing is taken up of what
cannot be read. -/
def takeUp (files : FileTree) (path : String) : IO FileTree := do
  let place := (← IO.currentDir) / path
  if ← place.isDir then return files.write path .directory
  if ← place.pathExists then
    try
      return files.write path (.file (← IO.FS.readBinFile place))
    catch _ => return files
  return files

/-- Take up a directory and the manifests in it. -/
def takeUpManifests (files : FileTree) (directory : String) : IO FileTree := do
  let place := (← IO.currentDir) / directory
  if ← place.isDir then
    let mut files := files.write directory .directory
    for entry in ← place.readDir do
      if FilePath.extension? entry.fileName == some manifestExtension then
        files ← takeUp files (FilePath.join directory entry.fileName)
    return files
  return files

/-- The files of the current directory, of which nothing is taken up yet. -/
def noFiles : IO FileTree := do
  let here := (← IO.currentDir).toString
  return .emptyAt ((FilePath.parts here).filter fun part => !part.isEmpty)

/-- Look around for what an action with the given configuration file needs. -/
def lookAround (environment : Environment) (path : String) : IO Surroundings := do
  let files ← takeUp (← noFiles) path
  match Config.readTree files path with
  | .error _ => return ⟨environment, files⟩
  | .ok tree =>
    let environment ← lookUpVariables environment (referencedVariables tree)
    match Config.readUnchecked files environment path with
    | .error _ => return ⟨environment, files⟩
    | .ok config =>
      let files ← takeUpManifests files config.componentsDirectory
      match config.logDirectory? with
      | none => return ⟨environment, files⟩
      | some directory => return ⟨environment, ← takeUp files directory⟩

/-- Print what a run leaves behind and return its code. -/
def leave (finish : Finish) : IO UInt32 := do
  IO.print finish.output
  IO.eprint finish.errors
  return finish.code.toUInt32

/-- Answer the lines of the standard input until there are no more. -/
partial def answerLines (color : Bool) (speaker : Speaker) (start : Nat)
    (session : Session Builtin) : IO Unit := do
  let line ← (← IO.getStdin).getLine
  if line.isEmpty then return
  let now ← IO.monoNanosNow
  let clock : Clock := { uptime := (now - start) / Number.Duration.perSecond }
  let content := withoutReturn (String.ofList (line.toList.reverse.dropWhile (· == '\n')).reverse)
  let (text, session) := session.line color speaker clock now content
  IO.print text
  (← IO.getStdout).flush
  answerLines color speaker start session

/-- Answer lines in the given surroundings. -/
def runSession (surroundings : Surroundings) (path : String) (speaker : Speaker) : IO UInt32 := do
  match startSession surroundings path with
  | .error finish => leave finish
  | .ok session =>
    answerLines (supportsColor surroundings.environment) speaker (← IO.monoNanosNow) session
    return 0

end ChatCommands.Console

open ChatCommands.Console in
/-- Run the program. -/
def main (arguments : List String) : IO UInt32 := do
  let environment ← lookUpVariables .empty knownVariables
  match CommandLine.ofWords arguments with
  | .act config? (.run author channel) =>
    let path := configPath environment config?
    runSession (← lookAround environment path) path ⟨author, channel⟩
  | .act config? action =>
    let surroundings ← lookAround environment (configPath environment config?)
    leave (perform surroundings "" (.act config? action))
  | commandLine =>
    leave (perform ⟨environment, ← noFiles⟩ "" commandLine)
