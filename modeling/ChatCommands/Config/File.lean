/-
# Configuration files

Where the configuration is and how it is read: the file is turned into a tree, the
variables in the tree are substituted, the tree is read as a configuration and its
gaps are filled. A file that does not exist, or holds nothing, leaves everything to
the defaults.
-/

import ChatCommands.Config.Validation
import ChatCommands.ErrorChain
import ChatCommands.Substitution
import ChatCommands.Yaml.Value

namespace ChatCommands

/-- Why there is no configuration. -/
inductive ConfigError where
  /-- The file cannot be read. -/
  | unreadable (path : String) (error : FileError)
  /-- The file is not laid out as a tree. -/
  | malformed (path : String)
  /-- A variable has no value. -/
  | missingVariable (missing : MissingVariable)
  /-- The tree is not a configuration. -/
  | notAConfig (path : String)
  | invalid (path : String) (problems : List ConfigProblem)
deriving DecidableEq, Repr

/-- The error with its cause. What a reader would say of a text that is not laid out as a tree, or of
a tree that is not a configuration, is not modelled: these two errors come without a cause. -/
def ConfigError.chain : ConfigError → ErrorChain
  | unreadable path error =>
    ⟨String.join ["Failed to read config file: ", path], [error.message]⟩
  | malformed path => .ofMessage (String.join ["Failed to parse config YAML at: ", path])
  | missingVariable missing => ⟨"Failed to resolve env vars in config", [missing.message]⟩
  | notAConfig path => .ofMessage (String.join ["Invalid configuration in ", path])
  | invalid path problems =>
    .ofMessage <| String.join
      [path, " has ", toString problems.length, " error(s):\n",
        String.intercalate "\n" (problems.map ConfigProblem.text)]

namespace Config

/-! ## Where the file is -/

/-- The variable that names the directory of the configuration. -/
def directoryVariable : String := "SWITCHBOARD_CONFIG_DIR"

/-- The directory of the configuration below the home directory. -/
def directoryName : String := ".switchboard"

/-- The directory of the configuration. -/
def directory (environment : Environment) : String :=
  match environment.get? directoryVariable with
  | some directory => directory
  | none =>
    match environment.get? "HOME" with
    | some home => FilePath.join home directoryName
    | none => directoryName

/-- The configuration file in a directory. -/
def filePath (directory : String) : String := FilePath.join directory "config.yaml"

/-! ## Reading it -/

/-- The tree in a file. -/
def readTree (files : FileTree) (path : String) : Except ConfigError Json :=
  if !files.contains path then .ok (.object [])
  else
    match files.readText path with
    | .error error => .error (.unreadable path error)
    | .ok text =>
      match Yaml.parse? text with
      | none => .error (.malformed path)
      | some none => .ok (.object [])
      | some (some tree) => .ok tree

/-- The configuration in a file, with its gaps filled but not checked. -/
def readUnchecked (files : FileTree) (environment : Environment) (path : String) :
    Except ConfigError Config :=
  match readTree files path with
  | .error error => .error error
  | .ok tree =>
    match environment.substitute tree with
    | .error missing => .error (.missingVariable missing)
    | .ok tree =>
      match ofJson? tree with
      | none => .error (.notAConfig path)
      | some config => .ok config.withDefaults

/-- The configuration in a file, which must not have problems. -/
def read (files : FileTree) (environment : Environment) (path : String) :
    Except ConfigError Config :=
  match readUnchecked files environment path with
  | .error error => .error error
  | .ok config => if config.isValid then .ok config else .error (.invalid path config.problems)

end Config

end ChatCommands
