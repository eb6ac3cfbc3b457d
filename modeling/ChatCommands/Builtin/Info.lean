/-
# Info

A component that tells users what is loaded: how long the host has been running,
which packages, components and commands there are and how to call them.
-/

import ChatCommands.Plugin
import ChatCommands.Number.Decimal

namespace ChatCommands.Info

variable {π : Type}

/-- What the component is for. -/
def doc : String := "Information about the bot and its commands."

/-- The command `about`. -/
def aboutCommand : CommandSpec where
  name := "about"
  doc? := some "Show uptime and the loaded packages."
  parameters := [.request "context", .service "packages" .packages]

/-- The command `help`. -/
def helpCommand : CommandSpec where
  name := "help"
  doc? := some "List packages, the components of a package, or the commands of a component."
  parameters :=
    [.request "context", .service "packages" .packages, .service "settings" .settings,
      .optionalText "package", .optionalText "component"]

/-- The commands of the component. -/
def commands : List CommandSpec := [aboutCommand, helpCommand]

/-! ## Texts -/

/-- A running time in hours, minutes and seconds, with days in front of them if it is
a day or longer. A negative time counts as none. -/
def uptimeText (uptime : Int) : String :=
  let seconds := uptime.toNat
  let days := seconds / 86400
  let clock :=
    Number.padded 2 (seconds / 3600 % 24) ++ "h " ++ Number.padded 2 (seconds / 60 % 60) ++ "m " ++
      Number.padded 2 (seconds % 60) ++ "s"
  if days = 0 then clock else toString days ++ "d " ++ clock

/-- The answer of `about`. -/
def aboutText (packages : Snapshot π) (uptime : Int) : String :=
  let names := packages.packages.values.map Package.name
  let listed := if names.isEmpty then "none" else String.intercalate ", " names
  "Up for " ++ uptimeText uptime ++ ".\nLoaded packages: " ++ listed

/-- A list entry with a name and its documentation. -/
def entry (margin name : String) (doc? : Option String) : String :=
  margin ++ "- " ++ name ++ ": " ++ doc?.getD "No documentation."

/-- The overview of all packages and their components. -/
def overviewText (packages : Snapshot π) (settings : Settings) : String :=
  let help := settings.commandPrefix ++ "help " ++ settings.parameterPrefix
  let heading :=
    ["**Help**", "Use " ++ help ++ "package <name> or " ++ help ++ "component <name> for details."]
  let listed := packages.packages.values.flatMap fun package =>
    entry "" ("**" ++ package.name ++ "**") package.doc? ::
      package.components.values.map fun component => entry "  " component.name component.doc?
  String.intercalate "\n" (heading ++ listed)

/-- The components of a package. -/
def packageText (packages : Snapshot π) (name : String) : String :=
  match packages.package? name with
  | none => "Could not find a package named **" ++ name ++ "**"
  | some package =>
    String.intercalate "\n" <|
      ("**" ++ package.name ++ "**") :: package.doc?.toList ++
        package.components.values.map fun component => entry "" component.name component.doc?

/-- The commands of a component. -/
def componentText (packages : Snapshot π) (settings : Settings) (name : String) : String :=
  match packages.component name with
  | .error _ => "Could not find a component named **" ++ name ++ "**"
  | .ok component =>
    String.intercalate "\n" <|
      ("**" ++ component.name ++ "**") :: component.doc?.toList ++
        component.commands.values.map fun command =>
          "- `" ++ settings.commandPrefix ++ command.usage settings.parameterPrefix ++ "`: " ++
            command.doc?.getD "Command documentation unavailable."

/-- The answer of `help`: about a component, a package or everything. -/
def helpText (packages : Snapshot π) (settings : Settings) (arguments : Arguments π) : String :=
  match arguments.text? "component", arguments.text? "package" with
  | some component, _ => componentText packages settings component
  | none, some package => packageText packages package
  | none, none => overviewText packages settings

/-- Run a command of the component. -/
def invoke (command : String) (arguments : Arguments π) : Reaction :=
  .withValue (arguments.service Service.packages? "packages") fun packages =>
    match command with
    | "about" =>
      .withValue arguments.request fun request => .say (aboutText packages request.uptime)
    | "help" =>
      .withValue (arguments.service Service.settings? "settings") fun settings =>
        .say (helpText packages settings arguments)
    | other => .fail ("Info has no command " ++ other)

end ChatCommands.Info
