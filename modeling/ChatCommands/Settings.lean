/-
# Settings at run time

The settings commands can see while the host runs. The verbosity is the only one
that commands can change, and an owner, if there is one, is the only author who may
change it.
-/

namespace ChatCommands

/-- The mark a command begins with, if nothing else is configured. -/
def defaultCommandPrefix : String := "/"

/-- The mark a parameter begins with, if nothing else is configured. -/
def defaultParameterPrefix : String := "-"

/-- The settings of a running host. -/
structure Settings where
  /-- The mark a command begins with. -/
  commandPrefix : String := defaultCommandPrefix
  /-- The mark a parameter begins with. -/
  parameterPrefix : String := defaultParameterPrefix
  /-- Whether replies to errors show the causes of the error. -/
  verbose : Bool := false
  /-- The author who may change settings; without one everybody may. -/
  owner? : Option String := none
deriving DecidableEq, Repr, Inhabited

namespace Settings

/-- Whether an author may change settings. -/
def isOwner (settings : Settings) (author : String) : Bool :=
  match settings.owner? with
  | none => true
  | some owner => owner == author

end Settings

end ChatCommands
