import Weaver.Config.Settings
import Weaver.Files.Disk

/-!
# Contexts

A context knows the environment that a run takes place in: variables, programs and the
directory of the user's configuration.

## Main definitions

* `Context`, `Context.requireProgram`, `Context.requireEnv`.
* `Context.configFile`: the configuration file that counts.
* `Context.config`, `Context.settings`: what that file says.
-/

namespace Weaver

/-- What is known of the environment of a run. -/
structure Context where
  /-- The value of a variable. -/
  env? : Text → Option Text
  /-- The path of a program. -/
  program? : Text → Option Text
  /-- The directory of the user's configuration. -/
  userDir : Text

namespace Context

/-- The context that some tables make. -/
def ofTables (env programs : List (Text × Text)) (userDir : Text) : Context :=
  let look (table : List (Text × Text)) (name : Text) :=
    (table.find? fun (k, _) => k == name).map Prod.snd
  { env? := look env, program? := look programs, userDir }

/-- The variable that names the configuration file. -/
def configVariable : Text :=
  "DROIDINJECT_CONFIG".toList

/-- The name of configuration files. -/
def configName : Text :=
  "droidinject.toml".toList

/-- Whether a program is there. -/
def hasProgram (c : Context) (name : Text) : Bool :=
  (c.program? name).isSome

/-- The path of a program, which must be there. -/
def requireProgram (c : Context) (name : Text) : Except Error Text :=
  (c.program? name).elim (.error (.missingBin name)) .ok

/-- The value of a variable, which must be set. -/
def requireEnv (c : Context) (key : Text) : Except Error Text :=
  (c.env? key).elim (.error (.missingEnv key)) .ok

/-- The configuration file that counts: the one that the variable names, which has to be
there, or else the one in the working directory, or else the user's. -/
def configFile (c : Context) (d : Disk) : Except Error (Option Text) :=
  match c.env? configVariable with
  | some path => if d.holds path then .ok (some path) else .error (.missingFile path)
  | none =>
    let user := Path.join c.userDir configName
    if d.holds configName then .ok (some configName)
    else if d.holds user then .ok (some user)
    else .ok none

/-- The configuration in the file that counts. -/
def config (c : Context) (d : Disk) : Except Error (Option Config) := do
  match ← c.configFile d with
  | none => return none
  | some path => return some (← Config.read path (← d.requireText path))

/-- The settings that the configuration makes. -/
def settings (c : Context) (d : Disk) : Except Error Settings := do
  Settings.ofConfig (← c.config d)

end Context

end Weaver
