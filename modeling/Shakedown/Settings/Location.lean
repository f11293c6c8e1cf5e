import Shakedown.Path.Basic

/-!
# Where the settings file is

A variable of its own names the file; else it lies in the application's directory below the
configuration directory, which is `XDG_CONFIG_HOME` if that is absolute, and else `.config` in the
home directory. The home directory is `HOME`, or that of the user's account if `HOME` is missing or
empty; without one there is no file.
-/

namespace Shakedown.Settings

/-- The path of the settings file, for the values of the environment variables and the home directory of the user's
account. -/
def path? (lookup : String → Option String) (accountHome : Option String) : Option Path :=
  match lookup "SMOKE_CONFIG" with
  | some path => some ⟨path⟩
  | none =>
    let home := ((lookup "HOME").filter fun h => !h.isEmpty).or accountHome
    let given := ((lookup "XDG_CONFIG_HOME").map Path.mk).filter Path.isAbsolute
    home.map fun h => ((given.getD ((Path.mk h).join ⟨".config"⟩)).join ⟨"smoke-runner"⟩).join ⟨"config.toml"⟩

end Shakedown.Settings
