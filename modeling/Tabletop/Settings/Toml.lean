import Tabletop.Settings.Json
import Tabletop.Toml

/-!
# Settings from TOML

Each section of the settings is a table. `Settings.ofToml?` reads a text of settings, and `none`
means that the text or a setting in it is malformed; `Settings.ofTomlOrDefault` takes the defaults
then.
-/

namespace Tabletop.Settings

/-- In TOML the choice `one` is written as its name, or as a table that holds an empty table or list
under the name. -/
def tomlCustom : Custom where
  isNothing
    | none => true
    | some (.record []) => true
    | some (.list []) => true
    | _ => false
  spareItems := true

def ofToml? (text : String) : Option Settings := (Toml.read? text).bind (ofJson? tomlCustom)

def ofTomlOrDefault (text : String) : Settings := (ofToml? text).getD {}

end Tabletop.Settings
