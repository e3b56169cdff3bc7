import Tabletop.Console.Compiler
import Tabletop.Console.Entry
import Tabletop.Console.Session
import Tabletop.Settings.Toml

/-!
# The table's console

The console opens a session, runs a script first if it is given one, and then handles what is typed
until the session is over or nothing more comes.

* `Location` is where the settings are looked for.
* `Session.opened` is the session at the first prompt.
* `Session.conversation` is everything that the console writes for the given entries.
-/

namespace Tabletop.Console

/-! ## Settings -/

def settingsFile : String := "skirmish.toml"

/-- Where the settings are: at a path that was given, or at the first of some paths that leads to a
file. -/
inductive Location where
  | given (path : String)
  | firstOf (paths : List String)

/-- A path that is blank is none. -/
def Location.ofEnvironment (given configFolder : Option String) : Location :=
  match given.filter fun path => !(Text.trim path.toList).isEmpty with
  | some path => .given path
  | none =>
    .firstOf (settingsFile :: (configFolder.map (· ++ "/skirmish/" ++ settingsFile)).toList)

/-- Settings that cannot be read are the defaults. -/
def settingsOf (text : Except FileFault String) : Settings :=
  match text with
  | .ok text => .ofTomlOrDefault text
  | .error _ => {}

/-! ## Sessions -/

/-- What is said before the first prompt. -/
def banner (colored : Bool) : String :=
  Style.heading.paint colored "SKIRMISH 0.3.0" ++ "\n" ++
    Style.info.paint colored "type :help for commands" ++ "\n"

namespace Session

/-- A session that has run a script, if there is one; a script that cannot be read ends the run. -/
def opened (around : Surroundings) (settings : Settings) (script : Option String) :
    Except Run Session :=
  let s := start settings around.freshToken
  match script with
  | none => .ok s
  | some path =>
    match around.file path with
    | .ok source => .ok (s.runScript around source).1
    | .error fault =>
      .error {
        errors := s!"Error: while reading script {path}\n\nCaused by:\n    {fault.message}\n"
        code := 1 }

/-- The prompt names the round and whose turn it is. -/
def prompt (s : Session) : String :=
  let turn := (s.roster.activeFighter?.map (·.name)).getD "-"
  s!"\n[Round: {s.roster.round}|Turn: {turn}]>> "

/-- What is written for the entries, with the prompt before each of them. -/
def conversation (around : Surroundings) (s : Session) : List String → String
  | [] => s.prompt
  | entry :: rest =>
    let reply := s.handle around entry
    let shown := String.join (reply.shown.map (· ++ "\n"))
    s.prompt ++ shown ++
      (if reply.isOver then "" else conversation around reply.session rest)

end Session

/-- A whole run of the console on an input that is there from the beginning. -/
def runTable (around : Surroundings) (settings : Settings) (script : Option String)
    (input : String) : Run :=
  match Session.opened around settings script with
  | .error run => run
  | .ok s => { output := banner around.colored ++ s.conversation around (entries input) }

end Tabletop.Console
