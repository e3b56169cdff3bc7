import Tabletop.Console.Table

/-!
# The program

`tabletop script` is the script compiler, and `tabletop table` is the console of the table. Only here
are files, the environment and the terminal touched.
-/

namespace Tabletop.Main

open Console

/-! ## Files -/

def faultOf : IO.Error → FileFault
  | .noFileOrDirectory .. => .missing
  | .inappropriateType _ code _ => if code = 21 then .isDirectory else .notDirectory
  | .invalidArgument _ code _ => if code = 22 then .holdsNul else .nameTooLong
  | .permissionDenied .. => .refused
  | .userError .. => .notText
  | e => .other e.toString

def readFile (path : String) : IO (Except FileFault String) := do
  try return .ok (← IO.FS.readFile path)
  catch e => return .error (faultOf e)

def isFile (path : String) : IO Bool := do
  match ← readFile path with
  | .ok _ => return true
  | .error _ => return false

/-! ## The script compiler -/

/-- Writes what a run leaves behind, and gives its code. -/
def finish (run : Run) : IO UInt32 := do
  IO.eprint run.errors
  IO.print run.output
  return run.code

def script (args : List String) : IO UInt32 := do
  match Job.ofArguments args with
  | .error run => finish run
  | .ok job =>
    match job.run (← readFile job.path) with
    | .finished run => finish run
    | .writing path text done failed =>
      try
        IO.FS.writeFile path text
        finish done
      catch e => finish (failed (faultOf e))

/-! ## The console -/

def configFolder? : IO (Option String) := do
  match ← IO.getEnv "XDG_CONFIG_HOME" with
  | some folder => if folder.startsWith "/" then return some folder
  | none => pure ()
  return (← IO.getEnv "HOME").map (· ++ "/.config")

def firstFile? : List String → IO (Option String)
  | [] => return none
  | path :: rest => do
    if ← isFile path then return some path else firstFile? rest

def settings : IO Settings := do
  match Location.ofEnvironment (← IO.getEnv "SKIRMISH_CONFIG") (← configFolder?) with
  | .given path => return settingsOf (← readFile path)
  | .firstOf paths =>
    match ← firstFile? paths with
    | some path => return settingsOf (← readFile path)
    | none => return {}

/-- The surroundings in which a line is handled that may load the file at a path. -/
def surroundings (path : Option String) : IO Surroundings := do
  let file ← match path with
    | some path => readFile path
    | none => pure (.error .missing)
  let bits := (← IO.getRandomBytes 16).toList.foldl (fun n b => 256 * n + b.toNat) 0
  return {
    colored := (← (← IO.getStdout).isTty) && (← IO.getEnv "NO_COLOR").isNone
    clockSeed := UInt64.ofNat (← IO.monoNanosNow)
    freshToken := ⟨BitVec.ofNat 128 bits⟩
    file := fun _ => file }

def fileOf? (entry : String) : Option String :=
  match Line.read entry with
  | .command (.load path) => some path
  | _ => none

/-- The rest of an entry that has been typed in part. -/
partial def readEntry (stdin : IO.FS.Stream) (before : String) : IO String := do
  let line ← stdin.getLine
  let entry := before ++ line
  if line.isEmpty || !needsMore entry.toList then return entry else readEntry stdin entry

partial def converse (stdin stdout : IO.FS.Stream) (s : Session) : IO Unit := do
  stdout.putStr s.prompt
  stdout.flush
  let typed ← readEntry stdin ""
  unless typed.isEmpty do
    let entry := String.ofList (withoutLineEnds typed.toList)
    let reply := s.handle (← surroundings (fileOf? entry)) entry
    for line in reply.shown do stdout.putStrLn line
    unless reply.isOver do converse stdin stdout reply.session

def table (args : List String) : IO UInt32 := do
  let around ← surroundings args.head?
  match Session.opened around (← settings) args.head? with
  | .error run => finish run
  | .ok s =>
    IO.print (banner around.colored)
    converse (← IO.getStdin) (← IO.getStdout) s
    return 0

end Tabletop.Main

def main (args : List String) : IO UInt32 :=
  match args with
  | "script" :: rest => Tabletop.Main.script rest
  | "table" :: rest => Tabletop.Main.table rest
  | _ => Tabletop.Main.table args
