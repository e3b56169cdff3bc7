import Tabletop.Console.Files
import Tabletop.Instruction.Json
import Tabletop.Instruction.Ron
import Tabletop.Lint
import Tabletop.Script

/-!
# The script compiler

The command line tool for scripts. `compile` writes the instructions of a script out, and `lint` looks
for mistakes in it.

* `Job.ofArguments` reads the arguments.
* `Job.run` is the work on the text of the script. It may end in a file that is to be written.
-/

namespace Tabletop.Console

/-- What a program leaves behind. -/
structure Run where
  output : String := ""
  errors : String := ""
  code : UInt32 := 0
deriving DecidableEq

/-- The end of a job: a run, or a file to be written and what follows from that. -/
inductive Outcome where
  | finished (run : Run)
  | writing (path text : String) (done : Run) (failed : FileFault → Run)

inductive Task where
  | compile
  | lint
deriving DecidableEq

structure Job where
  task : Task
  path : String
  out : Option String
  asJson : Bool
  base : RowBase
deriving DecidableEq

namespace Job

/-! ## Arguments -/

def usage : String :=
  "Usage:\n  skirmish_script compile <file> [--out <file>] [--json] [--zero-rows]\n" ++
    "  skirmish_script lint <file> [--zero-rows]"

/-- A run that ends because of its arguments. -/
def misused (message : String) : Run := { errors := message ++ "\n", code := 2 }

structure Options where
  path : Option String := none
  out : Option String := none
  asJson : Bool := false
  base : RowBase := .one

/-- The options of a task. Of several files the first one counts. -/
def Options.read? : Options → List String → Except Run Options
  | o, [] => .ok o
  | o, "--out" :: rest =>
    match rest with
    | [] => .error (misused "--out requires a filepath")
    | out :: rest => read? { o with out := some out } rest
  | o, "--json" :: rest => read? { o with asJson := true } rest
  | o, "--zero-rows" :: rest => read? { o with base := .zero } rest
  | o, arg :: rest => read? { o with path := o.path <|> some arg } rest

def ofOptions (task : Task) (args : List String) : Except Run Job := do
  let o ← Options.read? {} args
  match o.path with
  | none => .error (misused usage)
  | some path => return ⟨task, path, o.out, o.asJson, o.base⟩

/-- The job that the arguments ask for. Two dashes may come first. -/
def ofArguments (args : List String) : Except Run Job :=
  let args :=
    match args with
    | "--" :: rest => rest
    | _ => args
  match args with
  | [] => .error (misused usage)
  | "compile" :: rest => ofOptions .compile rest
  | "lint" :: rest => ofOptions .lint rest
  | name :: _ => .error (misused s!"unknown command: {name}\n{usage}")

/-! ## Work -/

/-- What is said about a line that was not understood in full. -/
def warning? (path : String) : Event → Option String
  | .miss line text => some s!"warning: {path}:{line}: unrecognized line \"{text}\"\n"
  | .dropped line entry =>
    some s!"warning: {path}:{line}: dropped malformed entry \"{entry}\"\n"
  | _ => none

def warnings (j : Job) (events : List Event) : List String := events.filterMap (warning? j.path)

def compile (j : Job) (out : Script.Output) : Outcome :=
  let errors := String.join (j.warnings out.events)
  let text :=
    if j.asJson then Instruction.listText out.instructions
    else Instruction.listRon out.instructions
  match j.out with
  | none => .finished { output := text ++ "\n", errors }
  | some file =>
    .writing file text
      { output := s!"wrote {out.instructions.length} instruction(s) to {file}\n", errors }
      fun fault => { errors := errors ++ s!"error: writing '{file}': {fault.message}\n", code := 1 }

def lint (j : Job) (out : Script.Output) : Outcome :=
  let warnings := j.warnings out.events
  let findings := Lint.check out.instructions
  let errors := findings.map fun f => s!"error: {j.path}: {f.message}\n"
  .finished {
    output := s!"{j.path}: {out.instructions.length} instruction(s), {warnings.length} " ++
      s!"warning(s), {findings.length} error(s)\n"
    errors := String.join (warnings ++ errors)
    code := if findings.isEmpty then 0 else 1 }

/-- The work on the text of the script, if it can be read. -/
def run (j : Job) (source : Except FileFault String) : Outcome :=
  match source with
  | .error fault =>
    .finished { errors := s!"error: unable to read '{j.path}': {fault.message}\n", code := 1 }
  | .ok source =>
    let out := Script.parse j.base source
    match j.task with
    | .compile => j.compile out
    | .lint => j.lint out

end Job

end Tabletop.Console
