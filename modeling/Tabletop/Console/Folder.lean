import Tabletop.Console.Files

/-!
# Folders in memory

A folder that is held in memory, with what is known of the folders around it. A path is followed from
name to name, and every name on the way has to lead to a folder. `read` and `write` meet the same
faults as on a disk.
-/

namespace Tabletop.Console

/-! ## Places -/

/-- Where names begin: the folder itself or one that it lies in, or the root of all folders. -/
inductive Start where
  | above (levels : Nat)
  | root
deriving DecidableEq

/-- A file or a folder, by the names that lead to it. -/
structure Place where
  start : Start
  names : List String
deriving DecidableEq

namespace Place

def child (p : Place) (name : String) : Place := { p with names := p.names ++ [name] }

def parent (p : Place) : Place :=
  match p.names, p.start with
  | [], .above n => ⟨.above (n + 1), []⟩
  | [], .root => p
  | names, start => ⟨start, names.dropLast⟩

/-- Whether `q` lies below `p`. -/
def holds (p q : Place) : Bool :=
  p.start = q.start && p.names.isPrefixOf q.names && p.names.length < q.names.length

end Place

/-! ## Paths -/

/-- A path in pieces. An empty piece and a single dot lead nowhere else. -/
structure Path where
  start : Start
  pieces : List String

namespace Path

def ofString (s : String) : Path where
  start := if s.startsWith "/" then .root else .above 0
  pieces := (s.toList.splitOn '/').map String.ofList

/-- What is wrong with a path before it is followed. -/
def fault? (s : String) : Option FileFault :=
  if s.contains '\x00' then some .holdsNul
  else if s.isEmpty then some .missing
  else if 4095 < s.utf8ByteSize then some .nameTooLong
  else none

def isDots (piece : String) : Bool := piece = "" || piece = "." || piece = ".."

end Path

/-! ## Folders -/

structure Folder where
  files : List (Place × String)
deriving DecidableEq

namespace Folder

def file? (f : Folder) (p : Place) : Option String := (f.files.find? (·.1 == p)).map (·.2)

def isFolder (f : Folder) (p : Place) : Bool := p.names.isEmpty || f.files.any (p.holds ·.1)

/-- What a name leads to. -/
inductive Found where
  | file (text : String)
  | folder
  | nothing

def find (f : Folder) (p : Place) (name : String) : Except FileFault Found :=
  if 255 < name.utf8ByteSize then .error .nameTooLong
  else
    match f.file? (p.child name) with
    | some text => .ok (.file text)
    | none => .ok (if f.isFolder (p.child name) then .folder else .nothing)

/-- One step on the way. -/
def enter (f : Folder) (p : Place) (piece : String) : Except FileFault Place :=
  if piece = "" ∨ piece = "." then .ok p
  else if piece = ".." then .ok p.parent
  else do
    match ← f.find p piece with
    | .folder => return p.child piece
    | .file _ => throw .notDirectory
    | .nothing => throw .missing

def follow (f : Folder) : Place → List String → Except FileFault Place
  | p, [] => .ok p
  | p, piece :: rest => do f.follow (← f.enter p piece) rest

/-- The folder with the last piece of the path, when there is nothing wrong on the way to it. -/
def way (f : Folder) (path : Path) : Except FileFault (Place × String) := do
  return (← f.follow ⟨path.start, []⟩ path.pieces.dropLast, path.pieces.getLast?.getD "")

/-- The files by their paths. The empty device, which is always there, stands beside them. -/
def ofList (files : List (String × String)) : Folder where
  files :=
    (files.map fun (s, text) =>
      let path := Path.ofString s
      let place := path.pieces.foldl
        (fun p piece => if Path.isDots piece then p else p.child piece) ⟨path.start, []⟩
      (place, text)) ++ [(⟨.root, ["dev", "null"]⟩, "")]

/-! ## Reading and writing -/

def read (f : Folder) (s : String) : Except FileFault String :=
  match Path.fault? s with
  | some fault => .error fault
  | none => do
    let (p, last) ← f.way (.ofString s)
    if Path.isDots last then throw .isDirectory
    match ← f.find p last with
    | .file text => return text
    | .folder => throw .isDirectory
    | .nothing => throw .missing

def isFile (f : Folder) (s : String) : Bool :=
  match f.read s with
  | .ok _ => true
  | .error _ => false

/-- The folder with a file, which takes the place of the one that is there. A path that ends in a
slash asks for a folder, and a folder is not written. -/
def write (f : Folder) (s text : String) : Except FileFault Folder :=
  match Path.fault? s with
  | some fault => .error fault
  | none => do
    let path := Path.ofString s
    let pieces := (path.pieces.reverse.dropWhile (· == "")).reverse
    let (p, last) ← f.way { path with pieces }
    if Path.isDots last || pieces.length < path.pieces.length then throw .isDirectory
    match ← f.find p last with
    | .folder => throw .isDirectory
    | _ => return ⟨(p.child last, text) :: f.files.filter (·.1 != p.child last)⟩

end Folder

end Tabletop.Console
