import DirectorySchema.Text.Utf8

/-!
# Files

The files that a run can read, each by its path. A path is followed step by step
through the directories that the paths of the files imply: an empty step and a
single dot stay where they are, two dots go up, and nothing lies beyond a file.
Paths, and the steps that are looked up, may be too long.
-/

set_option autoImplicit false

namespace DirectorySchema

abbrev Files := List (Text × List UInt8)

namespace Files

inductive Found where
  | file (octets : List UInt8)
  | directory
  | notDirectory
  | tooLong
  | missing
  deriving DecidableEq, Repr

def root : List Text := [['/']]

def start (path : Text) : List Text := if path.head? = some '/' then root else []

def up : Text := ['.', '.']

/-- The root is above itself; above the place where the run is there are others. -/
def parent (place : List Text) : List Text :=
  if place = root then root
  else if place.getLast?.all (· == up) then place ++ [up]
  else place.dropLast

def next (place : List Text) (step : Text) : List Text :=
  if step = up then parent place
  else if step.isEmpty || step == ['.'] then place
  else place ++ [step]

def place (path : Text) : List Text := (path.splitOn '/').foldl next (start path)

def atPlace (files : Files) (p : List Text) : Found :=
  match files.find? (place ·.1 == p) with
  | some f => .file f.2
  | none =>
    if p.all (· == up) || p = root || files.any (p.isPrefixOf <| place ·.1) then .directory
    else .missing

def octetLength (s : Text) : Nat := (Text.toUtf8 s).length

def stepLimit : Nat := 255

def pathLimit : Nat := 4095

def follow (files : Files) (p : List Text) : List Text → Found
  | [] => files.atPlace p
  | step :: rest =>
    match files.atPlace p with
    | .directory =>
      if stepLimit < octetLength step then .tooLong else files.follow (next p step) rest
    | .file _ => .notDirectory
    | found => found

def find (files : Files) : Text → Found
  | [] => .missing
  | path =>
    if pathLimit < octetLength path then .tooLong
    else files.follow (start path) (path.splitOn '/')

end Files

end DirectorySchema
