import DirectorySchema.Settings.Host

/-!
# Configuration of a schema manager

What a manager is told explicitly, and what it takes from the settings where it
is told nothing: the schemas of its catalogs, what to do with elements that are
already registered, and schema files to load.
-/

set_option autoImplicit false

namespace DirectorySchema

inductive DuplicatePolicy where
  | fail
  | skip
  deriving DecidableEq, Repr

namespace DuplicatePolicy

def label : DuplicatePolicy → Text
  | fail => "fail"
  | skip => "skip"

def ofLabel (s : Text) : Except Failure DuplicatePolicy :=
  if s = ("fail" : Text) then .ok fail
  else if s = ("skip" : Text) then .ok skip
  else .error (.refused (.badPolicy s))

end DuplicatePolicy

structure ManagerConfig where
  bootstrapSchemas : Option (List Text) := none
  onDuplicate : Option DuplicatePolicy := none
  schemaFiles : List (Text × Text) := []
  deriving DecidableEq, Repr

namespace ManagerConfig

def make (bootstrapSchemas : Option (List Text)) (onDuplicate : Option Text)
    (schemaFiles : List (Text × Text)) : Except Failure ManagerConfig :=
  match onDuplicate with
  | none => .ok ⟨bootstrapSchemas, none, schemaFiles⟩
  | some s => do return ⟨bootstrapSchemas, some (← DuplicatePolicy.ofLabel s), schemaFiles⟩

def getBootstrapSchemas (c : ManagerConfig) (h : Host) : Except Failure (List Text) :=
  match c.bootstrapSchemas with
  | some names => .ok names
  | none => do
    let names := Text.words ((← h.get "schema" "bootstrap").map fun x => if x = ',' then ' ' else x)
    if names.isEmpty then .error (.refused .noBootstrapSchemas) else .ok names

def getDuplicatePolicy (c : ManagerConfig) (h : Host) : Except Failure DuplicatePolicy :=
  match c.onDuplicate with
  | some p => .ok p
  | none => do DuplicatePolicy.ofLabel (Text.lower (Text.trim (← h.get "schema" "on-duplicate")))

def fileSectionStart : Text := "schema-file "

def sectionFile? (h : Host) (s : Settings) (name : Text) :
    Except Failure (Option (Text × Text)) :=
  if !fileSectionStart.isPrefixOf (Text.lower name) then .ok none
  else if !s.hasOption name "path" then .error (.refused (.noPath name))
  else match s.get name "path" with
    | .ok path => do
      return some (Text.trim (name.drop fileSectionStart.length), ← h.expandHome path)
    | .error e => .error (.settings e)

/-- Schema files by schema name, explicit ones over those of the settings. -/
def getSchemaFiles (c : ManagerConfig) (h : Host) : Except Failure (List (Text × Text)) := do
  let s ← h.settings
  let files ← s.sectionNames.mapM (sectionFile? h s)
  return (files.filterMap id ++ c.schemaFiles).foldl (fun o p => Options.assign p.1 p.2 o) []

end ManagerConfig

end DirectorySchema
