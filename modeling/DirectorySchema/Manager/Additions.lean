import DirectorySchema.Manager.Basic
import DirectorySchema.SchemaFile
import DirectorySchema.Text.FileLines

/-!
# Adding to a manager

Matching rules are added together with their comparator and normalizer, and
attribute types after their references have been found. A schema is added
element by element, rules first; under the skipping policy an element that is
already registered leaves a record in the log instead of ending the addition.
-/

set_option autoImplicit false

namespace DirectorySchema

/-- A description as it is handed over, written or already read. -/
inductive Description.Source (k : Description.Kind) where
  | written (s : Text)
  | parsed (d : Description k)
  deriving DecidableEq, Repr

def Description.Source.read {k : Description.Kind} :
    Description.Source k → Except Failure (Description k)
  | .written s => (Description.parse k s).mapError .malformed
  | .parsed d => .ok d

structure RuleAddition where
  description : Description.Source .matchingRule
  comparator : Comparator
  normalizer : Normalizer

abbrev TypeAddition := Description.Source .attributeType

namespace Action

def requireFree {α : Type} [Managed α] (r : Registry α) (oid : Text) : Action Unit :=
  if r.holds oid then throw (.refused (.oidTaken (SchemaElement.kind α) oid)) else pure ()

/-- No registry is written before all three are known to have the identifier free. -/
def addMatchingRule (schemaName : Text) (a : RuleAddition) : Action Text := do
  let d ← ofExcept a.description.read
  let m := (← get).manager
  requireFree m.matchingRules d.oid
  requireFree m.comparators d.oid
  requireFree m.normalizers d.oid
  register schemaName d.oid d
  register schemaName d.oid a.comparator
  register schemaName d.oid a.normalizer
  return d.oid

def requireRules (m : Manager) : List Text → Except Refusal Unit
  | [] => .ok ()
  | rule :: rest =>
    match m.matchingRules.oidOf rule with
    | .ok _ => requireRules m rest
    | .error e => .error e

def checkReferences (m : Manager) (d : AttributeType) : Except Refusal Unit :=
  match requireRules m ([d.terms.equality, d.terms.ordering, d.terms.substr].filterMap id) with
  | .error e => .error e
  | .ok () =>
    match d.terms.sup with
    | none => .ok ()
    | some sup => (m.attributeTypes.oidOf sup).map fun _ => ()

def addAttributeType (schemaName : Text) (a : TypeAddition) : Action Text := do
  let d ← ofExcept a.read
  ofRefusal (checkReferences (← get).manager d)
  register schemaName d.oid d
  return d.oid

def skipRecord (schemaName : Text) (r : Refusal) : Record :=
  ⟨false, "Skipping element of schema " ++ schemaName ++ ": " ++ r.message⟩

/-- The identifier that an addition registered, or none if it was skipped. -/
def orSkip (policy : DuplicatePolicy) (schemaName : Text) (add : Action Text) :
    Action (Option Text) := fun s =>
  match add s with
  | .ok oid s => .ok (some oid) s
  | .error (.refused r) s =>
    if policy = .skip ∧ r.category = .alreadyRegistered then
      .ok none { s with log := s.log ++ [skipRecord schemaName r] }
    else .error (.refused r) s
  | .error e s => .error e s

def addAll (policy : DuplicatePolicy) (schemaName : Text) : List (Action Text) → Action (List Text)
  | [] => pure []
  | add :: rest => do
    let oid ← orSkip policy schemaName add
    let oids ← addAll policy schemaName rest
    return oid.toList ++ oids

def choosePolicy (h : Host) (m : Manager) : Option Text → Except Failure DuplicatePolicy
  | some s => DuplicatePolicy.ofLabel s
  | none => m.config.getDuplicatePolicy h

def loadSchema (h : Host) (schemaName : Text) (rules : List RuleAddition)
    (types : List TypeAddition) (onDuplicate : Option Text) : Action (List Text) := do
  let policy ← ofExcept (choosePolicy h (← get).manager onDuplicate)
  addAll policy schemaName
    (rules.map (addMatchingRule schemaName) ++ types.map (addAttributeType schemaName))

end Action

def Host.readOctets (h : Host) (path : Text) : Except Failure (List UInt8) :=
  if path.contains '\x00' then .error .badPath
  else match h.files.find path with
    | .file octets => .ok octets
    | .directory => .error (.isDirectory path)
    | .notDirectory => .error (.notDirectory path)
    | .tooLong => .error (.nameTooLong path)
    | .missing => .error (.noFile path)

namespace SchemaFile

def attributeType (d : Definition) : Except Description.Malformed AttributeType :=
  if d.keyword = ("attributetype" : Text) then Description.parse .attributeType d.text
  else .error ⟨d.text, .foreignDefinition d.keyword⟩

def definitions (octets : List UInt8) : Except Failure (List Definition) :=
  match read (Text.fileLines octets).1 with
  | .error e => .error (.malformed e)
  | .ok ds => if (Text.fileLines octets).2 then .ok ds else .error .undecodable

/-- The attribute types of a file, all read before any is used. -/
def attributeTypes (octets : List UInt8) : Except Failure (List AttributeType) := do
  ((← definitions octets).mapM attributeType).mapError .malformed

end SchemaFile

namespace Action

def loadSchemaFile (h : Host) (schemaName path : Text) (onDuplicate : Option Text) :
    Action (List Text) := do
  let types ← ofExcept (do SchemaFile.attributeTypes (← h.readOctets path))
  loadSchema h schemaName [] (types.map .parsed) onDuplicate

def loadFiles (h : Host) : List (Text × Text) → Action Unit
  | [] => pure ()
  | (schemaName, path) :: rest => do
    discard (loadSchemaFile h schemaName path none)
    loadFiles h rest

end Action

namespace Manager

def startUp (h : Host) (config : ManagerConfig) : Except Failure (Manager × List (Text × Text)) := do
  let m ← make h config none
  return (m, ← config.getSchemaFiles h)

def inSchemaOrder (files : List (Text × Text)) : List (Text × Text) :=
  files.mergeSort fun a b => (compare a.1 b.1).isLE

/-- The manager that a configuration asks for, with its schema files loaded in the
order of their schema names, and the log of how it came about. -/
def ofConfig (h : Host) (config : ManagerConfig) : Except Failure Manager × List Record :=
  match startUp h config with
  | .error e => (.error e, [])
  | .ok (m, files) =>
    match Action.loadFiles h (inSchemaOrder files) ⟨m, []⟩ with
    | .ok _ s => (.ok s.manager, s.log)
    | .error e s => (.error e, s.log)

end Manager

end DirectorySchema
