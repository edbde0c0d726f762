import DirectorySchema.Manager.Additions

/-!
# Operations on managers

An operation is an addition to a manager as data. A run performs operations one
after the other, each in the surroundings it finds; one that fails leaves what
it did before it failed, and the run goes on. No two operations overlap, so
there are no locks, and comparators and normalizers from outside the library do
nothing beside giving a value or failing.
-/

set_option autoImplicit false

namespace DirectorySchema

inductive Operation where
  | registerComparator (schemaName oid : Text) (c : Comparator)
  | registerNormalizer (schemaName oid : Text) (n : Normalizer)
  | registerMatchingRule (schemaName oid : Text) (d : MatchingRule)
  | registerAttributeType (schemaName oid : Text) (d : AttributeType)
  | addMatchingRule (schemaName : Text) (a : RuleAddition)
  | addAttributeType (schemaName : Text) (a : TypeAddition)
  | loadSchema (schemaName : Text) (rules : List RuleAddition) (types : List TypeAddition)
      (onDuplicate : Option Text)
  | loadSchemaFile (schemaName path : Text) (onDuplicate : Option Text)

namespace Operation

def perform (h : Host) : Operation → Action (List Text)
  | registerComparator schemaName oid c => do
    Action.register schemaName oid c
    return [oid]
  | registerNormalizer schemaName oid n => do
    Action.register schemaName oid n
    return [oid]
  | registerMatchingRule schemaName oid d => do
    Action.register schemaName oid d
    return [oid]
  | registerAttributeType schemaName oid d => do
    Action.register schemaName oid d
    return [oid]
  | addMatchingRule schemaName a => do return [← Action.addMatchingRule schemaName a]
  | addAttributeType schemaName a => do return [← Action.addAttributeType schemaName a]
  | loadSchema schemaName rules types onDuplicate =>
    Action.loadSchema h schemaName rules types onDuplicate
  | loadSchemaFile schemaName path onDuplicate =>
    Action.loadSchemaFile h schemaName path onDuplicate

def outcome (h : Host) (o : Operation) (s : Session) : Except Failure (List Text) × Session :=
  match o.perform h s with
  | .ok oids s => (.ok oids, s)
  | .error e s => (.error e, s)

def run : List (Host × Operation) → Session → Session
  | [], s => s
  | (h, o) :: rest, s => run rest (o.outcome h s).2

end Operation

end DirectorySchema
