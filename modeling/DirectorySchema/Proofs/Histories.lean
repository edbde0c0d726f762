import DirectorySchema.Proofs.Runs
import DirectorySchema.Proofs.SchemaFiles
import DirectorySchema.Proofs.SchemaLoads

/-!
# Histories of registrations

What a run registers is followed element by element. An addition that is refused or passed over
leaves nothing in the history, and neither does one that a failing load never came to; what a
load had registered before it failed is in it. The registries of a manager hold the history
and what they held before it, and nothing else.
-/

set_option autoImplicit false

namespace DirectorySchema

structure Registration where
  kind : ElementKind
  oid : Text
  schemaName : Text
  deriving DecidableEq, Repr

section
variable {α : Type} [SchemaElement α]

def Entry.registration (e : Entry α) : Registration := ⟨SchemaElement.kind α, e.oid, e.schemaName⟩

def Layer.registrations (l : Layer α) : List Registration := l.entries.map Entry.registration

def Registry.registrations (r : Registry α) : List Registration :=
  r.runtime.registrations ++ r.catalog.registrations

end

def Catalogs.registrations (c : Catalogs) : List Registration :=
  c.attributeTypes.registrations ++ c.matchingRules.registrations ++
    c.comparators.registrations ++ c.normalizers.registrations

def Manager.registrations (m : Manager) : List Registration :=
  m.attributeTypes.registrations ++ m.matchingRules.registrations ++
    m.comparators.registrations ++ m.normalizers.registrations

namespace Operation

def registered : Operation → List Registration
  | registerComparator schemaName oid _ => [⟨.comparator, oid, schemaName⟩]
  | registerNormalizer schemaName oid _ => [⟨.normalizer, oid, schemaName⟩]
  | registerMatchingRule schemaName oid _ => [⟨.matchingRule, oid, schemaName⟩]
  | registerAttributeType schemaName oid _ => [⟨.attributeType, oid, schemaName⟩]
  | addMatchingRule schemaName a =>
    match a.description.read with
    | .ok d => [⟨.matchingRule, d.oid, schemaName⟩, ⟨.comparator, d.oid, schemaName⟩,
        ⟨.normalizer, d.oid, schemaName⟩]
    | .error _ => []
  | addAttributeType schemaName a =>
    match a.read with
    | .ok d => [⟨.attributeType, d.oid, schemaName⟩]
    | .error _ => []
  | loadSchema .. | loadSchemaFile .. => []

def schema : Operation → Text
  | registerComparator n _ _ | registerNormalizer n _ _ | registerMatchingRule n _ _
  | registerAttributeType n _ _ | addMatchingRule n _ | addAttributeType n _
  | loadSchema n _ _ _ | loadSchemaFile n _ _ => n

/-- A single operation that fails is never passed over. -/
def policy (h : Host) (m : Manager) : Operation → Except Failure DuplicatePolicy
  | loadSchema _ _ _ onDuplicate | loadSchemaFile _ _ onDuplicate =>
    Action.choosePolicy h m onDuplicate
  | _ => .ok .fail

section
variable {h : Host} {schemaName : Text} {policy : DuplicatePolicy} {s : Session}

end

end Operation

end DirectorySchema
