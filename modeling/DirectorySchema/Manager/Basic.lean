import DirectorySchema.Catalog.Shipped
import DirectorySchema.Comparator.Deferred
import DirectorySchema.Settings.ManagerConfig

/-!
# Schema managers

A manager holds a registry of each kind over one set of catalogs. A session is a
manager with the log of what was done to it, and an action is an operation on a
session: it may fail, and whatever it did before it failed stays done.
-/

set_option autoImplicit false

namespace DirectorySchema

structure Manager where
  config : ManagerConfig
  comparators : Registry Comparator
  normalizers : Registry Normalizer
  matchingRules : Registry MatchingRule
  attributeTypes : Registry AttributeType

namespace Manager

def ofCatalogs (config : ManagerConfig) (c : Catalogs) : Manager :=
  ⟨config, .ofCatalog c.comparators, .ofCatalog c.normalizers, .ofCatalog c.matchingRules,
    .ofCatalog c.attributeTypes⟩

def make (h : Host) (config : ManagerConfig) : Option Catalogs → Except Failure Manager
  | some c => .ok (ofCatalogs config c)
  | none => do
    return ofCatalogs config (← Catalogs.load Shipped.schemas (← config.getBootstrapSchemas h))

end Manager

structure Session where
  manager : Manager
  log : List Record

abbrev Action (α : Type) := EStateM Failure Session α

class Managed (α : Type) extends SchemaElement α where
  registry : Manager → Registry α
  replace : Registry α → Manager → Manager

instance : Managed Comparator where
  registry m := m.comparators
  replace r m := { m with comparators := r }

instance : Managed Normalizer where
  registry m := m.normalizers
  replace r m := { m with normalizers := r }

instance : Managed MatchingRule where
  registry m := m.matchingRules
  replace r m := { m with matchingRules := r }

instance : Managed AttributeType where
  registry m := m.attributeTypes
  replace r m := { m with attributeTypes := r }

namespace Action

def ofRefusal {α : Type} : Except Refusal α → Action α
  | .ok a => pure a
  | .error e => throw (.refused e)

def ofExcept {α : Type} : Except Failure α → Action α
  | .ok a => pure a
  | .error e => throw e

def record (r : Record) : Action Unit := modify fun s => { s with log := s.log ++ [r] }

def register {α : Type} [Managed α] (schemaName oid : Text) (element : α) : Action Unit := do
  let (r, entry) ← ofRefusal ((Managed.registry (← get).manager).register schemaName oid element)
  modify fun s => { s with manager := Managed.replace r s.manager }
  record entry

end Action

end DirectorySchema
