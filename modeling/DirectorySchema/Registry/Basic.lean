import DirectorySchema.Registry.Layer

/-!
# Layered registries

A registry lays elements registered at runtime over a catalog that never
changes. An identifier or a name that either layer knows is taken, so nothing
registered later hides what was there before.
-/

set_option autoImplicit false

namespace DirectorySchema

structure Record where
  debug : Bool
  text : Text
  deriving DecidableEq, Repr

structure Registry (α : Type) where
  catalog : Layer α
  runtime : Layer α
  deriving DecidableEq, Repr

namespace Registry

variable {α : Type} [SchemaElement α]

def ofCatalog (catalog : Layer α) : Registry α := ⟨catalog, Layer.empty⟩

def ofCatalog? : Option (Layer α) → Except Refusal (Registry α)
  | some catalog => .ok (ofCatalog catalog)
  | none => .error (.noCatalog (SchemaElement.kind α))

def oids (r : Registry α) : List Text := r.runtime.oids

def find? (r : Registry α) (oid : Text) : Option (Entry α) :=
  (r.runtime.find? oid).orElse fun _ => r.catalog.find? oid

def holds (r : Registry α) (oid : Text) : Bool := r.runtime.holds oid || r.catalog.holds oid

def hasName (r : Registry α) (name : Text) : Bool :=
  r.runtime.hasName name || r.catalog.hasName name

def lookup (r : Registry α) (oid : Text) : Except Refusal α :=
  match r.find? oid with
  | some e => .ok e.element
  | none => .error (.noElement (SchemaElement.kind α) oid)

def schemaNameOf (r : Registry α) (oid : Text) : Except Refusal Text :=
  if !Text.startsWithDigit oid then .error (.notNumeric oid)
  else match r.find? oid with
    | some e => .ok e.schemaName
    | none => .error (.noSchemaName oid)

def oidOf (r : Registry α) (x : Text) : Except Refusal Text :=
  match (r.runtime.resolve? x).orElse fun _ => r.catalog.resolve? x with
  | some oid => .ok oid
  | none => .error (.noName (SchemaElement.kind α) x)

def checkAvailable (r : Registry α) (oid : Text) (element : α) : Except Refusal Unit :=
  if r.holds oid then .error (.oidTaken (SchemaElement.kind α) oid)
  else if (SchemaElement.declaredOid? element).any (· != oid) then
    .error (.foreignOid (SchemaElement.kind α) oid (SchemaElement.shown element))
  else match (SchemaElement.names element).find? r.hasName with
    | some name => .error (.nameTaken (SchemaElement.kind α) oid name)
    | none => .ok ()

def registrationRecord (oid : Text) (element : α) : Record :=
  ⟨true, "registered " ++ (SchemaElement.kind α).label ++ " with OID " ++ Text.quoted oid ++
    ": " ++ SchemaElement.shown element⟩

def insert (r : Registry α) (e : Entry α) : Registry α := { r with runtime := r.runtime.insert e }

def register (r : Registry α) (schemaName oid : Text) (element : α) :
    Except Refusal (Registry α × Record) := do
  r.checkAvailable oid element
  return (r.insert ⟨oid, schemaName, element⟩, registrationRecord oid element)

def shown (r : Registry α) : Text :=
  "<Global" ++ (SchemaElement.kind α).registryLabel ++ " with " ++
    Text.ofNat r.runtime.entries.length ++ " runtime entries over " ++ r.catalog.shown ++ ">"

end Registry

end DirectorySchema
