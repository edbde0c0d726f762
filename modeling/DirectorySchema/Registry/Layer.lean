import DirectorySchema.Comparator.Basic
import DirectorySchema.Description.Printer

/-!
# Layers of schema elements

A layer holds elements under their identifiers, in the order of their arrival,
and an index from the names of the elements, without regard to case, to those
identifiers. A catalog is a layer that is built at once from a list of entries,
and only if no two of them share an identifier or a name.
-/

set_option autoImplicit false

namespace DirectorySchema

/-- What a registry has to know about the elements it holds. -/
class SchemaElement (α : Type) where
  kind : ElementKind
  names : α → List Text
  declaredOid? : α → Option Text
  shown : α → Text

instance : SchemaElement Text := ⟨.element, fun _ => [], fun _ => none, Text.quoted⟩

instance : SchemaElement Comparator :=
  ⟨.comparator, fun _ => [], fun _ => none, Comparator.shown⟩

instance : SchemaElement Normalizer :=
  ⟨.normalizer, fun _ => [], fun _ => none, Normalizer.shown⟩

instance : SchemaElement MatchingRule :=
  ⟨.matchingRule, Description.names, fun d => some d.oid, Description.shown⟩

instance : SchemaElement AttributeType :=
  ⟨.attributeType, Description.names, fun d => some d.oid, Description.shown⟩

structure Entry (α : Type) where
  oid : Text
  schemaName : Text
  element : α
  deriving DecidableEq, Repr

structure Layer (α : Type) where
  entries : List (Entry α)
  names : List (Text × Text)
  deriving DecidableEq, Repr

namespace Layer

variable {α : Type} [SchemaElement α]

def empty : Layer α := ⟨[], []⟩

def oids (l : Layer α) : List Text := l.entries.map Entry.oid

def find? (l : Layer α) (oid : Text) : Option (Entry α) := l.entries.find? (·.oid == oid)

def holds (l : Layer α) (oid : Text) : Bool := (l.find? oid).isSome

def owner? (l : Layer α) (name : Text) : Option Text := l.names.lookup (Text.lower name)

def hasName (l : Layer α) (name : Text) : Bool := (l.owner? name).isSome

def resolve? (l : Layer α) (x : Text) : Option Text :=
  if Text.isNumericOid x then (if l.holds x then some x else none) else l.owner? x

def indexOf (e : Entry α) : List (Text × Text) :=
  (SchemaElement.names e.element).map fun n => (Text.lower n, e.oid)

def insert (l : Layer α) (e : Entry α) : Layer α :=
  ⟨l.entries ++ [e], l.names ++ indexOf e⟩

def claimOids (seen : List (Entry α)) : List (Entry α) → Except Refusal Unit
  | [] => .ok ()
  | e :: es =>
    match seen.find? (·.oid == e.oid) with
    | some first =>
      .error (.duplicateOid (SchemaElement.kind α) e.oid first.schemaName e.schemaName)
    | none => claimOids (seen ++ [e]) es

/-- Names in pairs with the identifiers of the elements that bear them. -/
def claimNames (kind : ElementKind) (seen : List (Text × Text)) :
    List (Text × Text) → Except Refusal Unit
  | [] => .ok ()
  | (name, oid) :: rest =>
    match seen.lookup (Text.lower name) with
    | some first => .error (.duplicateName kind name first oid)
    | none => claimNames kind (seen ++ [(Text.lower name, oid)]) rest

def bearers (es : List (Entry α)) : List (Text × Text) :=
  es.flatMap fun e => (SchemaElement.names e.element).map (·, e.oid)

def ofEntries (es : List (Entry α)) : Except Refusal (Layer α) := do
  claimOids [] es
  claimNames (SchemaElement.kind α) [] (bearers es)
  return es.foldl insert empty

def element (l : Layer α) (oid : Text) : Except Refusal α :=
  match l.find? oid with
  | some e => .ok e.element
  | none => .error (.noElement (SchemaElement.kind α) oid)

def schemaName (l : Layer α) (oid : Text) : Except Refusal Text :=
  match l.find? oid with
  | some e => .ok e.schemaName
  | none => .error (.noElement (SchemaElement.kind α) oid)

def oidOf (l : Layer α) (x : Text) : Except Refusal Text :=
  match l.resolve? x with
  | some oid => .ok oid
  | none => .error (.noName (SchemaElement.kind α) x)

end Layer

def ElementKind.registryLabel : ElementKind → Text
  | .element => "Registry"
  | .comparator => "ComparatorRegistry"
  | .normalizer => "NormalizerRegistry"
  | .matchingRule => "MatchingRuleRegistry"
  | .attributeType => "AttributeTypeRegistry"

def Layer.shown {α : Type} [SchemaElement α] (l : Layer α) : Text :=
  "<Bootstrap" ++ (SchemaElement.kind α).registryLabel ++ " with " ++
    Text.ofNat l.entries.length ++ " entries>"

end DirectorySchema
