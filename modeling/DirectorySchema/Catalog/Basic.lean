import DirectorySchema.Registry.Layer

/-!
# Catalogs

The catalogs of the four kinds of element, built from schema definitions that
are named in order. A matching rule brings its comparator and its normalizer
along, under the same identifier and from the same schema.
-/

set_option autoImplicit false

namespace DirectorySchema

structure RuleDefinition where
  description : Text
  comparator : Comparator
  normalizer : Normalizer

structure SchemaDefinition where
  matchingRules : List RuleDefinition := []
  attributeTypes : List Text := []

structure Catalogs where
  comparators : Layer Comparator
  normalizers : Layer Normalizer
  matchingRules : Layer MatchingRule
  attributeTypes : Layer AttributeType
  schemaNames : List Text

namespace Catalogs

structure Rule where
  schemaName : Text
  description : MatchingRule
  comparator : Comparator
  normalizer : Normalizer

namespace Rule

def entry {α : Type} (r : Rule) (element : α) : Entry α :=
  ⟨r.description.oid, r.schemaName, element⟩

end Rule

def readRule (schemaName : Text) (d : RuleDefinition) : Except Failure Rule :=
  match Description.parse .matchingRule d.description with
  | .ok description => .ok ⟨schemaName, description, d.comparator, d.normalizer⟩
  | .error e => .error (.malformed e)

def readType (schemaName text : Text) : Except Failure (Entry AttributeType) :=
  match Description.parse .attributeType text with
  | .ok d => .ok ⟨d.oid, schemaName, d⟩
  | .error e => .error (.malformed e)

def readSchema (schemas : List (Text × SchemaDefinition)) (name : Text) :
    Except Failure (List Rule × List (Entry AttributeType)) :=
  match schemas.lookup name with
  | none => .error (.refused (.unknownSchema name))
  | some d => do
    return (← d.matchingRules.mapM (readRule name), ← d.attributeTypes.mapM (readType name))

def build (names : List Text) (rules : List Rule) (types : List (Entry AttributeType)) :
    Except Refusal Catalogs := do
  let comparators ← Layer.ofEntries (rules.map fun r => r.entry r.comparator)
  let normalizers ← Layer.ofEntries (rules.map fun r => r.entry r.normalizer)
  let matchingRules ← Layer.ofEntries (rules.map fun r => r.entry r.description)
  let attributeTypes ← Layer.ofEntries types
  return ⟨comparators, normalizers, matchingRules, attributeTypes, names⟩

def load (schemas : List (Text × SchemaDefinition)) (names : List Text) :
    Except Failure Catalogs := do
  let read ← names.mapM (readSchema schemas)
  (build names (read.flatMap Prod.fst) (read.flatMap Prod.snd)).mapError .refused

def shown (c : Catalogs) : Text :=
  "<BootstrapCatalogs schemas=" ++ Text.quotedTuple (c.schemaNames.map Text.quoted) ++ ">"

end Catalogs

end DirectorySchema
