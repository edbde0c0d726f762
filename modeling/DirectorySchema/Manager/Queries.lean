import DirectorySchema.Manager.Basic

/-!
# Asking a manager

Attribute types are found by name or identifier. The equality rule of a type is
the one it names, or else that of its superior type; a chain of superior types
that comes back to a type already seen has none. The rule leads to the
comparator and the normalizer.
-/

set_option autoImplicit false

namespace DirectorySchema.Manager

def normalizeAttributeType (m : Manager) (name : Text) : Except Refusal Text :=
  m.attributeTypes.oidOf (Text.trim name)

def getAttributeType (m : Manager) (x : Text) : Except Refusal AttributeType := do
  m.attributeTypes.lookup (← m.normalizeAttributeType x)

/-- Follows superior types from a type, given those already seen. The steps left
are enough as long as they exceed the types not seen yet. -/
def equalityRuleFrom (m : Manager) : Nat → List Text → AttributeType → Except Refusal Text
  | steps, seen, t =>
    match t.terms.equality with
    | some rule => m.matchingRules.oidOf rule
    | none =>
      match t.terms.sup, steps with
      | some sup, steps + 1 =>
        if seen.contains t.oid then .error (.noEqualityRule t.oid)
        else match m.getAttributeType sup with
          | .ok above => m.equalityRuleFrom steps (t.oid :: seen) above
          | .error e => .error e
      | _, _ => .error (.noEqualityRule t.oid)

def typeCount (m : Manager) : Nat :=
  m.attributeTypes.runtime.entries.length + m.attributeTypes.catalog.entries.length

def equalityRuleOf (m : Manager) (x : Text) : Except Refusal Text := do
  m.equalityRuleFrom (m.typeCount + 1) [] (← m.getAttributeType x)

def comparatorFor (m : Manager) (x : Text) : Except Refusal Comparator := do
  m.comparators.lookup (← m.equalityRuleOf x)

def normalizerFor (m : Manager) (x : Text) : Except Refusal Normalizer := do
  m.normalizers.lookup (← m.equalityRuleOf x)

def compareValues (m : Manager) (x : Text) (v w : Value) : Except Failure Ordering :=
  match m.comparatorFor x with
  | .ok c => m.comparators.compareBy c v w
  | .error e => .error (.refused e)

def normalizeValue (m : Manager) (x : Text) (v : Value) : Except Failure Value :=
  match m.normalizerFor x with
  | .ok n => n.normalize v
  | .error e => .error (.refused e)

def contribution {α : Type} [SchemaElement α] (r : Registry α) (oid : Text) :
    List (ElementKind × Text) :=
  match r.find? oid with
  | some e => [(SchemaElement.kind α, e.schemaName)]
  | none => []

def contributions (m : Manager) (oid : Text) : List (ElementKind × Text) :=
  contribution m.attributeTypes oid ++ contribution m.matchingRules oid ++
    contribution m.comparators oid ++ contribution m.normalizers oid

/-- Which registries hold an identifier, and from which schema each has it. -/
def describeOid (m : Manager) (oid : Text) : Except Refusal (List (ElementKind × Text)) :=
  if !Text.startsWithDigit oid then .error (.notNumeric oid)
  else match m.contributions oid with
    | [] => .error (.undefinedOid oid)
    | found => .ok found

end DirectorySchema.Manager
