import DirectorySchema.Normalizer
import DirectorySchema.Dn.Construct

/-!
# Comparators

A matching order prepares each value into a key and compares the keys. Only the
identity order takes values as they are, so it alone may be given two that are
not comparable. A comparator is a matching order, one from elsewhere that is
known by what it does, or stands in for the one that is registered under an
identifier.
-/

set_option autoImplicit false

namespace DirectorySchema

inductive MatchingOrder where
  | identity
  | caseIgnore
  | caseExact
  | numericString
  | telephoneNumber
  | boolean
  | integer
  | octetString
  | objectIdentifier
  | distinguishedName
  deriving DecidableEq, Repr

def Ava.order : Ava → Ava → Ordering := compareLex (compareOn Ava.type) (compareOn Ava.value)

/-- The parts of a relative name without regard to case, spacing and order. -/
def Rdn.folded (r : Rdn) : Rdn :=
  (r.map fun a => Ava.mk (Text.lower a.type) (Text.lower (Text.deepTrim a.value))).mergeSort
    fun a b => (Ava.order a b).isLE

namespace MatchingOrder

def all : List MatchingOrder :=
  [identity, caseIgnore, caseExact, numericString, telephoneNumber, boolean, integer,
    octetString, objectIdentifier, distinguishedName]

def label : MatchingOrder → Text
  | identity => "Comparator"
  | caseIgnore => "CaseIgnoreComparator"
  | caseExact => "CaseExactComparator"
  | numericString => "NumericStringComparator"
  | telephoneNumber => "TelephoneNumberComparator"
  | boolean => "BooleanComparator"
  | integer => "IntegerComparator"
  | octetString => "OctetStringComparator"
  | objectIdentifier => "ObjectIdentifierComparator"
  | distinguishedName => "DistinguishedNameComparator"

inductive Key where
  | value (v : Value)
  | text (s : Text)
  | number (n : Int)
  | octets (r : Row)
  | arcs (ns : List Int)
  | descriptor (s : Text)
  | rdns (rs : List Rdn)
  deriving DecidableEq, Repr

/-- Numeric identifiers, arc by arc, come before all descriptors. -/
def Key.compare? : Key → Key → Option Ordering
  | .value v, .value w => v.compare? w
  | .text s, .text t => some (compare s t)
  | .number m, .number n => some (compare m n)
  | .octets a, .octets b => some (a.compare b)
  | .arcs a, .arcs b => some (compare a b)
  | .arcs _, .descriptor _ => some .lt
  | .descriptor _, .arcs _ => some .gt
  | .descriptor s, .descriptor t => some (compare s t)
  | .rdns a, .rdns b => some (List.compareLex (List.compareLex Ava.order) a b)
  | _, _ => none

def oidKey (s : Text) : Except Failure Key :=
  if Text.startsWithDigit s then
    (Key.arcs <$> (s.splitOn '.').mapM Text.readInteger).mapError .numeral
  else .ok (.descriptor s)

def integerKey (v : Value) : Except Failure Key :=
  match v.asInteger? with
  | some n => .ok (.number n)
  | none => do
    (Key.number <$> Text.readInteger (Text.deepTrim (← v.asText))).mapError .numeral

def octetKey : Value → Except Failure Key
  | .text s => .ok (.octets (Row.ofList (Text.toUtf8 s)))
  | v => Key.octets <$> v.asRow

def normalKey (f : NormalForm) (v : Value) : Except Failure Key := do
  return .text (← f.onText (← v.asText))

def prepare : MatchingOrder → Value → Except Failure Key
  | identity, v => .ok (.value v)
  | caseIgnore, v => normalKey .deepTrimToLower v
  | caseExact, v => normalKey .deepTrim v
  | numericString, v => normalKey .numeric v
  | telephoneNumber, v => normalKey .telephoneNumber v
  | boolean, v => normalKey .boolean v
  | integer, v => integerKey v
  | octetString, v => octetKey v
  | objectIdentifier, v => do oidKey (← NormalForm.objectIdentifier.onText (← v.asText))
  | distinguishedName, v => do return .rdns ((← Dn.ofValue v).rdns.map Rdn.folded)

def compare (o : MatchingOrder) (v w : Value) : Except Failure Ordering := do
  let a ← o.prepare v
  let b ← o.prepare w
  match a.compare? b with
  | some c => .ok c
  | none => .error .wrongKind

end MatchingOrder

structure ForeignComparator where
  shown : Text
  compare : Value → Value → Except Failure Ordering

inductive Comparator where
  | order (o : MatchingOrder)
  | foreign (c : ForeignComparator)
  | deferred (oid : Text) (bound : Bool)

def Comparator.shown : Comparator → Text
  | .order o => o.label ++ "()"
  | .foreign c => c.shown
  | .deferred oid _ => "DeferredComparator(" ++ Text.quoted oid ++ ")"

def Comparator.order? : Comparator → Option MatchingOrder
  | .order o => some o
  | .foreign _ | .deferred .. => none

theorem Comparator.order?_eq_some_iff {c : Comparator} {o : MatchingOrder} :
    c.order? = some o ↔ c = .order o := by
  cases c <;> simp [order?]

end DirectorySchema
