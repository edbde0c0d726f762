import DirectorySchema.Value.Basic

/-!
# Normalizers

A normalizer brings a value into the canonical form of a matching rule. The
library has normalizers for nine forms, all but two of which are texts. Other
normalizers may be registered beside these and are known by what they do.
-/

set_option autoImplicit false

namespace DirectorySchema

inductive NormalForm where
  | identity
  | noOp
  | deepTrim
  | deepTrimToLower
  | numeric
  | telephoneNumber
  | boolean
  | integer
  | objectIdentifier
  deriving DecidableEq, Repr

def Text.deepTrim (s : Text) : Text := unwords (words s)

namespace NormalForm

def all : List NormalForm :=
  [identity, noOp, deepTrim, deepTrimToLower, numeric, telephoneNumber, boolean, integer,
    objectIdentifier]

def label : NormalForm → Text
  | identity => "Normalizer"
  | noOp => "NoOpNormalizer"
  | deepTrim => "DeepTrimNormalizer"
  | deepTrimToLower => "DeepTrimToLowerNormalizer"
  | numeric => "NumericNormalizer"
  | telephoneNumber => "TelephoneNumberNormalizer"
  | boolean => "BooleanNormalizer"
  | integer => "IntegerNormalizer"
  | objectIdentifier => "ObjectIdentifierNormalizer"

def integerText (s : Text) : Except Failure Text :=
  match Text.readInteger (Text.trim s) with
  | .ok n => .ok (Text.ofInt n)
  | .error e => .error (.numeral e)

def onText : NormalForm → Text → Except Failure Text
  | identity, s | noOp, s => .ok s
  | deepTrim, s => .ok (Text.deepTrim s)
  | deepTrimToLower, s => .ok (Text.lower (Text.deepTrim s))
  | numeric, s => .ok (Text.words s).flatten
  | telephoneNumber, s => .ok (Text.lower (s.filter fun c => c != ' ' && c != '-'))
  | boolean, s => .ok (Text.upper (Text.trim s))
  | integer, s => integerText s
  | objectIdentifier, s => .ok (Text.lower (Text.trim s))

def keepsValues : NormalForm → Bool
  | identity | noOp => true
  | _ => false

def normalize (f : NormalForm) (v : Value) : Except Failure Value :=
  if f.keepsValues then .ok v else do return .text (← f.onText (← v.asText))

theorem normalize_text (f : NormalForm) (s : Text) :
    f.normalize (.text s) = (f.onText s).map .text := by
  cases f <;> rfl

end NormalForm

/-- A normalizer from outside the library, by what it shows of itself and what it does. -/
structure ForeignNormalizer where
  shown : Text
  normalize : Value → Except Failure Value

inductive Normalizer where
  | form (f : NormalForm)
  | foreign (n : ForeignNormalizer)

namespace Normalizer

def shown : Normalizer → Text
  | form f => f.label ++ "()"
  | foreign n => n.shown

def normalize : Normalizer → Value → Except Failure Value
  | form f => f.normalize
  | foreign n => n.normalize

def form? : Normalizer → Option NormalForm
  | form f => some f
  | foreign _ => none

theorem form?_eq_some_iff {n : Normalizer} {f : NormalForm} : n.form? = some f ↔ n = form f := by
  cases n <;> simp [form?]

end Normalizer

end DirectorySchema
