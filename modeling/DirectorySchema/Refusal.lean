import DirectorySchema.Text.Quoted

/-!
# Refusals

What a schema registry answers when it cannot do what it is asked, by cause.
Every refusal belongs to a category, and the category gives the result code and
the result name that a directory server reports to its client.
-/

set_option autoImplicit false

namespace DirectorySchema

inductive ElementKind where
  | element
  | comparator
  | normalizer
  | matchingRule
  | attributeType
  deriving DecidableEq, Repr

def ElementKind.label : ElementKind → Text
  | .element => "schema element"
  | .comparator => "comparator"
  | .normalizer => "normalizer"
  | .matchingRule => "matching rule"
  | .attributeType => "attribute type"

namespace Refusal

inductive Category where
  | general
  | configuration
  | identifier
  | alreadyRegistered
  | notFound
  | invalidOid
  | inappropriateMatching
  | notSchemaAware
  deriving DecidableEq, Repr

namespace Category

def resultCode : Category → Nat
  | .alreadyRegistered => 68
  | .notFound => 32
  | .invalidOid => 21
  | .inappropriateMatching => 18
  | _ => 80

def resultName : Category → Text
  | .alreadyRegistered => "entryAlreadyExists"
  | .notFound => "noSuchObject"
  | .invalidOid => "invalidAttributeSyntax"
  | .inappropriateMatching => "inappropriateMatching"
  | _ => "other"

def parent? : Category → Option Category
  | .general => none
  | .configuration | .identifier | .notSchemaAware => some .general
  | .alreadyRegistered | .notFound | .invalidOid | .inappropriateMatching => some .identifier

/-- Whether refusals of a category carry the identifier they are about. -/
def carriesOid (c : Category) : Bool := c == .identifier || c.parent? == some .identifier

def report (c : Category) (detail : Text) : Text :=
  if detail.isEmpty then c.resultName else c.resultName ++ ": " ++ detail

end Category

end Refusal

inductive Refusal where
  | oidTaken (kind : ElementKind) (oid : Text)
  | nameTaken (kind : ElementKind) (oid name : Text)
  | noElement (kind : ElementKind) (oid : Text)
  | noName (kind : ElementKind) (name : Text)
  | noSchemaName (oid : Text)
  | undefinedOid (oid : Text)
  | notNumeric (oid : Text)
  | noEqualityRule (oid : Text)
  | foreignOid (kind : ElementKind) (oid shown : Text)
  | duplicateOid (kind : ElementKind) (oid first second : Text)
  | duplicateName (kind : ElementKind) (name first second : Text)
  | unknownSchema (name : Text)
  | noCatalog (kind : ElementKind)
  | badPolicy (policy : Text)
  | noBootstrapSchemas
  | noPath (sect : Text)
  | unawareName (shown : Text)
  deriving DecidableEq, Repr

namespace Refusal

def category : Refusal → Category
  | .oidTaken .. | .nameTaken .. => .alreadyRegistered
  | .noElement .. | .noName .. | .noSchemaName .. | .undefinedOid .. => .notFound
  | .notNumeric .. => .invalidOid
  | .noEqualityRule .. => .inappropriateMatching
  | .unawareName .. => .notSchemaAware
  | _ => .configuration

def oid? : Refusal → Option Text
  | .oidTaken _ oid | .nameTaken _ oid _ | .noElement _ oid | .noName _ oid | .noSchemaName oid
  | .undefinedOid oid | .notNumeric oid | .noEqualityRule oid => some oid
  | _ => none

def detail : Refusal → Text
  | .oidTaken kind oid => kind.label ++ " with OID " ++ oid ++ " already registered"
  | .nameTaken kind _ name => kind.label ++ " name " ++ Text.quoted name ++ " already registered"
  | .noElement kind oid => kind.label ++ " not found for OID: " ++ oid
  | .noName kind name => kind.label ++ " not found: " ++ name
  | .noSchemaName oid => "OID " ++ oid ++ " not found in the OID to schema name map"
  | .undefinedOid oid => "OID " ++ oid ++ " is not defined by any schema"
  | .notNumeric oid => "OID " ++ Text.quoted oid ++ " is not a numeric OID"
  | .noEqualityRule oid => "attribute type " ++ oid ++ " has no equality matching rule"
  | .foreignOid kind oid shown =>
    kind.label ++ " " ++ shown ++ " registered under foreign OID " ++ oid
  | .duplicateOid kind oid first second =>
    "bootstrap " ++ kind.label ++ " with OID " ++ oid ++ " defined by both " ++ first ++
      " and " ++ second
  | .duplicateName kind name first second =>
    "bootstrap " ++ kind.label ++ " name " ++ Text.quoted name ++ " used by both " ++ first ++
      " and " ++ second
  | .unknownSchema name => "unknown bootstrap schema " ++ Text.quoted name
  | .noCatalog kind => "the bootstrap " ++ kind.label ++ " registry cannot be None"
  | .badPolicy policy => "on-duplicate must be one of fail, skip, not " ++ Text.quoted policy
  | .noBootstrapSchemas => "no bootstrap schemas configured"
  | .noPath sect => "section [" ++ sect ++ "] needs a path"
  | .unawareName shown => "the principal name " ++ shown ++ " must be schema aware"

def message (r : Refusal) : Text := r.category.report r.detail

end Refusal

end DirectorySchema
