import DirectorySchema.Text.Quoted

/-!
# Schema descriptions

A description gives an element its numeric identifier and a set of terms: names,
a text, flags, references to other elements, and experimental terms. There are
three kinds, which differ in the keywords they admit and in what they require.
-/

set_option autoImplicit false

namespace DirectorySchema

namespace Description

inductive Kind where
  | plain
  | matchingRule
  | attributeType
  deriving DecidableEq, Repr

inductive Reference where
  | sup
  | equality
  | ordering
  | substr
  | syntaxOid
  | usage
  deriving DecidableEq, Repr

inductive Flag where
  | singleValue
  | collective
  | noUserModification
  deriving DecidableEq, Repr

def Reference.keyword : Reference → Text
  | .sup => "SUP"
  | .equality => "EQUALITY"
  | .ordering => "ORDERING"
  | .substr => "SUBSTR"
  | .syntaxOid => "SYNTAX"
  | .usage => "USAGE"

def Flag.keyword : Flag → Text
  | .singleValue => "SINGLE-VALUE"
  | .collective => "COLLECTIVE"
  | .noUserModification => "NO-USER-MODIFICATION"

def Kind.references : Kind → List Reference
  | .plain => []
  | .matchingRule => [.syntaxOid]
  | .attributeType => [.sup, .equality, .ordering, .substr, .syntaxOid, .usage]

def Kind.flags : Kind → List Flag
  | .attributeType => [.singleValue, .collective, .noUserModification]
  | _ => []

inductive Extension where
  | single (s : Text)
  | many (ss : List Text)
  deriving DecidableEq, Repr

def Extension.values : Extension → List Text
  | .single s => [s]
  | .many ss => ss

structure Terms where
  names : Option (List Text) := none
  desc : Option Text := none
  obsolete : Bool := false
  sup : Option Text := none
  equality : Option Text := none
  ordering : Option Text := none
  substr : Option Text := none
  syntaxOid : Option Text := none
  usage : Option Text := none
  singleValue : Bool := false
  collective : Bool := false
  noUserModification : Bool := false
  extensions : List (Text × Extension) := []
  deriving DecidableEq, Repr

namespace Terms

def reference? (t : Terms) : Reference → Option Text
  | .sup => t.sup
  | .equality => t.equality
  | .ordering => t.ordering
  | .substr => t.substr
  | .syntaxOid => t.syntaxOid
  | .usage => t.usage

def flag (t : Terms) : Flag → Bool
  | .singleValue => t.singleValue
  | .collective => t.collective
  | .noUserModification => t.noUserModification

end Terms

inductive Term where
  | names (ns : List Text)
  | desc (s : Text)
  | obsolete
  | reference (r : Reference) (s : Text)
  | flag (f : Flag)
  | extension (keyword : Text) (e : Extension)
  deriving DecidableEq, Repr

/-- A term said again replaces what was said before, except that experimental
terms are all kept. -/
def Terms.add (t : Terms) : Term → Terms
  | .names ns => { t with names := some ns }
  | .desc s => { t with desc := some s }
  | .obsolete => { t with obsolete := true }
  | .reference .sup s => { t with sup := some s }
  | .reference .equality s => { t with equality := some s }
  | .reference .ordering s => { t with ordering := some s }
  | .reference .substr s => { t with substr := some s }
  | .reference .syntaxOid s => { t with syntaxOid := some s }
  | .reference .usage s => { t with usage := some s }
  | .flag .singleValue => { t with singleValue := true }
  | .flag .collective => { t with collective := true }
  | .flag .noUserModification => { t with noUserModification := true }
  | .extension keyword e => { t with extensions := t.extensions ++ [(keyword, e)] }

end Description

structure Description (k : Description.Kind) where
  oid : Text
  terms : Description.Terms
  deriving DecidableEq, Repr

abbrev MatchingRule := Description .matchingRule

abbrev AttributeType := Description .attributeType

namespace Description

def names {k : Kind} (d : Description k) : List Text := d.terms.names.getD []

def Kind.label : Kind → Text
  | .plain => "_SchemaDescription"
  | .matchingRule => "MatchingRuleDescription"
  | .attributeType => "AttributeTypeDescription"

def showParts (k : Kind) (oid : Option Text) (names : Option (List Text)) : Text :=
  let none' : Text := "None"
  '<' :: k.label ++ " oid=" ++ oid.getD none' ++ " name=" ++
    (names.map fun ns => Text.quotedTuple (ns.map Text.quoted)).getD none' ++ ">"

def shown {k : Kind} (d : Description k) : Text := showParts k (some d.oid) d.terms.names

end Description

end DirectorySchema
