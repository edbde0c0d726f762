import DirectorySchema.Catalog.Basic

/-!
# The shipped schemas

The definitions that come with the library: the matching rules of RFC 4517 that
the attribute types refer to, and attribute types of RFC 4512, RFC 4519,
RFC 4524 and RFC 2798. Later schemas refer to elements of earlier ones.
-/

set_option autoImplicit false

namespace DirectorySchema.Shipped

def system : SchemaDefinition where
  matchingRules :=
    [⟨"( 2.5.13.0 NAME 'objectIdentifierMatch' SYNTAX 1.3.6.1.4.1.1466.115.121.1.38 )",
      .order .objectIdentifier, .form .objectIdentifier⟩,
     ⟨"( 2.5.13.1 NAME 'distinguishedNameMatch' SYNTAX 1.3.6.1.4.1.1466.115.121.1.12 )",
      .order .distinguishedName, .form .deepTrimToLower⟩,
     ⟨"( 2.5.13.2 NAME 'caseIgnoreMatch' SYNTAX 1.3.6.1.4.1.1466.115.121.1.15 )",
      .order .caseIgnore, .form .deepTrimToLower⟩,
     ⟨"( 2.5.13.3 NAME 'caseIgnoreOrderingMatch' SYNTAX 1.3.6.1.4.1.1466.115.121.1.15 )",
      .order .caseIgnore, .form .deepTrimToLower⟩,
     ⟨"( 2.5.13.4 NAME 'caseIgnoreSubstringsMatch' SYNTAX 1.3.6.1.4.1.1466.115.121.1.58 )",
      .order .caseIgnore, .form .deepTrimToLower⟩,
     ⟨"( 2.5.13.5 NAME 'caseExactMatch' SYNTAX 1.3.6.1.4.1.1466.115.121.1.15 )",
      .order .caseExact, .form .deepTrim⟩,
     ⟨"( 2.5.13.6 NAME 'caseExactOrderingMatch' SYNTAX 1.3.6.1.4.1.1466.115.121.1.15 )",
      .order .caseExact, .form .deepTrim⟩,
     ⟨"( 2.5.13.8 NAME 'numericStringMatch' SYNTAX 1.3.6.1.4.1.1466.115.121.1.36 )",
      .order .numericString, .form .numeric⟩,
     ⟨"( 2.5.13.13 NAME 'booleanMatch' SYNTAX 1.3.6.1.4.1.1466.115.121.1.7 )",
      .order .boolean, .form .boolean⟩,
     ⟨"( 2.5.13.14 NAME 'integerMatch' SYNTAX 1.3.6.1.4.1.1466.115.121.1.27 )",
      .order .integer, .form .integer⟩,
     ⟨"( 2.5.13.15 NAME 'integerOrderingMatch' SYNTAX 1.3.6.1.4.1.1466.115.121.1.27 )",
      .order .integer, .form .integer⟩,
     ⟨"( 2.5.13.17 NAME 'octetStringMatch' SYNTAX 1.3.6.1.4.1.1466.115.121.1.40 )",
      .order .octetString, .form .noOp⟩,
     ⟨"( 2.5.13.20 NAME 'telephoneNumberMatch' SYNTAX 1.3.6.1.4.1.1466.115.121.1.50 )",
      .order .telephoneNumber, .form .telephoneNumber⟩,
     ⟨"( 1.3.6.1.4.1.1466.109.114.1 NAME 'caseExactIA5Match' SYNTAX 1.3.6.1.4.1.1466.115.121.1.26 )",
      .order .caseExact, .form .deepTrim⟩,
     ⟨"( 1.3.6.1.4.1.1466.109.114.2 NAME 'caseIgnoreIA5Match' SYNTAX 1.3.6.1.4.1.1466.115.121.1.26 )",
      .order .caseIgnore, .form .deepTrimToLower⟩]
  attributeTypes :=
    ["( 2.5.4.0 NAME 'objectClass' EQUALITY objectIdentifierMatch SYNTAX 1.3.6.1.4.1.1466.115.121.1.38 )",
     "( 2.5.4.1 NAME 'aliasedObjectName' EQUALITY distinguishedNameMatch SYNTAX 1.3.6.1.4.1.1466.115.121.1.12 SINGLE-VALUE )",
     "( 2.5.18.3 NAME 'creatorsName' EQUALITY distinguishedNameMatch SYNTAX 1.3.6.1.4.1.1466.115.121.1.12 SINGLE-VALUE NO-USER-MODIFICATION USAGE directoryOperation )",
     "( 2.5.18.4 NAME 'modifiersName' EQUALITY distinguishedNameMatch SYNTAX 1.3.6.1.4.1.1466.115.121.1.12 SINGLE-VALUE NO-USER-MODIFICATION USAGE directoryOperation )"]

def core : SchemaDefinition where
  attributeTypes :=
    ["( 2.5.4.41 NAME 'name' EQUALITY caseIgnoreMatch SUBSTR caseIgnoreSubstringsMatch SYNTAX 1.3.6.1.4.1.1466.115.121.1.15 )",
     "( 2.5.4.3 NAME ( 'cn' 'commonName' ) SUP name )",
     "( 2.5.4.4 NAME ( 'sn' 'surname' ) SUP name )",
     "( 2.5.4.6 NAME ( 'c' 'countryName' ) SUP name SYNTAX 1.3.6.1.4.1.1466.115.121.1.11 SINGLE-VALUE )",
     "( 2.5.4.7 NAME ( 'l' 'localityName' ) SUP name )",
     "( 2.5.4.8 NAME ( 'st' 'stateOrProvinceName' ) SUP name )",
     "( 2.5.4.10 NAME ( 'o' 'organizationName' ) SUP name )",
     "( 2.5.4.11 NAME ( 'ou' 'organizationalUnitName' ) SUP name )",
     "( 2.5.4.13 NAME 'description' EQUALITY caseIgnoreMatch SUBSTR caseIgnoreSubstringsMatch SYNTAX 1.3.6.1.4.1.1466.115.121.1.15 )",
     "( 2.5.4.20 NAME 'telephoneNumber' EQUALITY telephoneNumberMatch SYNTAX 1.3.6.1.4.1.1466.115.121.1.50 )",
     "( 2.5.4.31 NAME 'member' SUP distinguishedName )",
     "( 2.5.4.49 NAME 'distinguishedName' EQUALITY distinguishedNameMatch SYNTAX 1.3.6.1.4.1.1466.115.121.1.12 )",
     "( 2.5.4.35 NAME 'userPassword' EQUALITY octetStringMatch SYNTAX 1.3.6.1.4.1.1466.115.121.1.40 )",
     "( 2.5.4.5 NAME 'serialNumber' EQUALITY caseIgnoreMatch SYNTAX 1.3.6.1.4.1.1466.115.121.1.44 )"]

def cosine : SchemaDefinition where
  attributeTypes :=
    ["( 0.9.2342.19200300.100.1.1 NAME ( 'uid' 'userid' ) EQUALITY caseIgnoreMatch SYNTAX 1.3.6.1.4.1.1466.115.121.1.15 )",
     "( 0.9.2342.19200300.100.1.3 NAME ( 'mail' 'rfc822Mailbox' ) EQUALITY caseIgnoreIA5Match SYNTAX 1.3.6.1.4.1.1466.115.121.1.26 )",
     "( 0.9.2342.19200300.100.1.25 NAME ( 'dc' 'domainComponent' ) EQUALITY caseIgnoreIA5Match SYNTAX 1.3.6.1.4.1.1466.115.121.1.26 SINGLE-VALUE )"]

def inetOrgPerson : SchemaDefinition where
  attributeTypes :=
    ["( 2.16.840.1.113730.3.1.241 NAME 'displayName' EQUALITY caseIgnoreMatch SYNTAX 1.3.6.1.4.1.1466.115.121.1.15 SINGLE-VALUE )",
     "( 2.16.840.1.113730.3.1.3 NAME 'employeeNumber' EQUALITY caseIgnoreMatch SYNTAX 1.3.6.1.4.1.1466.115.121.1.15 SINGLE-VALUE )",
     "( 2.16.840.1.113730.3.1.4 NAME 'employeeType' EQUALITY caseIgnoreMatch SYNTAX 1.3.6.1.4.1.1466.115.121.1.15 )"]

def schemas : List (Text × SchemaDefinition) :=
  [("system", system), ("core", core), ("cosine", cosine), ("inetorgperson", inetOrgPerson)]

def schemaNames : List Text := schemas.map Prod.fst

end DirectorySchema.Shipped
