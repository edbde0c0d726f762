import DirectorySchema.Dn.Basic

/-!
# Reading names

A name is cut at bare commas, a relative name at bare plus signs, and each of
the resulting pieces is unescaped before its type and value are told apart at
the first equals sign. A piece without one, or with a blank type, is refused.
-/

set_option autoImplicit false

namespace DirectorySchema

structure InvalidRdn where
  text : Text
  deriving DecidableEq, Repr

def InvalidRdn.message (e : InvalidRdn) : Text :=
  "Invalid relative distinguished name " ++ Text.quoted e.text ++ "."

/-- Reads a type and value that are no longer escaped. -/
def Ava.parse (s : Text) : Except InvalidRdn Ava :=
  match s.dropWhile (· != '=') with
  | [] => .error ⟨s⟩
  | _ :: value =>
    let type := Text.trim (s.takeWhile (· != '='))
    if type.isEmpty then .error ⟨s⟩ else .ok ⟨type, value⟩

def Rdn.parse (s : Text) : Except InvalidRdn Rdn :=
  (Dn.splitBare '+' s).mapM fun piece => Ava.parse (Dn.unescape piece)

def Dn.parse (s : Text) : Except InvalidRdn Dn :=
  Dn.mk <$> (Dn.splitBare ',' s).mapM Rdn.parse

end DirectorySchema
