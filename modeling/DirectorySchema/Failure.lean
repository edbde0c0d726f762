import DirectorySchema.Refusal
import DirectorySchema.Description.Parser
import DirectorySchema.Dn.Parser
import DirectorySchema.Settings.Fault
import DirectorySchema.CommandLine.Fault

/-!
# Failures

Everything that can keep an operation from answering, by cause, and the message
of those causes that have one.
-/

set_option autoImplicit false

namespace DirectorySchema

inductive Failure where
  | refused (r : Refusal)
  | malformed (e : Description.Malformed)
  | invalidRdn (e : InvalidRdn)
  | numeral (e : Text.NumeralError)
  | negativeCount
  | countTooLarge
  | notOctet
  | unboundName (n : Dn)
  | unboundDeferral (oid : Text)
  | unknownLevel (shown : Text)
  | undecodable
  | wrongKind
  | textPassword (s : Text)
  | misuse
  | noSuchPart
  | outOfRange
  | endlessDeferral
  | noFile (path : Text)
  | isDirectory (path : Text)
  | notDirectory (path : Text)
  | nameTooLong (path : Text)
  | badPath
  | settings (e : Settings.Fault)
  | usage (e : CommandLine.Fault)
  | foreign (shown : Text)
  deriving DecidableEq, Repr

instance : Inhabited Failure := ⟨.misuse⟩

def Text.NumeralError.message : Text.NumeralError → Text
  | .malformed s => "invalid literal for int() with base 10: " ++ (Text.quoted s).take 200
  | .tooLong digits =>
    "Exceeds the limit (4300 digits) for integer string conversion: value has " ++
      Text.ofNat digits ++ " digits; use sys.set_int_max_str_digits() to increase the limit"
  | .unwritable =>
    "Exceeds the limit (4300 digits) for integer string conversion; use " ++
      "sys.set_int_max_str_digits() to increase the limit"

def Failure.message? : Failure → Option Text
  | .refused r => some r.message
  | .malformed e => some e.message
  | .invalidRdn e => some e.message
  | .numeral e => some e.message
  | .negativeCount => some "negative count"
  | .unboundName n => some (n.shown ++ " is not bound to a schema")
  | .unboundDeferral oid =>
    some ("DeferredComparator for " ++ oid ++ " is not bound to a registry")
  | .unknownLevel shown | .foreign shown => some shown
  | .textPassword s => some ("user passwords are bytes, not " ++ Text.quoted s)
  | .noFile path => some ("[Errno 2] No such file or directory: " ++ Text.quoted path)
  | .isDirectory path => some ("[Errno 21] Is a directory: " ++ Text.quoted path)
  | .notDirectory path => some ("[Errno 20] Not a directory: " ++ Text.quoted path)
  | .nameTooLong path => some ("[Errno 36] File name too long: " ++ Text.quoted path)
  | .notOctet => some "byte must be in range(0, 256)"
  | .usage e => some e.message
  | .badPath | .settings .badPath => some "embedded null byte"
  | _ => none

end DirectorySchema
