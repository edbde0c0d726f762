import DirectorySchema.Text.Numeral

/-!
# Quoted texts

The form in which texts and octets appear inside messages: single quotes unless
the text has a single and no double one, a backslash before the quote and before
itself, short escapes for tab, line feed and carriage return, and a code point
number for whatever else is not printable.
-/

set_option autoImplicit false

namespace DirectorySchema.Text

def hexDigit (n : Nat) : Char := Char.ofNat (if n < 10 then 48 + n else 87 + n)

def hexDigits : Nat → Nat → Text
  | 0, _ => []
  | width + 1, n => hexDigits width (n / 16) ++ [hexDigit (n % 16)]

def chooseQuote (s : Text) : Char :=
  if s.contains '\'' && !s.contains '"' then '"' else '\''

def codePointEscape (n : Nat) : Text :=
  if n < 0x100 then '\\' :: 'x' :: hexDigits 2 n
  else if n < 0x10000 then '\\' :: 'u' :: hexDigits 4 n
  else '\\' :: 'U' :: hexDigits 8 n

def quoteChar (quote c : Char) : Text :=
  if c = quote || c = '\\' then ['\\', c]
  else if c = '\n' then "\\n"
  else if c = '\r' then "\\r"
  else if c = '\t' then "\\t"
  else if isPrintable c then [c]
  else codePointEscape c.toNat

def quoted (s : Text) : Text :=
  let quote := chooseQuote s
  quote :: s.flatMap (quoteChar quote) ++ [quote]

def quotedOctet (quote c : Char) : Text :=
  if 127 ≤ c.toNat then codePointEscape c.toNat else quoteChar quote c

def quotedOctets (bs : List UInt8) : Text :=
  let s := bs.map fun b => Char.ofNat b.toNat
  let quote := chooseQuote s
  'b' :: quote :: s.flatMap (quotedOctet quote) ++ [quote]

/-- A buffer shows its octets with every single quote escaped. -/
def quotedBuffer (bs : List UInt8) : Text :=
  let s := bs.map fun b => Char.ofNat b.toNat
  let quote := chooseQuote s
  "bytearray(b" ++ quote :: s.flatMap (fun c => quotedOctet (if c = '\'' then c else '\\') c) ++
    [quote, ')']

/-- A parenthesised list in which a single member keeps a comma behind it. -/
def quotedTuple : List Text → Text
  | [] => "()"
  | [s] => '(' :: s ++ ",)"
  | ss => '(' :: joinWith ", " ss ++ ")"

end DirectorySchema.Text
