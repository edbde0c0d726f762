import DirectorySchema.Text.CharClass

/-!
# Decimal numerals

Reading and writing integers. A numeral may stand in white space, carry a sign
and have single underscores between its digits, which may be of any script.
More digits than a fixed limit are refused before anything behind the digits is
looked at.
-/

set_option autoImplicit false

namespace DirectorySchema.Text

inductive NumeralError where
  | malformed (s : Text)
  | tooLong (digits : Nat)
  | unwritable
  deriving DecidableEq, Repr

def digitLimit : Nat := 4300

def isAsciiDigit (c : Char) : Bool := 48 ≤ c.toNat && c.toNat ≤ 57

def asciiNumeralChar (c : Char) : Char :=
  if c.toNat < 127 then c
  else if isBlank c then ' '
  else match decimalValue? c with
    | some d => Char.ofNat (48 + d)
    | none => c

def isNumeralSpace (c : Char) : Bool := c == ' ' || (9 ≤ c.toNat && c.toNat ≤ 13)

def digitsValue (s : Text) : Nat := s.foldl (fun n c => 10 * n + (c.toNat - 48)) 0

def underscoresOk : Text → Bool
  | [] => true
  | '_' :: [] => false
  | '_' :: '_' :: _ => false
  | _ :: r => underscoresOk r

def readSign : Text → Bool × Text
  | '+' :: r => (false, r)
  | '-' :: r => (true, r)
  | r => (false, r)

def readInteger (s : Text) : Except NumeralError Int :=
  let (negative, body) := readSign ((s.map asciiNumeralChar).dropWhile isNumeralSpace)
  let run := body.takeWhile fun c => isAsciiDigit c || c == '_'
  let digits := run.filter isAsciiDigit
  if run.head? == some '_' || !underscoresOk run then .error (.malformed s)
  else if digitLimit < digits.length then .error (.tooLong digits.length)
  else if digits.isEmpty || !(body.drop run.length).all isNumeralSpace then
    .error (.malformed s)
  else .ok (if negative then -(digitsValue digits : Int) else digitsValue digits)

def ofNat (n : Nat) : Text := Nat.toDigits 10 n

def ofInt : Int → Text
  | .ofNat n => ofNat n
  | .negSucc n => '-' :: ofNat (n + 1)

/-- An integer with more digits than the limit is not written out either. -/
def writeInteger (n : Int) : Except NumeralError Text :=
  if digitLimit < (ofNat n.natAbs).length then .error .unwritable else .ok (ofInt n)

def isDotted (s : Text) : Bool :=
  (s.splitOn '.').all fun part => !part.isEmpty && part.all isAsciiDigit

/-- A numeric object identifier, one line feed at its end being overlooked. -/
def isNumericOid (s : Text) : Bool :=
  isDotted s || (s.getLast? == some '\n' && isDotted s.dropLast)

end DirectorySchema.Text
