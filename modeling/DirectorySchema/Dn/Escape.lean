import DirectorySchema.Text.Quoted

/-!
# Escapes in names

How a text is written so that the separators of a name do not break it, how it
is read back, and how a written name is cut at the separators left bare.
-/

set_option autoImplicit false

namespace DirectorySchema.Dn

def isSpecial (c : Char) : Bool := (",+\"\\<>;=" : Text).contains c

def controlEscape (c : Char) : Text :=
  ['\\', if c.toNat < 16 then '0' else '1', (Text.hexDigit (c.toNat % 16)).toUpper]

def escapeChar (first last : Bool) (c : Char) : Text :=
  if isSpecial c || (first && (c == ' ' || c == '#')) || (last && c == ' ') then ['\\', c]
  else if c.toNat ≤ 31 then controlEscape c
  else [c]

def escapeFrom (first : Bool) : Text → Text
  | [] => []
  | c :: r => escapeChar first r.isEmpty c ++ escapeFrom false r

def escape (s : Text) : Text := escapeFrom true s

def hexValue? (c : Char) : Option Nat :=
  let n := c.toNat
  if 48 ≤ n && n ≤ 57 then some (n - 48)
  else if 65 ≤ n && n ≤ 70 then some (n - 55)
  else if 97 ≤ n && n ≤ 102 then some (n - 87)
  else none

def hexPair? (a b : Char) : Option Char :=
  match hexValue? a, hexValue? b with
  | some m, some n => some (Char.ofNat (16 * m + n))
  | _, _ => none

/-- A backslash stands before a pair of hex digits, which names one character,
or before any other character, which then stands for itself. -/
def unescape : Text → Text
  | [] => []
  | c :: r =>
    if c ≠ '\\' then c :: unescape r
    else match r with
      | [] => []
      | [a] => [a]
      | a :: b :: t =>
        match hexPair? a b with
        | some d => d :: unescape t
        | none => a :: unescape (b :: t)

def consHead (c : Char) : List Text → List Text
  | [] => [[c]]
  | p :: ps => (c :: p) :: ps

/-- The pieces between bare separators. Spaces behind a separator are dropped,
which is the case at the start of the text if the flag says so. -/
def piecesFrom (separator : Char) : Bool → Text → List Text
  | _, [] => [[]]
  | skip, c :: r =>
    if skip && c == ' ' then piecesFrom separator true r
    else if c = '\\' then
      match r with
      | [] => [[c]]
      | d :: t => consHead c (consHead d (piecesFrom separator false t))
    else if c = separator then [] :: piecesFrom separator true r
    else consHead c (piecesFrom separator false r)

def splitBare (separator : Char) (s : Text) : List Text :=
  if s.isEmpty then [] else piecesFrom separator false s

end DirectorySchema.Dn
