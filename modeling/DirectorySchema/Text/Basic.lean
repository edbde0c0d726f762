/-!
# Texts and their words

A text is a list of code points and is ordered by code point. White space is
the Unicode white space together with the four information separators. The
words of a text are its maximal runs of other characters, and everything that
strips, splits or collapses white space in this library is said through them.
-/

set_option autoImplicit false

namespace DirectorySchema

abbrev Text := List Char

namespace Text

instance : Coe String Text := ⟨String.toList⟩

def isBlank (c : Char) : Bool :=
  let n := c.toNat
  (9 ≤ n && n ≤ 13) || (28 ≤ n && n ≤ 32) || n == 0x85 || n == 0xA0 || n == 0x1680 ||
    (0x2000 ≤ n && n ≤ 0x200A) || n == 0x2028 || n == 0x2029 || n == 0x202F ||
    n == 0x205F || n == 0x3000

def trimLeft (s : Text) : Text := s.dropWhile isBlank

def trimRight (s : Text) : Text := (s.reverse.dropWhile isBlank).reverse

def trim (s : Text) : Text := trimRight (trimLeft s)

def words (s : Text) : List Text := (s.splitOnP isBlank).filter (fun w => !w.isEmpty)

def joinWith (separator : Text) (ss : List Text) : Text := separator.intercalate ss

def unwords (ss : List Text) : Text := joinWith [' '] ss

def wordFrom (c : Char) (r : Text) : Text × Text :=
  (c :: r.takeWhile (!isBlank ·), trimLeft (r.dropWhile (!isBlank ·)))

/-- The first word and what follows the white space behind it. A text of white
space alone has no first word; the empty text has the empty one. -/
def firstWord? (s : Text) : Option (Text × Text) :=
  if s.isEmpty then some ([], [])
  else match trimLeft s with
    | [] => none
    | c :: r => some (wordFrom c r)

def peekWord? (s : Text) : Option (Option Text) :=
  if s.isEmpty then some none else (firstWord? s).map fun p => some p.1

def unifyNewlines : Text → Text
  | [] => []
  | '\r' :: '\n' :: r => '\n' :: unifyNewlines r
  | c :: r => (if c = '\r' then '\n' else c) :: unifyNewlines r

def lines : Text → List Text
  | [] => []
  | c :: r =>
    if c = '\n' then [c] :: lines r
    else match lines r with
      | [] => [[c]]
      | l :: ls => (c :: l) :: ls

theorem trimLeft_length_le (s : Text) : (trimLeft s).length ≤ s.length :=
  (List.dropWhile_sublist _).length_le

theorem trimRight_length_le (s : Text) : (trimRight s).length ≤ s.length := by
  simpa [trimRight] using (List.dropWhile_sublist isBlank (l := s.reverse)).length_le

theorem trim_length_le (s : Text) : (trim s).length ≤ s.length :=
  Nat.le_trans (trimRight_length_le _) (trimLeft_length_le s)

theorem wordFrom_length_le (c : Char) (r : Text) : (wordFrom c r).2.length ≤ r.length :=
  Nat.le_trans (trimLeft_length_le _) (List.dropWhile_sublist _).length_le

theorem takeWhile_append_trimLeft (s : Text) : s.takeWhile isBlank ++ trimLeft s = s :=
  List.takeWhile_append_dropWhile

theorem words_cons_blank {c : Char} (hc : isBlank c = true) (s : Text) :
    words (c :: s) = words s := by
  simp [words, List.splitOnP_cons_eq_if_modifyHead, hc]

end Text

end DirectorySchema
