import DirectorySchema.Description.Basic

/-!
# Reading descriptions

A description stands in parentheses and starts with a numeric identifier. Terms
follow in any order; each is read by its keyword, and reading one leaves a text
that is no longer than what came behind the keyword, so reading them all ends.
-/

set_option autoImplicit false

namespace DirectorySchema.Description

inductive Fault where
  | noParentheses
  | notNumeric (oid : Text)
  | noValue (keyword : Text)
  | unexpected (word : Text)
  | expectedString
  | openString
  | expectedNames
  | openList
  | emptyList
  | syntaxRequired
  | supOrSyntaxRequired
  | unknownUsage (usage : Text)
  | orphanContinuation
  | foreignDefinition (keyword : Text)
  deriving DecidableEq, Repr

def Fault.reason : Fault → Text
  | .noParentheses => "must be in parentheses"
  | .notNumeric oid => Text.quoted oid ++ " is not a numeric OID"
  | .noValue keyword => keyword ++ " needs a value"
  | .unexpected word => "unexpected term " ++ Text.quoted word
  | .expectedString => "expected a quoted string"
  | .openString => "unterminated quoted string"
  | .expectedNames => "expected a quoted name or a list of them"
  | .openList => "unterminated list"
  | .emptyList => "empty name list"
  | .syntaxRequired => "SYNTAX is required"
  | .supOrSyntaxRequired => "one of SUP or SYNTAX is required"
  | .unknownUsage usage => "unknown USAGE " ++ Text.quoted usage
  | .orphanContinuation => "continuation without a definition"
  | .foreignDefinition keyword => keyword ++ " definitions cannot be loaded from a file"

structure Malformed where
  text : Text
  fault : Fault
  deriving DecidableEq, Repr

def Malformed.message (e : Malformed) : Text :=
  "Invalid schema description " ++ Text.quoted e.text ++ ": " ++ e.fault.reason ++ "."

def readString (s : Text) : Except Fault (Text × Text) :=
  match Text.trimLeft s with
  | '\'' :: r =>
    match r.dropWhile (· != '\'') with
    | [] => .error .openString
    | _ :: rest => .ok (r.takeWhile (· != '\''), rest)
  | _ => .error .expectedString

theorem readString_length_lt {s v rest : Text} (h : readString s = .ok (v, rest)) :
    rest.length < s.length := by
  have hs := Text.trimLeft_length_le s
  unfold readString at h
  split at h
  · next r hr =>
    have hd := (List.dropWhile_sublist (fun c => c != '\'') (l := r)).length_le
    split at h
    · simp at h
    · next hq =>
      simp only [Except.ok.injEq, Prod.mk.injEq] at h
      rw [hr] at hs
      rw [hq, h.2] at hd
      simp at hs hd
      omega
  · simp at h

def readMembers (s : Text) : Except Fault (List Text) :=
  if s.isEmpty then .ok []
  else match h : readString s with
    | .error e => .error e
    | .ok (v, rest) =>
      have : (Text.trim rest).length < s.length :=
        Nat.lt_of_le_of_lt (Text.trim_length_le rest) (readString_length_lt h)
      (readMembers (Text.trim rest)).map (v :: ·)
  termination_by s.length

/-- A quoted string, or a list that goes up to the first closing parenthesis. -/
def readNames (s : Text) : Except Fault (List Text × Text) :=
  match Text.trimLeft s with
  | '\'' :: r => (readString ('\'' :: r)).map fun p => ([p.1], p.2)
  | '(' :: r =>
    match r.dropWhile (· != ')') with
    | [] => .error .openList
    | _ :: rest =>
      match readMembers (Text.trim (r.takeWhile (· != ')'))) with
      | .error e => .error e
      | .ok [] => .error .emptyList
      | .ok ns => .ok (ns, rest)
  | _ => .error .expectedNames

theorem readNames_length_le {s rest : Text} {ns : List Text} (h : readNames s = .ok (ns, rest)) :
    rest.length ≤ s.length := by
  have hs := Text.trimLeft_length_le s
  unfold readNames at h
  split at h
  · next r hr =>
    rw [hr] at hs
    cases hq : readString ('\'' :: r) with
    | error e => simp [hq, Except.map] at h
    | ok p =>
      simp only [hq, Except.map, Except.ok.injEq, Prod.mk.injEq] at h
      have := readString_length_lt hq
      rw [h.2] at this
      omega
  · next r hr =>
    have hd := (List.dropWhile_sublist (fun c => c != ')') (l := r)).length_le
    rw [hr] at hs
    split at h
    · simp at h
    · next hq =>
      split at h
      · simp at h
      · simp at h
      · simp only [Except.ok.injEq, Prod.mk.injEq] at h
        rw [hq, h.2] at hd
        simp at hs hd
        omega
  · simp at h

def readExtension (s : Text) : Except Fault (Extension × Text) :=
  match Text.trimLeft s with
  | '(' :: r => (readNames ('(' :: r)).map fun p => (.many p.1, p.2)
  | r => (readString r).map fun p => (.single p.1, p.2)

def readReference (r : Reference) : Text → Except Fault (Term × Text)
  | [] => .error (.noValue r.keyword)
  | c :: s => let p := Text.wordFrom c s; .ok (.reference r p.1, p.2)

def readTerm (k : Kind) (word rest : Text) : Except Fault (Term × Text) :=
  if word = ("NAME" : Text) then (readNames rest).map fun p => (.names p.1, p.2)
  else if word = ("DESC" : Text) then (readString rest).map fun p => (.desc p.1, p.2)
  else if word = ("OBSOLETE" : Text) then .ok (.obsolete, rest)
  else match k.flags.find? (·.keyword == word) with
    | some f => .ok (.flag f, rest)
    | none =>
      match k.references.find? (·.keyword == word) with
      | some r => readReference r rest
      | none =>
        if ("X-" : Text).isPrefixOf word then
          (readExtension rest).map fun p => (.extension word p.1, p.2)
        else .error (.unexpected word)

theorem readExtension_length_le {s rest : Text} {e : Extension}
    (h : readExtension s = .ok (e, rest)) : rest.length ≤ s.length := by
  have hs := Text.trimLeft_length_le s
  unfold readExtension at h
  split at h
  · next r hr =>
    rw [hr] at hs
    cases hq : readNames ('(' :: r) with
    | error _ => simp [hq, Except.map] at h
    | ok p =>
      simp only [hq, Except.map, Except.ok.injEq, Prod.mk.injEq] at h
      have := readNames_length_le hq
      rw [h.2] at this
      omega
  · cases hq : readString (Text.trimLeft s) with
    | error _ => simp [hq, Except.map] at h
    | ok p =>
      simp only [hq, Except.map, Except.ok.injEq, Prod.mk.injEq] at h
      have := readString_length_lt hq
      rw [h.2] at this
      omega

theorem readReference_length_le {r : Reference} {s rest : Text} {t : Term}
    (h : readReference r s = .ok (t, rest)) : rest.length ≤ s.length := by
  cases s with
  | nil => simp [readReference] at h
  | cons c s =>
    have := Text.wordFrom_length_le c s
    simp only [readReference, Except.ok.injEq, Prod.mk.injEq] at h
    rw [h.2] at this
    simp
    omega

theorem readTerm_length_le {k : Kind} {word s rest : Text} {t : Term}
    (h : readTerm k word s = .ok (t, rest)) : rest.length ≤ s.length := by
  unfold readTerm at h
  split at h
  · cases hq : readNames s with
    | error _ => simp [hq, Except.map] at h
    | ok p =>
      simp only [hq, Except.map, Except.ok.injEq, Prod.mk.injEq] at h
      exact h.2 ▸ readNames_length_le hq
  split at h
  · cases hq : readString s with
    | error _ => simp [hq, Except.map] at h
    | ok p =>
      simp only [hq, Except.map, Except.ok.injEq, Prod.mk.injEq] at h
      exact h.2 ▸ Nat.le_of_lt (readString_length_lt hq)
  split at h
  · simp only [Except.ok.injEq, Prod.mk.injEq] at h
    simp [h.2]
  split at h
  · simp only [Except.ok.injEq, Prod.mk.injEq] at h
    simp [h.2]
  split at h
  · exact readReference_length_le h
  split at h
  · cases hq : readExtension s with
    | error _ => simp [hq, Except.map] at h
    | ok p =>
      simp only [hq, Except.map, Except.ok.injEq, Prod.mk.injEq] at h
      exact h.2 ▸ readExtension_length_le hq
  · simp at h

def readTerms (k : Kind) (s : Text) : Except Fault (List Term) :=
  match hs : Text.trimLeft s with
  | [] => .ok []
  | c :: r =>
    match h : readTerm k (Text.wordFrom c r).1 (Text.wordFrom c r).2 with
    | .error e => .error e
    | .ok (t, rest) =>
      have : rest.length < s.length := by
        have h1 := readTerm_length_le h
        have h2 := Text.wordFrom_length_le c r
        have h3 := Text.trimLeft_length_le s
        rw [hs] at h3
        simp at h3
        omega
      (readTerms k rest).map (t :: ·)
  termination_by s.length

def usages : List Text :=
  ["userApplications", "directoryOperation", "distributedOperation", "dSAOperation"]

def Kind.check (k : Kind) (t : Terms) : Except Fault Unit :=
  match k with
  | .plain => .ok ()
  | .matchingRule => if t.syntaxOid.isNone then .error .syntaxRequired else .ok ()
  | .attributeType =>
    if t.sup.isNone && t.syntaxOid.isNone then .error .supOrSyntaxRequired
    else match t.usage with
      | some u => if usages.contains u then .ok () else .error (.unknownUsage u)
      | none => .ok ()

def inParentheses? (s : Text) : Option Text :=
  if s.head? == some '(' && s.getLast? == some ')' then some s.tail.dropLast else none

def readBody (k : Kind) : Text → Except Fault (Description k)
  | [] => .error (.notNumeric [])
  | c :: r =>
    let (oid, rest) := Text.wordFrom c r
    if !Text.isNumericOid oid then .error (.notNumeric oid)
    else do
      let terms := (← readTerms k rest).foldl Terms.add {}
      k.check terms
      return ⟨oid, terms⟩

def parse (k : Kind) (s : Text) : Except Malformed (Description k) :=
  match inParentheses? (Text.trim s) with
  | none => .error ⟨s, .noParentheses⟩
  | some inner => (readBody k (Text.trim inner)).mapError (⟨s, ·⟩)

end DirectorySchema.Description
