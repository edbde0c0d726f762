import DirectorySchema.Description.Parser
import DirectorySchema.Proofs.Outcomes
import DirectorySchema.Proofs.Texts

/-!
# What descriptions that were read are like

The identifier of a description that was read is numeric, and what it refers to is said in
words, so the white space that a query strips is not part of any reference.
-/

set_option autoImplicit false

namespace DirectorySchema

namespace Text

theorem startsWithDigit_of_isAsciiDigit {c : Char} (h : isAsciiDigit c = true) (r : Text) :
    startsWithDigit (c :: r) = true := by
  simp only [isAsciiDigit, Bool.and_eq_true, decide_eq_true_eq] at h
  simp [startsWithDigit, isDigitLike, inRanges, digitRanges, h]

theorem startsWithDigit_of_isDotted {s : Text} (h : isDotted s = true) :
    startsWithDigit s = true := by
  cases s with
  | nil => simp [isDotted] at h
  | cons c r =>
    unfold isDotted at h
    by_cases hc : c = '.'
    · simp [hc, List.splitOn, List.splitOnP_cons_eq_if_modifyHead] at h
    · cases hr : r.splitOnP (· == '.') with
      | nil => exact absurd hr (List.splitOnP_ne_nil _ r)
      | cons part parts =>
        have hparts : (c :: r).splitOn '.' = (c :: part) :: parts := by
          simp [List.splitOn, List.splitOnP_cons_eq_if_modifyHead, hc, hr]
        simp only [hparts, List.all_cons, Bool.and_eq_true] at h
        exact startsWithDigit_of_isAsciiDigit h.1.2.1 r

theorem startsWithDigit_of_isNumericOid {s : Text} (h : isNumericOid s = true) :
    startsWithDigit s = true := by
  rw [isNumericOid, Bool.or_eq_true, Bool.and_eq_true] at h
  rcases h with h | ⟨-, h⟩
  · exact startsWithDigit_of_isDotted h
  · have hd := startsWithDigit_of_isDotted h
    cases s with
    | nil => exact hd
    | cons c r =>
      cases r with
      | nil => cases hd
      | cons => exact hd

end Text

namespace Description

structure Quotable (ns : List Text) : Prop where
  ne_nil : ns ≠ []
  no_quote : ∀ n ∈ ns, '\'' ∉ n
  no_parenthesis : 1 < ns.length → ∀ n ∈ ns, ')' ∉ n

/-- What reading promises of a term. -/
def Term.Legible (k : Kind) : Term → Prop
  | .names ns => Quotable ns
  | .desc s => '\'' ∉ s
  | .obsolete => True
  | .reference r w => r ∈ k.references ∧ Text.IsWord w
  | .flag f => f ∈ k.flags
  | .extension keyword e => Text.IsWord keyword ∧ ("X-" : Text) <+: keyword ∧ Quotable e.values

theorem quotable_singleton {n : Text} (h : '\'' ∉ n) : Quotable [n] :=
  ⟨by simp, by simpa using h, by simp⟩

theorem readString_subset {s v rest : Text} (h : readString s = .ok (v, rest)) :
    '\'' ∉ v ∧ v ⊆ s ∧ rest ⊆ s := by
  unfold readString at h
  split at h
  · next r hr =>
    have hsub : r ⊆ s := by
      intro c hc
      apply Text.trimLeft_subset s
      rw [hr]
      exact List.mem_cons_of_mem _ hc
    split at h
    · cases h
    · next q rest' hq =>
      cases h
      refine ⟨?_, fun c hc => hsub (List.takeWhile_subset _ hc), ?_⟩
      · intro hmem
        have hquote := List.mem_takeWhile_imp hmem
        simp at hquote
      · intro c hc
        exact hsub ((List.dropWhile_sublist (· != '\'')).subset (hq ▸ List.mem_cons_of_mem _ hc))
  · cases h

theorem readMembers_subset {s : Text} {vs : List Text} (h : readMembers s = .ok vs) :
    ∀ v ∈ vs, '\'' ∉ v ∧ v ⊆ s := by
  fun_induction readMembers s generalizing vs with
  | case1 =>
    cases h
    intro v hv
    cases hv
  | case2 => cases h
  | case3 s hne v rest hstring hlt ih =>
    obtain ⟨hquote, hv, hrest⟩ := readString_subset hstring
    obtain ⟨vs', hvs, rfl⟩ := map_eq_ok_iff.mp h
    intro u hu
    rcases List.mem_cons.mp hu with rfl | hu
    · exact ⟨hquote, hv⟩
    · obtain ⟨hu, hsub⟩ := ih hvs u hu
      exact ⟨hu, fun c hc => hrest (Text.mem_of_mem_trim (hsub hc))⟩

theorem readNames_quotable {s rest : Text} {ns : List Text} (h : readNames s = .ok (ns, rest)) :
    Quotable ns := by
  unfold readNames at h
  split at h
  · obtain ⟨p, hp, heq⟩ := map_eq_ok_iff.mp h
    cases heq
    exact quotable_singleton (readString_subset hp).1
  · next r hr =>
    split at h
    · cases h
    split at h
    · cases h
    · cases h
    · next ns' hne hmembers =>
      cases h
      have hsub := readMembers_subset hmembers
      refine ⟨?_, fun n hn => (hsub n hn).1, ?_⟩
      · rintro rfl
        exact hne rfl
      · intro _ n hn hparenthesis
        have hmem := List.mem_takeWhile_imp (Text.mem_of_mem_trim ((hsub n hn).2 hparenthesis))
        simp at hmem
  · cases h

theorem readExtension_quotable {s rest : Text} {e : Extension}
    (h : readExtension s = .ok (e, rest)) : Quotable e.values := by
  unfold readExtension at h
  split at h
  · obtain ⟨p, hp, heq⟩ := map_eq_ok_iff.mp h
    cases heq
    exact readNames_quotable hp
  · obtain ⟨p, hp, heq⟩ := map_eq_ok_iff.mp h
    cases heq
    exact quotable_singleton (readString_subset hp).1

theorem isWord_wordFrom {s r : Text} {c : Char} (h : Text.trimLeft s = c :: r) :
    Text.IsWord (Text.wordFrom c r).1 :=
  ⟨Text.solid_wordFrom (Text.isBlank_of_trimLeft_eq h) r, by simp [Text.wordFrom]⟩

theorem readReference_legible {k : Kind} {r : Reference} (hr : r ∈ k.references) {s rest : Text}
    {t : Term} (h : readReference r (Text.trimLeft s) = .ok (t, rest)) : t.Legible k := by
  cases hs : Text.trimLeft s with
  | nil => simp [hs, readReference] at h
  | cons c q =>
    simp only [hs, readReference, Except.ok.injEq, Prod.mk.injEq] at h
    rw [← h.1]
    exact ⟨hr, isWord_wordFrom hs⟩

theorem readTerm_legible {k : Kind} {word s rest : Text} (hword : Text.IsWord word) {t : Term}
    (h : readTerm k word (Text.trimLeft s) = .ok (t, rest)) : t.Legible k := by
  unfold readTerm at h
  split at h
  · obtain ⟨p, hp, heq⟩ := map_eq_ok_iff.mp h
    cases heq
    exact readNames_quotable hp
  split at h
  · obtain ⟨p, hp, heq⟩ := map_eq_ok_iff.mp h
    cases heq
    exact (readString_subset hp).1
  split at h
  · cases h
    trivial
  split at h
  · next f hf =>
    cases h
    exact List.mem_of_find?_eq_some hf
  split at h
  · next r hr => exact readReference_legible (List.mem_of_find?_eq_some hr) h
  split at h
  · next hprefix =>
    obtain ⟨p, hp, heq⟩ := map_eq_ok_iff.mp h
    cases heq
    exact ⟨hword, List.isPrefixOf_iff_prefix.mp hprefix, readExtension_quotable hp⟩
  · cases h

theorem readTerms_legible {k : Kind} {s : Text} {ts : List Term} (h : readTerms k s = .ok ts) :
    ∀ t ∈ ts, t.Legible k := by
  fun_induction readTerms k s generalizing ts with
  | case1 =>
    cases h
    intro t ht
    cases ht
  | case2 => cases h
  | case3 s c r hs t rest hterm hlt ih =>
    obtain ⟨terms, hterms, rfl⟩ := map_eq_ok_iff.mp h
    intro u hu
    rcases List.mem_cons.mp hu with rfl | hu
    · exact readTerm_legible (isWord_wordFrom hs) hterm
    · exact ih hterms u hu

namespace Term

def names? : Term → Option (List Text)
  | .names ns => some ns
  | _ => none

def desc? : Term → Option Text
  | .desc s => some s
  | _ => none

def reference? (r : Reference) : Term → Option Text
  | .reference q w => if q = r then some w else none
  | _ => none

def extension? : Term → Option (Text × Extension)
  | .extension keyword e => some (keyword, e)
  | _ => none

theorem reference?_eq_some_iff {t : Term} {r : Reference} {w : Text} :
    t.reference? r = some w ↔ t = .reference r w := by
  cases t <;> simp [reference?]

theorem names?_eq_some_iff {t : Term} {ns : List Text} : t.names? = some ns ↔ t = .names ns := by
  cases t <;> simp [names?]

theorem desc?_eq_some_iff {t : Term} {s : Text} : t.desc? = some s ↔ t = .desc s := by
  cases t <;> simp [desc?]

theorem extension?_eq_some_iff {t : Term} {p : Text × Extension} :
    t.extension? = some p ↔ t = .extension p.1 p.2 := by
  cases t <;> simp [extension?, Prod.ext_iff, eq_comm]

end Term

namespace Terms

section
variable (ts : Terms) (t : Term)

theorem names_add : (ts.add t).names = t.names?.or ts.names := by
  cases t with
  | reference r w => cases r <;> rfl
  | flag f => cases f <;> rfl
  | _ => rfl

theorem desc_add : (ts.add t).desc = t.desc?.or ts.desc := by
  cases t with
  | reference r w => cases r <;> rfl
  | flag f => cases f <;> rfl
  | _ => rfl

theorem obsolete_add : (ts.add t).obsolete = (t == .obsolete || ts.obsolete) := by
  cases t with
  | reference r w => cases r <;> rfl
  | flag f => cases f <;> rfl
  | _ => rfl

theorem reference?_add (r : Reference) :
    (ts.add t).reference? r = (t.reference? r).or (ts.reference? r) := by
  cases t with
  | reference q w => cases q <;> cases r <;> rfl
  | flag f => cases f <;> cases r <;> rfl
  | _ => cases r <;> rfl

theorem flag_add (f : Flag) : (ts.add t).flag f = (t == .flag f || ts.flag f) := by
  cases t with
  | reference r w => cases r <;> cases f <;> rfl
  | flag g => cases g <;> cases f <;> rfl
  | _ => cases f <;> rfl

theorem extensions_add : (ts.add t).extensions = ts.extensions ++ t.extension?.toList := by
  cases t with
  | reference r w => cases r <;> simp [add, Term.extension?]
  | flag f => cases f <;> simp [add, Term.extension?]
  | _ => simp [add, Term.extension?]

end

section
variable {β : Type} (terms : List Term) (ts : Terms)

theorem foldl_option {v : Terms → Option β} {p : Term → Option β}
    (h : ∀ ts t, v (ts.add t) = (p t).or (v ts)) :
    v (terms.foldl add ts) = (terms.reverse.findSome? p).or (v ts) := by
  induction terms generalizing ts with
  | nil => rfl
  | cons t terms ih =>
    rw [List.foldl_cons, ih, h, List.reverse_cons, List.findSome?_append, Option.or_assoc]
    cases h : p t <;> simp [h]

theorem exists_of_said {v : Terms → Option β} {p : Term → Option β} {terms : List Term} {w : β}
    (h : ∀ ts t, v (ts.add t) = (p t).or (v ts)) (hnone : v {} = none)
    (hw : v (terms.foldl add {}) = some w) : ∃ t ∈ terms, p t = some w := by
  rw [foldl_option _ _ h, hnone, Option.or_none] at hw
  obtain ⟨t, ht, htw⟩ := List.exists_of_findSome?_eq_some hw
  exact ⟨t, List.mem_reverse.mp ht, htw⟩

theorem reference?_empty (r : Reference) : ({} : Terms).reference? r = none := by
  cases r <;> rfl

theorem flag_empty (f : Flag) : ({} : Terms).flag f = false := by
  cases f <;> rfl

theorem exists_of_said_reference {terms : List Term} {r : Reference} {w : Text}
    (hw : (terms.foldl add {}).reference? r = some w) : .reference r w ∈ terms := by
  obtain ⟨t, ht, htw⟩ := exists_of_said (v := (·.reference? r))
    (fun ts t => reference?_add ts t r) (reference?_empty r) hw
  rwa [← Term.reference?_eq_some_iff.mp htw]

theorem foldl_bool {v : Terms → Bool} {p : Term → Bool}
    (h : ∀ ts t, v (ts.add t) = (p t || v ts)) :
    v (terms.foldl add ts) = (terms.any p || v ts) := by
  induction terms generalizing ts with
  | nil => rfl
  | cons t terms ih =>
    rw [List.foldl_cons, ih, h, List.any_cons, ← Bool.or_assoc, Bool.or_comm (p t)]

theorem flag_foldl (f : Flag) : (terms.foldl add {}).flag f = terms.any (· == .flag f) := by
  rw [foldl_bool _ _ (v := (·.flag f)) (fun ts t => flag_add ts t f), flag_empty, Bool.or_false]

theorem foldl_extensions :
    (terms.foldl add ts).extensions = ts.extensions ++ terms.filterMap Term.extension? := by
  induction terms generalizing ts with
  | nil => simp
  | cons t terms ih =>
    rw [List.foldl_cons, ih, extensions_add, List.append_assoc]
    cases h : t.extension? <;> simp [h]

end

theorem eq_of_said {s t : Terms} (hnames : s.names = t.names) (hdesc : s.desc = t.desc)
    (hobsolete : s.obsolete = t.obsolete) (hreferences : ∀ r, s.reference? r = t.reference? r)
    (hflags : ∀ f, s.flag f = t.flag f) (hextensions : s.extensions = t.extensions) : s = t := by
  have hsup := hreferences .sup
  have hequality := hreferences .equality
  have hordering := hreferences .ordering
  have hsubstr := hreferences .substr
  have hsyntax := hreferences .syntaxOid
  have husage := hreferences .usage
  have hsingle := hflags .singleValue
  have hcollective := hflags .collective
  have hmodification := hflags .noUserModification
  cases s
  cases t
  simp_all [reference?, flag]

end Terms

theorem readBody_eq_ok_iff {k : Kind} {c : Char} {r : Text} {d : Description k} :
    readBody k (c :: r) = .ok d ↔
      Text.isNumericOid (Text.wordFrom c r).1 = true ∧
      ∃ terms, readTerms k (Text.wordFrom c r).2 = .ok terms ∧
        k.check (terms.foldl Terms.add {}) = .ok () ∧
        d = ⟨(Text.wordFrom c r).1, terms.foldl Terms.add {}⟩ := by
  unfold readBody
  simp only
  split
  · next hnum => simp [Bool.eq_false_iff.mp (by simpa using hnum)]
  · next hnum =>
    constructor
    · intro h
      obtain ⟨terms, hterms, h⟩ := bind_eq_ok_iff.mp h
      obtain ⟨u, hcheck, h⟩ := bind_eq_ok_iff.mp h
      cases h
      exact ⟨by simpa using hnum, terms, hterms, hcheck, rfl⟩
    · rintro ⟨-, terms, hterms, hcheck, rfl⟩
      exact bind_eq_ok_iff.mpr ⟨terms, hterms, bind_eq_ok_iff.mpr ⟨(), hcheck, rfl⟩⟩

theorem parse_eq_ok_iff {k : Kind} {s : Text} {d : Description k} :
    parse k s = .ok d ↔ ∃ inner c r, inParentheses? (Text.trim s) = some inner ∧
      Text.trim inner = c :: r ∧ readBody k (c :: r) = .ok d := by
  unfold parse
  cases hs : inParentheses? (Text.trim s) with
  | none => simp
  | some inner =>
    simp only [mapError_eq_ok_iff, Option.some.injEq, exists_and_left, exists_eq_left']
    cases Text.trim inner with
    | nil => simp [readBody]
    | cons c r => simp

/-- A description that some text is read as. -/
def WasRead {k : Kind} (d : Description k) : Prop := ∃ s, parse k s = .ok d

namespace WasRead

variable {k : Kind} {d : Description k}

theorem solid_oid (h : d.WasRead) : Text.Solid d.oid := by
  obtain ⟨s, hs⟩ := h
  obtain ⟨inner, c, r, -, htrim, hbody⟩ := parse_eq_ok_iff.mp hs
  obtain ⟨-, terms, -, -, rfl⟩ := readBody_eq_ok_iff.mp hbody
  exact Text.solid_wordFrom ((Text.trimmed_trim inner).front c (by rw [htrim]; rfl)) r

theorem isNumericOid (h : d.WasRead) : Text.isNumericOid d.oid = true := by
  obtain ⟨s, hs⟩ := h
  obtain ⟨inner, c, r, -, -, hbody⟩ := parse_eq_ok_iff.mp hs
  obtain ⟨hnum, terms, -, -, rfl⟩ := readBody_eq_ok_iff.mp hbody
  exact hnum

theorem solid_reference (h : d.WasRead) {r : Reference} {w : Text}
    (hw : d.terms.reference? r = some w) : Text.Solid w := by
  obtain ⟨s, hs⟩ := h
  obtain ⟨inner, c, q, -, -, hbody⟩ := parse_eq_ok_iff.mp hs
  obtain ⟨-, terms, hterms, -, rfl⟩ := readBody_eq_ok_iff.mp hbody
  exact (readTerms_legible hterms _ (Terms.exists_of_said_reference hw)).2.solid

theorem trim_reference (h : d.WasRead) {r : Reference} {w : Text}
    (hw : d.terms.reference? r = some w) : Text.trim w = w :=
  Text.trim_of_solid (h.solid_reference hw)

end WasRead

end Description

end DirectorySchema
