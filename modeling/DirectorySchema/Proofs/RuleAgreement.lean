import DirectorySchema.Catalog.Shipped
import DirectorySchema.Proofs.ComparisonKeys
import DirectorySchema.Proofs.FoldedNames
import DirectorySchema.Proofs.Numerals
import DirectorySchema.Proofs.Octets

/-!
# Agreement of comparators and normalizers

A matching rule comes with a comparator and a normalizer, and two texts should compare as
equal when they have the same normal form. The shipped rules keep to this but for two of
them: identifiers compare by the numbers of their arcs and are normalized without reading
these, and names compare by their parts and are normalized without being cut into them. Even
there the two agree about identifiers that write their arcs as integers are written, and about
plain names.
-/

set_option autoImplicit false

namespace DirectorySchema

namespace Normalizer

def Takes (n : Normalizer) (v : Value) : Prop := ∃ w, n.normalize v = .ok w

theorem normalize_texts_eq_iff {f : NormalForm} {s t u v : Text}
    (hs : f.onText s = .ok u) (ht : f.onText t = .ok v) :
    (form f).normalize (.text s) = (form f).normalize (.text t) ↔ u = v := by
  rw [normalize, f.normalize_text, f.normalize_text, hs, ht]
  simp [Except.map]

theorem takes_text_iff {f : NormalForm} {s : Text} :
    (form f).Takes (.text s) ↔ ∃ u, f.onText s = .ok u := by
  unfold Takes
  rw [normalize, f.normalize_text]
  cases f.onText s <;> simp [Except.map]

end Normalizer

namespace MatchingOrder

def Takes (o : MatchingOrder) (v : Value) : Prop := ∃ k, o.prepare v = .ok k

def ruleForm : MatchingOrder → NormalForm
  | identity => .identity
  | caseIgnore => .deepTrimToLower
  | caseExact => .deepTrim
  | numericString => .numeric
  | telephoneNumber => .telephoneNumber
  | boolean => .boolean
  | integer => .integer
  | octetString => .noOp
  | objectIdentifier => .objectIdentifier
  | distinguishedName => .deepTrimToLower

def PlainArcs (s : Text) : Prop :=
  ∀ arc ∈ s.splitOn '.', ∀ n, Text.readInteger arc = .ok n → Text.ofInt n = arc

/-- Texts in which there is nothing that a comparator sees and its normalizer does not. -/
def Faithful : MatchingOrder → Text → Prop
  | objectIdentifier, s => PlainArcs (Text.lower (Text.trim s))
  | distinguishedName, s => ∃ n : Dn, n.Plain ∧ n.text = s
  | _, _ => True

theorem integer_of_taken {s u : Text} {k : Key} (hs : NormalForm.integer.onText s = .ok u)
    (hk : integer.prepare (.text s) = .ok k) :
    ∃ n, k = .number n ∧ u = Text.ofInt n ∧ Text.readInteger (Text.ofInt n) = .ok n := by
  obtain ⟨n, hn, rfl⟩ := integerKey_eq_ok_iff.mp hk
  change NormalForm.integerText s = .ok u at hs
  unfold NormalForm.integerText at hs
  split at hs
  · next m hm =>
    -- what is read without the white space at its ends has none inside
    have hsolid := Text.solid_of_readInteger (Text.trimmed_trim s) hm
    rw [Text.deepTrim_of_solid_trim hsolid, hm, Except.ok.injEq] at hn
    subst hn
    exact ⟨m, rfl, (Except.ok.inj hs).symm, Text.readInteger_ofInt_of_read hm⟩
  · cases hs

theorem splitOn_of_plainArcs {s : Text} (h : PlainArcs s) {ns : List Int}
    (hns : (s.splitOn '.').mapM Text.readInteger = .ok ns) : s.splitOn '.' = ns.map Text.ofInt := by
  have hread := mapM_eq_ok_iff.mp hns
  unfold PlainArcs at h
  clear hns
  generalize s.splitOn '.' = arcs at h hread
  induction hread with
  | nil => rfl
  | cons hn _ ih =>
    rw [List.forall_mem_cons] at h
    rw [List.map_cons, h.1 _ hn, ih h.2]

theorem oidKey_injective {s t : Text} (hs : PlainArcs s) (ht : PlainArcs t) {k : Key}
    (hk : oidKey s = .ok k) (hl : oidKey t = .ok k) : s = t := by
  rw [oidKey_eq_ok_iff] at hk hl
  split at hk
  · obtain ⟨ns, hns, rfl⟩ := hk
    split at hl
    · obtain ⟨ms, hms, heq⟩ := hl
      cases heq
      have harcs := (splitOn_of_plainArcs hs hns).trans (splitOn_of_plainArcs ht hms).symm
      have hjoined := congrArg (List.intercalate ['.']) harcs
      rwa [List.intercalate_splitOn, List.intercalate_splitOn] at hjoined
    · cases hl
  · cases hk
    split at hl
    · obtain ⟨ms, -, heq⟩ := hl
      cases heq
    · cases hl
      rfl

/-- The key of a plain name is made of the parts of the folded name, its normal form is the
text of the folded name. -/
theorem name_of_faithful {s u : Text} {k : Key} (h : distinguishedName.Faithful s)
    (hs : NormalForm.deepTrimToLower.onText s = .ok u)
    (hk : distinguishedName.prepare (.text s) = .ok k) :
    ∃ n : Dn, n.Legible ∧ k = .rdns n.rdns ∧ u = n.text := by
  obtain ⟨n, hn, rfl⟩ := h
  obtain ⟨m, hm, rfl⟩ := prepare_name_eq_ok_iff.mp hk
  rw [Dn.parse_text hn.legible, Except.ok.injEq] at hm
  subst hm
  refine ⟨n.folded, hn.folded.legible, rfl, ?_⟩
  rw [← Dn.fold_text hn]
  exact (Except.ok.inj hs).symm

theorem text_of_taken {f : NormalForm} {s u : Text} {k : Key} (hs : f.onText s = .ok u)
    (hk : normalKey f (.text s) = .ok k) : k = .text u := by
  obtain ⟨t, ht, rfl⟩ := normalKey_eq_ok_iff.mp hk
  rw [hs, Except.ok.injEq] at ht
  rw [ht]

/-- Normal forms tell what keys tell: for names and for identifiers under a condition, and
for identifiers at least as much. -/
theorem keys_and_normal_forms {o : MatchingOrder} {s t u v : Text} {k l : Key}
    (hs : o.ruleForm.onText s = .ok u) (ht : o.ruleForm.onText t = .ok v)
    (hk : o.prepare (.text s) = .ok k) (hl : o.prepare (.text t) = .ok l) :
    (o ≠ .distinguishedName → u = v → k = l) ∧
      (o.Faithful s → o.Faithful t → (k = l ↔ u = v)) := by
  cases o with
  | identity =>
    cases hs
    cases ht
    cases hk
    cases hl
    simp
  | octetString =>
    cases hs
    cases ht
    cases hk
    cases hl
    simp [Row.ofList, Text.toUtf8_injective.eq_iff]
  | integer =>
    obtain ⟨m, rfl, rfl, hm⟩ := integer_of_taken hs hk
    obtain ⟨n, rfl, rfl, hn⟩ := integer_of_taken ht hl
    have hiff : Key.number m = .number n ↔ Text.ofInt m = Text.ofInt n := by
      constructor
      · intro heq
        rw [Key.number.inj heq]
      · intro heq
        rw [heq, hn, Except.ok.injEq] at hm
        rw [hm]
    exact ⟨fun _ => hiff.mpr, fun _ _ => hiff⟩
  | objectIdentifier =>
    rw [prepare_oid] at hk hl
    cases hs
    cases ht
    have hsame : Text.lower (Text.trim s) = Text.lower (Text.trim t) → k = l := by
      intro heq
      rw [heq, hl, Except.ok.injEq] at hk
      exact hk.symm
    refine ⟨fun _ => hsame, fun hs ht => ⟨?_, hsame⟩⟩
    rintro rfl
    exact oidKey_injective hs ht hk hl
  | distinguishedName =>
    refine ⟨fun hne => absurd rfl hne, fun hfs hft => ?_⟩
    obtain ⟨m, hm, rfl, rfl⟩ := name_of_faithful hfs hs hk
    obtain ⟨n, hn, rfl, rfl⟩ := name_of_faithful hft ht hl
    constructor
    · intro heq
      rw [Dn.text, Dn.text, Key.rdns.inj heq]
    · intro heq
      rw [Dn.text_injective hm hn heq]
  | _ =>
    rw [text_of_taken hs hk, text_of_taken ht hl]
    simp

end MatchingOrder

namespace Shipped

open MatchingOrder

theorem rules_paired : ∀ schema ∈ schemas, ∀ d ∈ schema.2.matchingRules,
    ∃ o : MatchingOrder, d.comparator = .order o ∧ d.normalizer = .form o.ruleForm := by
  have htable : ∀ schema ∈ schemas, ∀ d ∈ schema.2.matchingRules, ∃ o ∈ MatchingOrder.all,
      d.comparator.order? = some o ∧ d.normalizer.form? = some o.ruleForm := by decide +kernel
  intro schema hschema d hd
  obtain ⟨o, -, ho, hf⟩ := htable schema hschema d hd
  exact ⟨o, Comparator.order?_eq_some_iff.mp ho, Normalizer.form?_eq_some_iff.mp hf⟩

/-- In every shipped rule but the one for names, texts with the same normal form compare as
equal, and those that compare as equal have the same normal form unless they are identifiers
whose arcs are not written as integers are. About plain names the rule for names says the same
in both ways. -/
theorem comparators_and_normalizers_agree {name : Text} {schema : SchemaDefinition}
    (hschema : (name, schema) ∈ schemas) {d : RuleDefinition} (hd : d ∈ schema.matchingRules) :
    ∃ o, d.comparator = .order o ∧
      ∀ s t : Text, o.Takes (.text s) → o.Takes (.text t) →
        d.normalizer.Takes (.text s) → d.normalizer.Takes (.text t) →
        (o ≠ .distinguishedName →
          d.normalizer.normalize (.text s) = d.normalizer.normalize (.text t) →
          o.compare (.text s) (.text t) = .ok .eq) ∧
        (o.Faithful s → o.Faithful t →
          (o.compare (.text s) (.text t) = .ok .eq ↔
            d.normalizer.normalize (.text s) = d.normalizer.normalize (.text t))) := by
  obtain ⟨o, ho, hn⟩ := rules_paired (name, schema) hschema d hd
  refine ⟨o, ho, ?_⟩
  rw [hn]
  rintro s t ⟨k, hk⟩ ⟨l, hl⟩ hs ht
  obtain ⟨u, hu⟩ := Normalizer.takes_text_iff.mp hs
  obtain ⟨v, hv⟩ := Normalizer.takes_text_iff.mp ht
  rw [compare_texts_eq_iff hk hl, Normalizer.normalize_texts_eq_iff hu hv]
  exact keys_and_normal_forms hu hv hk hl

def nameRule : RuleDefinition :=
  ⟨"( 2.5.13.1 NAME 'distinguishedNameMatch' SYNTAX 1.3.6.1.4.1.1466.115.121.1.12 )",
    .order .distinguishedName, .form .deepTrimToLower⟩

def oidRule : RuleDefinition :=
  ⟨"( 2.5.13.0 NAME 'objectIdentifierMatch' SYNTAX 1.3.6.1.4.1.1466.115.121.1.38 )",
    .order .objectIdentifier, .form .objectIdentifier⟩

theorem nameRule_mem : nameRule ∈ system.matchingRules := .tail _ (.head _)

theorem oidRule_mem : oidRule ∈ system.matchingRules := .head _

theorem plain_names_agree :
    let s : Text := "CN=Ann  Lee,dc=b\\,c"
    let t : Text := "cn=ann lee,DC=B\\,C"
    (("system" : Text), system) ∈ schemas ∧ nameRule ∈ system.matchingRules ∧
      distinguishedName.Takes (.text s) ∧ distinguishedName.Takes (.text t) ∧
      nameRule.normalizer.Takes (.text s) ∧ nameRule.normalizer.Takes (.text t) ∧
      distinguishedName.Faithful s ∧ distinguishedName.Faithful t ∧
      distinguishedName.compare (.text s) (.text t) = .ok .eq ∧
      nameRule.normalizer.normalize (.text s) = nameRule.normalizer.normalize (.text t) := by
  intro s t
  have hschema : (("system" : Text), system) ∈ schemas := List.mem_cons_self
  have hrule := nameRule_mem
  have hkey : ∀ u ∈ [s, t], distinguishedName.prepare (.text u) =
      .ok (.rdns [[⟨"cn", "ann lee"⟩], [⟨"dc", "b,c"⟩]]) := by decide +kernel
  have hnormal : ∀ u ∈ [s, t], nameRule.normalizer.normalize (.text u) =
      .ok (.text "cn=ann lee,dc=b\\,c") := by decide +kernel
  have hs : distinguishedName.Takes (.text s) := ⟨_, hkey s (by simp)⟩
  have ht : distinguishedName.Takes (.text t) := ⟨_, hkey t (by simp)⟩
  have hsn : nameRule.normalizer.Takes (.text s) := ⟨_, hnormal s (by simp)⟩
  have htn : nameRule.normalizer.Takes (.text t) := ⟨_, hnormal t (by simp)⟩
  have hfs : distinguishedName.Faithful s := by
    refine ⟨⟨[[⟨"CN", "Ann  Lee"⟩], [⟨"dc", "b,c"⟩]]⟩, ?_, by decide +kernel⟩
    simp only [Dn.Plain, List.forall_mem_cons, List.cons.injEq, and_true]
    exact ⟨⟨_, rfl, by decide +kernel⟩, ⟨_, rfl, by decide +kernel⟩, by simp⟩
  have hft : distinguishedName.Faithful t := by
    refine ⟨⟨[[⟨"cn", "ann lee"⟩], [⟨"DC", "B,C"⟩]]⟩, ?_, by decide +kernel⟩
    simp only [Dn.Plain, List.forall_mem_cons, List.cons.injEq, and_true]
    exact ⟨⟨_, rfl, by decide +kernel⟩, ⟨_, rfl, by decide +kernel⟩, by simp⟩
  have hsame : nameRule.normalizer.normalize (.text s) =
      nameRule.normalizer.normalize (.text t) := by
    rw [hnormal s (by simp), hnormal t (by simp)]
  obtain ⟨o, ho, hagree⟩ := comparators_and_normalizers_agree hschema hrule
  cases ho
  have hcompare := ((hagree s t hs ht hsn htn).2 hfs hft).mpr hsame
  exact ⟨hschema, hrule, hs, ht, hsn, htn, hfs, hft, hcompare, hsame⟩

/-- A space behind a comma and a zero in front of an arc count for the normalizer alone, a
second space inside of a type counts for the comparator alone. -/
theorem spellings_that_disagree :
    (nameRule ∈ system.matchingRules ∧
      distinguishedName.compare (.text "cn=a,dc=b") (.text "cn=a, dc=b") = .ok .eq ∧
      nameRule.normalizer.normalize (.text "cn=a,dc=b") = .ok (.text "cn=a,dc=b") ∧
      nameRule.normalizer.normalize (.text "cn=a, dc=b") = .ok (.text "cn=a, dc=b") ∧
      distinguishedName.compare (.text "c  n=a") (.text "c n=a") = .ok .lt ∧
      nameRule.normalizer.normalize (.text "c  n=a") = .ok (.text "c n=a") ∧
      nameRule.normalizer.normalize (.text "c n=a") = .ok (.text "c n=a")) ∧
    (oidRule ∈ system.matchingRules ∧
      objectIdentifier.compare (.text "1.2") (.text "1.02") = .ok .eq ∧
      oidRule.normalizer.normalize (.text "1.2") = .ok (.text "1.2") ∧
      oidRule.normalizer.normalize (.text "1.02") = .ok (.text "1.02")) :=
  ⟨⟨nameRule_mem, by decide +kernel⟩, oidRule_mem, by decide +kernel⟩

end Shipped

end DirectorySchema
