import DirectorySchema.Proofs.WrittenTerms
import Mathlib.Data.List.Pairwise

/-!
# The order of terms

If no keyword is said twice, what a description says does not depend on the order in which it
says it, nor on the white space between its words: each field has what the one term says that
is about it. Experimental terms are all kept, so their order among themselves is part of what
is said.
-/

set_option autoImplicit false

namespace DirectorySchema

namespace Description

open Text

namespace Term

def keyword? : Term → Option Text
  | .names _ => some "NAME"
  | .desc _ => some "DESC"
  | .obsolete => some "OBSOLETE"
  | .reference r _ => some r.keyword
  | .flag f => some f.keyword
  | .extension _ _ => none

section
variable {t : Term}

theorem keyword?_of_names? {ns : List Text} (h : t.names? = some ns) :
    t.keyword? = some ("NAME" : Text) := by
  rw [names?_eq_some_iff.mp h]
  rfl

theorem keyword?_of_desc? {s : Text} (h : t.desc? = some s) :
    t.keyword? = some ("DESC" : Text) := by
  rw [desc?_eq_some_iff.mp h]
  rfl

theorem keyword?_of_reference? {r : Reference} {w : Text} (h : t.reference? r = some w) :
    t.keyword? = some r.keyword := by
  rw [reference?_eq_some_iff.mp h]
  rfl

end

end Term

def SaidOnce (ts : List Term) : Prop := (ts.filterMap Term.keyword?).Nodup

instance (ts : List Term) : Decidable (SaidOnce ts) := inferInstanceAs (Decidable (List.Nodup _))

namespace SaidOnce

variable {ts us : List Term} (h : SaidOnce ts)
include h

theorem perm (hus : us.Perm ts) : SaidOnce us := (hus.filterMap Term.keyword?).nodup_iff.mpr h

theorem eq_of_keyword {t u : Term} (ht : t ∈ ts) (hu : u ∈ ts) {w : Text}
    (htw : t.keyword? = some w) (huw : u.keyword? = some w) : t = u := by
  by_contra hne
  have happart := List.pairwise_filterMap.mp h
  have hsymm : Std.Symm fun t u : Term =>
      ∀ v, t.keyword? = some v → ∀ w, u.keyword? = some w → v ≠ w :=
    ⟨fun t u htu v hv w hw => (htu w hw v hv).symm⟩
  exact happart.forall ht hu hne w htw w huw rfl

end SaidOnce

namespace Terms

structure SaidBy (t : Terms) (ts : List Term) : Prop where
  names : ∀ ns, t.names = some ns ↔ .names ns ∈ ts
  desc : ∀ s, t.desc = some s ↔ .desc s ∈ ts
  obsolete : t.obsolete = true ↔ .obsolete ∈ ts
  references : ∀ r w, t.reference? r = some w ↔ .reference r w ∈ ts
  flags : ∀ f, t.flag f = true ↔ .flag f ∈ ts
  extensions : t.extensions = ts.filterMap Term.extension?

section
variable {ts : List Term}

/-- What only one keyword says is said by the one term that has it. -/
theorem said_iff (h : SaidOnce ts) {β : Type} {v : Terms → Option β} {p : Term → Option β}
    (hadd : ∀ ts t, v (ts.add t) = (p t).or (v ts)) (hnone : v {} = none) {keyword : Text}
    (hkeyword : ∀ {t w}, p t = some w → t.keyword? = some keyword) {w : β} :
    v (ts.foldl add {}) = some w ↔ ∃ t ∈ ts, p t = some w := by
  constructor
  · exact exists_of_said hadd hnone
  · rintro ⟨t, ht, hw⟩
    rw [foldl_option _ _ hadd, hnone, Option.or_none]
    cases hfind : ts.reverse.findSome? p with
    | none =>
      rw [List.findSome?_eq_none_iff] at hfind
      rw [hfind t (List.mem_reverse.mpr ht)] at hw
      cases hw
    | some x =>
      obtain ⟨u, hu, hx⟩ := List.exists_of_findSome?_eq_some hfind
      have htu := h.eq_of_keyword ht (List.mem_reverse.mp hu) (hkeyword hw) (hkeyword hx)
      rw [← hx, ← htu, hw]

theorem saidBy_foldl (h : SaidOnce ts) : (ts.foldl add {}).SaidBy ts := by
  constructor
  · intro ns
    rw [said_iff h names_add rfl Term.keyword?_of_names?]
    simp only [Term.names?_eq_some_iff, exists_eq_right]
  · intro s
    rw [said_iff h desc_add rfl Term.keyword?_of_desc?]
    simp only [Term.desc?_eq_some_iff, exists_eq_right]
  · rw [foldl_bool _ _ obsolete_add, Bool.or_false, List.any_eq_true]
    simp only [beq_iff_eq, exists_eq_right]
  · intro r w
    rw [said_iff (v := (·.reference? r)) h (fun ts t => reference?_add ts t r) (reference?_empty r)
      Term.keyword?_of_reference?]
    simp only [Term.reference?_eq_some_iff, exists_eq_right]
  · intro f
    rw [flag_foldl, List.any_eq_true]
    simp only [beq_iff_eq, exists_eq_right]
  · rw [foldl_extensions]
    rfl

end

namespace SaidBy

variable {s t : Terms} {ts us : List Term}

/-- Lists with the same terms say the same if the experimental ones have the same order. -/
theorem eq_of_perm (hs : s.SaidBy ts) (ht : t.SaidBy us) (hus : us.Perm ts)
    (hextensions : us.filterMap Term.extension? = ts.filterMap Term.extension?) : t = s := by
  apply eq_of_said
  · exact Option.ext fun ns => by rw [ht.names, hs.names, hus.mem_iff]
  · exact Option.ext fun v => by rw [ht.desc, hs.desc, hus.mem_iff]
  · rw [Bool.eq_iff_iff, ht.obsolete, hs.obsolete, hus.mem_iff]
  · exact fun r => Option.ext fun w => by rw [ht.references, hs.references, hus.mem_iff]
  · exact fun f => by rw [Bool.eq_iff_iff, ht.flags, hs.flags, hus.mem_iff]
  · rw [ht.extensions, hs.extensions, hextensions]

end SaidBy

end Terms

def Kind.Requires (k : Kind) (ts : List Term) : Prop :=
  match k with
  | .plain => True
  | .matchingRule => ∃ w, .reference .syntaxOid w ∈ ts
  | .attributeType =>
    (∃ w, .reference .sup w ∈ ts ∨ .reference .syntaxOid w ∈ ts) ∧
      ∀ u, .reference .usage u ∈ ts → u ∈ usages

theorem check_eq_ok_iff {k : Kind} {t : Terms} {ts : List Term} (h : t.SaidBy ts) :
    k.check t = .ok () ↔ k.Requires ts := by
  have hsyntax : ∀ w, t.syntaxOid = some w ↔ _ := h.references .syntaxOid
  have hsup : ∀ w, t.sup = some w ↔ _ := h.references .sup
  have husage : ∀ w, t.usage = some w ↔ _ := h.references .usage
  cases k with
  | plain => simp [Kind.check, Kind.Requires]
  | matchingRule =>
    simp only [Kind.check, Kind.Requires, ← hsyntax]
    cases t.syntaxOid <;> simp
  | attributeType =>
    simp only [Kind.check, Kind.Requires, ← hsyntax, ← hsup, ← husage]
    cases t.sup <;> cases t.syntaxOid <;> cases t.usage <;> simp

/-- The texts of a description with an identifier and terms in a given order, any white space
between their words. -/
inductive DescriptionText (k : Kind) (oid : Text) (ts : List Term) : Text → Prop where
  | mk {front left s back : Text} : Blank front → Blank left → TermsText k ts s → Blank back →
      DescriptionText k oid ts (front ++ (('(' :: (left ++ (oid ++ s)) ++ [')']) ++ back))

/-- Terms none of which has the keyword of another, experimental ones aside, and that meet what
the kind requires, are read as what they say from every text of them in any order that leaves
the experimental ones in theirs. -/
theorem read_in_any_order {k : Kind} {oid : Text} {ts : List Term} (hoid : isDotted oid = true)
    (honce : SaidOnce ts) (hrequired : k.Requires ts) :
    ∃ d : Description k, d.oid = oid ∧ d.terms.SaidBy ts ∧
      ∀ us s, us.Perm ts → us.filterMap Term.extension? = ts.filterMap Term.extension? →
        DescriptionText k oid us s → parse k s = .ok d := by
  have hsaid := Terms.saidBy_foldl honce
  refine ⟨⟨oid, ts.foldl Terms.add {}⟩, rfl, hsaid, ?_⟩
  intro us s hus hextensions hs
  have hsame : us.foldl Terms.add {} = ts.foldl Terms.add {} :=
    hsaid.eq_of_perm (Terms.saidBy_foldl (honce.perm hus)) hus hextensions
  cases hs with
  | mk hfront hleft hterms hback =>
    rw [← hsame]
    apply parse_of_text hfront hback hleft hoid hterms
    rw [hsame, check_eq_ok_iff hsaid]
    exact hrequired

/-- Names in front and behind, experimental terms that stay in their order, and white space of
several kinds or, around parentheses, none. -/
theorem sample_read_in_any_order :
    let ts : List Term :=
      [.names ["cn", "c"], .extension "X-B" (.single "x) y"), .reference .sup "name",
        .extension "X-A" (.many ["p"])]
    let us : List Term :=
      [.extension "X-B" (.single "x) y"), .extension "X-A" (.many ["p"]), .reference .sup "name",
        .names ["cn", "c"]]
    let s : Text := "( 2.5.4.3 NAME ( 'cn' 'c' ) X-B 'x) y' SUP name X-A ( 'p' ) )"
    let t : Text := " (2.5.4.3\tX-B 'x) y'\n X-A ('p')\u00a0SUP\tname NAME ('cn''c'))\n"
    (isDotted "2.5.4.3" = true ∧ SaidOnce ts ∧ Kind.attributeType.Requires ts) ∧
      (us.Perm ts ∧ us.filterMap Term.extension? = ts.filterMap Term.extension?) ∧
      ∃ d : AttributeType, d.oid = ("2.5.4.3" : Text) ∧ d.terms.SaidBy ts ∧
        parse .attributeType s = .ok d ∧ parse .attributeType t = .ok d := by
  intro ts us s t
  have hoid : isDotted "2.5.4.3" = true := by decide +kernel
  have honce : SaidOnce ts := by decide +kernel
  have hrequired : Kind.attributeType.Requires ts := ⟨⟨"name", by simp [ts]⟩, by simp [ts]⟩
  have hperm : us.Perm ts := by decide +kernel
  have hextensions : us.filterMap Term.extension? = ts.filterMap Term.extension? := by decide
  have hb : ("X-" : Text) <+: "X-B" := by decide
  have ha : ("X-" : Text) <+: "X-A" := by decide
  have hwordb : IsWord "X-B" := ⟨solid_of_all (by decide), by decide⟩
  have hworda : IsWord "X-A" := ⟨solid_of_all (by decide), by decide⟩
  have hname : IsWord "name" := ⟨solid_of_all (by decide), by decide⟩
  have hspace := gap_space
  have htab : Gap ['\t'] := ⟨by simp [Blank]; decide, by simp⟩
  have hbreak : Gap ['\n', ' '] := ⟨by simp [Blank]; decide, by simp⟩
  have hline : Blank ['\n'] := by simp [Blank]; decide
  have hhard : Gap ['\u00a0'] := ⟨by simp [Blank]; decide, by simp⟩
  have hs : DescriptionText .attributeType "2.5.4.3" ts s :=
    .mk blank_nil hspace.blank
      (.cons hspace (.names hspace (.list (.mk (by simp) (by decide)
        (.cons hspace.blank (by decide) (.cons hspace.blank (by decide) (.nil hspace.blank))))))
      (.cons hspace (.extension hwordb hb hspace (.single (by decide)))
      (.cons hspace (.reference (by decide) hspace hname)
      (.cons hspace (.extension hworda ha hspace (.many (.mk (by simp) (by decide)
        (.cons hspace.blank (by decide) (.nil hspace.blank)))))
      (.nil hspace.blank))))) blank_nil
  have ht : DescriptionText .attributeType "2.5.4.3" us t :=
    .mk hspace.blank blank_nil
      (.cons htab (.extension hwordb hb hspace (.single (by decide)))
      (.cons hbreak (.extension hworda ha hspace (.many (.mk (by simp) (by decide)
        (.cons blank_nil (by decide) (.nil blank_nil)))))
      (.cons hhard (.reference (by decide) htab hname)
      (.cons hspace (.names hspace (.list (.mk (by simp) (by decide)
        (.cons blank_nil (by decide) (.cons blank_nil (by decide) (.nil blank_nil))))))
      (.nil blank_nil))))) hline
  obtain ⟨d, hdoid, hsaid, hread⟩ := read_in_any_order hoid honce hrequired
  exact ⟨⟨hoid, honce, hrequired⟩, ⟨hperm, hextensions⟩, d, hdoid, hsaid,
    hread ts s (.refl _) rfl hs, hread us t hperm hextensions ht⟩

end Description

end DirectorySchema
