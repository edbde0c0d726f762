import DirectorySchema.Dn.Escape
import DirectorySchema.Proofs.Consistency
import DirectorySchema.Proofs.EqualityRules
import DirectorySchema.Proofs.Numerals

/-!
# Identifiers of attribute types

When the descriptions of attribute types come from text, the identifiers that types resolve
to consist of digits and dots, and they still do when others with such an identifier are handed
over already read. An identifier of digits and dots stands for itself, and a name has it written
as it is.
-/

set_option autoImplicit false

namespace DirectorySchema

namespace Text

theorem isDotted_of_isNumericOid {s : Text} (h : isNumericOid s = true) (hs : Trimmed s) :
    isDotted s = true := by
  rw [isNumericOid, Bool.or_eq_true, Bool.and_eq_true, beq_iff_eq] at h
  rcases h with h | ⟨hlast, -⟩
  · exact h
  · exact absurd (hs.back '\n' hlast) (by decide)

theorem mem_of_isDotted {s : Text} (h : isDotted s = true) {c : Char} (hc : c ∈ s) :
    isAsciiDigit c = true ∨ c = '.' := by
  have hjoined : joinWith ['.'] (s.splitOn '.') = s := List.intercalate_splitOn '.'
  rw [← hjoined] at hc
  rcases mem_joinWith hc with hdot | ⟨part, hpart, hmem⟩
  · exact Or.inr hdot
  · have hdigits := List.all_eq_true.mp h part hpart
    rw [Bool.and_eq_true, List.all_eq_true] at hdigits
    exact Or.inl (hdigits.2 c hmem)

theorem ne_nil_of_isDotted {s : Text} (h : isDotted s = true) : s ≠ [] := by
  rintro rfl
  exact absurd h (by decide)

theorem solid_of_isDotted {s : Text} (h : isDotted s = true) : Solid s := by
  intro c hc
  rcases mem_of_isDotted h hc with hdigit | rfl
  · exact isBlank_of_isAsciiDigit hdigit
  · decide

end Text

namespace Dn

theorem escapeFrom_of_plain {s : Text}
    (h : ∀ c ∈ s, isSpecial c = false ∧ c ≠ ' ' ∧ c ≠ '#' ∧ 31 < c.toNat) (first : Bool) :
    escapeFrom first s = s := by
  induction s generalizing first with
  | nil => rfl
  | cons c s ih =>
    rw [List.forall_mem_cons] at h
    obtain ⟨hspecial, hspace, hsign, hcontrol⟩ := h.1
    have hchar : escapeChar first s.isEmpty c = [c] := by
      simp [escapeChar, hspecial, hspace, hsign, Nat.not_le.mpr hcontrol]
    rw [escapeFrom, hchar, ih h.2]
    rfl

theorem isSpecial_of_isAsciiDigit {c : Char} (h : Text.isAsciiDigit c = true) :
    isSpecial c = false := by
  have htable : (",+\"\\<>;=" : Text).all (fun d => !Text.isAsciiDigit d) = true := by decide
  by_contra hspecial
  rw [Bool.not_eq_false, isSpecial, List.contains_iff_mem] at hspecial
  have hother := List.all_eq_true.mp htable c hspecial
  rw [h] at hother
  cases hother

theorem escape_of_isDotted {s : Text} (h : Text.isDotted s = true) : escape s = s := by
  apply escapeFrom_of_plain
  intro c hc
  rcases Text.mem_of_isDotted h hc with hdigit | rfl
  · refine ⟨isSpecial_of_isAsciiDigit hdigit, Text.ne_of_isAsciiDigit hdigit (by decide),
      Text.ne_of_isAsciiDigit hdigit (by decide), ?_⟩
    simp only [Text.isAsciiDigit, Bool.and_eq_true, decide_eq_true_eq] at hdigit
    omega
  · decide

end Dn

namespace Description

def Dotted {k : Kind} (d : Description k) : Prop := Text.isDotted d.oid = true

theorem WasRead.dotted {k : Kind} {d : Description k} (h : d.WasRead) : d.Dotted :=
  Text.isDotted_of_isNumericOid h.isNumericOid h.solid_oid.trimmed

end Description

namespace Manager

structure TypesDotted (m : Manager) : Prop where
  sound : m.Sound
  dotted : ∀ e ∈ m.attributeTypes.whole.entries, e.element.Dotted

namespace TypesDotted

variable {m : Manager} (hm : m.TypesDotted) {x oid : Text}
include hm

theorem isDotted (hx : m.normalizeAttributeType x = .ok oid) : Text.isDotted oid = true := by
  obtain ⟨e, he, rfl, -⟩ := hm.sound.attributeTypes.resolve?_iff.mp (Registry.oidOf_eq_ok_iff.mp hx)
  have hoid : e.element.oid = e.oid := hm.sound.attributeTypes.declared e he _ rfl
  rw [← hoid]
  exact hm.dotted e he

theorem normalizeAttributeType_self (hx : m.normalizeAttributeType x = .ok oid) :
    m.normalizeAttributeType oid = .ok oid := by
  have hdotted := hm.isDotted hx
  obtain ⟨e, he, rfl, -⟩ := hm.sound.attributeTypes.resolve?_iff.mp (Registry.oidOf_eq_ok_iff.mp hx)
  have hanswers : e.AnswersTo e.oid := by
    rw [Entry.AnswersTo, Text.isNumericOid, hdotted]
    rfl
  rw [normalizeAttributeType, Text.trim_of_solid (Text.solid_of_isDotted hdotted)]
  exact Registry.oidOf_eq_ok_iff.mpr
    (hm.sound.attributeTypes.resolve?_iff.mpr ⟨e, he, rfl, hanswers⟩)

end TypesDotted

end Manager

namespace Operation

/-- The attribute types that are handed over already read have identifiers of digits and dots. -/
def TypesDotted : Operation → Prop
  | registerAttributeType _ _ d => d.Dotted
  | addAttributeType _ a => a.Meets Description.Dotted
  | loadSchema _ _ types _ => ∀ a ∈ types, a.Meets Description.Dotted
  | _ => True

theorem typesDotted_of_mem_parts {h : Host} {o p : Operation} (ho : o.TypesDotted)
    (hp : p ∈ o.parts h) : p.TypesDotted := by
  cases hasPart_of_mem_parts hp with
  | single => exact ho
  | rule => trivial
  | type ha => exact ho _ ha
  | defined htypes hd => exact (SchemaFile.wasRead_of_attributeTypes htypes _ hd).dotted

theorem dotted_of_gains {r r' : Registry AttributeType} {e : Entry AttributeType}
    (h : r.Gains r' e) (he : e.element.Dotted) (hr : ∀ f ∈ r.whole.entries, f.element.Dotted) :
    ∀ f ∈ r'.whole.entries, f.element.Dotted := by
  intro f hf
  rw [Registry.whole, h.entries, h.catalog, List.mem_append, List.mem_append,
    List.mem_singleton] at hf
  rcases hf with (hf | rfl) | hf
  · exact hr f (List.mem_append_left _ hf)
  · exact he
  · exact hr f (List.mem_append_right _ hf)

theorem keeps_typesDotted {o : Operation} (ho : o.TypesDotted) : o.Keeps Manager.TypesDotted := by
  intro s s' hs hadded
  refine ⟨hadded.advances.sound hs.sound, ?_⟩
  cases o with
  | registerComparator schemaName oid c => rw [hadded.2]; exact hs.dotted
  | registerNormalizer schemaName oid n => rw [hadded.2]; exact hs.dotted
  | registerMatchingRule schemaName oid d => rw [hadded.2]; exact hs.dotted
  | registerAttributeType schemaName oid d => exact dotted_of_gains hadded.1 ho hs.dotted
  | addMatchingRule schemaName a =>
    obtain ⟨d, -, -, -, -, heq⟩ := hadded
    rw [heq]
    exact hs.dotted
  | addAttributeType schemaName a =>
    obtain ⟨d, hread, -, hgains, -⟩ := hadded
    exact dotted_of_gains hgains (ho.of_read (fun _ => Description.WasRead.dotted) hread) hs.dotted
  | _ => exact hadded.elim

theorem reached_typesDotted {c : Catalogs} (hc : c.Loaded) (config : ManagerConfig)
    {os : List (Host × Operation)} (hos : ∀ ho ∈ os, ho.2.TypesDotted) :
    (reached config c os).TypesDotted := by
  have hstart : (Manager.ofCatalogs config c).TypesDotted :=
    ⟨Manager.sound_ofCatalogs hc config, fun e he => (hc.types_read e he).dotted⟩
  exact run_invariant
    (fun ho hmem p hp => keeps_typesDotted (typesDotted_of_mem_parts (hos ho hmem) hp)) hstart

end Operation

end DirectorySchema
