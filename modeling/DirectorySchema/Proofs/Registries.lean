import DirectorySchema.Proofs.Layers
import DirectorySchema.Registry.Basic

/-!
# Sound registries

A registry answers like the one layer of everything that it holds, and it is sound when
that layer is. It admits an entry whose identifier and names are free in both layers;
putting such an entry in keeps it sound, and keeps every answer that it gave, sound or not.
-/

set_option autoImplicit false

namespace DirectorySchema.Registry

variable {α : Type}

/-- Everything that a registry holds, what was registered at runtime first. -/
def whole (r : Registry α) : Layer α :=
  ⟨r.runtime.entries ++ r.catalog.entries, r.runtime.names ++ r.catalog.names⟩

theorem find?_eq_whole (r : Registry α) (oid : Text) : r.find? oid = r.whole.find? oid := by
  simp [find?, whole, Layer.find?, List.find?_append]

theorem holds_eq_whole (r : Registry α) (oid : Text) : r.holds oid = r.whole.holds oid := by
  simp [holds, whole, Layer.holds, Layer.find?, List.find?_append]

theorem holds_eq_isSome (r : Registry α) (oid : Text) : r.holds oid = (r.find? oid).isSome := by
  rw [holds_eq_whole, find?_eq_whole, Layer.holds]

theorem whole_owner? (r : Registry α) (n : Text) :
    r.whole.owner? n = (r.runtime.owner? n).or (r.catalog.owner? n) := by
  simp [whole, Layer.owner?, List.lookup_append]

theorem hasName_eq_whole (r : Registry α) (n : Text) : r.hasName n = r.whole.hasName n := by
  simp [hasName, Layer.hasName, whole_owner?]

theorem resolve?_eq_whole (r : Registry α) (x : Text) :
    ((r.runtime.resolve? x).orElse fun _ => r.catalog.resolve? x) = r.whole.resolve? x := by
  unfold Layer.resolve?
  by_cases hx : Text.isNumericOid x
  · simp only [hx, if_true, ← holds_eq_whole, holds]
    cases r.runtime.holds x <;> simp
  · simp [hx, whole_owner?]

theorem holds_iff {r : Registry α} {oid : Text} :
    r.holds oid = true ↔ ∃ e ∈ r.whole.entries, e.oid = oid := by
  rw [holds_eq_whole, Layer.holds_iff]

theorem holds_eq_false_iff {r : Registry α} {oid : Text} :
    r.holds oid = false ↔ ∀ e ∈ r.whole.entries, e.oid ≠ oid := by
  rw [← Bool.not_eq_true, holds_iff]
  simp

theorem schemaNameOf_eq_ok_iff {r : Registry α} {oid name : Text} :
    r.schemaNameOf oid = .ok name ↔
      Text.startsWithDigit oid = true ∧ ∃ e, r.find? oid = some e ∧ e.schemaName = name := by
  unfold schemaNameOf
  cases Text.startsWithDigit oid <;> cases r.find? oid <;> simp

variable [SchemaElement α]

theorem lookup_eq_ok_iff {r : Registry α} {oid : Text} {a : α} :
    r.lookup oid = .ok a ↔ ∃ e, r.find? oid = some e ∧ e.element = a := by
  unfold lookup
  cases r.find? oid <;> simp

theorem oidOf_eq_ok_iff {r : Registry α} {x oid : Text} :
    r.oidOf x = .ok oid ↔ r.whole.resolve? x = some oid := by
  rw [oidOf, resolve?_eq_whole]
  cases r.whole.resolve? x <;> simp

theorem category_of_lookup {r : Registry α} {oid : Text} {e : Refusal}
    (h : r.lookup oid = .error e) : e.category = .notFound := by
  unfold lookup at h
  split at h <;> cases h
  rfl

theorem category_of_oidOf {r : Registry α} {x : Text} {e : Refusal} (h : r.oidOf x = .error e) :
    e.category = .notFound := by
  unfold oidOf at h
  split at h <;> cases h
  rfl

theorem lookup_ofCatalog (l : Layer α) : (ofCatalog l).lookup = l.element := rfl

theorem oidOf_ofCatalog (l : Layer α) : (ofCatalog l).oidOf = l.oidOf := by
  funext x
  have hnone : (Layer.empty : Layer α).resolve? x = none := by
    unfold Layer.resolve?
    split <;> rfl
  rw [oidOf, ofCatalog, hnone]
  rfl

theorem lookup_of_holds {r : Registry α} {oid : Text} (h : r.holds oid = true) :
    ∃ a, r.lookup oid = .ok a := by
  rw [holds_eq_isSome, Option.isSome_iff_exists] at h
  obtain ⟨e, he⟩ := h
  exact ⟨e.element, lookup_eq_ok_iff.mpr ⟨e, he, rfl⟩⟩

theorem oids_insert (r : Registry α) (e : Entry α) : (r.insert e).oids = r.oids ++ [e.oid] := by
  simp [oids, Layer.oids, insert, Layer.insert]

structure Admits (r : Registry α) (e : Entry α) : Prop where
  free : r.holds e.oid = false
  declared : ∀ oid, SchemaElement.declaredOid? e.element = some oid → oid = e.oid
  names_free : ∀ n ∈ SchemaElement.names e.element, r.hasName n = false

theorem checkAvailable_eq_ok_iff {r : Registry α} {e : Entry α} :
    r.checkAvailable e.oid e.element = .ok () ↔ r.Admits e := by
  unfold checkAvailable
  cases hfree : r.holds e.oid with
  | true =>
    simp only [if_true, reduceCtorEq, false_iff]
    intro h
    simp [h.free] at hfree
  | false =>
    cases hforeign : (SchemaElement.declaredOid? e.element).any (· != e.oid) with
    | true =>
      simp only [Bool.false_eq_true, if_false, if_true, reduceCtorEq, false_iff]
      intro h
      cases hoid : SchemaElement.declaredOid? e.element with
      | none => simp [hoid] at hforeign
      | some oid => simp [hoid, h.declared oid hoid] at hforeign
    | false =>
      have hdeclared : ∀ oid, SchemaElement.declaredOid? e.element = some oid → oid = e.oid := by
        intro oid hoid
        simpa [hoid] using hforeign
      cases htaken : (SchemaElement.names e.element).find? r.hasName with
      | some n =>
        simp only [Bool.false_eq_true, if_false, reduceCtorEq, false_iff]
        intro h
        have hn := List.find?_some htaken
        rw [h.names_free n (List.mem_of_find?_eq_some htaken)] at hn
        cases hn
      | none =>
        simp only [Bool.false_eq_true, if_false, true_iff]
        refine ⟨hfree, hdeclared, ?_⟩
        intro n hn
        simpa using List.find?_eq_none.mp htaken n hn

theorem register_eq_ok_iff {r r' : Registry α} {e : Entry α} {record : Record} :
    r.register e.schemaName e.oid e.element = .ok (r', record) ↔
      r.Admits e ∧ r' = r.insert e ∧ record = registrationRecord e.oid e.element := by
  rw [← checkAvailable_eq_ok_iff, register]
  cases r.checkAvailable e.oid e.element with
  | error refusal => simp [bind, Except.bind]
  | ok u => simp [bind, Except.bind, pure, Except.pure, eq_comm]

/-- An element that gives no other identifier as its own can only be refused for what is there
already. -/
theorem checkAvailable_of_not_admits {r : Registry α} {e : Entry α}
    (hd : ∀ oid, SchemaElement.declaredOid? e.element = some oid → oid = e.oid)
    (he : ¬ r.Admits e) : ∃ refusal, r.checkAvailable e.oid e.element = .error refusal ∧
      refusal.category = .alreadyRegistered := by
  rw [← checkAvailable_eq_ok_iff] at he
  have hown : (SchemaElement.declaredOid? e.element).any (· != e.oid) = false := by
    cases hoid : SchemaElement.declaredOid? e.element with
    | none => rfl
    | some oid => simp [hd oid hoid]
  unfold checkAvailable at he ⊢
  rw [hown] at he ⊢
  cases hfree : r.holds e.oid with
  | true => exact ⟨_, rfl, rfl⟩
  | false =>
    cases htaken : (SchemaElement.names e.element).find? r.hasName with
    | some n => exact ⟨_, rfl, rfl⟩
    | none => simp [hfree, htaken] at he

section
variable {r : Registry α} {e : Entry α} {n : Text}

theorem Admits.hasName_of_bears (he : r.Admits e) (hn : e.Bears n) : r.hasName n = false := by
  obtain ⟨k, hk, hkn⟩ := List.mem_map.mp hn
  have hfree := he.names_free k hk
  unfold hasName Layer.hasName Layer.owner? at hfree ⊢
  rwa [← hkn]

theorem find?_insert (he : r.Admits e) (oid : Text) :
    (r.insert e).find? oid = if e.oid = oid then some e else r.find? oid := by
  unfold find? insert Layer.insert Layer.find?
  rw [List.find?_append]
  by_cases ho : e.oid = oid
  · subst ho
    have hfree := he.free
    simp only [holds, Layer.holds, Layer.find?, Bool.or_eq_false_iff, Option.isSome_eq_false_iff,
      Option.isNone_iff_eq_none] at hfree
    simp [hfree.1]
  · simp [ho]

theorem lookup_insert (he : r.Admits e) (oid : Text) :
    (r.insert e).lookup oid = if e.oid = oid then .ok e.element else r.lookup oid := by
  unfold lookup
  rw [find?_insert he]
  by_cases ho : e.oid = oid <;> simp [ho]

theorem holds_insert_iff (he : r.Admits e) {oid : Text} :
    (r.insert e).holds oid = true ↔ e.oid = oid ∨ r.holds oid = true := by
  rw [holds_eq_isSome, holds_eq_isSome, find?_insert he]
  by_cases ho : e.oid = oid <;> simp [ho]

theorem not_admits_insert (he : r.Admits e) {f : Entry α} (hf : f.oid = e.oid) :
    ¬ (r.insert e).Admits f := by
  intro h
  have hfree := h.free
  rw [hf, (holds_insert_iff he).mpr (Or.inl rfl)] at hfree
  cases hfree

theorem owner?_insert (he : r.Admits e) :
    (r.insert e).runtime.owner? n = if e.Bears n then some e.oid else r.runtime.owner? n := by
  rw [insert, Layer.owner?_insert]
  by_cases hn : e.Bears n
  · have hfree := he.hasName_of_bears hn
    simp only [hasName, Layer.hasName, Bool.or_eq_false_iff, Option.isSome_eq_false_iff,
      Option.isNone_iff_eq_none] at hfree
    simp [hn, hfree.1]
  · simp [hn]

end

def Sound (r : Registry α) : Prop := r.whole.Sound

theorem sound_ofCatalog {l : Layer α} (h : l.Sound) : (ofCatalog l).Sound := h

theorem sound_insert {r : Registry α} {e : Entry α} (h : r.Sound) (he : r.Admits e) :
    (r.insert e).Sound := by
  apply Layer.Sound.add h (e := e)
  · simp only [whole, insert, Layer.insert, List.append_assoc]
    exact List.perm_middle
  · intro p
    simp only [whole, insert, Layer.insert, List.mem_append]
    tauto
  · exact holds_eq_false_iff.mp he.free
  · exact he.declared
  · intro f hf n hn hfn
    have hname : r.whole.hasName n = true := h.hasName_iff.mpr ⟨f, hf, hfn⟩
    rw [← hasName_eq_whole, he.hasName_of_bears hn] at hname
    cases hname

structure Keeps (r r' : Registry α) : Prop where
  lookup : ∀ oid a, r.lookup oid = .ok a → r'.lookup oid = .ok a
  schemaNameOf : ∀ oid name, r.schemaNameOf oid = .ok name → r'.schemaNameOf oid = .ok name
  holds : ∀ oid, r.holds oid = true → r'.holds oid = true
  hasName : ∀ n, r.hasName n = true → r'.hasName n = true
  oidOf : ∀ x oid, r.oidOf x = .ok oid → r'.oidOf x = .ok oid

namespace Keeps

theorem refl (r : Registry α) : r.Keeps r :=
  ⟨fun _ _ h => h, fun _ _ h => h, fun _ h => h, fun _ h => h, fun _ _ h => h⟩

theorem trans {r s t : Registry α} (h : r.Keeps s) (k : s.Keeps t) : r.Keeps t :=
  ⟨fun oid a ha => k.lookup oid a (h.lookup oid a ha),
    fun oid n hn => k.schemaNameOf oid n (h.schemaNameOf oid n hn),
    fun oid ho => k.holds oid (h.holds oid ho), fun n hn => k.hasName n (h.hasName n hn),
    fun x oid ho => k.oidOf x oid (h.oidOf x oid ho)⟩

end Keeps

theorem Admits.of_keeps {r r' : Registry α} {e : Entry α} (h : r.Keeps r') (he : r'.Admits e) :
    r.Admits e := by
  refine ⟨?_, he.declared, ?_⟩
  · rw [← Bool.not_eq_true]
    intro ho
    have hfree := he.free
    rw [h.holds _ ho] at hfree
    cases hfree
  · intro n hn
    rw [← Bool.not_eq_true]
    intro hname
    have hfree := he.names_free n hn
    rw [h.hasName n hname] at hfree
    cases hfree

theorem keeps_insert {r : Registry α} {e : Entry α} (he : r.Admits e) : r.Keeps (r.insert e) := by
  have hfind : ∀ oid, r.holds oid = true → (r.insert e).find? oid = r.find? oid := by
    intro oid ho
    rw [find?_insert he, if_neg]
    rintro rfl
    rw [he.free] at ho
    cases ho
  have howner : ∀ n, r.hasName n = true → (r.insert e).runtime.owner? n = r.runtime.owner? n := by
    intro n hn
    rw [owner?_insert he, if_neg]
    intro hb
    rw [he.hasName_of_bears hb] at hn
    cases hn
  have holds : ∀ oid, r.holds oid = true → (r.insert e).holds oid = true :=
    fun oid ho => (holds_insert_iff he).mpr (Or.inr ho)
  constructor
  · intro oid a ha
    obtain ⟨f, hf, hfa⟩ := lookup_eq_ok_iff.mp ha
    have ho : r.holds oid = true := by rw [holds_eq_isSome, hf]; rfl
    exact lookup_eq_ok_iff.mpr ⟨f, (hfind oid ho).trans hf, hfa⟩
  · intro oid name hname
    obtain ⟨hd, f, hf, hfn⟩ := schemaNameOf_eq_ok_iff.mp hname
    have ho : r.holds oid = true := by rw [holds_eq_isSome, hf]; rfl
    exact schemaNameOf_eq_ok_iff.mpr ⟨hd, f, (hfind oid ho).trans hf, hfn⟩
  · exact holds
  · intro n hn
    have hcatalog : (r.insert e).catalog = r.catalog := rfl
    unfold hasName Layer.hasName
    rw [howner n hn, hcatalog]
    exact hn
  · intro x oid ho
    rw [oidOf_eq_ok_iff] at ho ⊢
    unfold Layer.resolve? at ho ⊢
    by_cases hx : Text.isNumericOid x
    · simp only [hx, if_true, Option.ite_none_right_eq_some, ← holds_eq_whole] at ho ⊢
      exact ⟨holds x ho.1, ho.2⟩
    · have hn : r.hasName x = true := by
        rw [hasName_eq_whole, Layer.hasName, Option.isSome_iff_exists]
        exact ⟨oid, by simpa [hx] using ho⟩
      have hcatalog : (r.insert e).catalog = r.catalog := rfl
      simp only [hx, whole_owner?, howner x hn, hcatalog] at ho ⊢
      exact ho

end DirectorySchema.Registry
