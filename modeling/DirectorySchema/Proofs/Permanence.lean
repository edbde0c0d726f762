import DirectorySchema.Proofs.Loading
import DirectorySchema.Proofs.Runs
import DirectorySchema.Manager.Binding

/-!
# Answers are permanent

Whatever a manager has answered it goes on answering in the same way, however its
registries are added to: the registries do, and so do the queries that follow superior
types, find what compares and normalizes, and bring names into normal form. The answers
of the catalogs that a manager was made over are among them.
-/

set_option autoImplicit false

namespace DirectorySchema

namespace Manager

/-- Every registry keeps its answers and no attribute type is lost. -/
structure Grows (m m' : Manager) : Prop where
  comparators : m.comparators.Keeps m'.comparators
  normalizers : m.normalizers.Keeps m'.normalizers
  matchingRules : m.matchingRules.Keeps m'.matchingRules
  attributeTypes : m.attributeTypes.Keeps m'.attributeTypes
  typeCount : m.typeCount ≤ m'.typeCount

theorem Grows.refl (m : Manager) : m.Grows m :=
  ⟨.refl _, .refl _, .refl _, .refl _, Nat.le_refl _⟩

theorem Grows.trans {m m' m'' : Manager} (h : m.Grows m') (k : m'.Grows m'') : m.Grows m'' :=
  ⟨h.comparators.trans k.comparators, h.normalizers.trans k.normalizers,
    h.matchingRules.trans k.matchingRules, h.attributeTypes.trans k.attributeTypes,
    Nat.le_trans h.typeCount k.typeCount⟩

theorem Advances.grows {m m' : Manager} (h : m.Advances m') : m.Grows m' := by
  refine ⟨h.comparators.keeps, h.normalizers.keeps, h.matchingRules.keeps,
    h.attributeTypes.keeps, ?_⟩
  rcases h.attributeTypes with heq | ⟨e, -, heq⟩
  · have hsame : m'.typeCount = m.typeCount := by rw [typeCount, typeCount, heq]
    exact Nat.le_of_eq hsame.symm
  · simp only [typeCount, heq, Registry.insert, Layer.insert, List.length_append,
      List.length_singleton]
    omega

structure Keeps (m m' : Manager) : Prop where
  comparators : m.comparators.Keeps m'.comparators
  normalizers : m.normalizers.Keeps m'.normalizers
  matchingRules : m.matchingRules.Keeps m'.matchingRules
  attributeTypes : m.attributeTypes.Keeps m'.attributeTypes
  normalizeAttributeType : ∀ x oid,
    m.normalizeAttributeType x = .ok oid → m'.normalizeAttributeType x = .ok oid
  getAttributeType : ∀ x t, m.getAttributeType x = .ok t → m'.getAttributeType x = .ok t
  equalityRuleOf : ∀ x rule, m.equalityRuleOf x = .ok rule → m'.equalityRuleOf x = .ok rule
  comparatorFor : ∀ x c, m.comparatorFor x = .ok c → m'.comparatorFor x = .ok c
  normalizerFor : ∀ x n, m.normalizerFor x = .ok n → m'.normalizerFor x = .ok n
  normalizeValue : ∀ x v w, m.normalizeValue x v = .ok w → m'.normalizeValue x v = .ok w
  normalText : ∀ n t, m.normalText n = .ok t → m'.normalText n = .ok t

section
variable {m m' : Manager} (h : m.Grows m')
include h

theorem normalizeAttributeType_mono {x oid : Text} (hx : m.normalizeAttributeType x = .ok oid) :
    m'.normalizeAttributeType x = .ok oid :=
  h.attributeTypes.oidOf _ oid hx

theorem getAttributeType_mono {x : Text} {t : AttributeType} (hx : m.getAttributeType x = .ok t) :
    m'.getAttributeType x = .ok t := by
  obtain ⟨oid, ho, ht⟩ := bind_eq_ok_iff.mp hx
  exact bind_eq_ok_iff.mpr
    ⟨oid, normalizeAttributeType_mono h ho, h.attributeTypes.lookup oid t ht⟩

/-- More steps than were enough are enough. -/
theorem equalityRuleFrom_mono {steps steps' : Nat} {seen : List Text} {t : AttributeType}
    {rule : Text} (hs : steps ≤ steps') (hx : m.equalityRuleFrom steps seen t = .ok rule) :
    m'.equalityRuleFrom steps' seen t = .ok rule := by
  fun_induction m.equalityRuleFrom steps seen t generalizing steps' with
  | case1 steps seen t name he =>
    unfold equalityRuleFrom
    simp only [he]
    exact h.matchingRules.oidOf name rule hx
  | case2 => cases hx
  | case3 seen t he sup steps hsup hseen above hget ih =>
    obtain ⟨k, rfl⟩ := Nat.exists_eq_add_of_le' (Nat.le_trans (Nat.le_add_left 1 steps) hs)
    unfold equalityRuleFrom
    simp only [he, hsup, hseen, getAttributeType_mono h hget]
    exact ih (Nat.le_of_succ_le_succ hs) hx
  | case4 => cases hx
  | case5 => cases hx

theorem equalityRuleOf_mono {x rule : Text} (hx : m.equalityRuleOf x = .ok rule) :
    m'.equalityRuleOf x = .ok rule := by
  obtain ⟨t, ht, hr⟩ := bind_eq_ok_iff.mp hx
  have hsteps : m.typeCount + 1 ≤ m'.typeCount + 1 := Nat.succ_le_succ h.typeCount
  exact bind_eq_ok_iff.mpr
    ⟨t, getAttributeType_mono h ht, equalityRuleFrom_mono h hsteps hr⟩

theorem comparatorFor_mono {x : Text} {c : Comparator} (hx : m.comparatorFor x = .ok c) :
    m'.comparatorFor x = .ok c := by
  obtain ⟨rule, hr, hc⟩ := bind_eq_ok_iff.mp hx
  exact bind_eq_ok_iff.mpr ⟨rule, equalityRuleOf_mono h hr, h.comparators.lookup rule c hc⟩

theorem normalizerFor_mono {x : Text} {n : Normalizer} (hx : m.normalizerFor x = .ok n) :
    m'.normalizerFor x = .ok n := by
  obtain ⟨rule, hr, hn⟩ := bind_eq_ok_iff.mp hx
  exact bind_eq_ok_iff.mpr ⟨rule, equalityRuleOf_mono h hr, h.normalizers.lookup rule n hn⟩

theorem normalizeValue_mono {x : Text} {v w : Value} (hx : m.normalizeValue x v = .ok w) :
    m'.normalizeValue x v = .ok w := by
  unfold normalizeValue at hx ⊢
  cases hn : m.normalizerFor x with
  | error e => simp [hn] at hx
  | ok n =>
    rw [normalizerFor_mono h hn]
    simpa only [hn] using hx

theorem normalizeText_mono {x s t : Text} (hx : m.normalizeText x s = .ok t) :
    m'.normalizeText x s = .ok t := by
  obtain ⟨v, hv, ht⟩ := bind_eq_ok_iff.mp hx
  exact bind_eq_ok_iff.mpr ⟨v, normalizeValue_mono h hv, ht⟩

theorem avaText_mono {a : Ava} {t : Text} (ha : m.avaText a = .ok t) : m'.avaText a = .ok t := by
  unfold avaText at ha ⊢
  cases ho : m.normalizeAttributeType a.type with
  | error e => simp [ho] at ha
  | ok oid =>
    simp only [ho] at ha
    simp only [normalizeAttributeType_mono h ho]
    obtain ⟨s, hs, rfl⟩ := map_eq_ok_iff.mp ha
    exact map_eq_ok_iff.mpr ⟨s, normalizeText_mono h hs, rfl⟩

theorem rdnText_mono {r : Rdn} {t : Text} (hr : m.rdnText r = .ok t) : m'.rdnText r = .ok t := by
  obtain ⟨ts, hts, heq⟩ := bind_eq_ok_iff.mp hr
  have hts' : r.mapM m'.avaText = .ok ts := by
    rw [mapM_eq_ok_iff] at hts ⊢
    exact hts.imp fun a s => avaText_mono h
  exact bind_eq_ok_iff.mpr ⟨ts, hts', heq⟩

theorem normalText_mono {n : Dn} {t : Text} (hn : m.normalText n = .ok t) :
    m'.normalText n = .ok t := by
  obtain ⟨ts, hts, heq⟩ := bind_eq_ok_iff.mp hn
  have hts' : n.rdns.mapM m'.rdnText = .ok ts := by
    rw [mapM_eq_ok_iff] at hts ⊢
    exact hts.imp fun r s => rdnText_mono h
  exact bind_eq_ok_iff.mpr ⟨ts, hts', heq⟩

theorem Grows.keeps : m.Keeps m' where
  comparators := h.comparators
  normalizers := h.normalizers
  matchingRules := h.matchingRules
  attributeTypes := h.attributeTypes
  normalizeAttributeType _ _ := normalizeAttributeType_mono h
  getAttributeType _ _ := getAttributeType_mono h
  equalityRuleOf _ _ := equalityRuleOf_mono h
  comparatorFor _ _ := comparatorFor_mono h
  normalizerFor _ _ := normalizerFor_mono h
  normalizeValue _ _ _ := normalizeValue_mono h
  normalText _ _ := normalText_mono h

end

end Manager

structure Layer.AnsweredBy {α : Type} [SchemaElement α] (l : Layer α) (r : Registry α) : Prop where
  element : ∀ oid a, l.element oid = .ok a → r.lookup oid = .ok a
  schemaName : ∀ oid name, l.schemaName oid = .ok name → r.schemaNameOf oid = .ok name
  holds : ∀ oid, l.holds oid = true → r.holds oid = true
  hasName : ∀ n, l.hasName n = true → r.hasName n = true
  oidOf : ∀ x oid, l.oidOf x = .ok oid → r.oidOf x = .ok oid

namespace Layer

variable {α : Type} [SchemaElement α] {l : Layer α}

theorem AnsweredBy.trans {r r' : Registry α} (h : l.AnsweredBy r) (k : r.Keeps r') :
    l.AnsweredBy r' :=
  ⟨fun oid a ha => k.lookup oid a (h.element oid a ha),
    fun oid n hn => k.schemaNameOf oid n (h.schemaName oid n hn),
    fun oid ho => k.holds oid (h.holds oid ho), fun n hn => k.hasName n (h.hasName n hn),
    fun x oid ho => k.oidOf x oid (h.oidOf x oid ho)⟩

theorem answeredBy_ofCatalog (h : ∀ oid ∈ l.oids, Text.isNumericOid oid = true) :
    l.AnsweredBy (Registry.ofCatalog l) := by
  have hfind : ∀ oid, (Registry.ofCatalog l).find? oid = l.find? oid := by
    intro oid
    rfl
  constructor
  · rw [Registry.lookup_ofCatalog]
    exact fun _ _ ha => ha
  · intro oid name hname
    unfold schemaName at hname
    cases hf : l.find? oid with
    | none => simp [hf] at hname
    | some e =>
      have ho : oid ∈ l.oids := by
        obtain ⟨hm, rfl⟩ := mem_of_find? hf
        exact List.mem_map_of_mem hm
      have hd := Text.startsWithDigit_of_isNumericOid (h oid ho)
      simp only [hf, Except.ok.injEq] at hname
      exact Registry.schemaNameOf_eq_ok_iff.mpr ⟨hd, e, (hfind oid).trans hf, hname⟩
  · intro oid ho
    exact ho
  · intro n hn
    exact hn
  · rw [Registry.oidOf_ofCatalog]
    exact fun _ _ ho => ho

end Layer

structure Catalogs.AnsweredBy (c : Catalogs) (m : Manager) : Prop where
  comparators : c.comparators.AnsweredBy m.comparators
  normalizers : c.normalizers.AnsweredBy m.normalizers
  matchingRules : c.matchingRules.AnsweredBy m.matchingRules
  attributeTypes : c.attributeTypes.AnsweredBy m.attributeTypes

theorem Catalogs.Loaded.answeredBy {c : Catalogs} (h : c.Loaded) (config : ManagerConfig) :
    c.AnsweredBy (.ofCatalogs config c) := by
  constructor
  · apply Layer.answeredBy_ofCatalog
    rw [h.comparators_oids]
    exact h.rules_numeric
  · apply Layer.answeredBy_ofCatalog
    rw [h.normalizers_oids]
    exact h.rules_numeric
  · exact Layer.answeredBy_ofCatalog h.rules_numeric
  · exact Layer.answeredBy_ofCatalog h.types_numeric

namespace Operation

theorem run_grows (os : List (Host × Operation)) (s : Session) :
    s.manager.Grows (run os s).manager := by
  apply run_invariant (I := s.manager.Grows)
  · intro ho _ p _ t t' ht hadded
    exact ht.trans hadded.advances.grows
  · exact Manager.Grows.refl s.manager

/-- No override, ever: a run keeps every answer that a manager has given, and those of the
catalogs that it was made over. -/
theorem answers_permanent :
    (∀ (os : List (Host × Operation)) (s : Session), s.manager.Keeps (run os s).manager) ∧
    ∀ (schemas : List (Text × SchemaDefinition)) (names : List Text) (c : Catalogs)
      (config : ManagerConfig) (os : List (Host × Operation)),
      Catalogs.load schemas names = .ok c → c.AnsweredBy (reached config c os) := by
  constructor
  · intro os s
    exact (run_grows os s).keeps
  · intro schemas names c config os hc
    have hgrows : (Manager.ofCatalogs config c).Grows (reached config c os) :=
      run_grows os ⟨.ofCatalogs config c, []⟩
    have hstart := (Catalogs.loaded_of_load hc).answeredBy config
    exact ⟨hstart.comparators.trans hgrows.comparators,
      hstart.normalizers.trans hgrows.normalizers,
      hstart.matchingRules.trans hgrows.matchingRules,
      hstart.attributeTypes.trans hgrows.attributeTypes⟩

section
open Catalogs.Sample

theorem sample_answers_permanent :
    let os := [(host, addAttributeType "nis" (.written "( 1.1 NAME 'nick' SUP cn )"))]
    Catalogs.load schemas ["people"] = .ok catalogs ∧ catalogs.AnsweredBy (reached {} catalogs os) :=
  ⟨load_eq, answers_permanent.2 _ _ _ _ _ load_eq⟩

end

end Operation

end DirectorySchema
