import DirectorySchema.Proofs.Consistency
import Mathlib.Data.List.Perm.Subperm

/-!
# The nearest equality rule

An equality rule is sought along the superior types of an attribute type, whatever state the
registries are in: a chain may be of any length, lead nowhere or come back. The search passes
types that name no rule and that it has not come by before, so it looks at one type more than
are registered at most. Where it stops, the type that it has come to decides.
-/

set_option autoImplicit false

namespace DirectorySchema

namespace Manager

/-- Following superior types leads from one type past others to a type. -/
inductive Climbs (m : Manager) : AttributeType → List AttributeType → AttributeType → Prop where
  | here {t : AttributeType} : Climbs m t [] t
  | up {t above last : AttributeType} {sup : Text} {passed : List AttributeType}
      (refers : t.terms.sup = some sup) (found : m.getAttributeType sup = .ok above)
      (rest : Climbs m above passed last) : Climbs m t (t :: passed) last

structure Passable (ts : List AttributeType) : Prop where
  unruled : ∀ t ∈ ts, t.terms.equality = none
  once : (ts.map Description.oid).Nodup

/-- What is answered at a type that others were passed on the way to, if the search stops there:
the rule that it names, or why there is none to be had. -/
inductive Stops (m : Manager) (passed : List AttributeType) (t : AttributeType) :
    Except Refusal Text → Prop where
  | rule {name : Text} (names : t.terms.equality = some name) :
      Stops m passed t (m.matchingRules.oidOf name)
  | top (unruled : t.terms.equality = none) (highest : t.terms.sup = none) :
      Stops m passed t (.error (.noEqualityRule t.oid))
  | again (unruled : t.terms.equality = none) (seen : t.oid ∈ passed.map Description.oid) :
      Stops m passed t (.error (.noEqualityRule t.oid))
  | dangling {sup : Text} {e : Refusal} (unruled : t.terms.equality = none)
      (new : t.oid ∉ passed.map Description.oid) (refers : t.terms.sup = some sup)
      (missing : m.getAttributeType sup = .error e) : Stops m passed t (.error e)

def Registers (m : Manager) (t : AttributeType) : Prop := ∃ oid, m.attributeTypes.lookup oid = .ok t

section
variable {m : Manager} {t last above : AttributeType} {passed ts : List AttributeType}

theorem registers_of_getAttributeType {x : Text} (h : m.getAttributeType x = .ok t) :
    m.Registers t := by
  obtain ⟨oid, -, ht⟩ := bind_eq_ok_iff.mp h
  exact ⟨oid, ht⟩

theorem category_of_getAttributeType {x : Text} {e : Refusal}
    (h : m.getAttributeType x = .error e) : e.category = .notFound := by
  rcases bind_eq_error_iff.mp h with ho | ⟨oid, -, ht⟩
  · exact Registry.category_of_oidOf ho
  · exact Registry.category_of_lookup ht

theorem Passable.length_le (h : Passable ts) (hts : ∀ t ∈ ts, m.Registers t) :
    ts.length ≤ m.typeCount := by
  have hsub : ts ⊆ m.attributeTypes.whole.entries.map Entry.element := by
    intro t ht
    obtain ⟨oid, hlookup⟩ := hts t ht
    obtain ⟨e, he, rfl⟩ := Registry.lookup_eq_ok_iff.mp hlookup
    rw [Registry.find?_eq_whole] at he
    exact List.mem_map_of_mem (Layer.mem_of_find? he).1
  have hle := (List.subperm_of_subset h.once.of_map hsub).length_le
  simpa [Registry.whole, typeCount] using hle

theorem passable_nil : Passable [] :=
  ⟨fun _ ht => (List.not_mem_nil ht).elim, List.nodup_nil⟩

theorem passable_append_singleton (h : Passable passed) (ht : t.terms.equality = none)
    (hnew : t.oid ∉ passed.map Description.oid) : Passable (passed ++ [t]) := by
  constructor
  · rw [List.forall_mem_append, List.forall_mem_singleton]
    exact ⟨h.unruled, ht⟩
  · rw [List.map_append]
    exact Layer.nodup_snoc h.once hnew

theorem equalityRuleFrom_up {steps : Nat} {seen : List Text} {sup : Text}
    (hequality : t.terms.equality = none) (hnew : t.oid ∉ seen) (hsup : t.terms.sup = some sup)
    (hget : m.getAttributeType sup = .ok above) :
    m.equalityRuleFrom (steps + 1) seen t = m.equalityRuleFrom steps (t.oid :: seen) above := by
  conv_lhs => unfold equalityRuleFrom
  simp only [hequality, hsup, hget, List.contains_iff_mem, hnew, if_false]

namespace Climbs

theorem snoc {sup : Text} (h : m.Climbs t passed last) (hsup : last.terms.sup = some sup)
    (hget : m.getAttributeType sup = .ok above) : m.Climbs t (passed ++ [last]) above := by
  induction h with
  | here => exact .up hsup hget .here
  | up refers found _ ih => exact .up refers found (ih hsup)

theorem registered (h : m.Climbs t passed last) (ht : m.Registers t) :
    (∀ s ∈ passed, m.Registers s) ∧ m.Registers last := by
  induction h with
  | here => exact ⟨fun _ hs => (List.not_mem_nil hs).elim, ht⟩
  | up _ found _ ih =>
    obtain ⟨hpassed, hlast⟩ := ih (registers_of_getAttributeType found)
    exact ⟨List.forall_mem_cons.mpr ⟨ht, hpassed⟩, hlast⟩

theorem equalityRuleFrom_eq (h : m.Climbs t passed last) (hp : Passable passed) {seen : List Text}
    (hseen : ∀ s ∈ passed, s.oid ∉ seen) (steps : Nat) :
    m.equalityRuleFrom (passed.length + steps) seen t =
      m.equalityRuleFrom steps ((passed.map Description.oid).reverse ++ seen) last := by
  induction h generalizing seen with
  | here => simp
  | @up t above last sup passed refers found _ ih =>
    obtain ⟨hunruled, hrest⟩ := List.forall_mem_cons.mp hp.unruled
    obtain ⟨hnew, honce⟩ := List.nodup_cons.mp hp.once
    obtain ⟨htseen, hseen⟩ := List.forall_mem_cons.mp hseen
    have hseen' : ∀ s ∈ passed, s.oid ∉ t.oid :: seen := by
      intro s hs hmem
      rcases List.mem_cons.mp hmem with heq | hmem
      · exact hnew (heq ▸ List.mem_map_of_mem hs)
      · exact hseen s hs hmem
    have hlength : (t :: passed).length + steps = passed.length + steps + 1 := by
      rw [List.length_cons]
      omega
    rw [hlength, equalityRuleFrom_up hunruled htseen refers found, ih ⟨hrest, honce⟩ hseen',
      List.map_cons, List.reverse_cons, List.append_assoc, List.singleton_append]

/-- From every type that may be reached the search stops somewhere. -/
theorem exists_stops {steps : Nat} (h : m.Climbs t passed last) (hp : Passable passed)
    (ht : m.Registers t) (hsteps : m.typeCount < steps + passed.length) :
    ∃ ts top answer, m.Climbs t ts top ∧ Passable ts ∧ m.Stops ts top answer := by
  induction steps generalizing passed last with
  | zero =>
    have hle := hp.length_le (h.registered ht).1
    omega
  | succ steps ih =>
    cases hequality : last.terms.equality with
    | some name => exact ⟨passed, last, _, h, hp, .rule hequality⟩
    | none =>
      by_cases hseen : last.oid ∈ passed.map Description.oid
      · exact ⟨passed, last, _, h, hp, .again hequality hseen⟩
      · cases hsup : last.terms.sup with
        | none => exact ⟨passed, last, _, h, hp, .top hequality hsup⟩
        | some sup =>
          cases hget : m.getAttributeType sup with
          | error e => exact ⟨passed, last, _, h, hp, .dangling hequality hseen hsup hget⟩
          | ok above =>
            refine ih (h.snoc hsup hget) (passable_append_singleton hp hequality hseen) ?_
            rw [List.length_append, List.length_singleton]
            omega

end Climbs

theorem Stops.equalityRuleFrom_eq {answer : Except Refusal Text} {seen : List Text}
    (h : m.Stops passed last answer) (hseen : ∀ oid, oid ∈ seen ↔ oid ∈ passed.map Description.oid)
    (steps : Nat) : m.equalityRuleFrom (steps + 1) seen last = answer := by
  unfold equalityRuleFrom
  cases h with
  | rule names => simp only [names]
  | top unruled highest => simp only [unruled, highest]
  | again unruled again =>
    simp only [unruled, List.contains_iff_mem, (hseen _).mpr again, if_true]
    cases last.terms.sup <;> rfl
  | dangling unruled new refers missing =>
    have hnew : last.oid ∉ seen := fun hmem => new ((hseen _).mp hmem)
    simp only [unruled, refers, missing, List.contains_iff_mem, hnew, if_false]

theorem equalityRuleFrom_of_stops {answer : Except Refusal Text} {steps : Nat}
    (h : m.Climbs t passed last) (hp : Passable passed) (ht : m.Registers t)
    (hs : m.Stops passed last answer) (hsteps : m.typeCount < steps) :
    m.equalityRuleFrom steps [] t = answer := by
  have hle := hp.length_le (h.registered ht).1
  obtain ⟨rest, rfl⟩ : ∃ rest, steps = passed.length + (rest + 1) :=
    ⟨steps - passed.length - 1, by omega⟩
  rw [h.equalityRuleFrom_eq hp (fun _ _ => List.not_mem_nil), List.append_nil]
  exact hs.equalityRuleFrom_eq (fun _ => List.mem_reverse) rest

end

/-- In every state of the registries the search for an equality rule stops. It goes up from the
type that is given past types without a rule, none of which comes twice, to one that settles it:
the first that names a rule, or one that has no superior type, has come before, or refers to
nothing; and the answer is what that type settles. So it looks at one type more than are
registered at most, and more steps than that make no difference. -/
theorem nearest_rule_found (m : Manager) {x : Text} {t : AttributeType}
    (hx : m.getAttributeType x = .ok t) :
    (∃ passed last, m.Climbs t passed last ∧ Passable passed ∧
      m.Stops passed last (m.equalityRuleOf x)) ∧
    (∀ passed last answer, m.Climbs t passed last → Passable passed →
      m.Stops passed last answer → m.equalityRuleOf x = answer) ∧
    (∀ passed last, m.Climbs t passed last → Passable passed →
      (passed ++ [last]).length ≤ m.typeCount + 1) ∧
    (∀ steps, m.typeCount < steps → m.equalityRuleFrom steps [] t = m.equalityRuleOf x) ∧
    (∀ name e, m.matchingRules.oidOf name = .error e → e.category = .notFound) ∧
    (∀ sup e, m.getAttributeType sup = .error e → e.category = .notFound) ∧
    ((∀ oid u, m.attributeTypes.lookup oid = .ok u → u.oid = oid) →
      ∀ passed last, m.Climbs t passed last →
        (last.oid ∈ passed.map Description.oid ↔ last ∈ passed)) := by
  have ht := registers_of_getAttributeType hx
  have hfrom : m.equalityRuleOf x = m.equalityRuleFrom (m.typeCount + 1) [] t := by
    rw [equalityRuleOf, hx]
    rfl
  obtain ⟨passed, last, answer, hclimbs, hpassable, hstops⟩ :=
    Climbs.exists_stops .here passable_nil ht (Nat.lt_succ_self m.typeCount)
  have hanswer : ∀ passed last answer, m.Climbs t passed last → Passable passed →
      m.Stops passed last answer → m.equalityRuleOf x = answer := by
    intro passed last answer hclimbs hpassable hstops
    rw [hfrom]
    exact equalityRuleFrom_of_stops hclimbs hpassable ht hstops (Nat.lt_succ_self _)
  have hfound := hanswer passed last answer hclimbs hpassable hstops
  refine ⟨⟨passed, last, hclimbs, hpassable, hfound ▸ hstops⟩, hanswer, ?_, ?_,
    fun _ _ => Registry.category_of_oidOf, fun _ _ => category_of_getAttributeType, ?_⟩
  · intro ts top hts hp
    rw [List.length_append, List.length_singleton]
    exact Nat.succ_le_succ (hp.length_le (hts.registered ht).1)
  · intro steps hsteps
    rw [hfound]
    exact equalityRuleFrom_of_stops hclimbs hpassable ht hstops hsteps
  · intro hown ts top hts
    obtain ⟨hregistered, oid, htop⟩ := hts.registered ht
    constructor
    · intro hmem
      obtain ⟨s, hs, hoid⟩ := List.mem_map.mp hmem
      obtain ⟨oid', hlookup⟩ := hregistered s hs
      have hsame : oid' = oid := by rw [← hown oid' s hlookup, ← hown oid top htop, hoid]
      rw [hsame, htop, Except.ok.injEq] at hlookup
      rwa [hlookup]
    · exact List.mem_map_of_mem

section
open Catalogs.Sample Operation

def ring : List (Host × Operation) :=
  [(host, registerAttributeType "own" "1.1" ⟨"1.1", { names := some ["a"], sup := some "B" }⟩),
    (host, registerAttributeType "own" "1.2" ⟨"1.2", { names := some ["b"], sup := some "1.3" }⟩),
    (host, registerAttributeType "own" "1.3" ⟨"1.3", { names := some ["c"], sup := some "A" }⟩)]

/-- Three types, one below the other all the way round, are gone round once. -/
theorem ring_gone_round :
    let m := reached {} catalogs ring
    m.getAttributeType "c" = .ok ⟨"1.3", { names := some ["c"], sup := some "A" }⟩ ∧
      m.equalityRuleOf "c" = .error (.noEqualityRule "1.3") := by
  intro m
  have ha : m.getAttributeType "A" = .ok ⟨"1.1", { names := some ["a"], sup := some "B" }⟩ := by
    decide +kernel
  have hb : m.getAttributeType "B" = .ok ⟨"1.2", { names := some ["b"], sup := some "1.3" }⟩ := by
    decide +kernel
  have hc : m.getAttributeType "1.3" = .ok ⟨"1.3", { names := some ["c"], sup := some "A" }⟩ := by
    decide +kernel
  have hstart : m.getAttributeType "c" = .ok ⟨"1.3", { names := some ["c"], sup := some "A" }⟩ := by
    decide +kernel
  refine ⟨hstart, (nearest_rule_found m hstart).2.1 _ _ _
    (.up rfl ha (.up rfl hb (.up rfl hc .here))) ⟨?_, ?_⟩ (.again rfl ?_)⟩
  · simp
  · decide
  · decide

end

end Manager

end DirectorySchema
