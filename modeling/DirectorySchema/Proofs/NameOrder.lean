import DirectorySchema.Proofs.WrittenNames

/-!
# The order of names

Names are ordered by the texts of their relative names, which tell all names apart, but two
names count as the same when they differ in case alone. Among names of which no two
different ones are the same the order is what one expects of a total order; among others it
is not, and it goes wrong wherever two such names meet.
-/

set_option autoImplicit false

namespace DirectorySchema

def Ava.lowered (a : Ava) : Ava := ⟨Text.lower a.type, Text.lower a.value⟩

theorem Ava.same_iff {a b : Ava} : a.same b = true ↔ a.lowered = b.lowered := by
  simp [same, Text.alike, lowered]

theorem Rdn.same_iff {r s : Rdn} :
    Rdn.same r s = true ↔ r.map Ava.lowered = s.map Ava.lowered := by
  induction r generalizing s with
  | nil => cases s <;> simp [same]
  | cons a r ih =>
    cases s with
    | nil => simp [same]
    | cons b s => simp [same, Ava.same_iff, ih]

namespace Dn

def lowered (n : Dn) : Dn := ⟨n.rdns.map (List.map Ava.lowered)⟩

theorem sameRdns_iff {rs ss : List Rdn} :
    sameRdns rs ss = true ↔ rs.map (List.map Ava.lowered) = ss.map (List.map Ava.lowered) := by
  induction rs generalizing ss with
  | nil => cases ss <;> simp [sameRdns]
  | cons r rs ih =>
    cases ss with
    | nil => simp [sameRdns]
    | cons s ss => simp [sameRdns, Rdn.same_iff, ih]

theorem same_iff {m n : Dn} : m.same n = true ↔ m.lowered = n.lowered := by
  rw [same, sameRdns_iff, lowered, lowered, Dn.mk.injEq]

theorem same_self (n : Dn) : n.same n = true := same_iff.mpr rfl

theorem before_iff {m n : Dn} :
    m.before n = true ↔ compare (m.rdns.map Rdn.text) (n.rdns.map Rdn.text) = .lt := by
  rw [before, beq_iff_eq]

theorem texts_injective : Function.Injective fun n : Dn => n.rdns.map Rdn.text := by
  rintro ⟨rs⟩ ⟨ss⟩ h
  rw [Dn.mk.injEq]
  exact List.map_injective_iff.mpr Rdn.text_injective h

theorem not_before_self (n : Dn) : n.before n = false := by
  rw [before, Std.ReflOrd.compare_self]
  rfl

theorem before_asymm {m n : Dn} (h : m.before n = true) : n.before m = false := by
  rw [before_iff] at h
  rw [before, Std.OrientedCmp.gt_of_lt h]
  rfl

theorem before_trans {l m n : Dn} (h : l.before m = true) (k : m.before n = true) :
    l.before n = true := by
  rw [before_iff] at h k ⊢
  exact Std.TransCmp.lt_trans h k

theorem before_or_before {m n : Dn} (h : m ≠ n) : m.before n = true ∨ n.before m = true := by
  rw [before_iff, before_iff]
  cases hc : compare (m.rdns.map Rdn.text) (n.rdns.map Rdn.text) with
  | lt => exact Or.inl rfl
  | eq => exact absurd (texts_injective (Std.LawfulEqCmp.eq_of_compare hc)) h
  | gt => exact Or.inr (Std.OrientedCmp.lt_of_gt hc)

def ExactlyOne (p q r : Bool) : Prop :=
  (p = true ∧ q = false ∧ r = false) ∨ (p = false ∧ q = true ∧ r = false) ∨
    (p = false ∧ q = false ∧ r = true)

/-- The laws of a total order that takes names that are the same for one, among the names of
a set. -/
structure OrderedOn (P : Dn → Prop) : Prop where
  trichotomy : ∀ a b, P a → P b → ExactlyOne (a.before b) (a.same b) (b.before a)
  atOrBefore : ∀ a b, P a → P b → a.atOrBefore b = (a.before b || a.same b)
  after : ∀ a b, P a → P b → a.after b = b.before a
  atOrAfter : ∀ a b, P a → P b → a.atOrAfter b = b.atOrBefore a
  trans : ∀ a b c, P a → P b → P c →
    a.before b = true → b.before c = true → a.before c = true
  before_of_same : ∀ a b c, P a → P b → P c →
    a.same b = true → a.before c = true → b.before c = true

/-- No two different names of a set are the same. -/
def Separated (P : Dn → Prop) : Prop := ∀ a b, P a → P b → a.same b = true → a = b

/-- Sameness is equality on a separated set, and the order of texts is total for equality. -/
theorem Separated.orderedOn {P : Dn → Prop} (h : Separated P) : OrderedOn P := by
  have hdiffer : ∀ a b, P a → P b → a ≠ b → a.same b = false := by
    intro a b ha hb hne
    rw [← Bool.not_eq_true]
    exact fun hsame => hne (h a b ha hb hsame)
  constructor
  · intro a b ha hb
    by_cases hab : a = b
    · subst hab
      exact Or.inr (Or.inl ⟨a.not_before_self, a.same_self, a.not_before_self⟩)
    · have hsame := hdiffer a b ha hb hab
      rcases before_or_before hab with hbefore | hbefore
      · exact Or.inl ⟨hbefore, hsame, before_asymm hbefore⟩
      · exact Or.inr (Or.inr ⟨before_asymm hbefore, hsame, hbefore⟩)
  · intro a b _ _
    rfl
  · intro a b ha hb
    by_cases hab : a = b
    · subst hab
      simp [after, not_before_self, same_self]
    · have hsame := hdiffer a b ha hb hab
      rcases before_or_before hab with hbefore | hbefore
      · simp [after, hbefore, before_asymm hbefore]
      · simp [after, hbefore, before_asymm hbefore, hsame]
  · intro a b ha hb
    by_cases hab : a = b
    · subst hab
      simp [atOrAfter, atOrBefore, not_before_self, same_self]
    · have hsame := hdiffer b a hb ha (Ne.symm hab)
      rcases before_or_before hab with hbefore | hbefore
      · simp [atOrAfter, atOrBefore, hbefore, before_asymm hbefore, hsame]
      · simp [atOrAfter, atOrBefore, hbefore, before_asymm hbefore]
  · intro a b c _ _ _
    exact before_trans
  · intro a b c ha hb _ hsame
    rw [h a b ha hb hsame]
    exact id

/-- Of two different names one is before the other, so the two cannot be the same as well. -/
theorem OrderedOn.separated {P : Dn → Prop} (h : OrderedOn P) : Separated P := by
  intro a b ha hb hsame
  by_contra hne
  rcases h.trichotomy a b ha hb with ⟨-, hsame', -⟩ | ⟨hab, -, hba⟩ | ⟨-, hsame', -⟩
  · simp [hsame] at hsame'
  · rcases before_or_before hne with hbefore | hbefore
    · simp [hab] at hbefore
    · simp [hba] at hbefore
  · simp [hsame] at hsame'

theorem separated_lowered (P : Dn → Prop) : Separated fun n => P n ∧ n.lowered = n := by
  intro a b ha hb hsame
  rw [← ha.2, ← hb.2]
  exact same_iff.mp hsame

/-- The order of names has the laws of a total order that goes together with their sameness
exactly on the sets of names in which no two different ones are the same up to case. The
names of any set that are in lower case are such a set. -/
theorem orderedOn_iff_separated (P : Dn → Prop) :
    (OrderedOn P ↔ Separated P) ∧ OrderedOn fun n => P n ∧ n.lowered = n :=
  ⟨⟨OrderedOn.separated, Separated.orderedOn⟩, (separated_lowered P).orderedOn⟩

/-- Two names that differ in case are the same, and still one is before the other. -/
theorem case_breaks_order :
    let a : Dn := ⟨[[⟨"CN", "a"⟩]]⟩
    let b : Dn := ⟨[[⟨"cn", "a"⟩]]⟩
    a.same b = true ∧ a.before b = true ∧ ¬ OrderedOn fun _ => True := by
  intro a b
  have hsame : a.same b = true := by decide +kernel
  have hbefore : a.before b = true := by decide +kernel
  refine ⟨hsame, hbefore, ?_⟩
  intro h
  have hequal := h.separated a b trivial trivial hsame
  rw [hequal, not_before_self] at hbefore
  cases hbefore

end Dn

end DirectorySchema
