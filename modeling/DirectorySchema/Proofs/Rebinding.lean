import DirectorySchema.Principal
import DirectorySchema.Proofs.NormalNames
import DirectorySchema.Proofs.Permanence
import Mathlib.Logic.Function.Basic

/-!
# Rebinding principals

When a change of a principal fails nothing has been written, for whatever can fail comes before
the first write. A binding starts from the name that the principal was made with, so the last
one that succeeded decides the normalized name, and it goes on being right while the managers
are added to.
-/

set_option autoImplicit false

namespace DirectorySchema

namespace Principal

variable {ι : Type}

theorem setPassword_eq (v : Value) (p : Principal ι) :
    setPassword v p = match readPassword v with
      | .ok octets => .ok () { p with password := some octets }
      | .error e => .error e p := by
  unfold setPassword
  cases readPassword v <;> rfl

/-- The normalized text of a name under a manager. Without one only a name without types has
any, and it is the text of the name. -/
def nameUnder (n : Dn) : Option Manager → Except Failure Text
  | some m => m.normalText n
  | none => if n.rdns.all List.isEmpty then .ok n.text else .error .noSuchPart

theorem nameUnder_none_iff {n : Dn} {s : Text} :
    nameUnder n none = .ok s ↔ (∀ r ∈ n.rdns, r = []) ∧ n.text = s := by
  have hall : n.rdns.all List.isEmpty = true ↔ ∀ r ∈ n.rdns, r = [] := by simp
  rw [nameUnder, ← hall]
  cases n.rdns.all List.isEmpty <;> simp

theorem nameUnder_none_of_types {n : Dn} (h : ∃ r ∈ n.rdns, r ≠ []) :
    nameUnder n none = .error .noSuchPart := by
  have hall : n.rdns.all List.isEmpty = false := by
    obtain ⟨r, hr, hne⟩ := h
    exact List.all_eq_false.mpr ⟨r, hr, by simpa using hne⟩
  simp [nameUnder, hall]

theorem normalText_of_nameUnder_none {n : Dn} {s : Text} (h : nameUnder n none = .ok s)
    (m : Manager) : m.normalText n = .ok s := by
  obtain ⟨hempty, rfl⟩ := nameUnder_none_iff.mp h
  refine bind_eq_ok_iff.mpr ⟨n.rdns.map Rdn.text, ?_, rfl⟩
  rw [mapM_eq_ok_iff, List.forall₂_map_right_iff, List.forall₂_same]
  intro r hr
  rw [hempty r hr]
  exact bind_eq_ok_iff.mpr ⟨[], rfl, by simp [Manager.sortTexts, Rdn.text, pure, Except.pure]⟩

theorem make_eq (n : Dn) (m : Option (ι × Manager)) :
    Binding.make n m = (nameUnder n (m.map Prod.snd)).map fun s => m.map fun im => ⟨im.1, s⟩ := by
  cases m with
  | none =>
    simp only [Binding.make, nameUnder, Option.map_none]
    cases n.rdns.all List.isEmpty <;> rfl
  | some im =>
    rw [Binding.make, Manager.bind_eq_map]
    simp only [nameUnder, Option.map_some]
    cases im.2.normalText n <;> rfl

def bound (p : Principal ι) (i : Option ι) (s : Text) : Principal ι :=
  { p with manager := i, binding := i.map fun i => ⟨i, s⟩ }

theorem setManager_eq {p : Principal ι} (hroot : p.dn.isRoot = false) (m : Option (ι × Manager)) :
    setManager m p = match nameUnder p.dn (m.map Prod.snd) with
      | .ok s => .ok () (p.bound (m.map Prod.fst) s)
      | .error e => .error e p := by
  have hbinding : setManager m p = (attempt (p.bindingUnder m) >>= fun binding => do
      modify fun p => { p with binding := binding }
      modify fun p => { p with manager := m.map Prod.fst }) p := rfl
  rw [hbinding, bindingUnder, hroot, if_neg Bool.false_ne_true, make_eq]
  cases nameUnder p.dn (m.map Prod.snd) with
  | error e => rfl
  | ok s => cases m <;> rfl

theorem name_bound {p : Principal ι} {m : Option (ι × Manager)} {s : Text}
    (h : nameUnder p.dn (m.map Prod.snd) = .ok s) : (p.bound (m.map Prod.fst) s).name = s := by
  cases m with
  | none => exact (nameUnder_none_iff.mp h).2
  | some im => rfl

end Principal

/-- A principal and the sessions of the managers that it may be bound to. -/
structure Scene (ι : Type) where
  sessions : ι → Session
  principal : Principal ι

namespace Scene
open Principal

inductive Event (ι : Type) where
  | rebind (i : Option ι)
  | setPassword (v : Value)
  | operate (i : ι) (h : Host) (o : Operation)

variable {ι : Type}

def manager? (w : Scene ι) (i : Option ι) : Option (ι × Manager) :=
  i.map fun i => (i, (w.sessions i).manager)

def nameUnder (w : Scene ι) (i : Option ι) (n : Dn) : Except Failure Text :=
  Principal.nameUnder n ((w.manager? i).map Prod.snd)

def change (w : Scene ι) (c : Change ι Unit) : Except Failure Unit × Scene ι :=
  match c w.principal with
  | .ok _ p => (.ok (), { w with principal := p })
  | .error e p => (.error e, { w with principal := p })

variable [DecidableEq ι]

def step (w : Scene ι) : Event ι → Except Failure Unit × Scene ι
  | .rebind i => w.change (Principal.setManager (w.manager? i))
  | .setPassword v => w.change (Principal.setPassword v)
  | .operate i h o =>
    ((o.outcome h (w.sessions i)).1.map fun _ => (),
      { w with sessions := Function.update w.sessions i (o.outcome h (w.sessions i)).2 })

def run : List (Event ι) → Scene ι → Scene ι
  | [], w => w
  | e :: es, w => run es (w.step e).2

def binds (w : Scene ι) : Event ι → Option (Option ι)
  | .rebind i =>
    match (w.step (.rebind i)).1 with
    | .ok _ => some i
    | .error _ => none
  | .setPassword _ | .operate .. => none

/-- What the last event that binds the principal binds it to. -/
def lastBinding : List (Event ι) → Scene ι → Option (Option ι)
  | [], _ => none
  | e :: es, w => (lastBinding es (w.step e).2).or (w.binds e)

section
variable {w : Scene ι}

omit [DecidableEq ι] in
theorem map_fst_manager? (w : Scene ι) (i : Option ι) : (w.manager? i).map Prod.fst = i := by
  cases i <;> rfl

omit [DecidableEq ι] in
theorem change_sessions (w : Scene ι) (c : Change ι Unit) :
    (w.change c).2.sessions = w.sessions := by
  unfold change
  cases c w.principal <;> rfl

theorem step_grows (w : Scene ι) (e : Event ι) (i : ι) :
    (w.sessions i).manager.Grows ((w.step e).2.sessions i).manager := by
  cases e with
  | rebind j =>
    rw [step, change_sessions]
    exact Manager.Grows.refl _
  | setPassword v =>
    rw [step, change_sessions]
    exact Manager.Grows.refl _
  | operate j h o =>
    simp only [step]
    by_cases hij : i = j
    · subst hij
      rw [Function.update_self]
      exact Operation.run_grows [(h, o)] (w.sessions i)
    · rw [Function.update_of_ne hij]
      exact Manager.Grows.refl _

theorem run_grows (es : List (Event ι)) (w : Scene ι) (i : ι) :
    (w.sessions i).manager.Grows ((run es w).sessions i).manager := by
  induction es generalizing w with
  | nil => exact Manager.Grows.refl _
  | cons e es ih => exact (w.step_grows e i).trans (ih _)

omit [DecidableEq ι] in
theorem nameUnder_mono {w w' : Scene ι}
    (hgrows : ∀ i, (w.sessions i).manager.Grows (w'.sessions i).manager) {i : Option ι} {n : Dn}
    {s : Text} (h : w.nameUnder i n = .ok s) : w'.nameUnder i n = .ok s := by
  cases i with
  | none => exact h
  | some i => exact Manager.normalText_mono (hgrows i) h

theorem step_setPassword (w : Scene ι) (v : Value) :
    w.step (.setPassword v) =
      match readPassword v with
      | .ok octets => (.ok (), { w with principal := { w.principal with password := some octets } })
      | .error e => (.error e, w) := by
  simp only [step, change, setPassword_eq]
  cases readPassword v <;> rfl

theorem step_rebind (hroot : w.principal.dn.isRoot = false) (i : Option ι) :
    w.step (.rebind i) =
      match w.nameUnder i w.principal.dn with
      | .ok s => (.ok (), { w with principal := w.principal.bound i s })
      | .error e => (.error e, w) := by
  simp only [step, change, setManager_eq hroot, map_fst_manager?]
  rw [← nameUnder]
  cases w.nameUnder i w.principal.dn <;> rfl

/-- All that an event can do to the principal: set the password, bind it, or nothing. -/
theorem step_cases (hroot : w.principal.dn.isRoot = false) (e : Event ι) :
    (∃ v octets, e = .setPassword v ∧ w.binds e = none ∧ (w.step e).1 = .ok () ∧
      (w.step e).2.principal = { w.principal with password := some octets }) ∨
    (∃ i s, e = .rebind i ∧ w.binds e = some i ∧ w.nameUnder i w.principal.dn = .ok s ∧
      (w.step e).1 = .ok () ∧ (w.step e).2.principal = w.principal.bound i s) ∨
    (w.binds e = none ∧ (w.step e).2.principal = w.principal) := by
  cases e with
  | rebind i =>
    cases hs : w.nameUnder i w.principal.dn with
    | ok s =>
      refine .inr (.inl ⟨i, s, rfl, ?_⟩)
      simp [binds, step_rebind hroot, hs]
    | error e =>
      refine .inr (.inr ?_)
      simp [binds, step_rebind hroot, hs]
  | setPassword v =>
    cases hv : readPassword v with
    | ok octets =>
      refine .inl ⟨v, octets, rfl, rfl, ?_⟩
      simp [step_setPassword, hv]
    | error e =>
      refine .inr (.inr ⟨rfl, ?_⟩)
      simp [step_setPassword, hv]
  | operate i h o => exact .inr (.inr ⟨rfl, rfl⟩)

theorem step_of_error (hroot : w.principal.dn.isRoot = false) {e : Event ι} {failure : Failure}
    (h : (w.step e).1 = .error failure) : (w.step e).2.principal = w.principal := by
  obtain ⟨v, octets, -, -, hok, -⟩ | ⟨i, s, -, -, -, hok, -⟩ | ⟨-, hsame⟩ := step_cases hroot e
  · simp [h] at hok
  · simp [h] at hok
  · exact hsame

theorem step_identity (hroot : w.principal.dn.isRoot = false) (e : Event ι) :
    (w.step e).2.principal.dn = w.principal.dn ∧
      (w.step e).2.principal.level = w.principal.level := by
  obtain ⟨v, octets, -, -, -, hp⟩ | ⟨i, s, -, -, -, -, hp⟩ | ⟨-, hp⟩ := step_cases hroot e <;>
    simp [hp, bound]

theorem run_identity (hroot : w.principal.dn.isRoot = false) (es : List (Event ι)) :
    (run es w).principal.dn = w.principal.dn ∧
      (run es w).principal.level = w.principal.level := by
  induction es generalizing w with
  | nil => exact ⟨rfl, rfl⟩
  | cons e es ih =>
    obtain ⟨hdn, hlevel⟩ := step_identity hroot e
    obtain ⟨hdn', hlevel'⟩ := ih (w := (w.step e).2) (by rw [hdn, hroot])
    exact ⟨hdn'.trans hdn, hlevel'.trans hlevel⟩

/-- The principal is bound to a manager, or to none, by the name that `n` has there. -/
structure Named (w : Scene ι) (n : Dn) (i : Option ι) : Prop where
  manager_eq : w.principal.manager = i
  name_eq : w.nameUnder i n = .ok w.principal.name

structure SameBinding (w w' : Scene ι) : Prop where
  manager_eq : w'.principal.manager = w.principal.manager
  name_eq : w'.principal.name = w.principal.name

theorem named_of_binds (hroot : w.principal.dn.isRoot = false) {e : Event ι} {i : Option ι}
    (h : w.binds e = some i) : (w.step e).2.Named w.principal.dn i := by
  obtain ⟨v, octets, -, hnone, -⟩ | ⟨j, s, -, hj, hs, -, hp⟩ | ⟨hnone, -⟩ := step_cases hroot e
  · simp [hnone] at h
  · obtain rfl : j = i := by simpa [hj] using h
    have hname : (w.principal.bound j s).name = s := by
      rw [← map_fst_manager? w j]
      exact name_bound hs
    constructor
    · rw [hp, bound]
    · rw [hp, hname]
      exact nameUnder_mono (w.step_grows e) hs
  · simp [hnone] at h

theorem sameBinding_of_binds (hroot : w.principal.dn.isRoot = false) {e : Event ι}
    (h : w.binds e = none) : w.SameBinding (w.step e).2 := by
  obtain ⟨v, octets, -, -, -, hp⟩ | ⟨j, s, -, hj, -⟩ | ⟨-, hp⟩ := step_cases hroot e
  · constructor <;> simp [hp, name]
  · simp [hj] at h
  · constructor <;> rw [hp]

omit [DecidableEq ι] in
theorem Named.keeps {w w' : Scene ι} {n : Dn} {i : Option ι} (h : w.Named n i)
    (hsame : w.SameBinding w')
    (hgrows : ∀ i, (w.sessions i).manager.Grows (w'.sessions i).manager) : w'.Named n i := by
  refine ⟨hsame.manager_eq.trans h.manager_eq, ?_⟩
  rw [hsame.name_eq]
  exact nameUnder_mono hgrows h.name_eq

theorem run_binding (hroot : w.principal.dn.isRoot = false) (es : List (Event ι)) :
    match lastBinding es w with
    | some i => (run es w).Named w.principal.dn i
    | none => w.SameBinding (run es w) := by
  induction es generalizing w with
  | nil => exact ⟨rfl, rfl⟩
  | cons e es ih =>
    have hdn := (step_identity hroot e).1
    have hrest := ih (w := (w.step e).2) (by rw [hdn, hroot])
    rw [hdn] at hrest
    rw [lastBinding, run]
    cases hlater : lastBinding es (w.step e).2 with
    | some i =>
      rw [hlater] at hrest
      exact hrest
    | none =>
      rw [hlater] at hrest
      cases hnow : w.binds e with
      | some i => exact (named_of_binds hroot hnow).keeps hrest (run_grows es _)
      | none =>
        have hstep := sameBinding_of_binds hroot hnow
        exact ⟨hrest.manager_eq.trans hstep.manager_eq, hrest.name_eq.trans hstep.name_eq⟩

/-- Whatever has been done to a principal and to the managers, what fails leaves it as it was;
the name that it was made with and its level are there for good; and binding it is a matter of
that name and of the manager alone. The last binding that succeeded is the one that it has, by
the normalized text which the name of the beginning has under that manager to this day. -/
theorem rebinding_atomic (w : Scene ι) (hroot : w.principal.dn.isRoot = false)
    (events : List (Event ι)) :
    let n := w.principal.dn
    let t := run events w
    t.principal.dn = n ∧ t.principal.level = w.principal.level ∧
    (∀ e failure, (t.step e).1 = .error failure → (t.step e).2.principal = t.principal) ∧
    (∀ s, (t.step (.setPassword (.text s))).1 = .error (.textPassword s)) ∧
    ((∃ r ∈ n.rdns, r ≠ []) → (t.step (.rebind none)).1 = .error .noSuchPart) ∧
    (∀ i, (t.step (.rebind i)).1 = (t.nameUnder i n).map fun _ => ()) ∧
    (∀ i, (t.step (.rebind i)).1 = .ok () →
      (t.step (.rebind i)).2.Named n i ∧
      (i = none → ∀ m : Manager, m.normalText n = .ok (t.step (.rebind i)).2.principal.name) ∧
      (t.step (.rebind i)).2.principal.password = t.principal.password) ∧
    match lastBinding events w with
    | some i => t.Named n i
    | none => w.SameBinding t := by
  intro n t
  obtain ⟨hdn, hlevel⟩ : t.principal.dn = n ∧ t.principal.level = _ := run_identity hroot events
  have ht : t.principal.dn.isRoot = false := by rw [hdn, hroot]
  have houtcome : ∀ i, (t.step (.rebind i)).1 = (t.nameUnder i n).map fun _ => () := by
    intro i
    rw [step_rebind ht, hdn]
    cases t.nameUnder i n <;> rfl
  refine ⟨hdn, hlevel, fun e failure => step_of_error ht, ?_, ?_, houtcome, ?_,
    run_binding hroot events⟩
  · intro s
    rw [step_setPassword]
    rfl
  · intro htypes
    have hnone : t.nameUnder none n = .error .noSuchPart := nameUnder_none_of_types htypes
    rw [houtcome, hnone]
    rfl
  · intro i hok
    have hbinds : t.binds (.rebind i) = some i := by simp [binds, hok]
    have hnamed := named_of_binds ht hbinds
    rw [hdn] at hnamed
    refine ⟨hnamed, ?_, ?_⟩
    · rintro rfl
      exact normalText_of_nameUnder_none hnamed.name_eq
    · rw [step_rebind ht] at hok ⊢
      cases hs : t.nameUnder i t.principal.dn with
      | ok s => rfl
      | error e => rfl

end

section
open Catalogs.Sample Operation

/-- No manager knows the type of the name yet. -/
def sampleScene : Scene Bool where
  sessions _ := sampleSession
  principal :=
    ⟨some false, ⟨[[⟨"nick", "Ann  Lee"⟩]]⟩, some ⟨false, "1.1=ann lee"⟩, .simple, none, none, none⟩

/-- The first binding fails and succeeds as soon as the type is there; those after it fail. -/
theorem sampleScene_bound :
    let events := [.rebind (some true),
      .operate true host (addAttributeType "nis" (.written "( 1.1 NAME 'nick' SUP cn )")),
      .rebind (some true), .setPassword (.text "secret"), .rebind none, .rebind (some false)]
    sampleScene.principal.dn.isRoot = false ∧
      (run events sampleScene).principal.dn = ⟨[[⟨"nick", "Ann  Lee"⟩]]⟩ ∧
      (run events sampleScene).principal.manager = some true ∧
      (run events sampleScene).nameUnder (some true) ⟨[[⟨"nick", "Ann  Lee"⟩]]⟩ =
        .ok (run events sampleScene).principal.name := by
  intro events
  have hlast : lastBinding events sampleScene = some (some true) := by decide +kernel
  obtain ⟨hdn, -, -, -, -, -, -, hbound⟩ := rebinding_atomic sampleScene rfl events
  rw [hlast] at hbound
  exact ⟨rfl, hdn, hbound.manager_eq, hbound.name_eq⟩

end

end Scene

end DirectorySchema
