import DirectorySchema.Proofs.Precedence

/-!
# Loads of settings

Settings are put together file by file, and what has been read when a file turns out to be
malformed stays where they are put together. They are published after the last file, so a load
that fails is seen by nobody: what is asked for goes on being the complete result of the last
load that read its files and did not fail.
-/

set_option autoImplicit false

namespace DirectorySchema

/-- A host, and the settings that are being put together on it. -/
structure Workbench where
  host : Host
  atHand : Settings

namespace Workbench
open Settings

/-- What is done at a workbench step by step. What is at hand stays there when a later step
fails. -/
abbrev Work (α : Type) := EStateM Settings.Fault Workbench α

theorem bind_eq {α β : Type} (x : Work α) (f : α → Work β) (b : Workbench) :
    (x >>= f) b = match x b with
      | .ok a b' => f a b'
      | .error e b' => .error e b' := by
  simp only [bind, EStateM.bind]
  cases x b <;> rfl

section
-- What a file leaves of the settings at hand that cannot be read to its end.
variable (leavings : Host → Settings → Text → Settings)

def readOver (path : Text) : Work Unit := do
  let b ← get
  match readPath b.host b.atHand path with
  | .ok s => set { b with atHand := s }
  | .error e =>
    set { b with atHand := leavings b.host b.atHand path }
    throw e

def publish : Work Settings := do
  let b ← get
  set { b with host := { b.host with cached := some b.atHand } }
  return b.atHand

def readFresh (paths : List Text) : Work Settings := do
  modify fun b => { b with atHand := builtIn }
  paths.forM (readOver leavings)
  publish

def load (paths : Option (List Text)) (reload : Bool) : Work Settings := do
  let b ← get
  match b.host.cached with
  | some s => if reload then readFresh leavings (paths.getD b.host.settingsPaths) else return s
  | none => readFresh leavings (paths.getD b.host.settingsPaths)

def attempt (b : Workbench) (paths : Option (List Text)) (reload : Bool) :
    Except Settings.Fault Settings × Workbench :=
  match load leavings paths reload b with
  | .ok s b' => (.ok s, b')
  | .error e b' => (.error e, b')

theorem readOver_eq (path : Text) (b : Workbench) :
    readOver leavings path b =
      match readPath b.host b.atHand path with
      | .ok s => .ok () { b with atHand := s }
      | .error e => .error e { b with atHand := leavings b.host b.atHand path } := by
  have hread : readOver leavings path b = (match readPath b.host b.atHand path with
      | .ok s => set { b with atHand := s }
      | .error e => do
        set { b with atHand := leavings b.host b.atHand path }
        throw e : Work Unit) b := rfl
  rw [hread]
  cases readPath b.host b.atHand path <;> rfl

theorem forM_readOver (paths : List Text) (b : Workbench) :
    ∃ rest, paths.forM (readOver leavings) b =
      match paths.foldlM (readPath b.host) b.atHand with
      | .ok s => .ok () { b with atHand := s }
      | .error e => .error e { b with atHand := rest } := by
  induction paths generalizing b with
  | nil => exact ⟨b.atHand, rfl⟩
  | cons path paths ih =>
    have hfirst : (path :: paths).forM (readOver leavings) b =
        (readOver leavings path >>= fun _ => paths.forM (readOver leavings)) b := rfl
    rw [hfirst, bind_eq, List.foldlM_cons, readOver_eq]
    cases readPath b.host b.atHand path with
    | error e => exact ⟨_, rfl⟩
    | ok s => exact ih { b with atHand := s }

theorem readFresh_eq (paths : List Text) (b : Workbench) :
    ∃ rest, readFresh leavings paths b =
      match merge b.host paths with
      | .ok s => .ok s ⟨{ b.host with cached := some s }, s⟩
      | .error e => .error e ⟨b.host, rest⟩ := by
  obtain ⟨rest, hrest⟩ := forM_readOver leavings paths { b with atHand := builtIn }
  have hread : readFresh leavings paths b = (paths.forM (readOver leavings) >>= fun _ => publish)
      { b with atHand := builtIn } := rfl
  refine ⟨rest, ?_⟩
  rw [hread, bind_eq, hrest, merge]
  cases paths.foldlM (readPath b.host) builtIn <;> rfl

/-- Whether a call loads, or gives what is cached. -/
def Loading (h : Host) (reload : Bool) : Prop := h.cached = none ∨ reload = true

theorem load_of_loading {b : Workbench} {reload : Bool} (h : Loading b.host reload)
    (paths : Option (List Text)) :
    load leavings paths reload b = readFresh leavings (paths.getD b.host.settingsPaths) b := by
  have hload : load leavings paths reload b = (match b.host.cached with
      | some s => if reload then readFresh leavings (paths.getD b.host.settingsPaths) else return s
      | none => readFresh leavings (paths.getD b.host.settingsPaths) : Work Settings) b := rfl
  rw [hload]
  rcases h with hnone | rfl
  · rw [hnone]
  · cases b.host.cached <;> rfl

theorem attempt_of_cached {b : Workbench} {s : Settings} (hs : b.host.cached = some s)
    (paths : Option (List Text)) : b.attempt leavings paths false = (.ok s, b) := by
  have hload : load leavings paths false b = (match b.host.cached with
      | some s => return s
      | none => readFresh leavings (paths.getD b.host.settingsPaths) : Work Settings) b := rfl
  rw [attempt, hload, hs]
  rfl

/-- All that a call can do: publish what its files come to, fail as they do and leave the host as
it was, or give what is cached. -/
theorem attempt_cases (b : Workbench) (paths : Option (List Text)) (reload : Bool) :
    (∃ s, Loading b.host reload ∧ merge b.host (paths.getD b.host.settingsPaths) = .ok s ∧
      b.attempt leavings paths reload = (.ok s, ⟨{ b.host with cached := some s }, s⟩)) ∨
    (∃ e rest, Loading b.host reload ∧
      merge b.host (paths.getD b.host.settingsPaths) = .error e ∧
      b.attempt leavings paths reload = (.error e, ⟨b.host, rest⟩)) ∨
    (∃ s, reload = false ∧ b.host.cached = some s ∧
      b.attempt leavings paths reload = (.ok s, b)) := by
  by_cases h : Loading b.host reload
  · obtain ⟨rest, hrest⟩ := readFresh_eq leavings (paths.getD b.host.settingsPaths) b
    have hattempt : b.attempt leavings paths reload =
        match merge b.host (paths.getD b.host.settingsPaths) with
        | .ok s => (.ok s, ⟨{ b.host with cached := some s }, s⟩)
        | .error e => (.error e, ⟨b.host, rest⟩) := by
      rw [attempt, load_of_loading leavings h, hrest]
      cases merge b.host (paths.getD b.host.settingsPaths) <;> rfl
    rw [hattempt]
    cases merge b.host (paths.getD b.host.settingsPaths) with
    | ok s => exact .inl ⟨s, h, rfl, rfl⟩
    | error e => exact .inr (.inl ⟨e, rest, h, rfl, rfl⟩)
  · simp only [Loading, not_or, Bool.not_eq_true] at h
    obtain ⟨hcached, rfl⟩ := h
    obtain ⟨s, hs⟩ := Option.ne_none_iff_exists'.mp hcached
    exact .inr (.inr ⟨s, rfl, hs, attempt_of_cached leavings hs paths⟩)

theorem load_of_merge {h : Host} {reload : Bool} (hloading : Loading h reload)
    (paths : Option (List Text)) :
    h.load paths reload = match merge h (paths.getD h.settingsPaths) with
      | .ok s => (.ok s, { h with cached := some s })
      | .error e => (.error e, h) := by
  rw [Host.load]
  rcases hloading with hnone | rfl
  · rw [hnone]
    rfl
  · cases h.cached <;> rfl

theorem attempt_eq_load (b : Workbench) (paths : Option (List Text)) (reload : Bool) :
    (b.attempt leavings paths reload).1 = (b.host.load paths reload).1 ∧
      (b.attempt leavings paths reload).2.host = (b.host.load paths reload).2 := by
  obtain ⟨s, h, hs, heq⟩ | ⟨e, rest, h, he, heq⟩ | ⟨s, rfl, hs, heq⟩ :=
    attempt_cases leavings b paths reload
  · rw [heq, load_of_merge h, hs]
    exact ⟨rfl, rfl⟩
  · rw [heq, load_of_merge h, he]
    exact ⟨rfl, rfl⟩
  · rw [heq, Host.load, hs]
    exact ⟨rfl, rfl⟩

theorem host_of_attempt_error {b : Workbench} {paths : Option (List Text)} {reload : Bool}
    {e : Settings.Fault} (h : (b.attempt leavings paths reload).1 = .error e) :
    (b.attempt leavings paths reload).2.host = b.host := by
  obtain ⟨s, -, -, heq⟩ | ⟨e, rest, -, -, heq⟩ | ⟨s, -, -, heq⟩ :=
    attempt_cases leavings b paths reload
  · rw [heq] at h
    cases h
  · rw [heq]
  · rw [heq]

/-- A list of files is loaded as they are by themselves: the first that is malformed is what the
call fails by, and where none is, the last that sets an option decides. -/
theorem attempt_of_files {b : Workbench} {reload : Bool} (h : Loading b.host reload)
    (paths : Option (List Text)) :
    match (paths.getD b.host.settingsPaths).mapM (readPath b.host empty) with
    | .ok us => ∃ s, (b.attempt leavings paths reload).1 = .ok s ∧ s.LastWins builtIn us
    | .error e => (b.attempt leavings paths reload).1 = .error e := by
  rw [(attempt_eq_load leavings b paths reload).1, load_of_merge h]
  cases hus : (paths.getD b.host.settingsPaths).mapM (readPath b.host empty) with
  | ok us =>
    obtain ⟨s, hs, hwins⟩ := lastWins_of_merge hus
    rw [hs]
    exact ⟨s, rfl, hwins⟩
  | error e =>
    rw [merge_eq, hus]
    rfl

inductive Event where
  | load (paths : Option (List Text)) (reload : Bool)
  | rewrite (files : Files)

def after (b : Workbench) : Event → Workbench
  | .load paths reload => (b.attempt leavings paths reload).2
  | .rewrite files => { b with host := { b.host with files := files } }

def run : List Event → Workbench → Workbench
  | [], b => b
  | e :: es, b => run es (b.after leavings e)

/-- What a call loads, if it loads and does not fail: all that its files come to. -/
def loads (b : Workbench) : Event → Option Settings
  | .load paths reload =>
    if b.host.cached.isNone || reload then (merge b.host (paths.getD b.host.settingsPaths)).toOption
    else none
  | .rewrite _ => none

def lastLoaded : List Event → Workbench → Option Settings
  | [], _ => none
  | e :: es, b => (lastLoaded es (b.after leavings e)).or (b.loads e)

theorem after_cached (b : Workbench) (e : Event) :
    (b.after leavings e).host.cached = (b.loads e).or b.host.cached := by
  cases e with
  | rewrite files => rfl
  | load paths reload =>
    have hloads : Loading b.host reload →
        b.loads (.load paths reload) = (merge b.host (paths.getD b.host.settingsPaths)).toOption :=
      fun h => if_pos (by simpa [Loading] using h)
    obtain ⟨s, h, hs, heq⟩ | ⟨e, rest, h, he, heq⟩ | ⟨s, rfl, hs, heq⟩ :=
      attempt_cases leavings b paths reload
    · rw [after, heq, hloads h, hs]
      rfl
    · rw [after, heq, hloads h, he]
      rfl
    · rw [after, heq, loads, hs]
      rfl

theorem run_cached (es : List Event) (b : Workbench) :
    (run leavings es b).host.cached = (lastLoaded leavings es b).or b.host.cached := by
  induction es generalizing b with
  | nil => rfl
  | cons e es ih => rw [run, ih, after_cached, lastLoaded, Option.or_assoc]

/-- However settings have been loaded, with the files changing in between: what is had without
loading anew is the complete result of the last call that loaded and did not fail, and every
configuration follows it, as far as it was not told otherwise; a call that fails, however many
files it has read, leaves the host and all that configurations answer there as they were; and a
call that loads fails as the first of its files that is malformed by itself, or else gives each
option the value of the last file that sets it. -/
theorem failed_load_publishes_nothing (b : Workbench) (events : List Event) :
    let t := run leavings events b
    t.host.cached = (lastLoaded leavings events b).or b.host.cached ∧
    (∀ s, t.host.cached = some s →
      (∀ paths, t.attempt leavings paths false = (.ok s, t)) ∧ t.host.settings = .ok s) ∧
    (∀ s, t.host.settings = .ok s → ∀ c : ManagerConfig, c.Follows t.host s) ∧
    (∀ paths reload e, (t.attempt leavings paths reload).1 = .error e →
      let t' := (t.attempt leavings paths reload).2
      t'.host = t.host ∧
      ∀ c : ManagerConfig, c.getBootstrapSchemas t'.host = c.getBootstrapSchemas t.host ∧
        c.getDuplicatePolicy t'.host = c.getDuplicatePolicy t.host ∧
        c.getSchemaFiles t'.host = c.getSchemaFiles t.host) ∧
    (∀ (paths : Option (List Text)) reload, Loading t.host reload →
      match (paths.getD t.host.settingsPaths).mapM (readPath t.host empty) with
      | .ok us => ∃ s, (t.attempt leavings paths reload).1 = .ok s ∧ s.LastWins builtIn us
      | .error e => (t.attempt leavings paths reload).1 = .error e) ∧
    ∀ paths reload, (t.attempt leavings paths reload).1 = (t.host.load paths reload).1 ∧
      (t.attempt leavings paths reload).2.host = (t.host.load paths reload).2 := by
  intro t
  refine ⟨run_cached leavings events b, fun s hs => ⟨?_, ?_⟩, ?_, ?_, ?_, ?_⟩
  · exact attempt_of_cached leavings hs
  · exact Host.settings_of_cached hs
  · exact fun s hs c => c.follows hs
  · intro paths reload e he t'
    have hhost : t'.host = t.host := host_of_attempt_error leavings he
    rw [hhost]
    exact ⟨rfl, fun c => ⟨rfl, rfl, rfl⟩⟩
  · exact fun paths reload h => attempt_of_files leavings h paths
  · exact attempt_eq_load leavings t

end

section

def sampleFiles : Files := [
  ("a", Text.toUtf8 "[schema]\nbootstrap = system\n core\nON-duplicate = skip\n"),
  ("b", Text.toUtf8 "[schema]\non-duplicate: Fail\n"),
  ("c", Text.toUtf8 "[schema]\nbootstrap = cosine\n[schema]\n")]

def sampleBench : Workbench := ⟨⟨sampleFiles, "/", [], [], none⟩, empty⟩

def sampleEvents : List Event := [.load (some ["a", "b"]) false]

def sampleLeavings : Host → Settings → Text → Settings := fun _ s _ => s

/-- The second file sets the policy anew. The reload has the policy of the first file at hand when
the third fails by its last line. -/
theorem late_fault_publishes_nothing :
    let t := run sampleLeavings sampleEvents sampleBench
    let t' := (t.attempt sampleLeavings (some ["a", "c"]) true).2
    (t.attempt sampleLeavings (some ["a", "c"]) true).1 = .error .duplicateSection ∧
      t'.atHand.value? "schema" "on-duplicate" = some "skip" ∧
      (ManagerConfig.mk none none []).getDuplicatePolicy t'.host = .ok .fail ∧
      (ManagerConfig.mk none none []).getBootstrapSchemas t'.host = .ok ["system", "core"] := by
  have hrun := failed_load_publishes_nothing sampleLeavings sampleBench sampleEvents
  have hs : (run sampleLeavings sampleEvents sampleBench).host.cached =
      some ⟨[], [("schema", [("bootstrap", "system\ncore"), ("on-duplicate", "Fail")])]⟩ := by
    decide +kernel
  have herror : ((run sampleLeavings sampleEvents sampleBench).attempt sampleLeavings
      (some ["a", "c"]) true).1 = .error .duplicateSection := by decide +kernel
  have hatHand : ((run sampleLeavings sampleEvents sampleBench).attempt sampleLeavings
      (some ["a", "c"]) true).2.atHand.value? "schema" "on-duplicate" = some "skip" := by
    decide +kernel
  -- From here on the workbench is known by these facts alone, so that nothing evaluates the run.
  generalize run sampleLeavings sampleEvents sampleBench = t at *
  obtain ⟨-, hpublished, hfollows, hfails, -, -⟩ := hrun
  obtain ⟨-, hsame⟩ := hfails (some ["a", "c"]) true .duplicateSection herror
  obtain ⟨hsameSchemas, hsamePolicy, -⟩ := hsame ⟨none, none, []⟩
  have hfollows := hfollows _ (hpublished _ hs).2 ⟨none, none, []⟩
  refine ⟨herror, hatHand, hsamePolicy.trans ?_, hsameSchemas.trans ?_⟩
  · exact (hfollows.policy_set rfl "Fail" (by decide +kernel) (by decide)).trans
      (by decide +kernel)
  · exact (hfollows.schemas_set rfl "system\ncore" (by decide +kernel) (by decide)).trans
      (by decide +kernel)

end

end Workbench

end DirectorySchema
