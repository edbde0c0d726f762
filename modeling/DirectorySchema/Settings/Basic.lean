import DirectorySchema.Settings.Fault
import DirectorySchema.Text.Case

/-!
# Settings

Settings are sections of options, in the order in which they first appeared,
with options of a default section that every section falls back on. Names of
options are taken without regard to case. A value may refer to other options of
its section; such references are resolved when the value is asked for.
-/

set_option autoImplicit false

namespace DirectorySchema

abbrev Options := List (Text × Text)

def Options.assign (name value : Text) : Options → Options
  | [] => [(name, value)]
  | (n, v) :: rest =>
    if n = name then (n, value) :: rest else (n, v) :: assign name value rest

def Options.extend (name addition : Text) (o : Options) : Options :=
  o.map fun p => if p.1 = name then (p.1, p.2 ++ addition) else p

structure Settings where
  defaults : Options
  sections : List (Text × Options)
  deriving DecidableEq, Repr

namespace Settings

def defaultSection : Text := "DEFAULT"

def sectionNames (s : Settings) : List Text := s.sections.map Prod.fst

def own? (s : Settings) (name : Text) : Option Options :=
  if name = defaultSection then some s.defaults else s.sections.lookup name

def update (s : Settings) (name : Text) (f : Options → Options) : Settings :=
  if name = defaultSection then { s with defaults := f s.defaults }
  else { s with sections := s.sections.map fun p => if p.1 = name then (p.1, f p.2) else p }

def addSection (s : Settings) (name : Text) : Settings :=
  { s with sections := s.sections ++ [(name, [])] }

def optionNames (s : Settings) (name : Text) : List Text :=
  let own := (s.sections.lookup name).getD []
  own.map Prod.fst ++ (s.defaults.map Prod.fst).filter fun n => (own.lookup n).isNone

def raw (s : Settings) (name option : Text) : Except Fault Text :=
  match s.own? name with
  | none => .error .noSection
  | some own =>
    match (own.lookup (Text.lower option)).orElse fun _ => s.defaults.lookup (Text.lower option) with
    | none => .error .noOption
    | some v => .ok v

def hasOption (s : Settings) (name option : Text) : Bool :=
  match s.raw name option with
  | .ok _ => true
  | .error _ => false

/-- How deep references inside referred values may go. -/
def referenceDepth : Nat := 9

/-- Resolves the references of a value. A percent sign starts one, or stands for
itself when doubled. -/
def resolve (value? : Text → Option Text) (depth : Nat) (s : Text) : Except Fault Text :=
  match s with
  | [] => .ok []
  | '%' :: '%' :: r => (resolve value? depth r).map ('%' :: ·)
  | '%' :: '(' :: r =>
    match hr : r.dropWhile (· != ')') with
    | ')' :: 's' :: rest =>
      have : rest.length < r.length := by
        have := (List.dropWhile_sublist (fun c => c != ')') (l := r)).length_le
        rw [hr] at this
        simp at this
        omega
      if r.head? = some ')' then .error .interpolationForm
      else match value? (Text.lower (r.takeWhile (· != ')'))) with
        | none => .error .interpolationName
        | some v =>
          let first : Except Fault Text :=
            if v.contains '%' then
              match depth with
              | 0 => .error .interpolationDepth
              | d + 1 => resolve value? d v
            else .ok v
          match first with
          | .error e => .error e
          | .ok t => (resolve value? depth rest).map (t ++ ·)
    | _ => .error .interpolationForm
  | '%' :: _ => .error .interpolationForm
  | c :: r => (resolve value? depth r).map (c :: ·)
  termination_by (depth, s.length)

def get (s : Settings) (name option : Text) : Except Fault Text := do
  let v ← s.raw name option
  let own := (s.own? name).getD []
  resolve (fun n => (own.lookup n).orElse fun _ => s.defaults.lookup n) referenceDepth v

end Settings

end DirectorySchema
