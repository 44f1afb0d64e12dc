import Testbed.Provider

/-!
# Resolution

The engine tries its enabled providers by priority, equal ones in the order they were given. One that
can resolve the property first gets its required properties settled, each from the environment or
else by resolving it in turn, and is then asked; the first answer wins. A name that requires itself
through others is refused with the chain that shows it, and so is a chain of more than
`maxDepth` names.
-/

namespace Testbed

namespace Resolution

/-- The longest chain of required properties. -/
def maxDepth : Nat := 32

inductive Error where
  /-- Each name of the chain requires the next; the last one stands in it before. -/
  | cycle (chain : List String)
  | tooDeep (property : String)
  | provider (provider property : String) (cause : Provider.Error)

def Error.message : Error → String
  | .cycle chain => "cyclic required properties: " ++ " -> ".intercalate chain
  | .tooDeep property =>
    "required properties nested deeper than " ++ Text.ofNat maxDepth ++ " resolving " ++ property
  | .provider name property cause =>
    "provider " ++ name ++ " failed to resolve " ++ property ++ ": " ++ cause.message

/-- Keys of a configuration may carry this; it is stripped. -/
def configPrefix : String := "test-resources."

/-- The configuration with `configPrefix` stripped once from every key that carries it. Entries are
taken in key order and a later one replaces an earlier one of the same stripped key. -/
def sanitize (config : Properties) : Properties :=
  Dict.ofList (config.entries.map fun (key, value) =>
    ((Text.dropPrefix? configPrefix key).getD key, value))

/-- The first occurrence of each name. -/
def distinct (names : List String) : List String :=
  names.foldl (fun out name => if name ∈ out then out else out ++ [name]) []

@[simp] theorem mem_distinct {name : String} {names : List String} : name ∈ distinct names ↔ name ∈ names := by
  suffices ∀ out, name ∈ names.foldl (fun out name => if name ∈ out then out else out ++ [name]) out ↔
      name ∈ out ∨ name ∈ names by simpa [distinct] using this []
  induction names with
  | nil => simp
  | cons first names ih =>
    intro out
    rw [List.foldl_cons, ih]
    split
    · rename_i h
      constructor
      · exact Or.imp_right (List.mem_cons_of_mem _)
      · rintro (hm | hm)
        · exact .inl hm
        · rcases List.mem_cons.1 hm with rfl | hm
          · exact .inl h
          · exact .inr hm
    · simp [or_assoc]

/-- A computation on the state that may fail; the state it reaches is kept when it does. -/
abbrev Run (σ α : Type) := ExceptT Error (StateM σ) α

/-- What stays fixed while one request is resolved. -/
structure Context (σ : Type) where
  /-- The enabled providers, in the order they are tried. -/
  providers : List (Provider σ)
  env : Environment
  config : Properties
  entries : EntryGroups

variable {σ : Type}

/-- Settles required properties: from the environment, else by `ask`; an unanswered one is left
out. -/
def settle (env : Environment) (ask : String → Run σ (Option String)) :
    List String → Properties → Run σ Properties
  | [], required => pure required
  | name :: names, required => do
    match env.property name with
    | some value => settle env ask names (required.insert name value)
    | none =>
      match ← ask name with
      | some answer => settle env ask names (required.insert name (.string answer))
      | none => settle env ask names required

/-- Asks one provider. -/
def consult (p : Provider σ) (name : String) (required config : Properties) :
    Run σ (Option String) :=
  ExceptT.mk fun s =>
    match p.resolve name required config s with
    | (.ok answer, s) => (.ok answer, s)
    | (.error cause, s) => (.error (.provider p.name name cause), s)

/-- The first answer of `providers` to `name`. -/
def firstAnswer (ctx : Context σ) (ask : String → Run σ (Option String)) (name : String) :
    List (Provider σ) → Run σ (Option String)
  | [] => pure none
  | p :: ps => do
    if p.canResolve name ctx.entries ctx.config then
      let required ← settle ctx.env ask (p.requiredProperties name) ∅
      match ← consult p name required ctx.config with
      | some answer => pure (some answer)
      | none => firstAnswer ctx ask name ps
    else firstAnswer ctx ask name ps

/-- Resolves `name`, which `chain` led to, with `depth` more names allowed. -/
def resolveWithin (ctx : Context σ) : (depth : Nat) → (chain : List String) → String →
    Run σ (Option String)
  | depth, chain, name =>
    if name ∈ chain then throw (.cycle (chain ++ [name]))
    else match depth with
      | 0 => throw (.tooDeep name)
      | depth + 1 =>
        firstAnswer ctx (resolveWithin ctx depth (chain ++ [name])) name ctx.providers

end Resolution

/-- Providers in the order they are tried. -/
structure Engine (σ : Type) where
  providers : List (Provider σ)

namespace Engine

open Resolution

variable {σ : Type}

/-- Lower priorities first, equal ones as given. -/
def ofProviders (providers : List (Provider σ)) : Engine σ :=
  ⟨providers.mergeSort fun p q => p.priority ≤ q.priority⟩

def enabled (e : Engine σ) (config : Properties) : List (Provider σ) :=
  e.providers.filter fun p => p.isEnabled config

/-- The names that enabled providers can answer, in discovery order. -/
def resolvableProperties (e : Engine σ) (entries : EntryGroups) (config : Properties) :
    List String :=
  let config := sanitize config
  distinct ((e.enabled config).flatMap fun p => p.advertised entries config)

/-- The entry groups that some provider wants enumerated. -/
def requiredGroups (e : Engine σ) : List String :=
  distinct (e.providers.flatMap fun p => p.requiredGroups)

/-- The properties that some provider wants known before it resolves `name`. -/
def requiredProperties (e : Engine σ) (name : String) : List String :=
  distinct (e.providers.flatMap fun p => p.requiredProperties name)

/-- The environment of a request: `properties` over the sanitized configuration. -/
def environment (properties config : Properties) : Environment :=
  .ofProperties ((sanitize config).layer properties)

/-- What stays fixed while a request is resolved. -/
def context (e : Engine σ) (properties config : Properties) : Context σ :=
  let env := environment properties config
  ⟨e.enabled (sanitize config), env, sanitize config, env.entries e.requiredGroups⟩

/-- The first answer to `name`, with `properties` as the values already known. -/
def resolve (e : Engine σ) (name : String) (properties config : Properties) :
    Run σ (Option String) :=
  resolveWithin (e.context properties config) maxDepth [] name

end Engine

end Testbed
