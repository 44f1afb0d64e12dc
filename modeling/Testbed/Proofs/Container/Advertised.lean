import Testbed.Proofs.Container.Unusable
import Testbed.Proofs.Registry.Views
import Testbed.Proofs.Text.ByteOrder

/-!
# What is advertised is answered

Where all blocks of a configuration can be read, the provider of configured containers takes part in just the properties
that it advertises: asked for one, it has an answer or fails, and asked for another it leaves all as it is
(`resolve_of_advertised`). Of several blocks that name a property only the one with the smallest id counts, and of
several ports of that name only the first.
-/

namespace Testbed.Container

/-! ### Blocks in order -/

namespace Block

variable {config : Properties} {blocks : List Block} {b : Block} {id : String}

theorem id_of_read (h : read config id = .ok b) : b.id = id := by
  rw [read] at h
  obtain ⟨image, -, h⟩ := Outcome.bind_eq_ok.1 h
  obtain ⟨ports, -, h⟩ := Outcome.bind_eq_ok.1 h
  obtain ⟨hostnames, -, h⟩ := Outcome.bind_eq_ok.1 h
  obtain ⟨env, -, h⟩ := Outcome.bind_eq_ok.1 h
  obtain ⟨command, -, h⟩ := Outcome.bind_eq_ok.1 h
  obtain ⟨startupTimeout, -, h⟩ := Outcome.bind_eq_ok.1 h
  obtain ⟨names, -, h⟩ := Outcome.bind_eq_ok.1 h
  obtain ⟨wait, -, h⟩ := Outcome.bind_eq_ok.1 h
  cases h
  rfl

/-- The blocks stand in the byte order of their ids. -/
theorem pairwise_of_readAll (h : readAll config = .ok blocks) :
    blocks.Pairwise fun b b' => Text.utf8 b.id < Text.utf8 b'.id := by
  have hids : blocks.map Block.id = ids config := Outcome.map_eq_of_mapM h fun _ _ => id_of_read
  have hascending : (ids config).Pairwise (· < ·) := Dict.pairwise_keys _
  rw [← hids, List.pairwise_map] at hascending
  exact hascending.imp Text.utf8_lt_utf8_iff.2

end Block

namespace Configured

open Registry

variable {ρ σ : Type} {containers : Kind ρ σ Container} {property : String} {config required : Properties}
  {blocks : List Block} {b : Block} {c : Container} {r : Except Provider.Error (Option String)} {s t : Site ρ σ}
  {k : Key}

/-- Of the blocks that name a property, the one with the smallest id. -/
structure IsFirst (blocks : List Block) (property : String) (b : Block) : Prop where
  mem : b ∈ blocks
  named : property ∈ b.ports.map Prod.fst ∨ property ∈ b.hostnames
  least : ∀ b' ∈ blocks, property ∈ b'.ports.map Prod.fst ∨ property ∈ b'.hostnames →
    b' = b ∨ Text.utf8 b.id < Text.utf8 b'.id

theorem isFirst_of_find? (hblocks : Block.readAll config = .ok blocks)
    (hfind : blocks.find? (fun b => property ∈ b.names) = some b) : IsFirst blocks property b := by
  obtain ⟨hnamed, before, after, rfl, hbefore⟩ := List.find?_eq_some_iff_append.1 hfind
  refine ⟨by simp, List.mem_append.1 (of_decide_eq_true hnamed), fun b' hb' hnamed' => ?_⟩
  obtain ⟨-, hafter, -⟩ := List.pairwise_append.1 (Block.pairwise_of_readAll hblocks)
  rcases List.mem_append.1 hb' with hb' | hb'
  · have hnot : property ∉ b'.names := by simpa using hbefore b' hb'
    exact absurd (List.mem_append.2 hnamed') hnot
  rcases List.mem_cons.1 hb' with rfl | hb'
  · exact .inl rfl
  · exact .inr ((List.pairwise_cons.1 hafter).1 b' hb')

/-! ### Answers of a container -/

/-- What a container gives for a property of its block: its host, or else the host port of the first port of that
name. -/
inductive Gives (b : Block) (c : Container) (property : String) : Except Provider.Error (Option String) → Prop
  | host (hhost : property ∈ b.hostnames) : Gives b c property (.ok (some c.host))
  | mapped {before port after mapped} (hhost : property ∉ b.hostnames)
    (hports : b.ports = before ++ (property, port) :: after) (hfirst : property ∉ before.map Prod.fst)
    (hmapped : c.mappedPort? port = some mapped) : Gives b c property (.ok (some (Text.ofNat mapped.toNat)))
  | unmapped {before port after} (hhost : property ∉ b.hostnames)
    (hports : b.ports = before ++ (property, port) :: after) (hfirst : property ∉ before.map Prod.fst)
    (hmapped : c.mappedPort? port = none) :
    Gives b c property (.error (.unavailable ("container " ++ b.id ++ " does not publish port " ++
      Text.ofNat port.toNat)))

theorem Gives.ne_none (h : Gives b c property r) : r ≠ .ok none := by
  cases h <;> nofun

theorem Gives.eq_answer (h : Gives b c property r) : r = answer b c property := by
  have hlookup {before after port} (hports : b.ports = before ++ (property, port) :: after)
      (hfirst : property ∉ before.map Prod.fst) : b.ports.lookup property = some port := by
    refine List.lookup_eq_some_iff.2 ⟨before, after, hports, fun p hp => ?_⟩
    have hne : property ≠ p.1 := fun hsame => hfirst (hsame ▸ List.mem_map_of_mem hp)
    simpa using hne
  rw [answer]
  cases h with
  | host hhost => rw [if_pos hhost]
  | mapped hhost hports hfirst hmapped => simp only [if_neg hhost, hlookup hports hfirst, hmapped]
  | unmapped hhost hports hfirst hmapped => simp only [if_neg hhost, hlookup hports hfirst, hmapped]

/-- A block that names a property has an answer or a failure for it. -/
theorem gives_answer (hnamed : property ∈ b.ports.map Prod.fst ∨ property ∈ b.hostnames) (c : Container) :
    Gives b c property (answer b c property) := by
  rw [answer]
  split
  · rename_i hhost
    exact .host hhost
  rename_i hhost
  split
  · rename_i hnone
    obtain ⟨⟨name, port⟩, hport, rfl⟩ := List.mem_map.1 (hnamed.resolve_right hhost)
    have hne := List.lookup_eq_none_iff.1 hnone (name, port) hport
    simp at hne
  rename_i port hport
  obtain ⟨before, after, hports, hbefore⟩ := List.lookup_eq_some_iff.1 hport
  have hfirst : property ∉ before.map Prod.fst := by
    rintro hmem
    obtain ⟨p, hp, rfl⟩ := List.mem_map.1 hmem
    have hne := hbefore p hp
    simp at hne
  split
  · rename_i mapped hmapped
    exact .mapped hhost hports hfirst hmapped
  · rename_i hmapped
    exact .unmapped hhost hports hfirst hmapped

/-! ### Asking for a property of a block -/

variable [Held ρ σ]

/-- The key of the container of a block, for what is required with a call. -/
def keyOf (b : Block) (required : Properties) : Key :=
  .ofParams name b.id (.ofProperties required) (required.erase Scope.propertyName)

/-- All that asking for a property can come to where the block `b` is to answer it. -/
inductive Serves (containers : Kind ρ σ Container) (b : Block) (property : String) (required : Properties)
    (s : Site ρ σ) : Except Provider.Error (Option String) × Site ρ σ → Prop
  | imageless (himage : b.image = none) : Serves containers b property required s (.error (missingImage b), s)
  /-- The container is up. -/
  | found {image e c r} (himage : b.image = some image) (hf : s.registry.find? (keyOf b required) = some e)
    (hc : containers.unwrap? e.resource = some c) (hr : Gives b c property r) :
    Serves containers b property required s (r, { s with registry := s.registry.note property (keyOf b required) })
  /-- Another sort of resource is in the container's place. -/
  | mismatch {image e} (himage : b.image = some image) (hf : s.registry.find? (keyOf b required) = some e)
    (hc : containers.unwrap? e.resource = none) :
    Serves containers b property required s (.error (.resource (.typeMismatch (keyOf b required) containers.label)),
      { s with registry := s.registry.note property (keyOf b required) })
  | failed {image cause c w} (himage : b.image = some image) (hf : s.registry.find? (keyOf b required) = none)
    (hstart : containers.start { spec := b.spec image } s.world = (.error cause, c, w)) :
    Serves containers b property required s (.error (.resource (.start (keyOf b required) cause)),
      { s with world := (Held.close (containers.wrap c) w).2 })
  | started {image c w r} (himage : b.image = some image) (hf : s.registry.find? (keyOf b required) = none)
    (hstart : containers.start { spec := b.spec image } s.world = (.ok (), c, w)) (hr : Gives b c property r) :
    Serves containers b property required s
      (r, { s with registry := s.registry.add property (keyOf b required) (containers.wrap c), world := w })

namespace Serves

variable {result : Except Provider.Error (Option String) × Site ρ σ}

theorem ne_none (h : Serves containers b property required s result) : result.1 ≠ .ok none := by
  cases h with
  | imageless | mismatch | failed => nofun
  | found _ _ _ hr | started _ _ _ hr => exact hr.ne_none

/-- No other container is touched. -/
theorem find?_of_ne (h : Serves containers b property required s result) (hk : k ≠ keyOf b required) :
    result.2.registry.find? k = s.registry.find? k := by
  cases h with
  | imageless | failed => rfl
  | found | mismatch => exact find?_note
  | started => exact find?_add_of_ne hk

end Serves

theorem serves_provision {image : String} (himage : b.image = some image)
    (hnamed : property ∈ b.ports.map Prod.fst ∨ property ∈ b.hostnames) (required : Properties) (s : Site ρ σ) :
    Serves containers b property required s (provision containers b image property required s) := by
  have hgot := getOrCreate_got containers property (keyOf b required)
    (fun world => (.ok { spec := b.spec image }, world)) s.registry s.world
  have hmade := bringUp_made containers (keyOf b required)
    (fun world => (.ok { spec := b.spec image }, world)) s.world
  rw [provision, Site.getOrCreate, ← keyOf]
  generalize s.registry.getOrCreate containers property (keyOf b required)
    (fun world => (.ok { spec := b.spec image }, world)) s.world = result at hgot ⊢
  cases hgot with
  | found hf hc => exact .found himage hf hc (gives_answer hnamed _)
  | mismatch hf hc => exact .mismatch himage hf hc
  | failed hf hb =>
    rw [hb] at hmade
    cases hmade with
    | notMade hm => cases hm
    | notStarted hm hstart =>
      cases hm
      exact .failed himage hf hstart
  | created hf hb =>
    rw [hb] at hmade
    cases hmade with
    | started hm hstart =>
      cases hm
      exact .started himage hf hstart (gives_answer hnamed _)

theorem serves_resolve (containers : Kind ρ σ Container) (hblocks : Block.readAll config = .ok blocks)
    (hfind : blocks.find? (fun b => property ∈ b.names) = some b) (required : Properties) (s : Site ρ σ) :
    Serves containers b property required s (resolve containers property required config s) := by
  simp only [resolve, hblocks, hfind]
  cases himage : b.image with
  | none => exact .imageless himage
  | some image => exact serves_provision himage (isFirst_of_find? hblocks hfind).named required s

theorem resolve_of_advertised (containers : Kind ρ σ Container) (config : Properties) (blocks : List Block)
    (hblocks : Block.readAll config = .ok blocks) (entries : EntryGroups) (property : String) (required : Properties)
    (s : Site ρ σ) :
    (property ∈ (provider containers).advertised entries config ↔
      ((provider containers).resolve property required config s).1 ≠ .ok none) ∧
    (property ∈ (provider containers).advertised entries config → ∃ b, IsFirst blocks property b ∧
      Serves containers b property required s ((provider containers).resolve property required config s) ∧
      ∀ k ≠ keyOf b required,
        ((provider containers).resolve property required config s).2.registry.find? k = s.registry.find? k) ∧
    (property ∉ (provider containers).advertised entries config →
      (provider containers).resolve property required config s = (.ok none, s)) := by
  have hadvertised : property ∈ (provider containers).advertised entries config ↔
      ∃ b ∈ blocks, property ∈ b.names := by
    refine mem_advertised.trans ?_
    simp [hblocks]
  have hresolve : (provider containers).resolve property required config s =
      resolve containers property required config s := rfl
  rw [hadvertised, hresolve]
  cases hfind : blocks.find? fun b => property ∈ b.names with
  | none =>
    have hnone : ¬∃ b ∈ blocks, property ∈ b.names := by simpa using hfind
    have hdeclined : resolve containers property required config s = (.ok none, s) := by
      simp only [resolve, hblocks, hfind]
    rw [hdeclined]
    exact ⟨iff_of_false hnone fun hne => hne rfl, fun h => absurd h hnone, fun _ => rfl⟩
  | some b =>
    have hnamed : ∃ b ∈ blocks, property ∈ b.names :=
      ⟨b, List.mem_of_find?_eq_some hfind, by simpa using List.find?_some hfind⟩
    have hserves := serves_resolve containers hblocks hfind required s
    exact ⟨iff_of_true hnamed hserves.ne_none,
      fun _ => ⟨b, isFirst_of_find? hblocks hfind, hserves, fun k hk => hserves.find?_of_ne hk⟩,
      fun h => absurd hnamed h⟩

open Rehearsal

/-- A nested block and a flat one that both name a property, the flat one two ports. -/
def databases : Properties :=
  let port (n : Int32) : Value := .map [(.string "db", .int n)]
  ((Dict.empty.insert "containers"
      (.map [(.string "a", .map [(.string "image-name", .string "db:2"), (.string "hostnames", .string "db")])])).insert
    "containers.B.image-name" (.string "db:1")).insert "containers.B.exposed-ports" (.list [port 10, port 20])

def upperDatabase : Block where
  id := "B"
  image := some "db:1"
  ports := [("db", 10), ("db", 20)]

def lowerDatabase : Block where
  id := "a"
  image := some "db:2"
  hostnames := ["db"]

theorem resolve_databases :
    (∃ b, IsFirst [upperDatabase, lowerDatabase] "db" b ∧
      Serves Player.containers b "db" ∅ idle ((provider Player.containers).resolve "db" ∅ databases idle) ∧
      ∀ k ≠ keyOf b ∅,
        ((provider Player.containers).resolve "db" ∅ databases idle).2.registry.find? k = idle.registry.find? k) ∧
    ((provider Player.containers).resolve "db" ∅ databases idle).1.toOption = some (some "20001") ∧
    ((provider Player.containers).resolve "db" ∅ databases idle).2.world.runtime.created = 1 ∧
    (provider Player.containers).resolve "a" ∅ databases idle = (.ok none, idle) := by
  have hblocks : Block.readAll databases = .ok [upperDatabase, lowerDatabase] :=
    Outcome.toOption_eq_some.1 (by decide +kernel)
  obtain ⟨-, hserved, -⟩ := resolve_of_advertised Player.containers databases _ hblocks ∅ "db" ∅ idle
  obtain ⟨-, -, hleft⟩ := resolve_of_advertised Player.containers databases _ hblocks ∅ "a" ∅ idle
  exact ⟨hserved (by decide +kernel), by decide +kernel, by decide +kernel, hleft (by decide +kernel)⟩

end Configured

end Testbed.Container
