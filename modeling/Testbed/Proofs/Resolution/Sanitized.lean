import Testbed.Proofs.Resolution.Calls
import Testbed.Proofs.Value.Order
import Mathlib.Algebra.Order.Group.Nat
import Mathlib.Algebra.Order.BigOperators.Group.List

/-!
# Stripping a configuration twice

A client strips a configuration before it sends it, and the server strips it again. The second time changes
nothing exactly if no key carried the prefix twice (`sanitize_twice_iff`): what has lost it once may have
another below.
-/

namespace Testbed

variable {config : Properties} {key rest : String}

namespace Resolution

theorem mem_sanitize {p : String × Value} (h : p ∈ (sanitize config).entries) :
    ∃ q ∈ config.entries, p = ((Text.dropPrefix? configPrefix q.1).getD q.1, q.2) := by
  obtain ⟨q, hq, rfl⟩ := List.mem_map.1 (Assoc.mem_ofList h)
  exact ⟨q, hq, rfl⟩

/-- No key is lost: each is there without the prefix. -/
theorem mem_keys_sanitize : key ∈ (sanitize config).keys ↔
    ∃ k ∈ config.keys, (Text.dropPrefix? configPrefix k).getD k = key := by
  constructor
  · intro h
    obtain ⟨p, hp, rfl⟩ := List.mem_map.1 h
    obtain ⟨q, hq, rfl⟩ := mem_sanitize hp
    exact ⟨q.1, List.mem_map.2 ⟨q, hq, rfl⟩, rfl⟩
  · rintro ⟨k, hk, rfl⟩
    obtain ⟨q, hq, rfl⟩ := List.mem_map.1 hk
    exact Assoc.mem_keys_ofList.2 (List.mem_map.2 ⟨_, List.mem_map_of_mem hq, rfl⟩)

/-- What carries the prefix afterwards carried it twice. -/
theorem prefixed_mem_keys_sanitize :
    configPrefix ++ rest ∈ (sanitize config).keys ↔ configPrefix ++ (configPrefix ++ rest) ∈ config.keys := by
  rw [mem_keys_sanitize]
  constructor
  · rintro ⟨k, hk, hkey⟩
    cases hstrip : Text.dropPrefix? configPrefix k with
    | none =>
      rw [hstrip, Option.getD_none] at hkey
      exact absurd hkey (Text.dropPrefix?_eq_none.1 hstrip rest)
    | some name =>
      rw [hstrip, Option.getD_some] at hkey
      rwa [← hkey, ← Text.dropPrefix?_eq_some.1 hstrip]
  · intro h
    exact ⟨_, h, by rw [Text.dropPrefix?_eq_some.2 rfl]; rfl⟩

theorem sanitize_eq_self (h : ∀ p ∈ config.entries, Text.dropPrefix? configPrefix p.1 = none) :
    sanitize config = config := by
  have hself : config.entries.map (fun p => ((Text.dropPrefix? configPrefix p.1).getD p.1, p.2)) = config.entries := by
    refine (List.map_congr_left fun p hp => ?_).trans (List.map_id _)
    rw [h p hp]
    rfl
  exact Dict.ext_entries ((congrArg Assoc.ofList hself).trans (Assoc.ofList_eq_self config.ascending))

/-- In a configuration that stripping leaves alone, a key with the prefix would be what is left of a longer
one, and so on without end. -/
theorem ne_prefixed_of_sanitize_eq_self (h : sanitize config = config) (hkey : key ∈ config.keys) :
    key ≠ configPrefix ++ rest := by
  rintro rfl
  have hprefix : configPrefix.length = 15 := rfl
  have hlonger (n : Nat) : ∃ rest, configPrefix ++ rest ∈ config.keys ∧ n ≤ rest.length := by
    induction n with
    | zero => exact ⟨rest, hkey, Nat.zero_le _⟩
    | succ n ih =>
      obtain ⟨rest, hmem, hlen⟩ := ih
      rw [← h] at hmem
      refine ⟨configPrefix ++ rest, prefixed_mem_keys_sanitize.1 hmem, ?_⟩
      rw [String.length_append]
      omega
  obtain ⟨rest, hmem, hlen⟩ := hlonger (config.keys.map String.length).sum
  have hle := List.le_sum_of_mem (List.mem_map_of_mem (f := String.length) hmem)
  rw [String.length_append] at hle
  omega

theorem sanitize_sanitize_iff : sanitize (sanitize config) = sanitize config ↔
    ∀ p ∈ config.entries, ∀ rest, p.1 ≠ configPrefix ++ (configPrefix ++ rest) := by
  constructor
  · rintro h p hp rest he
    have hkey : configPrefix ++ (configPrefix ++ rest) ∈ config.keys := List.mem_map.2 ⟨p, hp, he⟩
    exact ne_prefixed_of_sanitize_eq_self h (prefixed_mem_keys_sanitize.2 hkey) rfl
  · refine fun h => sanitize_eq_self fun p hp => Text.dropPrefix?_eq_none.2 fun rest he => ?_
    have hkey : configPrefix ++ rest ∈ (sanitize config).keys := List.mem_map.2 ⟨p, hp, he⟩
    obtain ⟨q, hq, htwice⟩ := List.mem_map.1 (prefixed_mem_keys_sanitize.1 hkey)
    exact h q hq rest htwice

end Resolution

namespace Engine

open Resolution

variable {σ : Type} {e : Engine σ}

/-- A configuration may be stripped before it is handed over. -/
theorem resolve_sanitize (h : ∀ p ∈ config.entries, ∀ rest, p.1 ≠ configPrefix ++ (configPrefix ++ rest))
    (name : String) (properties : Properties) :
    e.resolve name properties (sanitize config) = e.resolve name properties config := by
  simp only [resolve, context, environment, sanitize_sanitize_iff.2 h]

theorem resolvableProperties_sanitize
    (h : ∀ p ∈ config.entries, ∀ rest, p.1 ≠ configPrefix ++ (configPrefix ++ rest)) (entries : EntryGroups) :
    e.resolvableProperties entries (sanitize config) = e.resolvableProperties entries config := by
  simp only [resolvableProperties, sanitize_sanitize_iff.2 h]

/-- To strip a configuration twice is to strip it once exactly if no key carries the prefix twice. Every engine
then answers and lists by the stripped configuration what it does by the configuration itself. -/
theorem sanitize_twice_iff (config : Properties) :
    (sanitize (sanitize config) = sanitize config ↔
      ∀ p ∈ config.entries, ∀ rest, p.1 ≠ configPrefix ++ (configPrefix ++ rest)) ∧
    ((∀ p ∈ config.entries, ∀ rest, p.1 ≠ configPrefix ++ (configPrefix ++ rest)) → ∀ (σ : Type) (e : Engine σ),
      (∀ name properties, e.resolve name properties (sanitize config) = e.resolve name properties config) ∧
      ∀ entries, e.resolvableProperties entries (sanitize config) = e.resolvableProperties entries config) := by
  refine ⟨sanitize_sanitize_iff, fun h σ e => ⟨fun name properties => ?_, fun entries => ?_⟩⟩
  · exact resolve_sanitize h name properties
  · exact resolvableProperties_sanitize h entries

theorem sanitize_switchedOff :
    let e : Engine Unit := ⟨[switched, addresses]⟩
    (∀ p ∈ switchedOff.entries, ∀ rest, p.1 ≠ configPrefix ++ (configPrefix ++ rest)) ∧
      sanitize switchedOff = Dict.empty.insert "switched.enabled" (.string "no") ∧
      e.resolve "databases.other.url" mainDatabase (sanitize switchedOff) =
        e.resolve "databases.other.url" mainDatabase switchedOff ∧
      (e.resolve "databases.other.url" mainDatabase (sanitize switchedOff)).run () = (.ok none, ()) := by
  intro e
  have honce := (sanitize_twice_iff switchedOff).1.1 (by decide)
  obtain ⟨hresolve, -⟩ := (sanitize_twice_iff switchedOff).2 honce Unit e
  exact ⟨honce, by decide, hresolve "databases.other.url" mainDatabase, rfl⟩

/-- A client that strips this configuration has `switched` turned off by a server that strips it again. -/
theorem sanitize_of_twice_prefixed :
    let config : Properties := Dict.empty.insert "test-resources.test-resources.switched.enabled" (.string "no")
    let e : Engine Unit := ⟨[switched, addresses]⟩
    sanitize config = Dict.empty.insert "test-resources.switched.enabled" (.string "no") ∧
      sanitize (sanitize config) = Dict.empty.insert "switched.enabled" (.string "no") ∧
      sanitize (sanitize config) ≠ sanitize config ∧
      e.resolvableProperties ∅ config = ["databases.other.url"] ∧
      e.resolvableProperties ∅ (sanitize config) = [] := by
  decide

end Engine

end Testbed
