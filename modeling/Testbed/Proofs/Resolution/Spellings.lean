import Testbed.Proofs.Resolution.Sanitized
import Mathlib.Data.String.Basic

/-!
# Two spellings of one key

A key may stand in a configuration with the prefix and without it, and stripping makes one key of both. The entries
are taken in key order, so the later spelling stays (`Assoc.get?_ofList_rename`): the one with the prefix for
names that sort before the prefix, and the bare one for all others (`get?_sanitize`).
-/

namespace Testbed

namespace Assoc

variable {κ α : Type} [Ord κ] [Std.TransOrd κ] [Std.LawfulEqOrd κ] [DecidableEq κ] {m : List (κ × α)}
  {k first last : κ}

/-- Where two keys become one, the value of the later one stays. -/
theorem get?_ofList_rename (hm : Ascending m) {rename : κ → κ} (hlt : compare first last = .lt)
    (h : ∀ l, rename l = k ↔ l = first ∨ l = last) :
    get? k (ofList (m.map fun p => (rename p.1, p.2))) = (get? last m).or (get? first m) := by
  induction m with
  | nil => rfl
  | cons p m ih =>
    obtain ⟨hp, hm⟩ := List.pairwise_cons.1 hm
    have hne : last ≠ first := by
      rintro rfl
      simp at hlt
    simp only [List.map_cons, get?_ofList_cons, ih hm, get?_cons, Std.compare_eq_iff_eq]
    by_cases hfirst : p.1 = first
    · -- The later key, if it is there at all, is behind.
      have hk : k = rename p.1 := ((h p.1).2 (.inl hfirst)).symm
      have hgone : get? first m = none := hfirst ▸ get?_eq_none hp
      rw [if_pos hk, if_pos hfirst.symm, if_neg (hfirst ▸ hne), hgone, Option.or_none]
    by_cases hlast : p.1 = last
    · have hk : k = rename p.1 := ((h p.1).2 (.inr hlast)).symm
      have hgone : get? last m = none := hlast ▸ get?_eq_none hp
      have hbelow : get? first m = none := get?_eq_none fun q hq => Std.TransCmp.lt_trans hlt (hlast ▸ hp q hq)
      rw [if_pos hk, if_pos hlast.symm, hgone, hbelow]
      rfl
    · have hk : k ≠ rename p.1 := fun he => ((h p.1).1 he.symm).elim hfirst hlast
      rw [if_neg hk, if_neg (Ne.symm hfirst), if_neg (Ne.symm hlast), Option.or_none]

end Assoc

/-- What does not begin with `p` is before or after all that does as it is before or after `p`. -/
theorem Text.lt_append_iff {p cs : List Char} (h : ¬p <+: cs) (rest : List Char) : cs < p ++ rest ↔ cs < p := by
  induction p generalizing cs with
  | nil => exact absurd List.nil_prefix h
  | cons a p ih =>
    cases cs with
    | nil => simp
    | cons c cs =>
      rw [List.cons_append, List.cons_lt_cons_iff, List.cons_lt_cons_iff]
      refine or_congr_right (and_congr_right fun hc => ih fun hp => h ?_)
      rw [hc]
      exact (List.prefix_cons_inj a).2 hp

namespace Resolution

variable {config : Properties} {key : String}

theorem strip_eq_iff (hkey : ∀ rest, key ≠ configPrefix ++ rest) (k : String) :
    (Text.dropPrefix? configPrefix k).getD k = key ↔ k = key ∨ k = configPrefix ++ key := by
  cases hstrip : Text.dropPrefix? configPrefix k with
  | none => simp [Text.dropPrefix?_eq_none.1 hstrip key]
  | some name =>
    obtain rfl := Text.dropPrefix?_eq_some.1 hstrip
    have hbare : configPrefix ++ name ≠ key := (hkey name).symm
    simp [hbare, ← String.toList_inj]

theorem lt_prefixed_iff (hkey : ∀ rest, key ≠ configPrefix ++ rest) :
    key < configPrefix ++ key ↔ key < configPrefix := by
  have hprefix : ¬configPrefix.toList <+: key.toList := by
    rintro ⟨rest, hrest⟩
    refine hkey (String.ofList rest) (String.toList_inj.1 ?_)
    rw [String.toList_append, String.toList_ofList, hrest]
  rw [String.lt_iff, String.lt_iff, String.toList_append]
  exact Text.lt_append_iff hprefix key.toList

/-- A key without the prefix has after stripping the value of its later spelling, and that of the other if there
is no later one. So the bare spelling wins over the one with the prefix exactly if the key does not sort before the
prefix, or there is nothing to win over. -/
theorem get?_sanitize (config : Properties) (key : String) (hkey : ∀ rest, key ≠ configPrefix ++ rest) :
    let current := config.get? key
    let legacy := config.get? (configPrefix ++ key)
    ((sanitize config).get? key = if key < configPrefix then legacy.or current else current.or legacy) ∧
    ((sanitize config).get? key = current.or legacy ↔
      (key < configPrefix → current = none ∨ legacy = none ∨ current = legacy)) := by
  intro current legacy
  have hget : (sanitize config).get? key = if key < configPrefix then legacy.or current else current.or legacy := by
    have hstrip := strip_eq_iff hkey
    split
    · rename_i hlt
      have hlater := compare_lt_iff_lt.2 ((lt_prefixed_iff hkey).2 hlt)
      exact Assoc.get?_ofList_rename config.ascending hlater hstrip
    · rename_i hlt
      have hle := le_of_not_gt (mt (lt_prefixed_iff hkey).1 hlt)
      have hlater := compare_lt_iff_lt.2 (lt_of_le_of_ne hle (hkey key).symm)
      exact Assoc.get?_ofList_rename config.ascending hlater fun k => (hstrip k).trans or_comm
  refine ⟨hget, ?_⟩
  rw [hget]
  split
  · rename_i hlt
    rcases current with _ | x <;> rcases legacy with _ | y <;> simp [hlt, eq_comm]
  · rename_i hlt
    simp [hlt]

theorem get?_sanitize_of_vault :
    let config : Properties :=
      (Dict.empty.insert "vault.enabled" (.bool true)).insert "test-resources.vault.enabled" (.string "no")
    (∀ rest, "vault.enabled" ≠ configPrefix ++ rest) ∧ (sanitize config).get? "vault.enabled" = some (.bool true) := by
  intro config
  have hbare := Text.dropPrefix?_eq_none.1 (by decide : Text.dropPrefix? configPrefix "vault.enabled" = none)
  have hget := (get?_sanitize config "vault.enabled" hbare).2.2 fun hlt => absurd hlt (by decide)
  exact ⟨hbare, hget.trans (by decide)⟩

/-- `switched` is on by the bare key, and turned off by the one with the prefix. -/
theorem legacy_spelling_wins :
    let bare : Properties := Dict.empty.insert "switched.enabled" (.bool true)
    let config := bare.insert "test-resources.switched.enabled" (.string "no")
    let e : Engine Unit := ⟨[Engine.switched, Engine.addresses]⟩
    (∀ rest, "switched.enabled" ≠ configPrefix ++ rest) ∧ config.get? "switched.enabled" = some (.bool true) ∧
      (sanitize config).get? "switched.enabled" = some (.string "no") ∧
      e.resolvableProperties ∅ bare = ["databases.other.url"] ∧ e.resolvableProperties ∅ config = [] := by
  refine ⟨Text.dropPrefix?_eq_none.1 (by decide), ?_⟩
  decide

end Resolution

end Testbed
