import Testbed.Resolution

/-!
# The order of providers and what is known of a request

An engine tries its enabled providers by ascending priority, equal ones in the order given (`ByPriority`).
There is one such order (`ByPriority.unique`), so the order of those enabled is theirs alone
(`enabled_ofProviders_congr`). A name is known by the properties of the request, or else by its
configuration.
-/

namespace Testbed

variable {σ : Type}

/-- `tried` is `given` by ascending priority, with equal ones in the order given. -/
structure ByPriority (given tried : List (Provider σ)) : Prop where
  perm : tried.Perm given
  ascending : tried.Pairwise fun p q => p.priority ≤ q.priority
  stable : ∀ k, tried.filter (fun p => p.priority = k) = given.filter fun p => p.priority = k

theorem ByPriority.filter {given tried : List (Provider σ)} (h : ByPriority given tried)
    (test : Provider σ → Bool) : ByPriority (given.filter test) (tried.filter test) where
  perm := h.perm.filter test
  ascending := h.ascending.filter test
  stable k := by
    have hcomm (l : List (Provider σ)) : (l.filter test).filter (fun p => p.priority = k) =
        (l.filter fun p => p.priority = k).filter test := by
      rw [List.filter_filter, List.filter_filter]
      simp only [Bool.and_comm]
    rw [hcomm, hcomm, h.stable]

section
variable {p q : Provider σ} {l l' : List (Provider σ)}

theorem priority_head_le (h : (q :: l).Pairwise fun p q => p.priority ≤ q.priority) (hp : p ∈ q :: l) :
    q.priority ≤ p.priority := by
  rcases List.mem_cons.1 hp with rfl | hp
  · exact Int.le_refl _
  · exact (List.pairwise_cons.1 h).1 p hp

theorem mem_iff_of_filter_priority
    (hk : ∀ k, l.filter (fun p => p.priority = k) = l'.filter fun p => p.priority = k) : p ∈ l ↔ p ∈ l' := by
  have hp : p ∈ l.filter (fun q => q.priority = p.priority) ↔
      p ∈ l'.filter fun q => q.priority = p.priority := by rw [hk]
  simpa [List.mem_filter] using hp

theorem eq_of_ascending (h : l.Pairwise fun p q => p.priority ≤ q.priority)
    (h' : l'.Pairwise fun p q => p.priority ≤ q.priority)
    (hk : ∀ k, l.filter (fun p => p.priority = k) = l'.filter fun p => p.priority = k) : l = l' := by
  induction l generalizing l' with
  | nil =>
    refine (List.eq_nil_iff_forall_not_mem.2 fun p hp => ?_).symm
    exact List.not_mem_nil ((mem_iff_of_filter_priority hk).2 hp)
  | cons p l ih =>
    cases l' with
    | nil => exact absurd ((mem_iff_of_filter_priority hk).1 (List.mem_cons_self ..)) List.not_mem_nil
    | cons q l' =>
      -- both heads are of the least priority, so each is the first of that priority
      have hle := priority_head_le h ((mem_iff_of_filter_priority hk).2 (List.mem_cons_self ..))
      have hge := priority_head_le h' ((mem_iff_of_filter_priority hk).1 (List.mem_cons_self ..))
      have hpq : p.priority = q.priority := Int.le_antisymm hle hge
      have hhead := hk q.priority
      rw [List.filter_cons_of_pos (by simpa using hpq), List.filter_cons_of_pos (by simp)] at hhead
      obtain ⟨rfl, -⟩ := List.cons.inj hhead
      rw [ih (List.pairwise_cons.1 h).2 (List.pairwise_cons.1 h').2 fun k => ?_]
      have hk := hk k
      by_cases hpk : p.priority = k
      · rw [List.filter_cons_of_pos (by simpa using hpk), List.filter_cons_of_pos (by simpa using hpk)] at hk
        exact (List.cons.inj hk).2
      · rwa [List.filter_cons_of_neg (by simpa using hpk), List.filter_cons_of_neg (by simpa using hpk)] at hk

end

theorem ByPriority.unique {given tried tried' : List (Provider σ)} (h : ByPriority given tried)
    (h' : ByPriority given tried') : tried = tried' :=
  eq_of_ascending h.ascending h'.ascending fun k => (h.stable k).trans (h'.stable k).symm

namespace Engine

theorem byPriority_ofProviders (providers : List (Provider σ)) :
    ByPriority providers (ofProviders providers).providers := by
  have htrans (p q r : Provider σ) : decide (p.priority ≤ q.priority) = true →
      decide (q.priority ≤ r.priority) = true → decide (p.priority ≤ r.priority) = true := by
    simp only [decide_eq_true_eq]
    exact Int.le_trans
  have htotal (p q : Provider σ) :
      (decide (p.priority ≤ q.priority) || decide (q.priority ≤ p.priority)) = true := by
    simp only [Bool.or_eq_true, decide_eq_true_eq]
    exact Int.le_total _ _
  have hperm : (ofProviders providers).providers.Perm providers := List.mergeSort_perm ..
  refine ⟨hperm, ?_, fun k => ?_⟩
  · have hsorted := List.pairwise_mergeSort htrans htotal providers
    exact hsorted.imp of_decide_eq_true
  · -- those of priority `k` are sorted as given, and a sort keeps sorted parts
    have hequal : (providers.filter fun p => p.priority = k).Pairwise fun p q =>
        decide (p.priority ≤ q.priority) = true := by
      refine List.pairwise_of_forall_mem_list fun p hp q hq => ?_
      have hpk : p.priority = k := by simpa using (List.mem_filter.1 hp).2
      have hqk : q.priority = k := by simpa using (List.mem_filter.1 hq).2
      rw [hpk, hqk]
      exact decide_eq_true (Int.le_refl k)
    have hsub := (List.sublist_mergeSort htrans htotal hequal List.filter_sublist).filter
      fun p => decide (p.priority = k)
    rw [List.filter_filter] at hsub
    simp only [Bool.and_self] at hsub
    exact (hsub.eq_of_length (hperm.filter _).length_eq.symm).symm

theorem ofProviders_singleton (p : Provider σ) : ofProviders [p] = ⟨[p]⟩ := by
  rw [ofProviders, List.mergeSort_singleton]

theorem byPriority_enabled (providers : List (Provider σ)) (config : Properties) :
    ByPriority (providers.filter fun p => p.isEnabled config) ((ofProviders providers).enabled config) :=
  (byPriority_ofProviders providers).filter _

theorem enabled_ofProviders_congr {providers providers' : List (Provider σ)} {config : Properties}
    (h : providers.filter (fun p => p.isEnabled config) = providers'.filter fun p => p.isEnabled config) :
    (ofProviders providers).enabled config = (ofProviders providers').enabled config :=
  (h ▸ byPriority_enabled providers config).unique (byPriority_enabled providers' config)

theorem property_environment (properties config : Properties) (name : String) :
    (environment properties config).property name =
      ((properties.get? name).or ((Resolution.sanitize config).get? name)).bind Value.nonNull? := by
  show (((Resolution.sanitize config).layer properties).get? name).bind Value.nonNull? = _
  rw [Dict.get?_layer]

end Engine

end Testbed
