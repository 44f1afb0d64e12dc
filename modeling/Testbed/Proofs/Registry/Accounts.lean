import Testbed.Proofs.Registry.Consistent
import Testbed.Proofs.Registry.Numbered
import Mathlib.Data.List.Induction

/-!
# Every resource is started once, and closed once when it goes

`Accounted` is a law of conservation: each resource made was started once, and it is either live or
closed, once in all; a resource that did not start is not live. Every call keeps the law, so at the end
of a run each resource has exactly one of three fates (`Fate`).
-/

namespace Testbed.Registry

variable {ρ σ α : Type}

/-- How many live entries hold resource number `n`. -/
def holders (reg : Registry (Numbered ρ)) (n : Nat) : Nat :=
  reg.live.countP fun e => e.resource.number = n

/-- Resources made are started once, and live or closed once in all. -/
structure Accounted (s : Registry (Numbered ρ) × Watched σ) : Prop where
  starts : ∀ n, s.2.starts n = if n < s.2.made then 1 else 0
  kept : ∀ n, s.1.holders n + s.2.closes n = if n < s.2.made then 1 else 0
  failed : ∀ n, .started n false ∈ s.2.journal → s.1.holders n = 0

/-! ### Counting -/

namespace Watched
variable {w : Watched σ} {n m : Nat} {ok : Bool} {world : σ} {made : Nat}

theorem starts_append (l : List Mark) : starts ⟨world, made, w.journal ++ l⟩ n =
    w.starts n + l.countP (Mark.isStartOf n) := List.countP_append

theorem closes_append (l : List Mark) : closes ⟨world, made, w.journal ++ l⟩ n =
    w.closes n + l.countP (Mark.isCloseOf n) := List.countP_append

theorem starts_pos (h : .started n ok ∈ w.journal) : 0 < w.starts n :=
  List.countP_pos_iff.2 ⟨_, h, by simp [Mark.isStartOf]⟩

theorem closes_pos (h : .closed n ok ∈ w.journal) : 0 < w.closes n :=
  List.countP_pos_iff.2 ⟨_, h, by simp [Mark.isCloseOf]⟩

/-- What counts as a start is a mark with some outcome. -/
theorem mem_journal_of_starts_pos (h : 0 < w.starts n) : ∃ ok, .started n ok ∈ w.journal := by
  obtain ⟨m, hm, hn⟩ := List.countP_pos_iff.1 h
  cases m with
  | started m ok =>
    obtain rfl : m = n := by simpa [Mark.isStartOf] using hn
    exact ⟨ok, hm⟩
  | closed m ok => cases hn

/-- One start has one outcome. -/
theorem eq_of_starts_le_one {ok' : Bool} (h : w.starts n ≤ 1) (h₁ : .started n ok ∈ w.journal)
    (h₂ : .started n ok' ∈ w.journal) : ok = ok' := by
  have hsum (l : List Mark) : l.count (.started n true) + l.count (.started n false) =
      l.countP (Mark.isStartOf n) := by
    induction l with
    | nil => rfl
    | cons m l ih =>
      rw [List.count_cons, List.count_cons, List.countP_cons, ← ih]
      cases m with
      | started m ok =>
        by_cases hm : m = n <;> cases ok <;> simp [Mark.isStartOf, hm] <;> omega
      | closed m ok => simp [Mark.isStartOf]
  have := hsum w.journal
  have := List.count_pos_iff.2 h₁
  have := List.count_pos_iff.2 h₂
  unfold starts at h
  cases ok <;> cases ok' <;> first | rfl | omega

end Watched

theorem holders_add (reg : Registry (Numbered ρ)) (p : String) (key : Key) (r : Numbered ρ) (n : Nat) :
    (reg.add p key r).holders n = reg.holders n + if r.number = n then 1 else 0 := by
  rw [holders, live_add, List.countP_append, List.countP_singleton, holders]
  simp

theorem holders_takeOut (reg : Registry (Numbered ρ)) (t : Target) (n : Nat) :
    (t.takeOut reg).2.holders n + (t.takeOut reg).1.countP (fun e => e.resource.number = n) =
      reg.holders n := by
  rw [holders, Target.live_takeOut, Target.takeOut_fst, holders, Nat.add_comm]
  exact (List.countP_eq_countP_filter_add reg.live _ _).symm

section
variable [Held ρ σ]

/-- Closing logs one close for every entry and no start. -/
theorem closeEach_watched (entries : List (Entry (Numbered ρ))) (w : Watched σ) :
    (closeEach entries w).made = w.made ∧
    ∃ l, (closeEach entries w).journal = w.journal ++ l ∧ (∀ m ∈ l, ∃ n ok, m = .closed n ok) ∧
      ∀ n, l.countP (Mark.isCloseOf n) = entries.countP fun e => e.resource.number = n := by
  induction entries generalizing w with
  | nil => exact ⟨rfl, [], (List.append_nil _).symm, by simp, fun _ => rfl⟩
  | cons e entries ih =>
    obtain ⟨hm, l, hl, hc, hn⟩ := ih (Held.close e.resource w).2
    refine ⟨hm, .closed e.resource.number (Held.close e.resource.value w.world).1.isOk :: l, ?_, ?_,
      fun n => ?_⟩
    · rw [closeEach, List.foldl_cons]
      refine hl.trans ?_
      show (w.journal ++ [_]) ++ l = _
      rw [List.append_assoc]; rfl
    · rintro m (_ | ⟨_, hm⟩)
      · exact ⟨_, _, rfl⟩
      · exact hc m hm
    · rw [List.countP_cons, List.countP_cons, hn]
      simp [Mark.isCloseOf]

/-- What bringing up a resource adds to a watched world. -/
inductive Logged (w : Watched σ) : Except Error (Numbered α) × Watched σ → Prop
  | notMade {e world} : Logged w (.error e, { w with world })
  | notStarted {e world ok} :
    Logged w (.error e, ⟨world, w.made + 1, w.journal ++ [.started w.made false, .closed w.made ok]⟩)
  | started {a world} :
    Logged w (.ok ⟨w.made, a⟩, ⟨world, w.made + 1, w.journal ++ [.started w.made true]⟩)

theorem bringUp_logged (kind : Kind ρ σ α) (key : Key) (make : σ → Except Fault α × σ) (w : Watched σ) :
    Logged w (bringUp kind.numbered key (Watched.make make) w) := by
  unfold bringUp Watched.make
  rcases make w.world with ⟨cause | a, world⟩
  · exact .notMade
  · rcases hs : kind.start a world with ⟨cause | u, a', world'⟩
    · simp only [Kind.numbered, Watched.start, hs]
      show Logged w (_, ⟨_, _, (w.journal ++ [_]) ++ [_]⟩)
      rw [List.append_assoc]
      exact .notStarted
    · simp only [Kind.numbered, Watched.start, hs]
      exact .started

theorem Logged.journal {r : Except Error (Numbered α)} {w w' : Watched σ} (h : Logged w (r, w')) :
    w.journal <+: w'.journal := by
  cases h with
  | notMade => exact List.prefix_rfl
  | notStarted | started => exact List.prefix_append ..

/-- What a numbered call can do. -/
inductive Recorded (s : Registry (Numbered ρ) × Watched σ) : Registry (Numbered ρ) × Watched σ → Prop
  | noted {p : String} {key : Key} : Recorded s (s.1.note p key, s.2)
  | failed {α : Type} {e w} (hl : Logged s.2 ((.error e : Except Error (Numbered α)), w)) :
    Recorded s (s.1, w)
  | created {α : Type} {a : Numbered α} {w p key r} (hl : Logged s.2 (.ok a, w)) :
    Recorded s (s.1.add p key ⟨a.number, r⟩, w)
  | tookOut (t : Target) : Recorded s (t.perform s)

theorem Call.recorded (call : Call ρ σ) (s : Registry (Numbered ρ) × Watched σ) :
    Recorded s (call.numbered.perform s) := by
  cases call with
  | getOrCreate kind p key make =>
    have hg := getOrCreate_got kind.numbered p key (Watched.make make) s.1 s.2
    have hl := bringUp_logged kind key make s.2
    rw [Call.numbered, Call.perform]
    generalize s.1.getOrCreate kind.numbered p key (Watched.make make) s.2 = r at hg
    cases hg with
    | found | mismatch => exact .noted
    | failed _ hb => rw [hb] at hl; exact .failed hl
    | created _ hb => rw [hb] at hl; exact .created hl
  | closeScope scope => exact .tookOut (.within scope)
  | closeAll => exact .tookOut .everything

end

/-! ### The law is kept -/

theorem ite_lt_succ (n m : Nat) :
    (if n < m + 1 then 1 else 0) = (if n < m then 1 else 0) + if m = n then 1 else 0 := by
  split <;> split <;> split <;> omega

namespace Accounted
variable {s : Registry (Numbered ρ) × Watched σ} {reg : Registry (Numbered ρ)} {w w' : Watched σ}

theorem empty (world : σ) : Accounted ((Registry.empty : Registry (Numbered ρ)), ({ world } : Watched σ)) :=
  ⟨fun _ => rfl, fun _ => rfl, fun _ h => absurd h List.not_mem_nil⟩

theorem note (h : Accounted (reg, w)) (p : String) (key : Key) : Accounted (reg.note p key, w) := by
  have hn (n : Nat) : (reg.note p key).holders n = reg.holders n := by
    rw [holders, live_note, holders]
  exact ⟨h.starts, fun n => (congrArg (· + _) (hn n)).trans (h.kept n),
    fun n hf => (hn n).trans (h.failed n hf)⟩

/-- The next number is not live yet. -/
theorem holders_made (h : Accounted (reg, w)) : reg.holders w.made = 0 := by
  have := h.kept w.made
  rw [if_neg (Nat.lt_irrefl _)] at this
  exact (Nat.add_eq_zero_iff.1 this).1

/-- What is not registered is not made, or it did not start and is closed. -/
theorem error {e : Error} (h : Accounted (reg, w))
    (hl : Logged w ((.error e : Except Error (Numbered α)), w')) : Accounted (reg, w') := by
  cases hl with
  | notMade => exact ⟨h.starts, h.kept, h.failed⟩
  | notStarted =>
    refine ⟨fun n => ?_, fun n => ?_, fun n hf => ?_⟩
    · rw [Watched.starts_append, h.starts, ite_lt_succ]
      simp [List.countP_cons, Mark.isStartOf]
    · rw [Watched.closes_append, ← Nat.add_assoc, h.kept, ite_lt_succ]
      simp [List.countP_cons, Mark.isCloseOf]
    · rcases List.mem_append.1 hf with hf | hf
      · exact h.failed n hf
      · obtain rfl : n = w.made := by simpa using hf
        exact h.holders_made

/-- What is registered is new and has started. -/
theorem add {a : Numbered α} (h : Accounted (reg, w)) (hl : Logged w (.ok a, w')) (p : String) (key : Key)
    (r : ρ) : Accounted (reg.add p key ⟨a.number, r⟩, w') := by
  cases hl with
  | started =>
    refine ⟨fun n => ?_, fun n => ?_, fun n hf => ?_⟩
    · rw [Watched.starts_append, h.starts, ite_lt_succ]
      simp [Mark.isStartOf]
    · rw [Watched.closes_append, holders_add, ite_lt_succ, ← h.kept]
      simp [Mark.isCloseOf]
      omega
    · have hold : .started n false ∈ w.journal := by simpa using hf
      have hne : w.made ≠ n := by
        rintro rfl
        have hpos := Watched.starts_pos hold
        rw [h.starts, if_neg (Nat.lt_irrefl _)] at hpos
        exact absurd hpos (Nat.lt_irrefl 0)
      rw [holders_add, h.failed n hold, if_neg hne]

section
variable [Held ρ σ]

/-- A teardown closes what it takes out. -/
theorem takeOut (h : Accounted s) (t : Target) : Accounted (t.perform s) := by
  obtain ⟨hm, l, hl, hc, hn⟩ := closeEach_watched (t.takeOut s.1).1 s.2
  have hstarts (n : Nat) : l.countP (Mark.isStartOf n) = 0 := List.countP_eq_zero.2 fun m hmem => by
    obtain ⟨_, _, rfl⟩ := hc m hmem
    simp [Mark.isStartOf]
  refine ⟨fun n => ?_, fun n => ?_, fun n hf => ?_⟩
  · rw [Target.perform, hm, ← h.starts, Watched.starts, hl, List.countP_append, hstarts]; rfl
  · have hcloses : (t.perform s).2.closes n =
        s.2.closes n + (t.takeOut s.1).1.countP fun e => e.resource.number = n := by
      rw [Target.perform, Watched.closes, hl, List.countP_append, hn]; rfl
    have hholders := holders_takeOut s.1 t n
    have hkept := h.kept n
    show (t.takeOut s.1).2.holders n + (t.perform s).2.closes n = if n < (closeEach _ s.2).made then 1 else 0
    rw [hm, hcloses]
    omega
  · have hold : .started n false ∈ s.2.journal := by
      rw [Target.perform, hl] at hf
      refine (List.mem_append.1 hf).resolve_right fun hf => ?_
      obtain ⟨_, _, hm⟩ := hc _ hf
      cases hm
    have := holders_takeOut s.1 t n
    rw [h.failed n hold] at this
    exact (Nat.add_eq_zero_iff.1 this).1

theorem perform (h : Accounted s) (call : Call ρ σ) : Accounted (call.numbered.perform s) := by
  have hr := call.recorded s
  generalize call.numbered.perform s = s' at hr
  cases hr with
  | noted => exact h.note _ _
  | failed hl => exact h.error hl
  | created hl => exact h.add hl _ _ _
  | tookOut t => exact h.takeOut t

theorem performAll (h : Accounted s) (calls : List (Call ρ σ)) :
    Accounted (performAll (calls.map Call.numbered) s) := by
  induction calls generalizing s with
  | nil => exact h
  | cons call calls ih => exact ih (h.perform call)

end

end Accounted

/-! ### Fates -/

/-- Whether resource number `n` is live under `key`. -/
def LiveAt (reg : Registry (Numbered ρ)) (n : Nat) (key : Key) : Prop :=
  ∃ e, reg.find? key = some e ∧ e.resource.number = n

theorem liveAt_of_mem {reg : Registry (Numbered ρ)} (hc : reg.Consistent) {e : Entry (Numbered ρ)}
    (he : e ∈ reg.live) : reg.LiveAt e.resource.number e.key :=
  ⟨e, hc.find?_of_mem he, rfl⟩

theorem not_liveAt_of_holders {reg : Registry (Numbered ρ)} {n : Nat} (h : reg.holders n = 0) (key : Key) :
    ¬ reg.LiveAt n key := by
  rintro ⟨e, he, hn⟩
  exact List.countP_eq_zero.1 h e (find?_eq_some he).1 (by simpa using hn)

/-- One holder is live under one key. -/
theorem existsUnique_liveAt {reg : Registry (Numbered ρ)} (hc : reg.Consistent) {n : Nat}
    (h : reg.holders n = 1) : ∃! key, reg.LiveAt n key := by
  obtain ⟨e, he, hn⟩ := List.countP_pos_iff.1 (h ▸ Nat.one_pos : 0 < reg.holders n)
  obtain rfl : e.resource.number = n := by simpa using hn
  refine ⟨e.key, liveAt_of_mem hc he, ?_⟩
  rintro _ ⟨f, hf, hnumber⟩
  obtain ⟨hm, rfl⟩ := find?_eq_some hf
  rw [holders, List.countP_eq_length_filter, List.length_eq_one_iff] at h
  obtain ⟨g, hg⟩ := h
  have hone {x : Entry (Numbered ρ)} (hx : x ∈ reg.live) (hxn : x.resource.number = e.resource.number) :
      x = g := List.mem_singleton.1 (hg ▸ List.mem_filter.2 ⟨hx, by simpa using hxn⟩)
  rw [hone hm hnumber, hone he rfl]

section
variable [Held ρ σ]

/-- The journal is only added to. -/
theorem journal_perform (call : Call ρ σ) (s : Registry (Numbered ρ) × Watched σ) :
    s.2.journal <+: (call.numbered.perform s).2.journal := by
  have hr := call.recorded s
  generalize call.numbered.perform s = s' at hr
  cases hr with
  | noted => exact List.prefix_rfl
  | failed hl | created hl => exact hl.journal
  | tookOut t =>
    obtain ⟨-, l, hl, -, -⟩ := closeEach_watched (t.takeOut s.1).1 s.2
    exact ⟨l, hl.symm⟩

/-- What starts in a call is live after it. -/
theorem holders_perform_pos (call : Call ρ σ) {s : Registry (Numbered ρ) × Watched σ} {n : Nat}
    (hn : .started n true ∈ (call.numbered.perform s).2.journal)
    (hold : .started n true ∉ s.2.journal) : 0 < (call.numbered.perform s).1.holders n := by
  have hr := call.recorded s
  generalize call.numbered.perform s = s' at hr hn ⊢
  cases hr with
  | noted => exact absurd hn hold
  | failed hl =>
    cases hl with
    | notMade => exact absurd hn hold
    | notStarted => exact absurd (by simpa using hn) hold
  | created hl =>
    cases hl with
    | started =>
      obtain rfl : n = s.2.made := by simpa [hold] using hn
      rw [holders_add, if_pos rfl]
      exact Nat.succ_pos _
  | tookOut t =>
    obtain ⟨-, l, hl, hc, -⟩ := closeEach_watched (t.takeOut s.1).1 s.2
    rw [Target.perform, hl, List.mem_append] at hn
    obtain ⟨_, _, hm⟩ := hc _ (hn.resolve_left hold)
    cases hm

variable {calls before : List (Call ρ σ)} {world : σ} {n : Nat}

theorem numberedRun_append (calls more : List (Call ρ σ)) (world : σ) : numberedRun (calls ++ more) world =
    performAll (more.map Call.numbered) (numberedRun calls world) := by
  rw [numberedRun, List.map_append, performAll_append]; rfl

theorem journal_numberedRun (h : before <+: calls) :
    (numberedRun before world).2.journal <+: (numberedRun calls world).2.journal := by
  obtain ⟨more, rfl⟩ := h
  rw [numberedRun_append]
  generalize numberedRun before world = s
  induction more generalizing s with
  | nil => exact List.prefix_rfl
  | cons call more ih => exact (journal_perform call s).trans (ih _)

theorem accounted_numberedRun (calls : List (Call ρ σ)) (world : σ) : Accounted (numberedRun calls world) :=
  (Accounted.empty world).performAll calls

theorem consistent_numberedRun (calls : List (Call ρ σ)) (world : σ) :
    (numberedRun calls world).1.Consistent :=
  consistent_empty.performAll _

/-- What fails to start is at no time live. -/
theorem holders_of_failed (hf : .started n false ∈ (numberedRun calls world).2.journal)
    (h : before <+: calls) : (numberedRun before world).1.holders n = 0 := by
  have hb := accounted_numberedRun before world
  by_cases hn : n < (numberedRun before world).2.made
  · -- it started by then, and not otherwise than in the end
    have hstarts := hb.starts n
    rw [if_pos hn] at hstarts
    obtain ⟨ok, hok⟩ := Watched.mem_journal_of_starts_pos (hstarts ▸ Nat.one_pos)
    have hle : (numberedRun calls world).2.starts n ≤ 1 := by
      rw [(accounted_numberedRun calls world).starts]; split <;> omega
    obtain rfl := Watched.eq_of_starts_le_one hle hf ((journal_numberedRun h).subset hok)
    exact hb.failed n hok
  · have hkept := hb.kept n
    rw [if_neg hn] at hkept
    exact (Nat.add_eq_zero_iff.1 hkept).1

/-- What starts is live at some time. -/
theorem exists_liveAt_of_started (hs : .started n true ∈ (numberedRun calls world).2.journal) :
    ∃ before, before <+: calls ∧ ∃ key, (numberedRun before world).1.LiveAt n key := by
  induction calls using List.reverseRecOn with
  | nil => exact absurd hs List.not_mem_nil
  | append_singleton calls call ih =>
    by_cases hold : .started n true ∈ (numberedRun calls world).2.journal
    · obtain ⟨before, hb, hlive⟩ := ih hold
      exact ⟨before, hb.trans (List.prefix_append ..), hlive⟩
    · rw [numberedRun_append] at hs
      obtain ⟨e, he, hn⟩ := List.countP_pos_iff.1 (holders_perform_pos call hs hold)
      obtain rfl : e.resource.number = n := by simpa using hn
      refine ⟨calls ++ [call], List.prefix_rfl, e.key, ?_⟩
      exact liveAt_of_mem (consistent_numberedRun _ world) (by rw [numberedRun_append]; exact he)

/-- What can become of a resource. -/
inductive Fate where
  | live
  | closed
  | failed

/-- What it means for `n` to have a fate after `calls`. -/
def Fate.Meets (calls : List (Call ρ σ)) (world : σ) (n : Nat) : Fate → Prop
  | live =>
    let s := numberedRun calls world
    .started n true ∈ s.2.journal ∧ s.2.closes n = 0 ∧ ∃! key, s.1.LiveAt n key
  | closed =>
    let s := numberedRun calls world
    .started n true ∈ s.2.journal ∧ s.2.closes n = 1 ∧ (∀ key, ¬ s.1.LiveAt n key) ∧
      ∃ before, before <+: calls ∧ ∃ key, (numberedRun before world).1.LiveAt n key
  | failed =>
    let s := numberedRun calls world
    .started n false ∈ s.2.journal ∧ s.2.closes n = 1 ∧
      ∀ before, before <+: calls → ∀ key, ¬ (numberedRun before world).1.LiveAt n key

theorem exists_fate (hn : n < (numberedRun calls world).2.made) :
    ∃ fate : Fate, fate.Meets calls world n := by
  have ha := accounted_numberedRun calls world
  have hstarts := ha.starts n
  have hkept := ha.kept n
  rw [if_pos hn] at hstarts hkept
  obtain ⟨ok, hok⟩ := Watched.mem_journal_of_starts_pos (hstarts ▸ Nat.one_pos)
  -- it is live once and not closed, or not live and closed once
  rcases Nat.add_eq_one_iff.1 hkept with ⟨hl, hc⟩ | ⟨hl, hc⟩
  · cases ok with
    | true => exact ⟨.closed, hok, hc, not_liveAt_of_holders hl, exists_liveAt_of_started hok⟩
    | false => exact ⟨.failed, hok, hc, fun before hb => not_liveAt_of_holders (holders_of_failed hok hb)⟩
  · cases ok with
    | true => exact ⟨.live, hok, hc, existsUnique_liveAt (consistent_numberedRun calls world) hl⟩
    | false =>
      rw [ha.failed n hok] at hl
      exact absurd hl Nat.zero_ne_one

theorem Fate.Meets.unique {fate fate' : Fate} (h : fate.Meets calls world n) (h' : fate'.Meets calls world n) :
    fate' = fate := by
  have hle : (numberedRun calls world).2.starts n ≤ 1 := by
    rw [(accounted_numberedRun calls world).starts]; split <;> omega
  have hstart (ht : .started n true ∈ (numberedRun calls world).2.journal)
      (hf : .started n false ∈ (numberedRun calls world).2.journal) : False :=
    Bool.noConfusion (Watched.eq_of_starts_le_one hle ht hf)
  cases fate <;> cases fate' <;> first
    | rfl
    | exact (hstart h.1 h'.1).elim
    | exact (hstart h'.1 h.1).elim
    | exact absurd (h.2.1.symm.trans h'.2.1) (by decide)

/-- The numbered run is the run of `calls`, and in it every resource made is started once, is closed at
most once and has one fate; one whose close failed is closed and gone like any other. -/
theorem fate_of_made (calls : List (Call ρ σ)) (world : σ) :
    let s := numberedRun calls world
    erase s = performAll calls (empty, world) ∧
      ∀ n < s.2.made, s.2.starts n = 1 ∧ s.2.closes n ≤ 1 ∧ (∃! fate : Fate, fate.Meets calls world n) ∧
        (.closed n false ∈ s.2.journal → s.2.closes n = 1 ∧ ∀ key, ¬ s.1.LiveAt n key) := by
  intro s
  have ha : Accounted s := accounted_numberedRun calls world
  refine ⟨erase_numberedRun calls world, fun n hn => ?_⟩
  have hstarts := ha.starts n
  have hkept := ha.kept n
  rw [if_pos hn] at hstarts hkept
  obtain ⟨fate, hfate⟩ := exists_fate hn
  refine ⟨hstarts, ?_, ⟨fate, hfate, fun _ h => hfate.unique h⟩, fun hclosed => ?_⟩
  · exact Nat.le_trans (Nat.le_add_left ..) (Nat.le_of_eq hkept)
  · have hpos := Watched.closes_pos hclosed
    rcases Nat.add_eq_one_iff.1 hkept with ⟨hl, hc⟩ | ⟨-, hc⟩
    · exact ⟨hc, not_liveAt_of_holders hl⟩
    · exact absurd hc (Nat.ne_of_gt hpos)

end

section
open Rehearsal

/-- The first resource goes with a close that fails, the second does not start and the third is live. -/
theorem fate_of_failed_close :
    let key : Key := ⟨"o", "n", .root, ∅⟩
    let calls : List (Call Player (Stage Daemon)) :=
      [.standIn "A" "p" key { failsToClose := true }, .closeScope .root,
        .standIn "A" "p" key { failsToStart := true }, .standIn "B" "p" key {}]
    let s := numberedRun calls { runtime := {} }
    s.2.made = 3 ∧ .started 1 false ∈ s.2.journal ∧ s.1.LiveAt 2 key ∧
      .closed 0 false ∈ s.2.journal ∧ (∃! fate : Fate, fate.Meets calls { runtime := {} } 0) ∧
        s.2.closes 0 = 1 ∧ ∀ key, ¬ s.1.LiveAt 0 key := by
  intro key calls s
  have hclosed : .closed 0 false ∈ s.2.journal := by decide
  have h := (fate_of_made calls { runtime := {} }).2 0 (by decide)
  refine ⟨by decide, by decide, ⟨_, rfl, rfl⟩, hclosed, h.2.2.1, h.2.2.2 hclosed⟩

end

end Testbed.Registry
