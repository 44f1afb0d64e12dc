import Testbed.Environment
import Testbed.Proofs.FirstSeen
import Testbed.Proofs.Text.ByteOrder
import Testbed.Proofs.Value.Parts

/-!
# The members of a group

An environment over properties has as members of a group the text keys of a map that is stored under its name, and the
segments by which the names of properties continue it. `members_of_group` says which texts these are and how they are
arranged: those of the map by key, and behind them each other one where the first name in byte order brings it in.
-/

namespace Testbed.Environment

variable {properties : Properties} {group m n name : String} {before after seen new : List String}

/-- `m` is a text key of the map under `group`. -/
def IsStored (properties : Properties) (group m : String) : Prop :=
  ∃ pairs v, properties.get? group = some (.map pairs) ∧ (.string m, v) ∈ pairs

/-- `name` is `group` continued by the segment `m`, and may go on behind it. -/
def Continues (group m name : String) : Prop :=
  '.' ∉ m.toList ∧ (name = group ++ "." ++ m ∨ ∃ rest, name = group ++ "." ++ m ++ "." ++ rest)

/-- Of all names that continue `group` by `m` the first in byte order. -/
structure IsFirstName (properties : Properties) (group m name : String) : Prop where
  mem : name ∈ properties.keys
  continues : Continues group m name
  least : ∀ other ∈ properties.keys, Continues group m other → other = name ∨ Text.utf8 name < Text.utf8 other

theorem mem_storedMembers : m ∈ storedMembers properties group ↔ IsStored properties group m := by
  unfold storedMembers IsStored
  split
  · rename_i pairs hpairs
    rw [Value.mem_filterMap_string?]
    simp [hpairs]
  · rename_i hnone
    refine iff_of_false List.not_mem_nil ?_
    rintro ⟨pairs, -, hpairs, -⟩
    exact hnone pairs hpairs

theorem pairwise_storedMembers (h : ∀ v ∈ properties.get? group, v.Ordered) :
    (storedMembers properties group).Pairwise fun m n => Text.utf8 m < Text.utf8 n := by
  unfold storedMembers
  split
  · rename_i pairs hpairs
    refine (Value.ordered_map.1 (h _ hpairs)).1.filterMap _ ?_
    rintro ⟨k, v⟩ ⟨l, w⟩ hlt m hm n hn
    cases k <;> cases hm
    cases l <;> cases hn
    exact Text.compare_eq_lt_iff.1 hlt
  · exact .nil

/-! ### Names -/

/-- The segment by which a name continues `group`, if it does. -/
def segment? (group name : String) : Option String := (Text.dropPrefix? (group ++ ".") name).map (Text.upTo '.')

theorem segment?_eq_some : segment? group name = some m ↔ Continues group m name := by
  simp only [segment?, Option.map_eq_some_iff, Text.dropPrefix?_eq_some, Text.upTo_eq_iff, Continues]
  constructor
  · rintro ⟨_, rfl, hdot, rfl | ⟨rest, rfl⟩⟩
    · exact ⟨hdot, .inl rfl⟩
    · exact ⟨hdot, .inr ⟨rest, by simp only [String.append_assoc]; rfl⟩⟩
  · rintro ⟨hdot, rfl | ⟨rest, rfl⟩⟩
    · exact ⟨m, rfl, hdot, .inl rfl⟩
    · exact ⟨m ++ ("." ++ rest), by simp only [String.append_assoc], hdot, .inr ⟨rest, rfl⟩⟩

theorem mem_continuedMembers :
    m ∈ continuedMembers properties group ↔ ∃ name ∈ properties.keys, Continues group m name := by
  have hcontinued : continuedMembers properties group = properties.keys.filterMap (segment? group) := rfl
  simp only [hcontinued, List.mem_filterMap, segment?_eq_some]

/-- The name that brings in the first `m` comes before all that bring in what is not seen until then. -/
theorem exists_isFirstName (hsplit : continuedMembers properties group = before ++ m :: after) (hm : m ∉ before) :
    ∃ name, IsFirstName properties group m name ∧
      ∀ n, n ≠ m → n ∉ before → ∀ other ∈ properties.keys, Continues group n other →
        Text.utf8 name < Text.utf8 other := by
  obtain ⟨early, late, hkeys, hbefore, hlate⟩ := List.filterMap_eq_append_iff.1 hsplit
  obtain ⟨idle, name, later, rfl, hidle, hname, -⟩ := List.filterMap_eq_cons_iff.1 hlate
  have hsorted := hkeys ▸ properties.pairwise_keys
  -- a name that brings in what is not seen before is `name` or behind it
  have hbehind (n other : String) (hn : n ∉ before) (hother : other ∈ properties.keys)
      (hcontinues : Continues group n other) : other = name ∨ Text.utf8 name < Text.utf8 other := by
    have hsegment := segment?_eq_some.2 hcontinues
    rw [hkeys] at hother
    rcases List.mem_append.1 hother with hother | hother
    · exact absurd (hbefore ▸ List.mem_filterMap.2 ⟨other, hother, hsegment⟩) hn
    rcases List.mem_append.1 hother with hother | hother
    · cases (hidle other hother).symm.trans hsegment
    rcases List.mem_cons.1 hother with rfl | hother
    · exact .inl rfl
    · have hnames := (List.pairwise_append.1 (List.pairwise_append.1 hsorted).2.1).2.1
      exact .inr (Text.utf8_lt_utf8_iff.2 (List.rel_of_pairwise_cons hnames hother))
  refine ⟨name, ⟨by simp [hkeys], segment?_eq_some.1 hname, fun other => hbehind m other hm⟩, ?_⟩
  intro n hne hn other hother hcontinues
  rcases hbehind n other hn hother hcontinues with rfl | hlt
  · cases hname.symm.trans (segment?_eq_some.2 hcontinues)
    exact absurd rfl hne
  · exact hlt

theorem pairwise_of_gathers {skip : String → Prop} (h : Gathers skip seen (continuedMembers properties group) new) :
    new.Pairwise fun m n => ∃ first second, IsFirstName properties group m first ∧
      IsFirstName properties group n second ∧ Text.utf8 first < Text.utf8 second := by
  refine (h.inOrder.and h.nodup).imp_of_mem fun {m n} _ hn => ?_
  rintro ⟨⟨before, after, hsplit, hm, hnot⟩, hne⟩
  obtain ⟨first, hfirst, hbefore⟩ := exists_isFirstName hsplit hm
  obtain ⟨before', after', hsplit', hn'⟩ := List.eq_append_cons_of_mem ((h.mem_iff n).1 hn).1
  obtain ⟨second, hsecond, -⟩ := exists_isFirstName hsplit' hn'
  exact ⟨first, second, hfirst, hsecond, hbefore n hne.symm hnot second hsecond.mem hsecond.continues⟩

/-- The members of a group are the texts, each once, that key the map under its name or continue the name in that of a
property; those of the map come first, by key, and the others follow by the first name that continues with them. -/
theorem members_of_group (properties : Properties) (group : String) (hordered : ∀ v ∈ properties.get? group, v.Ordered) :
    let members := (ofProperties properties).members group
    members.Nodup ∧ "" ∉ members ∧
    (∀ m, m ∈ members ↔
      m ≠ "" ∧ (IsStored properties group m ∨ ∃ name ∈ properties.keys, Continues group m name)) ∧
    ∃ stored rest, members = stored ++ rest ∧ (∀ m, m ∈ stored ↔ m ≠ "" ∧ IsStored properties group m) ∧
      stored.Pairwise (fun m n => Text.utf8 m < Text.utf8 n) ∧
      rest.Pairwise fun m n => ∃ first second, IsFirstName properties group m first ∧
        IsFirstName properties group n second ∧ Text.utf8 first < Text.utf8 second := by
  intro members
  obtain ⟨stored, hstored, hgathered⟩ := exists_gathers (· = "") [] (storedMembers properties group)
  obtain ⟨rest, hrest, hcontinued⟩ := exists_gathers (· = "") stored (continuedMembers properties group)
  have hmembers : members = stored ++ rest :=
    List.foldl_append.trans ((congrArg (List.foldl addMember · _) hstored).trans hrest)
  have hmem (m : String) : m ∈ stored ↔ m ≠ "" ∧ IsStored properties group m := by
    simp [hgathered.mem_iff, mem_storedMembers, and_comm]
  have hmemRest (m : String) : m ∈ rest ↔
      m ≠ "" ∧ (∃ name ∈ properties.keys, Continues group m name) ∧ m ∉ stored := by
    rw [hcontinued.mem_iff, mem_continuedMembers, and_left_comm]
  refine ⟨?_, ?_, fun m => ?_, stored, rest, hmembers, hmem, ?_, pairwise_of_gathers hcontinued⟩
  · rw [hmembers, List.nodup_append']
    refine ⟨hgathered.nodup, hcontinued.nodup, fun m hm hrest => ((hmemRest m).1 hrest).2.2 hm⟩
  · rw [hmembers, List.mem_append, hmem, hmemRest]
    simp
  · rw [hmembers, List.mem_append, hmem, hmemRest, hmem]
    tauto
  · exact hgathered.pairwise (pairwise_storedMembers hordered)

/-- In the map is an empty key and one with a dot; the names of properties continue the group by more and by less. -/
def servers : Properties :=
  let stored : Value := .ofPairs [(.string "x.y", .null), (.null, .null), (.string "b", .null), (.string "", .null)]
  Dict.ofList [("db", stored), ("db.", .null), ("db..e", .null), ("db.b", .null), ("db.c.url", .null), ("db.a", .null),
    ("db.a.url", .null), ("dbs.d", .null)]

theorem members_of_servers :
    (∀ v ∈ servers.get? "db", v.Ordered) ∧ (ofProperties servers).members "db" = ["b", "x.y", "a", "c"] ∧
      ((ofProperties servers).members "db").Nodup ∧ ¬∃ name ∈ servers.keys, Continues "db" "d" name := by
  have hordered : ∀ v ∈ servers.get? "db", v.Ordered := by
    rintro v ⟨⟩
    exact Value.ordered_ofPairs (by simp [Value.Ordered])
  have hmembers : (ofProperties servers).members "db" = ["b", "x.y", "a", "c"] := by decide
  obtain ⟨hnodup, -, hmem, -⟩ := members_of_group servers "db" hordered
  refine ⟨hordered, hmembers, hnodup, fun hcontinued => ?_⟩
  have hd := (hmem "d").2 ⟨by decide, .inr hcontinued⟩
  rw [hmembers] at hd
  exact absurd hd (by decide)

end Testbed.Environment
