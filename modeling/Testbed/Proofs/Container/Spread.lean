import Testbed.Proofs.Container.Families
import Testbed.Proofs.Outcome

/-!
# One family, several forms

The blocks of a family are read alike however they are written (`readAll_in_each_form`): in the map under
`containers` or under a flat key for each field, and the strategies of a block in one map or spread over keys of their
own. What makes the last one differ is that the names of spread strategies are gathered from keys, and so come in the
order of these; for `port` and `log` it is the order of the map.
-/

namespace Testbed.Container

variable {config a b fields told : Properties} {id name rest m : String} {v w : Value}

namespace Block

/-! ### A map of strategies under flat keys -/

/-- A map of strategies that keys of their own can tell: there is one, none is of another name than these two, and the
log has a part. -/
structure IsTold (told : Properties) : Prop where
  nonempty : told.keys ≠ []
  name : ∀ name ∈ told.keys, name = "port" ∨ name = "log"
  log : ∀ v, told.get? "log" = some v → ∃ parts : Properties, v = .ofDict parts ∧ parts.keys ≠ []

def textPairs (v : Value) : List (String × Value) :=
  (v.map?.getD []).filterMap fun p => p.1.string?.map fun name => (name, p.2)

/-- What keys tell of strategies, behind the key that the map of them has: each part of the log, any other strategy as a
whole. -/
def strategyParts (strategies : Value) : List (String × Value) :=
  (textPairs strategies).flatMap fun p =>
    if p.1 = "log" then (textPairs p.2).map fun q => ("log." ++ q.1, q.2) else [p]

/-- The strategies of a block as fields of their own. -/
def strategyFields (fields : Properties) : Properties :=
  Dict.ofList ((strategyParts ((fields.get? waitKey).getD .null)).map fun p => (waitKey ++ "." ++ p.1, p.2))

/-- A block with its strategies as fields of their own. -/
def spread (fields : Properties) : Properties := (fields.erase waitKey).layer (strategyFields fields)

theorem textPairs_ofDict (d : Properties) : textPairs (.ofDict d) = d.entries := by
  simp [textPairs, Value.ofDict, Value.map?, Value.string?, List.filterMap_map]

theorem mem_strategyParts (h : IsTold told) : (rest, v) ∈ strategyParts (.ofDict told) ↔
    rest = "port" ∧ told.get? "port" = some v ∨
      ∃ parts part, told.get? "log" = some (.ofDict parts) ∧ parts.get? part = some v ∧ rest = "log." ++ part := by
  simp only [strategyParts, textPairs_ofDict, List.mem_flatMap, Prod.exists, ← Dict.get?_eq_some_iff]
  constructor
  · rintro ⟨name, w, hname, hrest⟩
    split at hrest
    · rename_i hlog
      subst hlog
      obtain ⟨parts, rfl, -⟩ := h.log w hname
      simp only [textPairs_ofDict, List.mem_map, Prod.exists, Prod.mk.injEq, ← Dict.get?_eq_some_iff] at hrest
      obtain ⟨part, _, hpart, rfl, rfl⟩ := hrest
      exact .inr ⟨parts, part, hname, hpart, rfl⟩
    · rename_i hlog
      obtain rfl := (h.name name (Dict.mem_keys.2 ⟨w, hname⟩)).resolve_right hlog
      cases List.mem_singleton.1 hrest
      exact .inl ⟨rfl, hname⟩
  · rintro (⟨rfl, hport⟩ | ⟨parts, part, hlog, hpart, rfl⟩)
    · exact ⟨"port", v, hport, by simp⟩
    · refine ⟨"log", .ofDict parts, hlog, ?_⟩
      rw [if_pos rfl, textPairs_ofDict]
      exact List.mem_map.2 ⟨(part, v), Dict.get?_eq_some_iff.1 hpart, rfl⟩

theorem log_lt_port (part : String) : "log." ++ part < "port" := by
  rw [String.lt_iff_toList_lt, String.toList_append]
  exact .rel (by decide)

theorem strategyParts_functional (h : IsTold told) (hv : (rest, v) ∈ strategyParts (.ofDict told))
    (hw : (rest, w) ∈ strategyParts (.ofDict told)) : v = w := by
  rcases (mem_strategyParts h).1 hv with ⟨rfl, hport⟩ | ⟨parts, part, hlog, hpart, rfl⟩
  · rcases (mem_strategyParts h).1 hw with ⟨-, hport'⟩ | ⟨_, part, _, _, hrest⟩
    · exact Option.some_inj.1 (hport.symm.trans hport')
    · exact absurd hrest (log_lt_port part).ne'
  · rcases (mem_strategyParts h).1 hw with ⟨hrest, -⟩ | ⟨parts', part', hlog', hpart', hrest⟩
    · exact absurd hrest (log_lt_port part).ne
    · obtain rfl : parts = parts' := Value.ofDict_inj (Option.some_inj.1 (hlog.symm.trans hlog'))
      obtain rfl := (String.append_right_inj _).1 hrest
      exact Option.some_inj.1 (hpart.symm.trans hpart')

theorem get?_strategyFields (hwait : fields.get? waitKey = some (.ofDict told)) (h : IsTold told) :
    (strategyFields fields).get? name = some v ↔
      ∃ rest, name = waitKey ++ "." ++ rest ∧ (rest, v) ∈ strategyParts (.ofDict told) := by
  rw [strategyFields, hwait, Option.getD_some]
  refine (Assoc.get?_ofList_iff ?_).trans ?_
  · simp only [List.forall_mem_map, String.append_right_inj]
    rintro ⟨rest, v⟩ hv ⟨_, w⟩ hw rfl
    exact strategyParts_functional h hv hw
  · simp only [List.mem_map, Prod.exists, Prod.mk.injEq]
    grind

theorem upTo_log (part : String) : Text.upTo '.' ("log." ++ part) = "log" :=
  Text.upTo_eq_iff.2 ⟨by decide, .inr ⟨part, rfl⟩⟩

theorem mem_keys_iff (h : IsTold told) :
    m ∈ told.keys ↔ ∃ rest v, (rest, v) ∈ strategyParts (.ofDict told) ∧ Text.upTo '.' rest = m := by
  have hport : Text.upTo '.' "port" = "port" := by decide
  simp only [Dict.mem_keys, mem_strategyParts h]
  constructor
  · rintro ⟨v, hv⟩
    rcases h.name m (Dict.mem_keys.2 ⟨v, hv⟩) with rfl | rfl
    · exact ⟨"port", v, .inl ⟨rfl, hv⟩, hport⟩
    · obtain ⟨parts, rfl, hne⟩ := h.log v hv
      obtain ⟨part, hpart⟩ := List.exists_mem_of_ne_nil _ hne
      obtain ⟨w, hw⟩ := Dict.mem_keys.1 hpart
      exact ⟨"log." ++ part, w, .inr ⟨parts, part, hv, hw, rfl⟩, upTo_log part⟩
  · rintro ⟨rest, v, ⟨rfl, hv⟩ | ⟨parts, part, hparts, -, rfl⟩, rfl⟩
    · exact ⟨v, hv⟩
    · exact ⟨_, (upTo_log part).symm ▸ hparts⟩

/-! ### Blocks that are spread -/

section

variable (hwait : fields.get? waitKey = some (.ofDict told)) (h : IsTold told)
include hwait h

theorem get?_spread_of_dot (hdot : '.' ∉ name.toList) :
    (spread fields).get? name = if name = waitKey then none else fields.get? name := by
  have hnone : (strategyFields fields).get? name = none := by
    refine Option.eq_none_iff_forall_ne_some.2 fun v hv => hdot ?_
    obtain ⟨rest, rfl, -⟩ := (get?_strategyFields hwait h).1 hv
    simp
  rw [spread, Dict.get?_layer, Dict.get?_erase, hnone, Option.none_or]

variable (hplain : ∀ name ∈ fields.keys, '.' ∉ name.toList)
include hplain

theorem get?_spread_append :
    (spread fields).get? (waitKey ++ "." ++ rest) = some v ↔ (rest, v) ∈ strategyParts (.ofDict told) := by
  rw [spread, Dict.get?_layer, Dict.get?_erase, get?_append_eq_none hplain, ite_self, Option.or_none,
    get?_strategyFields hwait h]
  simp only [String.append_right_inj, exists_eq_left']

theorem get?_spread_log (part : String) : (spread fields).get? (waitKey ++ "." ++ ("log." ++ part)) =
    (told.get? "log").bind fun log => log.map?.bind (Value.field? · part) := by
  have hparts (parts : Properties) : (Value.ofDict parts).map?.bind (Value.field? · part) = parts.get? part :=
    Value.field?_ofDict parts part
  refine Option.ext fun v => ?_
  rw [get?_spread_append hwait h hplain, mem_strategyParts h, Option.bind_eq_some_iff]
  constructor
  · rintro (⟨hport, -⟩ | ⟨parts, part', hlog, hpart, hrest⟩)
    · exact absurd hport (log_lt_port part).ne
    · obtain rfl := (String.append_right_inj _).1 hrest
      exact ⟨_, hlog, (hparts parts).trans hpart⟩
  · rintro ⟨log, hlog, hpart⟩
    obtain ⟨parts, rfl, -⟩ := h.log log hlog
    exact .inr ⟨parts, part, hlog, (hparts parts).symm.trans hpart, rfl⟩

theorem exists_get?_spread : ∃ name v, (spread fields).get? name = some v := by
  obtain ⟨m, hm⟩ := List.exists_mem_of_ne_nil _ h.nonempty
  obtain ⟨rest, v, hrest, -⟩ := (mem_keys_iff h).1 hm
  exact ⟨_, v, (get?_spread_append hwait h hplain).2 hrest⟩

/-- The keys bring in the names in order. Of segments as such this does not hold: `a-` is below `a.b`, but above `a`. -/
theorem pairwise_flatNames (ha : Presents a id (spread fields)) : (flatNames a id).Pairwise (· ≤ ·) := by
  have hrest {rest : String} (hmem : fieldKey id waitKey ++ "." ++ rest ∈ a.keys) :
      rest = "port" ∨ ∃ part, rest = "log." ++ part := by
    obtain ⟨v, hv⟩ := Dict.mem_keys.1 ((ha.flat rest).1 hmem)
    rcases (mem_strategyParts h).1 ((get?_spread_append hwait h hplain).1 hv) with ⟨rfl, -⟩ | ⟨_, part, -, -, rfl⟩
    · exact .inl rfl
    · exact .inr ⟨part, rfl⟩
  -- what stands behind the prefix decides the order of two keys, and there a log part is below `port`
  refine (List.Pairwise.and_mem.1 a.pairwise_keys).filterMap _ ?_
  rintro key key' ⟨hkey, hkey', hlt⟩ m hm m' hm'
  simp only [Option.map_eq_some_iff, Text.dropPrefix?_eq_some] at hm hm'
  obtain ⟨rest, rfl, rfl⟩ := hm
  obtain ⟨rest', rfl, rfl⟩ := hm'
  rcases hrest hkey with rfl | ⟨part, rfl⟩
  · rcases hrest hkey' with rfl | ⟨part', rfl⟩
    · exact le_refl _
    · exact absurd hlt (not_lt_of_gt (Text.append_lt_append _ (log_lt_port part')))
  · rw [upTo_log]
    rcases hrest hkey' with rfl | ⟨part', rfl⟩
    · decide
    · rw [upTo_log]

theorem waitNames_of_spread (ha : Presents a id (spread fields)) (hb : Presents b id fields)
    (hown : field? a id waitKey = none) (hmap : field? b id waitKey = some (.ofDict told)) :
    waitNames a id = waitNames b id := by
  rw [waitNames_of_none hown, waitNames_of_ofDict hmap, flatNames_eq_nil hb hplain, List.append_nil]
  have hmem (m : String) : m ∈ flatNames a id ↔ m ∈ told.keys := by
    simp only [mem_flatNames, ha.flat, Dict.mem_keys (d := spread fields), get?_spread_append hwait h hplain, mem_keys_iff h]
    grind
  have hsorted := pairwise_flatNames hwait h hplain ha
  exact congrArg Except.ok (distinct_congr hsorted (told.pairwise_keys.imp le_of_lt) hmem)

theorem alike_of_spread (ha : Presents a id (spread fields)) (hb : Presents b id fields) : Alike a b id := by
  have hown : field? a id waitKey = none := by
    rw [ha.field, get?_spread_of_dot hwait h (by decide), if_pos rfl]
    rfl
  have hmap : field? b id waitKey = some (.ofDict told) := by
    rw [hb.field, hwait]
    rfl
  refine ⟨fun name hname => ?_, waitNames_of_spread hwait h hplain ha hb hown hmap, fun part => ?_⟩
  · have hplain : ∀ name ∈ ownFields, '.' ∉ name.toList ∧ name ≠ waitKey := by decide
    obtain ⟨hdot, hne⟩ := hplain name hname
    rw [ha.field, hb.field, get?_spread_of_dot hwait h hdot, if_neg hne]
  · have hkey : waitKey ++ "." ++ "log" ++ "." ++ part = waitKey ++ "." ++ ("log." ++ part) := by
      simp only [String.append_assoc]
      rfl
    have hnone : field? b id (waitKey ++ "." ++ ("log." ++ part)) = none := by
      rw [hb.field, get?_append_eq_none hplain]
      rfl
    rw [waitPart?_of_none hown, waitPart?_of_ofDict hmap (hkey ▸ hnone), hkey, ha.field, get?_spread_log hwait h hplain]

end

end Block

namespace Family

open Block

variable {F N O : Family} {chosen : String → Bool}

/-- The same ids with other blocks. -/
def amend (F : Family) (f : String → Properties → Properties) : Family :=
  ⟨F.entries.map fun p => (p.1, f p.1 p.2), by
    simpa only [Assoc.Ascending, List.pairwise_map] using F.ascending⟩

theorem get?_amend (f : String → Properties → Properties) : (F.amend f).get? id = (F.get? id).map (f id) := by
  refine Option.ext fun fields => ?_
  rw [Dict.get?_eq_some_iff, Option.map_eq_some_iff, amend]
  simp only [List.mem_map, Prod.exists, Prod.mk.injEq, Dict.get?_eq_some_iff]
  constructor
  · rintro ⟨id, fields, hmem, rfl, rfl⟩
    exact ⟨fields, hmem, rfl⟩
  · rintro ⟨fields, hmem, rfl⟩
    exact ⟨id, fields, hmem, rfl, rfl⟩

theorem keys_amend {f : String → Properties → Properties} : (F.amend f).keys = F.keys := by
  simp [amend, Dict.keys]

/-- The family with the strategies of the chosen blocks as fields of their own. -/
def spread (F : Family) (chosen : String → Bool) : Family :=
  F.amend fun id fields => if chosen id then Block.spread fields else fields

def withoutStrategies (F : Family) (chosen : String → Bool) : Family :=
  F.amend fun id fields => if chosen id then fields.erase waitKey else fields

/-- Of the chosen blocks the strategies, as fields of their own. -/
def strategies (F : Family) (chosen : String → Bool) : Family :=
  F.amend fun id fields => if chosen id then strategyFields fields else ∅

/-- The chosen blocks have strategies that keys of their own can tell. -/
def IsTold (F : Family) (chosen : String → Bool) : Prop :=
  ∀ id fields, F.get? id = some fields → chosen id = true →
    ∃ told, fields.get? waitKey = some (.ofDict told) ∧ Block.IsTold told

theorem get?_spread (hfields : F.get? id = some fields) :
    (F.spread chosen).get? id = some (if chosen id then Block.spread fields else fields) := by
  rw [spread, get?_amend, hfields, Option.map_some]

theorem exists_value?_spread (hF : F.IsPlain) (hchosen : F.IsTold chosen) (hid : id ∈ F.keys) :
    ∃ name v, (F.spread chosen).value? id name = some v := by
  obtain ⟨fields, hfields⟩ := Dict.mem_keys.1 hid
  simp only [value?_of_get? (get?_spread hfields)]
  split
  · rename_i hid
    obtain ⟨told, hwait, htold⟩ := hchosen id fields hfields hid
    exact exists_get?_spread hwait htold (hF.block id fields hfields).2
  · simpa only [value?_of_get? hfields] using hF.exists_value? hid

/-- What is left of a chosen block and its strategies make up the block that is spread. -/
theorem makeUp_spread (hF : F.IsPlain) : MakeUp (F.withoutStrategies chosen) (F.strategies chosen) (F.spread chosen) where
  key id hid := by
    have hkeys : (F.withoutStrategies chosen).keys = (F.spread chosen).keys := keys_amend.trans keys_amend.symm
    exact hkeys ▸ hid
  name id name v hv := by
    obtain ⟨left, hleft, hname⟩ := value?_eq_some.1 hv
    rw [withoutStrategies, get?_amend, Option.map_eq_some_iff] at hleft
    obtain ⟨fields, hfields, rfl⟩ := hleft
    have hname : fields.get? name = some v := by
      split at hname
      · rw [Dict.get?_erase, ite_eq_iff] at hname
        exact (hname.resolve_left (by simp)).2
      · exact hname
    exact (hF.block id fields hfields).2 name (Dict.mem_keys.2 ⟨v, hname⟩)
  value id name := by
    simp only [value?, strategies, withoutStrategies, spread, get?_amend]
    cases F.get? id with
    | none => rfl
    | some fields =>
      simp only [Option.map_some, Option.bind_some]
      split
      · rw [Block.spread, Dict.get?_layer]
      · rfl

theorem readAll_eq_nested (hF : F.IsPlain) (hchosen : F.IsTold chosen) (h : Shows config N O)
    (hmake : MakeUp N O (F.spread chosen)) : readAll config = readAll F.nested := by
  have hkeys : (F.spread chosen).keys = F.keys := keys_amend
  have hids : ids config = F.keys :=
    (hmake.ids_eq h fun id hid => exists_value?_spread hF hchosen (hkeys ▸ hid)).trans hkeys
  have hidsNested : ids F.nested = F.keys := (makeUp_nested hF).ids_eq (shows_nested F) fun _ => hF.exists_value?
  rw [readAll, readAll, hids, hidsNested]
  -- the ids are the same, so it is the blocks that have to be read alike
  refine Outcome.mapM_congr fun id hid => Alike.read ?_
  obtain ⟨fields, hfields⟩ := Dict.mem_keys.1 hid
  have hplain := (hF.block id fields hfields).2
  have hb : Presents F.nested id fields := (makeUp_nested hF).presents (shows_nested F) (hF.id id hid) hfields
  have ha := hmake.presents h (hF.id id hid) (get?_spread hfields)
  split at ha
  · rename_i hid
    obtain ⟨told, hwait, htold⟩ := hchosen id fields hfields hid
    exact alike_of_spread hwait htold hplain ha hb
  · exact alike_of_presents hplain ha hb

/-- A family gives the same blocks or the same error whether it is nested or flat, and whether the strategies of its
blocks stand in a map, or else each and of the log each part under a key of its own, beside flat blocks or nested ones. -/
theorem readAll_in_each_form (F : Family) (hF : F.IsPlain) :
    readAll F.flat = readAll F.nested ∧ ∀ chosen, F.IsTold chosen →
      readAll (F.spread chosen).flat = readAll F.nested ∧
      readAll ((F.withoutStrategies chosen).nested.layer (F.strategies chosen).flat) = readAll F.nested := by
  have hdots (f : String → Properties → Properties) : ∀ id ∈ (F.amend f).keys, '.' ∉ id.toList := by
    rw [keys_amend]
    exact hF.id
  refine ⟨?_, fun chosen hchosen => ⟨?_, ?_⟩⟩
  · have hnone : F.spread (fun _ => false) = F := Dict.ext_get? fun id => by simp [spread, get?_amend]
    have htold : F.IsTold fun _ => false := nofun
    exact readAll_eq_nested hF htold (shows_flat hF.id) (hnone.symm ▸ makeUp_flat F)
  · exact readAll_eq_nested hF hchosen (shows_flat (hdots _)) (makeUp_flat _)
  · exact readAll_eq_nested hF hchosen (shows_layer (hdots _)) (makeUp_spread hF)

def shopLog : Properties := Dict.ofList [("message", .string "up"), ("stream", .string "STDERR")]

def shopStrategies : Properties := Dict.ofList [("port", .bool true), ("log", .ofDict shopLog)]

/-- Two blocks, one with both strategies in a map. -/
def shop : Family :=
  Dict.ofList [("db", Dict.ofList [("image-name", .string "db:1"), ("wait-strategy", .ofDict shopStrategies)]),
    ("cache", Dict.ofList [("hostnames", .string "cache.host"), ("image-name", .null)])]

theorem readAll_of_shop : shop.IsPlain ∧ shop.IsTold (· = "db") ∧
    (shop.spread (· = "db")).flat.keys = ["containers.cache.hostnames", "containers.cache.image-name",
      "containers.db.image-name", "containers.db.wait-strategy.log.message", "containers.db.wait-strategy.log.stream",
      "containers.db.wait-strategy.port"] ∧
    readAll (shop.spread (· = "db")).flat = readAll shop.nested ∧
    readAll shop.nested = .ok [{ id := "cache", hostnames := ["cache.host"] },
      { id := "db", image := some "db:1", wait := [.log "up" .stderr, .ports] }] := by
  have hplain : shop.IsPlain := by
    refine ⟨by decide +kernel, fun id fields hfields => ?_⟩
    have hall : ∀ p ∈ shop.entries, p.2.keys ≠ [] ∧ ∀ name ∈ p.2.keys, '.' ∉ name.toList := by decide +kernel
    exact hall _ (Dict.get?_eq_some_iff.1 hfields)
  have htold : shop.IsTold (· = "db") := by
    intro id fields hfields hid
    obtain rfl : id = "db" := of_decide_eq_true hid
    cases hfields
    refine ⟨shopStrategies, rfl, by decide +kernel, by decide +kernel, fun v hv => ?_⟩
    cases hv
    exact ⟨shopLog, rfl, by decide +kernel⟩
  exact ⟨hplain, htold, by decide +kernel, ((readAll_in_each_form shop hplain).2 _ htold).1, by rfl⟩

end Family

end Testbed.Container
