import Testbed.Container.Block
import Testbed.Proofs.FirstSeen
import Testbed.Proofs.Text.ByteOrder
import Testbed.Proofs.Value.Parts

/-!
# Families of blocks

A configuration has blocks in two places: in the map under `containers` and under flat keys. If it has one family in each
(`Shows`), its ids and the fields of its blocks are those of the family that the two make up (`MakeUp`), in which a flat
field takes the place of a nested one. All that is read of a block is told by its fields (`Alike.read`).
-/

namespace Testbed.Container

variable {config a b fields strategies : Properties} {id id' name name' part rest key m : String} {v : Value}
  {xs ys : List String}

namespace Block

/-! ### Keys -/

/-- The id and the field of a flat key. -/
def idAndField? (key : String) : Option (String × String) :=
  (Text.dropPrefix? (containersKey ++ ".") key).bind (Text.splitOnce? '.')

theorem idAndField?_fieldKey (h : '.' ∉ id.toList) : idAndField? (fieldKey id name) = some (id, name) := by
  have hdrop : Text.dropPrefix? (containersKey ++ ".") (fieldKey id name) = some (id ++ ("." ++ name)) := by
    simp only [Text.dropPrefix?_eq_some, fieldKey, String.append_assoc]
  rw [idAndField?, hdrop]
  exact Text.splitOnce?_append h name

theorem fieldKey_inj (hid : '.' ∉ id.toList) (hid' : '.' ∉ id'.toList) :
    fieldKey id name = fieldKey id' name' ↔ id = id' ∧ name = name' := by
  refine ⟨fun h => ?_, fun ⟨hid, hname⟩ => by rw [hid, hname]⟩
  have hparts := congrArg idAndField? h
  rw [idAndField?_fieldKey hid, idAndField?_fieldKey hid', Option.some_inj] at hparts
  exact Prod.ext_iff.1 hparts

theorem mem_ids : id ∈ ids config ↔
    (∃ pairs v, config.get? containersKey = some (.map pairs) ∧ (.string id, v) ∈ pairs) ∨
      ∃ key ∈ config.keys, ∃ name, idAndField? key = some (id, name) := by
  unfold ids
  rw [Dict.keys, Dict.ofList, Assoc.mem_keys_ofList]
  simp only [List.map_map, Function.comp_def, List.map_id', List.mem_append]
  refine or_congr ?_ ?_
  · split
    · rename_i pairs hpairs
      rw [Value.mem_filterMap_string?]
      simp [hpairs]
    · rename_i hnone
      refine iff_of_false List.not_mem_nil ?_
      rintro ⟨pairs, -, hpairs, -⟩
      exact hnone pairs hpairs
  · simp only [List.mem_filterMap, idAndField?, Option.bind_eq_bind, Option.bind_eq_some_iff, Prod.exists,
      Option.some.injEq]
    grind

theorem fieldKey_ne_containersKey : fieldKey id name ≠ containersKey := by
  intro h
  have hlength := congrArg String.length h
  have hdot : ".".length = 1 := rfl
  simp only [fieldKey, String.length_append] at hlength
  omega

/-! ### Strategies -/

/-- The segments that continue the flat keys of the strategies. -/
def flatNames (config : Properties) (id : String) : List String :=
  config.keys.filterMap fun key => (Text.dropPrefix? (fieldKey id waitKey ++ ".") key).map (Text.upTo '.')

def distinct (names : List String) : List String :=
  names.foldl (fun seen name => if name ∈ seen then seen else seen ++ [name]) []

/-- Of names in order it matters only which they are. -/
theorem distinct_congr (hxs : xs.Pairwise (· ≤ ·)) (hys : ys.Pairwise (· ≤ ·)) (h : ∀ m, m ∈ xs ↔ m ∈ ys) :
    distinct xs = distinct ys := by
  have hsorted {xs : List String} (hxs : xs.Pairwise (· ≤ ·)) :
      (distinct xs).Pairwise (· < ·) ∧ ∀ m, m ∈ distinct xs ↔ m ∈ xs := by
    obtain ⟨new, hnew, h⟩ := exists_gathers (fun _ => False) [] xs
    have hdistinct : distinct xs = new := by simpa [distinct] using hnew
    rw [hdistinct]
    refine ⟨((h.pairwise hxs).and h.nodup).imp fun ⟨hle, hne⟩ => lt_of_le_of_ne hle hne, fun m => ?_⟩
    simp [h.mem_iff]
  refine (hsorted hxs).1.eq_of_mem_iff (hsorted hys).1 fun m => ?_
  rw [(hsorted hxs).2, (hsorted hys).2, h]

theorem waitNames_of_none (h : field? config id waitKey = none) :
    waitNames config id = .ok (distinct (flatNames config id)) := by
  rw [waitNames, h]
  rfl

theorem waitNames_of_ofDict (h : field? config id waitKey = some (.ofDict strategies)) :
    waitNames config id = .ok (distinct (strategies.keys ++ flatNames config id)) := by
  have hown : (strategies.entries.map fun p => (Value.string p.1, p.2)).map (fun p => p.1.text) = strategies.keys := by
    simp [Dict.keys, Value.text]
  rw [waitNames, h, ← hown]
  rfl

theorem waitPart?_of_none (h : field? config id waitKey = none) (name part : String) :
    waitPart? config id name part = field? config id (waitKey ++ "." ++ name ++ "." ++ part) := by
  rw [waitPart?, h]
  split
  · rename_i v hv
    exact hv.symm
  · rename_i hnone
    exact hnone.symm

theorem waitPart?_of_ofDict (h : field? config id waitKey = some (.ofDict strategies))
    (hflat : field? config id (waitKey ++ "." ++ name ++ "." ++ part) = none) : waitPart? config id name part =
      ((strategies.get? name).bind fun parts => parts.map?.bind (Value.field? · part)).bind Value.nonNull? := by
  rw [waitPart?, hflat, h, ← Value.field?_ofDict]
  simp only [Option.bind_assoc]
  rfl

theorem mem_flatNames :
    m ∈ flatNames config id ↔ ∃ rest, fieldKey id waitKey ++ "." ++ rest ∈ config.keys ∧ Text.upTo '.' rest = m := by
  simp only [flatNames, List.mem_filterMap, Option.map_eq_some_iff, Text.dropPrefix?_eq_some]
  grind

theorem fieldKey_waitKey (rest : String) :
    fieldKey id waitKey ++ "." ++ rest = fieldKey id (waitKey ++ "." ++ rest) := by
  simp only [fieldKey, String.append_assoc]

/-! ### Blocks that are read alike -/

/-- The block of `id` in a configuration is the one of these fields. -/
structure Presents (config : Properties) (id : String) (fields : Properties) : Prop where
  field : ∀ name, field? config id name = (fields.get? name).bind Value.nonNull?
  flat : ∀ rest, fieldKey id waitKey ++ "." ++ rest ∈ config.keys ↔ waitKey ++ "." ++ rest ∈ fields.keys

/-- All fields of a block but its strategies. -/
def ownFields : List String :=
  ["image-name", "exposed-ports", "hostnames", "env", "network", "command", "startup-timeout"]

/-- Nothing that is read of a block differs. -/
structure Alike (a b : Properties) (id : String) : Prop where
  field : ∀ name ∈ ownFields, field? a id name = field? b id name
  names : waitNames a id = waitNames b id
  log : ∀ part, waitPart? a id "log" part = waitPart? b id "log" part

theorem Alike.read (h : Alike a b id) : Block.read a id = Block.read b id := by
  have hwait : readWait a id = readWait b id := by
    funext name
    simp only [readWait, logWait, h.log]
  have hfield := h.field
  simp only [ownFields, List.forall_mem_cons] at hfield
  obtain ⟨himage, hports, hhostnames, henv, hnetwork, hcommand, htimeout, -⟩ := hfield
  simp only [Block.read, himage, hports, hhostnames, henv, hnetwork, hcommand, htimeout, h.names, hwait]

theorem get?_append_eq_none (hplain : ∀ name ∈ fields.keys, '.' ∉ name.toList) :
    fields.get? (waitKey ++ "." ++ rest) = none := by
  refine Option.eq_none_iff_forall_ne_some.2 fun v hv => ?_
  exact hplain _ (Dict.mem_keys.2 ⟨v, hv⟩) (by simp)

theorem flatNames_eq_nil (h : Presents config id fields) (hplain : ∀ name ∈ fields.keys, '.' ∉ name.toList) :
    flatNames config id = [] := by
  refine List.eq_nil_iff_forall_not_mem.2 fun m hm => ?_
  obtain ⟨rest, hrest, -⟩ := mem_flatNames.1 hm
  exact hplain _ ((h.flat rest).1 hrest) (by simp)

theorem alike_of_presents (hplain : ∀ name ∈ fields.keys, '.' ∉ name.toList) (ha : Presents a id fields)
    (hb : Presents b id fields) : Alike a b id := by
  have hfield (name : String) : field? a id name = field? b id name := by rw [ha.field, hb.field]
  refine ⟨fun name _ => hfield name, ?_, fun part => ?_⟩
  · have hflat : flatNames a id = flatNames b id := by
      rw [flatNames_eq_nil ha hplain, flatNames_eq_nil hb hplain]
    unfold flatNames at hflat
    simp only [waitNames, hfield, hflat]
  · simp only [waitPart?, hfield]

end Block

open Block

/-- Blocks as they are given: by id the fields of each. -/
abbrev Family := Dict Properties

namespace Family

variable {F N O : Family}

def value? (F : Family) (id name : String) : Option Value := (F.get? id).bind (·.get? name)

/-- The family in a map under one key. -/
def nested (F : Family) : Properties := Dict.ofList [(containersKey, .ofDict (F.map .ofDict))]

/-- The family with a key for each field. -/
def flat (F : Family) : Properties :=
  Dict.ofList (F.entries.flatMap fun p => p.2.entries.map fun q => (fieldKey p.1 q.1, q.2))

/-- No id and no name of a field has a dot, and each block has a field. -/
structure IsPlain (F : Family) : Prop where
  id : ∀ id ∈ F.keys, '.' ∉ id.toList
  block : ∀ id fields, F.get? id = some fields → fields.keys ≠ [] ∧ ∀ name ∈ fields.keys, '.' ∉ name.toList

theorem value?_eq_some : F.value? id name = some v ↔ ∃ fields, F.get? id = some fields ∧ fields.get? name = some v :=
  Option.bind_eq_some_iff

theorem value?_of_get? (h : F.get? id = some fields) : F.value? id name = fields.get? name := by
  rw [value?, h, Option.bind_some]

theorem mem_keys_of_value? (h : F.value? id name = some v) : id ∈ F.keys := by
  obtain ⟨fields, hfields, -⟩ := value?_eq_some.1 h
  exact Dict.mem_keys.2 ⟨fields, hfields⟩

theorem IsPlain.exists_value? (hF : F.IsPlain) (hid : id ∈ F.keys) : ∃ name v, F.value? id name = some v := by
  obtain ⟨fields, hfields⟩ := Dict.mem_keys.1 hid
  obtain ⟨name, hname⟩ := List.exists_mem_of_ne_nil _ (hF.block id fields hfields).1
  obtain ⟨v, hv⟩ := Dict.mem_keys.1 hname
  exact ⟨name, v, (value?_of_get? hfields).trans hv⟩

theorem get?_flat (h : ∀ id ∈ F.keys, '.' ∉ id.toList) :
    F.flat.get? key = some v ↔ ∃ id name, F.value? id name = some v ∧ key = fieldKey id name := by
  have hmem : ∀ p : String × Value, (p ∈ F.entries.flatMap fun p => p.2.entries.map fun q => (fieldKey p.1 q.1, q.2)) ↔
      ∃ id name, F.value? id name = some p.2 ∧ p.1 = fieldKey id name := by
    rintro ⟨key, v⟩
    simp only [List.mem_flatMap, List.mem_map, Prod.exists, value?_eq_some, Dict.get?_eq_some_iff, Prod.mk.injEq]
    constructor
    · rintro ⟨id, fields, hid, name, _, hname, rfl, rfl⟩
      exact ⟨id, name, ⟨fields, hid, hname⟩, rfl⟩
    · rintro ⟨id, name, ⟨fields, hid, hname⟩, rfl⟩
      exact ⟨id, fields, hid, name, v, hname, rfl, rfl⟩
  refine (Assoc.get?_ofList_iff ?_).trans (hmem (key, v))
  intro p hp q hq hkey
  obtain ⟨id, name, hv, hpkey⟩ := (hmem p).1 hp
  obtain ⟨id', name', hw, hqkey⟩ := (hmem q).1 hq
  obtain ⟨rfl, rfl⟩ := (fieldKey_inj (h _ (mem_keys_of_value? hv)) (h _ (mem_keys_of_value? hw))).1
    (hpkey.symm.trans (hkey.trans hqkey))
  exact Option.some_inj.1 (hv.symm.trans hw)

/-! ### What a configuration shows -/

/-- The family `N` is under `containers`, the family `O` under flat keys, and there is nothing else. -/
structure Shows (config : Properties) (N O : Family) : Prop where
  nested : config.get? containersKey = none ∧ N = ∅ ∨ config.get? containersKey = some (.ofDict (N.map .ofDict))
  flat : ∀ key v, key ≠ containersKey →
    (config.get? key = some v ↔ ∃ id name, O.value? id name = some v ∧ key = fieldKey id name)
  id : ∀ id ∈ O.keys, '.' ∉ id.toList

theorem get?_flat_containersKey (h : ∀ id ∈ F.keys, '.' ∉ id.toList) : F.flat.get? containersKey = none := by
  refine Option.eq_none_iff_forall_ne_some.2 fun v hv => ?_
  obtain ⟨id, name, -, hkey⟩ := (get?_flat h).1 hv
  exact fieldKey_ne_containersKey hkey.symm

theorem get?_nested : F.nested.get? key = if key = containersKey then some (.ofDict (F.map .ofDict)) else none := by
  unfold nested Dict.get? Dict.ofList
  simp [Assoc.insertNew, Assoc.get?_cons]

theorem shows_flat (h : ∀ id ∈ F.keys, '.' ∉ id.toList) : Shows F.flat ∅ F where
  nested := .inl ⟨get?_flat_containersKey h, rfl⟩
  flat _ _ _ := get?_flat h
  id := h

theorem shows_layer (h : ∀ id ∈ O.keys, '.' ∉ id.toList) : Shows (N.nested.layer O.flat) N O where
  nested := by simp [Dict.get?_layer, get?_flat_containersKey h, get?_nested]
  flat key v hkey := by simp [Dict.get?_layer, get?_nested, hkey, get?_flat h]
  id := h

theorem shows_nested (F : Family) : Shows F.nested F ∅ where
  nested := .inr (by rw [get?_nested, if_pos rfl])
  flat key v hkey := by simp [get?_nested, hkey, value?]
  id := nofun

namespace Shows

theorem get?_fieldKey (h : Shows config N O) (hid : '.' ∉ id.toList) :
    config.get? (fieldKey id name) = O.value? id name := by
  refine Option.ext fun v => ?_
  rw [h.flat _ _ fieldKey_ne_containersKey]
  constructor
  · rintro ⟨id', name', hv, hkey⟩
    obtain ⟨rfl, rfl⟩ := (fieldKey_inj hid (h.id id' (mem_keys_of_value? hv))).1 hkey
    exact hv
  · exact fun hv => ⟨id, name, hv, rfl⟩

/-- A flat field hides the nested one, and null is none. -/
theorem field? (h : Shows config N O) (hid : '.' ∉ id.toList) :
    Block.field? config id name = ((O.value? id name).or (N.value? id name)).bind Value.nonNull? := by
  unfold Block.field?
  rw [h.get?_fieldKey hid]
  cases O.value? id name with
  | some v => rfl
  | none =>
    rcases h.nested with ⟨hnone, rfl⟩ | hsome
    · simp [hnone, value?]
    · simp only [hsome, Value.ofDict, Value.map?, Option.bind_eq_bind, Option.bind_some, Value.field?_ofDict,
        Dict.get?_map, Option.none_or, value?]
      cases N.get? id with
      | none => rfl
      | some fields => exact congrArg (Option.bind · Value.nonNull?) (Value.field?_ofDict fields name)

theorem mem_nested (h : Shows config N O) :
    (∃ pairs v, config.get? containersKey = some (.map pairs) ∧ (.string id, v) ∈ pairs) ↔ id ∈ N.keys := by
  rcases h.nested with ⟨hnone, rfl⟩ | hsome
  · exact iff_of_false (by simp [hnone]) List.not_mem_nil
  · simp [hsome, Value.ofDict, Dict.mem_keys, ← Dict.get?_eq_some_iff, Dict.get?_map]

theorem mem_ids (h : Shows config N O) : id ∈ ids config ↔ id ∈ N.keys ∨ ∃ name v, O.value? id name = some v := by
  rw [Block.mem_ids, h.mem_nested]
  refine or_congr_right ⟨?_, ?_⟩
  · rintro ⟨key, hmem, name, hkey⟩
    obtain ⟨v, hv⟩ := Dict.mem_keys.1 hmem
    have hne : key ≠ containersKey := by
      rintro rfl
      cases hkey
    obtain ⟨id', name', hv', rfl⟩ := (h.flat key v hne).1 hv
    rw [idAndField?_fieldKey (h.id id' (mem_keys_of_value? hv'))] at hkey
    cases hkey
    exact ⟨name, v, hv'⟩
  · rintro ⟨name, v, hv⟩
    have hid := h.id id (mem_keys_of_value? hv)
    refine ⟨fieldKey id name, Dict.mem_keys.2 ⟨v, ?_⟩, name, idAndField?_fieldKey hid⟩
    rw [h.get?_fieldKey hid, hv]

end Shows

/-- Two families, one nested and the other flat, make up a third. The nested one has no field that would be one of
strategies under flat keys. -/
structure MakeUp (N O F : Family) : Prop where
  key : ∀ id ∈ N.keys, id ∈ F.keys
  name : ∀ id name v, N.value? id name = some v → '.' ∉ name.toList
  value : ∀ id name, (O.value? id name).or (N.value? id name) = F.value? id name

theorem makeUp_flat (F : Family) : MakeUp ∅ F F where
  key := nofun
  name := nofun
  value _ _ := Option.or_none

theorem makeUp_nested (hF : F.IsPlain) : MakeUp F ∅ F where
  key _ hid := hid
  name id name v hv := by
    obtain ⟨fields, hfields, hname⟩ := value?_eq_some.1 hv
    exact (hF.block id fields hfields).2 name (Dict.mem_keys.2 ⟨v, hname⟩)
  value _ _ := Option.none_or

namespace MakeUp

theorem presents (hmake : MakeUp N O F) (h : Shows config N O) (hid : '.' ∉ id.toList)
    (hfields : F.get? id = some fields) : Presents config id fields where
  field name := by rw [h.field? hid, hmake.value, value?_of_get? hfields]
  flat rest := by
    have hnone : N.value? id (waitKey ++ "." ++ rest) = none := by
      refine Option.eq_none_iff_forall_ne_some.2 fun v hv => hmake.name _ _ v hv ?_
      simp
    have hvalue := hmake.value id (waitKey ++ "." ++ rest)
    rw [hnone, Option.or_none, value?_of_get? hfields] at hvalue
    rw [fieldKey_waitKey, Dict.mem_keys, Dict.mem_keys, h.get?_fieldKey hid, hvalue]

/-- Where no block is without fields, the ids are those of the family. -/
theorem ids_eq (hmake : MakeUp N O F) (h : Shows config N O)
    (hvalue : ∀ id ∈ F.keys, ∃ name v, F.value? id name = some v) : ids config = F.keys := by
  refine (Dict.pairwise_keys _).eq_of_mem_iff F.pairwise_keys fun id => ?_
  refine h.mem_ids.trans ⟨?_, fun hid => ?_⟩
  · rintro (hid | ⟨name, v, hv⟩)
    · exact hmake.key id hid
    · have hF : F.value? id name = some v := by rw [← hmake.value, hv, Option.some_or]
      exact mem_keys_of_value? hF
  · obtain ⟨name, v, hv⟩ := hvalue id hid
    rw [← hmake.value, Option.or_eq_some_iff] at hv
    rcases hv with hv | ⟨-, hv⟩
    · exact .inr ⟨name, v, hv⟩
    · exact .inl (mem_keys_of_value? hv)

end MakeUp

end Family

end Testbed.Container
