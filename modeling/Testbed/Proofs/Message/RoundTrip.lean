import Testbed.Message
import Testbed.Proofs.Value.Parts

/-!
# Messages are read as they were written

Property maps, lists of names and single answers are read back from the values they are written as, and so
are requests and descriptors (`ofValue_toValue`). A request stands two levels above the values it carries
(`height_toValue_le_iff`).
-/

namespace Testbed

variable {n : Nat} {d : Properties} {xs : List String}

theorem Dict.ofList_entries {α : Type} (d : Dict α) : Dict.ofList d.entries = d :=
  Dict.ext_entries (Assoc.ofList_eq_self d.ascending)

namespace Value

theorem ascending_ofDict (d : Properties) : Assoc.Ascending (d.entries.map fun p => (string p.1, p.2)) := by
  rw [Assoc.Ascending, List.pairwise_map]
  exact d.ascending

theorem ordered_ofDict : (ofDict d).Ordered ↔ ∀ p ∈ d.entries, p.2.Ordered := by
  rw [ofDict, ordered_map, and_iff_right (ascending_ofDict d), List.forall_mem_map]
  exact forall₂_congr fun p _ => and_iff_right trivial

theorem height_ofDict_le_iff (hn : 0 < n) : (ofDict d).height ≤ n ↔ ∀ p ∈ d.entries, p.2.height < n := by
  rw [ofDict, height_map_le_iff, List.forall_mem_map]
  exact forall₂_congr fun p _ => and_iff_right hn

theorem height_ofDict_lt_iff : (ofDict d).height < n + 2 ↔ ∀ p ∈ d.entries, p.2.height ≤ n := by
  rw [Nat.lt_succ_iff, height_ofDict_le_iff n.succ_pos]
  exact forall₂_congr fun p _ => Nat.lt_succ_iff

theorem fits_ofDict (hlen : d.entries.length < 2 ^ 32)
    (h : ∀ p ∈ d.entries, (Text.utf8 p.1).length < 2 ^ 32 ∧ p.2.Fits) : (ofDict d).Fits :=
  .map (by rwa [List.length_map]) (List.forall_mem_map.2 fun p hp => .string (h p hp).1)
    (List.forall_mem_map.2 fun p hp => (h p hp).2)

theorem ordered_ofStrings (xs : List String) : (ofStrings xs).Ordered :=
  ordered_list.2 (List.forall_mem_map.2 fun _ _ => trivial)

theorem height_ofStrings_le (xs : List String) : (ofStrings xs).height ≤ 1 :=
  height_list_le_iff.2 (List.forall_mem_map.2 fun _ _ => Nat.one_pos)

theorem fits_ofStrings (hlen : xs.length < 2 ^ 32) (h : ∀ x ∈ xs, (Text.utf8 x).length < 2 ^ 32) :
    (ofStrings xs).Fits :=
  .list (by rwa [List.length_map]) (List.forall_mem_map.2 fun x hx => .string (h x hx))

theorem ordered_ofOption (x : Option String) : (ofOption x).Ordered := by
  cases x <;> trivial

theorem height_ofOption (x : Option String) : (ofOption x).height = 0 := by
  cases x <;> rfl

end Value

namespace Message

theorem stringList_ofStrings (field : String) (xs : List String) : stringList field (.ofStrings xs) = .ok xs := by
  rw [Value.ofStrings, stringList, List.mapM_map]
  exact List.mapM_pure.trans (congrArg pure (List.map_id' xs))

theorem optionalString_ofOption (field : String) (x : Option String) : optionalString field (.ofOption x) = .ok x := by
  cases x <;> rfl

theorem mapM_pairs {α : Type} {write : String × α → Value × Value} {read : Value × Value → Read (String × α)}
    (d : Dict α) (h : ∀ p, read (write p) = .ok p) : (d.entries.map write).mapM read = .ok d.entries := by
  have hread : (fun p => read (write p)) = pure := funext h
  rw [List.mapM_map]
  show d.entries.mapM (fun p => read (write p)) = _
  rw [hread, List.mapM_pure, List.map_id']
  rfl

theorem properties_ofDict (field : String) (d : Properties) : properties field (.ofDict d) = .ok d := by
  rw [Value.ofDict, properties, mapM_pairs]
  · exact congrArg Except.ok d.ofList_entries
  · exact fun p => rfl

theorem propertiesField_eq {field : String} {pairs : List (Value × Value)}
    (h : Value.field? pairs field = some (.ofDict d)) : propertiesField field pairs = .ok d := by
  rw [propertiesField, h]
  exact properties_ofDict field d

namespace ResolveRequest

theorem toValue_eq (r : ResolveRequest) : r.toValue = .map [(.string "config", .ofDict r.config),
    (.string "name", .string r.name), (.string "properties", .ofDict r.properties)] := rfl

theorem ofValue_toValue (r : ResolveRequest) : ofValue r.toValue = .ok r := by
  rw [toValue_eq]
  simp only [ofValue, expectMap, bind, Except.bind]
  rw [propertiesField_eq (d := r.properties) rfl, propertiesField_eq (d := r.config) rfl]
  rfl

/-- All values that the request carries. -/
def values (r : ResolveRequest) : List Value := (r.properties.entries ++ r.config.entries).map Prod.snd

theorem ordered_toValue {r : ResolveRequest} (h : ∀ v ∈ r.values, v.Ordered) : r.toValue.Ordered := by
  rw [values, List.forall_mem_map, List.forall_mem_append] at h
  refine Value.ordered_ofPairs ?_
  simp only [List.forall_mem_cons]
  exact ⟨⟨trivial, trivial⟩, ⟨trivial, Value.ordered_ofDict.2 h.1⟩, ⟨trivial, Value.ordered_ofDict.2 h.2⟩, nofun⟩

theorem fits_toValue {r : ResolveRequest} (hname : (Text.utf8 r.name).length < 2 ^ 32)
    (hproperties : (Value.ofDict r.properties).Fits) (hconfig : (Value.ofDict r.config).Fits) : r.toValue.Fits := by
  rw [toValue_eq]
  refine .map (by norm_num) ?_ ?_ <;> simp only [List.forall_mem_cons]
  · exact ⟨.string (by decide), .string (by decide), .string (by decide), nofun⟩
  · exact ⟨hconfig, .string hname, hproperties, nofun⟩

theorem height_toValue_le_iff {r : ResolveRequest} : r.toValue.height ≤ n + 2 ↔ ∀ v ∈ r.values, v.height ≤ n := by
  rw [values, List.forall_mem_map, List.forall_mem_append, toValue_eq, Value.height_map_le_iff]
  simp only [List.forall_mem_cons, Value.height_ofDict_lt_iff, Value.height, Nat.zero_lt_succ, true_and]
  exact ⟨fun h => ⟨h.2.1, h.1⟩, fun h => ⟨h.2, h.1, List.forall_mem_nil _⟩⟩

end ResolveRequest

theorem entryGroups_eq {g : EntryGroups} {pairs : List (Value × Value)}
    (h : Value.field? pairs "propertyEntries" = some (.ofDict (g.map .ofStrings))) : entryGroups pairs = .ok g := by
  rw [entryGroups, h]
  show ((g.entries.map _).map _).mapM _ >>= _ = _
  rw [List.map_map, mapM_pairs]
  · exact congrArg Except.ok g.ofList_entries
  · intro p
    show stringList _ (.ofStrings p.2) >>= _ = _
    rw [stringList_ofStrings]
    rfl

theorem forall_mem_groups {P : Value → Prop} {gs : EntryGroups} (h : ∀ xs, P (.ofStrings xs)) :
    ∀ p ∈ (gs.map Value.ofStrings).entries, P p.2 :=
  List.forall_mem_map.2 fun p _ => h p.2

namespace ListRequest

theorem toValue_eq (r : ListRequest) : r.toValue = .map [(.string "config", .ofDict r.config),
    (.string "propertyEntries", .ofDict (r.entries.map .ofStrings))] := rfl

theorem ofValue_toValue (r : ListRequest) : ofValue r.toValue = .ok r := by
  rw [toValue_eq]
  simp only [ofValue, expectMap, bind, Except.bind]
  rw [entryGroups_eq (g := r.entries) rfl, propertiesField_eq (d := r.config) rfl]

/-- All values that the request carries. -/
def values (r : ListRequest) : List Value := r.config.entries.map Prod.snd

theorem ordered_toValue {r : ListRequest} (h : ∀ v ∈ r.values, v.Ordered) : r.toValue.Ordered := by
  rw [values, List.forall_mem_map] at h
  refine Value.ordered_ofPairs ?_
  simp only [List.forall_mem_cons]
  exact ⟨⟨trivial, Value.ordered_ofDict.2 (forall_mem_groups Value.ordered_ofStrings)⟩,
    ⟨trivial, Value.ordered_ofDict.2 h⟩, nofun⟩

theorem fits_toValue {r : ListRequest} (hentries : (Value.ofDict (r.entries.map .ofStrings)).Fits)
    (hconfig : (Value.ofDict r.config).Fits) : r.toValue.Fits := by
  rw [toValue_eq]
  refine .map (by norm_num) ?_ ?_ <;> simp only [List.forall_mem_cons]
  · exact ⟨.string (by decide), .string (by decide), nofun⟩
  · exact ⟨hconfig, hentries, nofun⟩

theorem height_toValue_le_iff {r : ListRequest} (hn : 0 < n) :
    r.toValue.height ≤ n + 2 ↔ ∀ v ∈ r.values, v.height ≤ n := by
  have hgroups : ∀ p ∈ (r.entries.map Value.ofStrings).entries, p.2.height ≤ n :=
    forall_mem_groups (P := fun v => v.height ≤ n) fun xs => Nat.le_trans (Value.height_ofStrings_le xs) hn
  rw [values, List.forall_mem_map, toValue_eq, Value.height_map_le_iff]
  simp only [List.forall_mem_cons, Value.height_ofDict_lt_iff, Value.height, Nat.zero_lt_succ, true_and]
  exact ⟨fun h => h.1, fun h => ⟨h, hgroups, List.forall_mem_nil _⟩⟩

end ListRequest

namespace Descriptor

theorem toValue_eq (d : Descriptor) : d.toValue = .map [(.string "id", .string d.id),
    (.string "imageName", .string d.imageName), (.string "name", .string d.name),
    (.string "scope", .string d.scope)] := rfl

theorem ofValue_toValue (d : Descriptor) : ofValue d.toValue = .ok d := rfl

theorem ordered_toValue (d : Descriptor) : d.toValue.Ordered :=
  Value.ordered_ofPairs (by simp [Value.Ordered])

theorem fits_toValue {d : Descriptor} (hname : (Text.utf8 d.name).length < 2 ^ 32)
    (himage : (Text.utf8 d.imageName).length < 2 ^ 32) (hid : (Text.utf8 d.id).length < 2 ^ 32)
    (hscope : (Text.utf8 d.scope).length < 2 ^ 32) : d.toValue.Fits := by
  rw [toValue_eq]
  refine .map (by norm_num) ?_ ?_ <;> simp only [List.forall_mem_cons]
  · exact ⟨.string (by decide), .string (by decide), .string (by decide), .string (by decide), nofun⟩
  · exact ⟨.string hid, .string himage, .string hname, .string hscope, nofun⟩

theorem height_toValue_le (d : Descriptor) : d.toValue.height ≤ 1 := by
  rw [toValue_eq, Value.height_map_le_iff]
  simp [Value.height]

end Descriptor

end Message

end Testbed
