import Testbed.Message
import Testbed.Proofs.Outcome

/-!
# Which values are requests

The shapes of requests and of their parts, said without reading them. Reading succeeds on just the values of
the right shape (`ResolveRequest.exists_ofValue_iff`, `ListRequest.exists_ofValue_iff`).
-/

namespace Testbed.Message

open Outcome

variable {field : String} {v : Value} {pairs : List (Value × Value)}

def IsString (v : Value) : Prop := ∃ s, v = .string s

inductive IsStringList : Value → Prop
  | null : IsStringList .null
  | list {items : List Value} (h : ∀ v ∈ items, IsString v) : IsStringList (.list items)

inductive IsProperties : Value → Prop
  | null : IsProperties .null
  | map {pairs : List (Value × Value)} (h : ∀ p ∈ pairs, IsString p.1) : IsProperties (.map pairs)

inductive IsGroups : Value → Prop
  | null : IsGroups .null
  | map {pairs : List (Value × Value)} (h : ∀ p ∈ pairs, IsString p.1 ∧ IsStringList p.2) : IsGroups (.map pairs)

/-- A name is required; properties and configuration may be missing. -/
inductive IsResolveRequest : Value → Prop
  | map {pairs : List (Value × Value)} (name : ∃ v, Value.field? pairs "name" = some v ∧ IsString v)
    (properties : ∀ v ∈ Value.field? pairs "properties", IsProperties v)
    (config : ∀ v ∈ Value.field? pairs "config", IsProperties v) : IsResolveRequest (.map pairs)

inductive IsListRequest : Value → Prop
  | map {pairs : List (Value × Value)} (entries : ∀ v ∈ Value.field? pairs "propertyEntries", IsGroups v)
    (config : ∀ v ∈ Value.field? pairs "config", IsProperties v) : IsListRequest (.map pairs)

/-! ### Parts -/

theorem exists_expectString_iff : (∃ s, expectString field v = .ok s) ↔ IsString v := by
  constructor
  · rintro ⟨s, h⟩
    cases v with
    | string t => exact ⟨t, rfl⟩
    | _ => cases h
  · rintro ⟨s, rfl⟩
    exact ⟨s, rfl⟩

theorem exists_stringList_iff : (∃ xs, stringList field v = .ok xs) ↔ IsStringList v := by
  have hitems (items : List Value) :
      (∃ xs, stringList field (.list items) = .ok xs) ↔ ∀ v ∈ items, IsString v := by
    simp only [stringList, exists_mapM_eq_ok, exists_expectString_iff]
  constructor
  · intro h
    cases v with
    | null => exact .null
    | list items => exact .list ((hitems items).1 h)
    | _ => obtain ⟨_, h⟩ := h; cases h
  · rintro (_ | h)
    · exact ⟨[], rfl⟩
    · exact (hitems _).2 h

theorem exists_properties_iff : (∃ d, properties field v = .ok d) ↔ IsProperties v := by
  have hpairs (pairs : List (Value × Value)) :
      (∃ d, properties field (.map pairs) = .ok d) ↔ ∀ p ∈ pairs, IsString p.1 := by
    have hkey (v : Value) : IsString v ↔ ∃ s, expectString field v = .ok s := exists_expectString_iff.symm
    simp [properties, exists_mapM_eq_ok, exists_bind_eq_ok, hkey]
  constructor
  · intro h
    cases v with
    | null => exact .null
    | map pairs => exact .map ((hpairs pairs).1 h)
    | _ => obtain ⟨_, h⟩ := h; cases h
  · rintro (_ | h)
    · exact ⟨∅, rfl⟩
    · exact (hpairs _).2 h

theorem exists_propertiesField_iff :
    (∃ d, propertiesField field pairs = .ok d) ↔ ∀ v ∈ Value.field? pairs field, IsProperties v := by
  rw [propertiesField]
  cases Value.field? pairs field with
  | none => exact iff_of_true ⟨∅, rfl⟩ nofun
  | some v => simp [exists_properties_iff]

theorem exists_entryGroups_iff :
    (∃ g, entryGroups pairs = .ok g) ↔ ∀ v ∈ Value.field? pairs "propertyEntries", IsGroups v := by
  have hgroup (p : Value × Value) : (∃ q, (do
      let name ← expectString "propertyEntries" p.1
      let names ← stringList "propertyEntries" p.2
      .ok (name, names)) = (.ok q : Read (String × List String))) ↔ IsString p.1 ∧ IsStringList p.2 := by
    simp [exists_bind_eq_ok, exists_expectString_iff, exists_stringList_iff]
  unfold entryGroups
  cases Value.field? pairs "propertyEntries" with
  | none => exact iff_of_true ⟨∅, rfl⟩ nofun
  | some v =>
    simp only [Option.mem_some_iff, forall_eq']
    constructor
    · intro h
      cases v with
      | null => exact .null
      | map groups =>
        obtain ⟨gs, hgs, -⟩ := exists_bind_eq_ok.1 h
        exact .map fun p hp => (hgroup p).1 (exists_mapM_eq_ok.1 ⟨gs, hgs⟩ p hp)
      | _ => obtain ⟨_, h⟩ := h; cases h
    · rintro (_ | h)
      · exact ⟨∅, rfl⟩
      · obtain ⟨gs, hgs⟩ := exists_mapM_eq_ok.2 fun p hp => (hgroup p).2 (h p hp)
        exact exists_bind_eq_ok.2 ⟨gs, hgs, _, rfl⟩

/-! ### Requests -/

theorem ResolveRequest.exists_ofValue_iff : (∃ r, ResolveRequest.ofValue v = .ok r) ↔ IsResolveRequest v := by
  constructor
  · intro h
    cases v with
    | map pairs =>
      obtain ⟨_, hbody, h⟩ := exists_bind_eq_ok.1 h
      cases hbody
      cases hname : Value.field? pairs "name" with
      | none =>
        obtain ⟨_, h⟩ := h
        rw [hname] at h
        cases h
      | some name =>
        simp only [hname] at h
        obtain ⟨s, hs, h⟩ := exists_bind_eq_ok.1 h
        obtain ⟨properties, hproperties, h⟩ := exists_bind_eq_ok.1 h
        obtain ⟨config, hconfig, -⟩ := exists_bind_eq_ok.1 h
        exact .map ⟨name, hname, exists_expectString_iff.1 ⟨s, hs⟩⟩ (exists_propertiesField_iff.1 ⟨_, hproperties⟩)
          (exists_propertiesField_iff.1 ⟨_, hconfig⟩)
    | _ => obtain ⟨_, h⟩ := h; cases h
  · rintro ⟨⟨_, hname, s, rfl⟩, hproperties, hconfig⟩
    obtain ⟨properties, hproperties⟩ := exists_propertiesField_iff.2 hproperties
    obtain ⟨config, hconfig⟩ := exists_propertiesField_iff.2 hconfig
    refine ⟨⟨s, properties, config⟩, ?_⟩
    simp only [ofValue, expectMap, bind, Except.bind, hname, expectString, hproperties, hconfig]

theorem ListRequest.exists_ofValue_iff : (∃ r, ListRequest.ofValue v = .ok r) ↔ IsListRequest v := by
  constructor
  · intro h
    cases v with
    | map pairs =>
      obtain ⟨_, hbody, h⟩ := exists_bind_eq_ok.1 h
      cases hbody
      obtain ⟨entries, hentries, h⟩ := exists_bind_eq_ok.1 h
      obtain ⟨config, hconfig, -⟩ := exists_bind_eq_ok.1 h
      exact .map (exists_entryGroups_iff.1 ⟨_, hentries⟩) (exists_propertiesField_iff.1 ⟨_, hconfig⟩)
    | _ => obtain ⟨_, h⟩ := h; cases h
  · rintro ⟨hentries, hconfig⟩
    obtain ⟨entries, hentries⟩ := exists_entryGroups_iff.2 hentries
    obtain ⟨config, hconfig⟩ := exists_propertiesField_iff.2 hconfig
    refine ⟨⟨entries, config⟩, ?_⟩
    simp only [ofValue, expectMap, bind, Except.bind, hentries, hconfig]

end Testbed.Message
