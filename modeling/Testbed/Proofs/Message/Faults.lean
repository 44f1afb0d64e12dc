import Testbed.Proofs.Message.RoundTrip
import Testbed.Proofs.Message.Shape

/-!
# What a value holds as a request, and what is wrong with it

A value that is read as a request holds just what the request is made of (`IsHeldBy`), and one that is not has faults.
These are listed in the order of reading, field by field and in a field from the first key or member to the last, and
the first of them is the one reported (`Reports`): so each error says what it is that comes first.
-/

namespace Testbed.Message

open Outcome

variable {α β : Type} {field : String} {v w : Value} {pairs : List (Value × Value)} {x : Read α} {early late : List Error}

/-! ### Entries -/

inductive IsStrings : Value → List String → Prop
  | null : IsStrings .null []
  | list (xs : List String) : IsStrings (.ofStrings xs) xs

/-- What stands in a field, if anything does, has just the entries of `d`. -/
inductive Entries (holds : Value → α → Prop) : Option Value → Dict α → Prop
  | absent : Entries holds none ∅
  | null : Entries holds (some .null) ∅
  | map {pairs : List (Value × Value)} {d : Dict α} (parts : ∀ p ∈ pairs, IsString p.1 ∧ ∃ a, holds p.2 a)
    (entries : ∀ name a, d.get? name = some a ↔ ∃ v, (.string name, v) ∈ pairs ∧ holds v a) :
    Entries holds (some (.map pairs)) d

theorem expectString_eq_ok {s : String} : expectString field v = .ok s ↔ v = .string s := by
  cases v <;> simp [expectString, unexpected]

theorem stringList_eq_ok {xs : List String} : stringList field v = .ok xs ↔ IsStrings v xs := by
  constructor
  · intro h
    cases v with
    | null =>
      cases h
      exact .null
    | list items =>
      have hitems := map_eq_of_mapM h fun _ _ hx => (expectString_eq_ok.1 hx).symm
      exact hitems ▸ .list xs
    | _ => cases h
  · rintro (_ | xs)
    · rfl
    · exact stringList_ofStrings field xs

theorem ok_empty_iff {holds : Value → α → Prop} {d : Dict α} {o : Option Value} (ho : o = none ∨ o = some .null) :
    (.ok ∅ : Read (Dict α)) = .ok d ↔ Entries holds o d := by
  constructor
  · rintro ⟨⟩
    rcases ho with rfl | rfl
    · exact .absent
    · exact .null
  · rintro (_ | _ | _)
    · rfl
    · rfl
    · simp at ho

/-- Pairs that are read one by one become the entries of a map. -/
theorem entries_of_mapM {holds : Value → α → Prop} {read : Value × Value → Read (String × α)} {d : Dict α}
    (hread : ∀ p q, read p = .ok q ↔ p.1 = .string q.1 ∧ holds p.2 q.2) (hpairs : Assoc.Ascending pairs) :
    (pairs.mapM read >>= fun qs => .ok (Dict.ofList qs)) = .ok d ↔ Entries holds (some (.map pairs)) d := by
  have hentries {qs : List (String × α)} (hqs : pairs.mapM read = .ok qs) (name : String) (a : α) :
      (Dict.ofList qs).get? name = some a ↔ ∃ v, (.string name, v) ∈ pairs ∧ holds v a := by
    have hascending : Assoc.Ascending qs := by
      refine pairwise_of_mapM_eq_ok hqs (fun p p' q q' hq hq' hlt => ?_) hpairs
      rw [((hread p q).1 hq).1, ((hread p' q').1 hq').1] at hlt
      exact hlt
    show Assoc.get? name (Assoc.ofList qs) = some a ↔ _
    rw [Assoc.ofList_eq_self hascending, Assoc.get?_eq_some_iff hascending, mem_of_mapM_eq_ok hqs]
    constructor
    · rintro ⟨⟨_, v⟩, hp, hq⟩
      obtain ⟨rfl, ha⟩ := (hread _ _).1 hq
      exact ⟨v, hp, ha⟩
    · rintro ⟨v, hp, ha⟩
      exact ⟨_, hp, (hread _ _).2 ⟨rfl, ha⟩⟩
  constructor
  · intro h
    obtain ⟨qs, hqs, h⟩ := bind_eq_ok.1 h
    cases h
    refine .map (fun p hp => ?_) (hentries hqs)
    obtain ⟨q, hq⟩ := exists_mapM_eq_ok.1 ⟨qs, hqs⟩ p hp
    exact ⟨⟨q.1, ((hread p q).1 hq).1⟩, q.2, ((hread p q).1 hq).2⟩
  · rintro (_ | _ | ⟨hparts, hd⟩)
    obtain ⟨qs, hqs⟩ := exists_mapM_eq_ok.2 fun p hp => by
      obtain ⟨⟨name, hname⟩, a, ha⟩ := hparts p hp
      exact ⟨(name, a), (hread p (name, a)).2 ⟨hname, ha⟩⟩
    have hsame : Dict.ofList qs = d := Dict.ext_get? fun name => Option.ext fun a => by rw [hentries hqs, hd]
    exact bind_eq_ok.2 ⟨qs, hqs, congrArg Except.ok hsame⟩

theorem properties_eq_ok {d : Properties} (hv : v.Ordered) : properties field v = .ok d ↔ Entries Eq (some v) d := by
  cases v with
  | null => exact ok_empty_iff (.inr rfl)
  | map pairs =>
    refine entries_of_mapM (fun p q => ?_) (Value.ordered_map.1 hv).1
    simp only [bind_eq_ok, expectString_eq_ok]
    constructor
    · rintro ⟨name, hname, ⟨⟩⟩
      exact ⟨hname, rfl⟩
    · rintro ⟨hname, hvalue⟩
      exact ⟨q.1, hname, hvalue ▸ rfl⟩
  | _ => exact iff_of_false nofun nofun

theorem ordered_of_field? (hpairs : (Value.map pairs).Ordered) (hv : Value.field? pairs field = some v) : v.Ordered := by
  obtain ⟨hascending, hparts⟩ := Value.ordered_map.1 hpairs
  exact (hparts _ ((Assoc.get?_eq_some_iff hascending).1 hv)).2

theorem propertiesField_eq_ok {d : Properties} (hpairs : (Value.map pairs).Ordered) :
    propertiesField field pairs = .ok d ↔ Entries Eq (Value.field? pairs field) d := by
  rw [propertiesField]
  cases hv : Value.field? pairs field with
  | none => exact ok_empty_iff (.inl rfl)
  | some v => exact properties_eq_ok (ordered_of_field? hpairs hv)

theorem entryGroups_eq_ok {d : EntryGroups} (hpairs : (Value.map pairs).Ordered) :
    entryGroups pairs = .ok d ↔ Entries IsStrings (Value.field? pairs "propertyEntries") d := by
  unfold entryGroups
  cases hv : Value.field? pairs "propertyEntries" with
  | none => exact ok_empty_iff (.inl rfl)
  | some v =>
    have hordered := ordered_of_field? hpairs hv
    cases v with
    | null => exact ok_empty_iff (.inr rfl)
    | map groups =>
      refine entries_of_mapM (fun p q => ?_) (Value.ordered_map.1 hordered).1
      simp only [bind_eq_ok, expectString_eq_ok, stringList_eq_ok]
      constructor
      · rintro ⟨name, hname, names, hnames, ⟨⟩⟩
        exact ⟨hname, hnames⟩
      · rintro ⟨hname, hnames⟩
        exact ⟨q.1, hname, q.2, hnames, rfl⟩
    | _ => exact iff_of_false nofun nofun

/-! ### Faults -/

def stringFaults (field : String) : Value → List Error
  | .string _ => []
  | v => [.unexpectedKind field "string" v.kind]

def stringListFaults (field : String) : Value → List Error
  | .null => []
  | .list items => items.flatMap (stringFaults field)
  | v => [.unexpectedKind field "list" v.kind]

/-- The faults of a map or null, those of a map in the order of its pairs. -/
def mapFaults (field : String) (faults : Value × Value → List Error) : Value → List Error
  | .null => []
  | .map pairs => pairs.flatMap faults
  | v => [.unexpectedKind field "map" v.kind]

def propertiesFaults (field : String) : Value → List Error := mapFaults field fun p => stringFaults field p.1

def groupsFaults (field : String) : Value → List Error :=
  mapFaults field fun p => stringFaults field p.1 ++ stringListFaults field p.2

/-- The first of the faults is reported, if there are any. -/
def Reports (x : Read α) (faults : List Error) : Prop := ∀ e, x = .error e ↔ faults.head? = some e

theorem reports_ok (a : α) : Reports (.ok a) [] := by simp [Reports]

theorem reports_unexpected {expected : String} :
    Reports (unexpected field expected v : Read α) [.unexpectedKind field expected v.kind] := by
  simp [Reports, unexpected]

theorem Reports.bind {f : α → Read β} (hx : Reports x early) (hf : ∀ a, Reports (f a) late) :
    Reports (x >>= f) (early ++ late) := by
  intro e
  rw [List.head?_append, bind_eq_error, hx]
  cases x with
  | error c =>
    have hc := (hx c).1 rfl
    simp [hc]
  | ok a =>
    have hnone : early.head? = none := Option.eq_none_iff_forall_ne_some.2 fun e he => nomatch (hx e).2 he
    simp [hnone, (hf a) e]

theorem Reports.bind_ok (hx : Reports x early) (f : α → β) : Reports (x >>= fun a => .ok (f a)) early := by
  simpa using hx.bind fun a => reports_ok (f a)

theorem reports_mapM {f : α → Read β} {faults : α → List Error} (h : ∀ a, Reports (f a) (faults a)) (xs : List α) :
    Reports (xs.mapM f) (xs.flatMap faults) := by
  induction xs with
  | nil => exact reports_ok []
  | cons a xs ih =>
    rw [List.mapM_cons, List.flatMap_cons]
    exact (h a).bind fun b => ih.bind_ok fun bs => b :: bs

theorem reports_expectString (field : String) (v : Value) : Reports (expectString field v) (stringFaults field v) := by
  cases v with
  | string s => exact reports_ok s
  | _ => exact reports_unexpected

theorem reports_stringList (field : String) (v : Value) : Reports (stringList field v) (stringListFaults field v) := by
  cases v with
  | null => exact reports_ok []
  | list items => exact reports_mapM (reports_expectString field) items
  | _ => exact reports_unexpected

theorem reports_propertiesField (field : String) (pairs : List (Value × Value)) :
    Reports (propertiesField field pairs) ((Value.field? pairs field).elim [] (propertiesFaults field)) := by
  rw [propertiesField]
  cases Value.field? pairs field with
  | none => exact reports_ok ∅
  | some v =>
    cases v with
    | null => exact reports_ok ∅
    | map pairs =>
      have hpairs := reports_mapM (fun p => (reports_expectString field p.1).bind_ok fun name => (name, p.2)) pairs
      exact hpairs.bind_ok Dict.ofList
    | _ => exact reports_unexpected

theorem reports_entryGroups (pairs : List (Value × Value)) : Reports (entryGroups pairs)
    ((Value.field? pairs "propertyEntries").elim [] (groupsFaults "propertyEntries")) := by
  unfold entryGroups
  cases Value.field? pairs "propertyEntries" with
  | none => exact reports_ok ∅
  | some v =>
    cases v with
    | null => exact reports_ok ∅
    | map groups =>
      have hgroups := reports_mapM (fun p => (reports_expectString "propertyEntries" p.1).bind fun name =>
        (reports_stringList "propertyEntries" p.2).bind_ok fun names => (name, names)) groups
      exact hgroups.bind_ok Dict.ofList
    | _ => exact reports_unexpected

/-! ### Requests -/

/-- Both are maps, and the same stands in them under `names`. -/
def AgreeOn (names : List String) (v w : Value) : Prop :=
  ∃ pairs others, v = .map pairs ∧ w = .map others ∧
    ∀ name ∈ names, Value.field? others name = Value.field? pairs name

namespace ResolveRequest

structure IsHeldBy (r : ResolveRequest) (pairs : List (Value × Value)) : Prop where
  name : Value.field? pairs "name" = some (.string r.name)
  properties : Entries Eq (Value.field? pairs "properties") r.properties
  config : Entries Eq (Value.field? pairs "config") r.config

/-- The faults of a value as a request, in the order of reading. -/
def faults : Value → List Error
  | .map pairs =>
    (Value.field? pairs "name").elim [.missingField "name"] (stringFaults "name") ++
      ((Value.field? pairs "properties").elim [] (propertiesFaults "properties") ++
        (Value.field? pairs "config").elim [] (propertiesFaults "config"))
  | v => [.unexpectedKind "body" "map" v.kind]

def nameField (pairs : List (Value × Value)) : Read String :=
  (Value.field? pairs "name").elim (.error (.missingField "name")) (expectString "name")

theorem ofValue_map (pairs : List (Value × Value)) : ofValue (.map pairs) = (do
    let name ← nameField pairs
    let properties ← propertiesField "properties" pairs
    let config ← propertiesField "config" pairs
    .ok ⟨name, properties, config⟩) := by
  simp only [ofValue, expectMap, nameField, bind, Except.bind]
  cases Value.field? pairs "name" <;> rfl

theorem nameField_eq_ok {s : String} : nameField pairs = .ok s ↔ Value.field? pairs "name" = some (.string s) := by
  unfold nameField
  cases Value.field? pairs "name" <;> simp [expectString_eq_ok]

theorem reports_nameField (pairs : List (Value × Value)) : Reports (nameField pairs)
    ((Value.field? pairs "name").elim [.missingField "name"] (stringFaults "name")) := by
  unfold nameField
  cases Value.field? pairs "name" with
  | none => simp [Reports]
  | some v => exact reports_expectString "name" v

theorem ofValue_eq_ok {r : ResolveRequest} (hv : v.Ordered) :
    ofValue v = .ok r ↔ ∃ pairs, v = .map pairs ∧ r.IsHeldBy pairs := by
  cases v with
  | map pairs =>
    simp only [ofValue_map, bind_eq_ok, nameField_eq_ok, propertiesField_eq_ok hv]
    constructor
    · rintro ⟨name, hname, properties, hproperties, config, hconfig, ⟨⟩⟩
      exact ⟨pairs, rfl, hname, hproperties, hconfig⟩
    · rintro ⟨_, ⟨⟩, hname, hproperties, hconfig⟩
      exact ⟨_, hname, _, hproperties, _, hconfig, rfl⟩
  | _ => exact iff_of_false nofun nofun

theorem reports_ofValue (v : Value) : Reports (ofValue v) (faults v) := by
  cases v with
  | map pairs =>
    rw [ofValue_map]
    exact (reports_nameField pairs).bind fun name => (reports_propertiesField "properties" pairs).bind fun properties =>
      (reports_propertiesField "config" pairs).bind_ok fun config => (⟨name, properties, config⟩ : ResolveRequest)
  | _ => exact reports_unexpected

theorem ofValue_congr (h : AgreeOn ["name", "properties", "config"] v w) : ofValue w = ofValue v := by
  obtain ⟨pairs, others, rfl, rfl, hsame⟩ := h
  simp only [List.forall_mem_cons] at hsame
  obtain ⟨hname, hproperties, hconfig, -⟩ := hsame
  simp only [ofValue_map, nameField, propertiesField, hname, hproperties, hconfig]

end ResolveRequest

namespace ListRequest

structure IsHeldBy (r : ListRequest) (pairs : List (Value × Value)) : Prop where
  entries : Entries IsStrings (Value.field? pairs "propertyEntries") r.entries
  config : Entries Eq (Value.field? pairs "config") r.config

def faults : Value → List Error
  | .map pairs =>
    (Value.field? pairs "propertyEntries").elim [] (groupsFaults "propertyEntries") ++
      (Value.field? pairs "config").elim [] (propertiesFaults "config")
  | v => [.unexpectedKind "body" "map" v.kind]

theorem ofValue_map (pairs : List (Value × Value)) : ofValue (.map pairs) = (do
    let entries ← entryGroups pairs
    let config ← propertiesField "config" pairs
    .ok ⟨entries, config⟩) := rfl

theorem ofValue_eq_ok {r : ListRequest} (hv : v.Ordered) :
    ofValue v = .ok r ↔ ∃ pairs, v = .map pairs ∧ r.IsHeldBy pairs := by
  cases v with
  | map pairs =>
    simp only [ofValue_map, bind_eq_ok, entryGroups_eq_ok hv, propertiesField_eq_ok hv]
    constructor
    · rintro ⟨entries, hentries, config, hconfig, ⟨⟩⟩
      exact ⟨pairs, rfl, hentries, hconfig⟩
    · rintro ⟨_, ⟨⟩, hentries, hconfig⟩
      exact ⟨_, hentries, _, hconfig, rfl⟩
  | _ => exact iff_of_false nofun nofun

theorem reports_ofValue (v : Value) : Reports (ofValue v) (faults v) := by
  cases v with
  | map pairs =>
    rw [ofValue_map]
    exact (reports_entryGroups pairs).bind fun entries =>
      (reports_propertiesField "config" pairs).bind_ok fun config => (⟨entries, config⟩ : ListRequest)
  | _ => exact reports_unexpected

theorem ofValue_congr (h : AgreeOn ["propertyEntries", "config"] v w) : ofValue w = ofValue v := by
  obtain ⟨pairs, others, rfl, rfl, hsame⟩ := h
  simp only [List.forall_mem_cons] at hsame
  obtain ⟨hentries, hconfig, -⟩ := hsame
  simp only [ofValue_map, entryGroups, propertiesField, hentries, hconfig]

end ListRequest

/-- A value is read as a request if and only if it has the shape of one, and then the request is what it holds; else the
first of its faults is reported. What stands under other keys does not matter. -/
theorem first_fault_is_reported (v : Value) (hv : v.Ordered) :
    ((∃ r, ResolveRequest.ofValue v = .ok r) ↔ IsResolveRequest v) ∧
    (∀ r, ResolveRequest.ofValue v = .ok r ↔ ∃ pairs, v = .map pairs ∧ r.IsHeldBy pairs) ∧
    (∀ e, ResolveRequest.ofValue v = .error e ↔ (ResolveRequest.faults v).head? = some e) ∧
    (∀ w, AgreeOn ["name", "properties", "config"] v w → ResolveRequest.ofValue w = ResolveRequest.ofValue v) ∧
    ((∃ r, ListRequest.ofValue v = .ok r) ↔ IsListRequest v) ∧
    (∀ r, ListRequest.ofValue v = .ok r ↔ ∃ pairs, v = .map pairs ∧ r.IsHeldBy pairs) ∧
    (∀ e, ListRequest.ofValue v = .error e ↔ (ListRequest.faults v).head? = some e) ∧
    (∀ w, AgreeOn ["propertyEntries", "config"] v w → ListRequest.ofValue w = ListRequest.ofValue v) :=
  ⟨ResolveRequest.exists_ofValue_iff, fun _ => ResolveRequest.ofValue_eq_ok hv, ResolveRequest.reports_ofValue v,
    fun _ => ResolveRequest.ofValue_congr, ListRequest.exists_ofValue_iff, fun _ => ListRequest.ofValue_eq_ok hv,
    ListRequest.reports_ofValue v, fun _ => ListRequest.ofValue_congr⟩

/-- Not all keys of the properties are texts, and none of the configuration is. -/
def faulty : Value :=
  .ofPairs [(.string "name", .string "db"), (.string "config", .ofPairs [(.int 7, .null), (.null, .null)]),
    (.string "properties", .ofPairs [(.string "user", .null), (.bool true, .null)])]

/-- The properties of `faulty` are looked at before its configuration, but only in a request for a name. -/
theorem first_fault_of_faulty :
    faulty.Ordered ∧ ¬IsResolveRequest faulty ∧
      (ResolveRequest.faults faulty).length = 3 ∧
      ResolveRequest.ofValue faulty = .error (.unexpectedKind "properties" "string" "boolean") ∧
      ListRequest.ofValue faulty = .error (.unexpectedKind "config" "string" "null") := by
  have hordered : faulty.Ordered := by
    have hproperties : (Value.ofPairs [(.string "user", .null), (.bool true, .null)]).Ordered :=
      Value.ordered_ofPairs (by simp [Value.Ordered])
    have hconfig : (Value.ofPairs [(.int 7, .null), (.null, .null)]).Ordered :=
      Value.ordered_ofPairs (by simp [Value.Ordered])
    exact Value.ordered_ofPairs (by simp [Value.Ordered, hproperties, hconfig])
  obtain ⟨hshape, -, hresolve, -, -, -, hlist, -⟩ := first_fault_is_reported faulty hordered
  have herror := (hresolve (.unexpectedKind "properties" "string" "boolean")).2 (by decide)
  refine ⟨hordered, fun h => ?_, by decide, herror, (hlist _).2 (by decide)⟩
  obtain ⟨r, hr⟩ := hshape.2 h
  rw [herror] at hr
  cases hr

end Testbed.Message
