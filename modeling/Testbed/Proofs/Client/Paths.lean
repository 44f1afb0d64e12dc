import Testbed.Client
import Testbed.Proofs.Text.Percent
import Mathlib.Data.List.TakeWhile

/-!
# Where requests arrive

A text that `Url.Carries` allows is carried by one segment of a path: a location leads on by it
(`extend_path`), the server cuts the path at the same places (`ofPath?_pathText`), and reads the text back
(`readParameter_encode`). So a request of a client at the root of a server arrives at the route that its
segments name (`route_request`), as any request does at the one that its path names (`route_of_path`).
-/

namespace Testbed

open Text.Percent (encode inSegment)

variable {segment : String} {segments path : List String}

namespace Url

/-! ### Leading on -/

/-- The text is carried by a segment of a path: it is not empty, no dot segment, and unbroken. -/
structure Carries (segment : String) : Prop where
  ne_empty : segment ≠ ""
  ne_dot : segment ≠ "."
  ne_dots : segment ≠ ".."
  unbroken : segment.toList.any isBreak = false

instance (segment : String) : Decidable (Carries segment) :=
  decidable_of_iff (segment ≠ "" ∧ segment ≠ "." ∧ segment ≠ ".." ∧ segment.toList.any isBreak = false)
    ⟨fun h => ⟨h.1, h.2.1, h.2.2.1, h.2.2.2⟩, fun h => ⟨h.ne_empty, h.ne_dot, h.ne_dots, h.unbroken⟩⟩

theorem encode_ne_empty (h : Carries segment) : encode inSegment segment ≠ "" :=
  Text.Percent.encode_ne_empty (by decide) h.ne_empty

/-- A text without its breaks, which a location takes out before it leads on. -/
def unbroken (s : String) : String := String.ofList (bare s.toList)

theorem unbroken_eq_self (h : segment.toList.any isBreak = false) : unbroken segment = segment := by
  have hbare : bare segment.toList = segment.toList :=
    List.filter_eq_self.2 fun c hc => by simpa using List.any_eq_false.1 h c hc
  rw [unbroken, hbare, String.ofList_toList]

theorem any_isBreak_unbroken (s : String) : (unbroken s).toList.any isBreak = false := by
  rw [unbroken, String.toList_ofList, List.any_eq_false]
  exact fun c hc => by simpa using (List.mem_filter.1 hc).2

theorem carries_unbroken_iff {s : String} :
    Carries (unbroken s) ↔ unbroken s ≠ "" ∧ unbroken s ≠ "." ∧ unbroken s ≠ ".." :=
  ⟨fun h => ⟨h.ne_empty, h.ne_dot, h.ne_dots⟩, fun h => ⟨h.1, h.2.1, h.2.2, any_isBreak_unbroken s⟩⟩

theorem push_of_carries_unbroken (h : Carries (unbroken segment)) : push path segment =
    (if path = [""] then [] else path) ++ [encode inSegment (unbroken segment)] := by
  have hdots : ¬(segment = "." ∨ segment = "..") := by
    rintro (rfl | rfl)
    · exact h.ne_dot (by decide)
    · exact h.ne_dots (by decide)
  have hname : String.ofList (bare segment.toList) = unbroken segment := rfl
  simp only [push, if_neg hdots, hname, h.ne_dot, h.ne_dots, if_false]

theorem push_eq (h : Carries segment) :
    push path segment = (if path = [""] then [] else path) ++ [encode inSegment segment] := by
  have hself := unbroken_eq_self h.unbroken
  rw [push_of_carries_unbroken (hself.symm ▸ h), hself]

theorem foldl_push (hpath : path ≠ [""]) (h : ∀ s ∈ segments, Carries s) :
    segments.foldl push path = path ++ segments.map (encode inSegment) := by
  induction segments generalizing path with
  | nil => simp
  | cons s segments ih =>
    obtain ⟨hs, hsegments⟩ := List.forall_mem_cons.1 h
    have hpath' : path ++ [encode inSegment s] ≠ [""] := by
      intro he
      rw [List.append_eq_singleton_iff] at he
      rcases he with ⟨-, he⟩ | ⟨-, he⟩
      · exact encode_ne_empty hs (List.singleton_inj.1 he)
      · cases he
    rw [List.foldl_cons, push_eq hs, if_neg hpath, ih hpath' hsegments, List.map_cons, List.append_assoc,
      List.singleton_append]

/-- A location at the root of its server. -/
structure AtRoot (u : Url) : Prop where
  path : u.path = [""]
  query : u.query = none

theorem extend_path {u : Url} (hu : u.AtRoot) (hne : segments ≠ []) (h : ∀ s ∈ segments, Carries s) :
    (u.extend segments).path = segments.map (encode inSegment) := by
  cases segments with
  | nil => exact absurd rfl hne
  | cons s segments =>
    obtain ⟨hs, hsegments⟩ := List.forall_mem_cons.1 h
    have hstart : [encode inSegment s] ≠ [""] := fun he => encode_ne_empty hs (List.singleton_inj.1 he)
    simp only [extend, hu.path, List.length_singleton, Nat.lt_irrefl, false_and, if_false, List.foldl_cons,
      push_eq hs, if_true, List.nil_append, foldl_push hstart hsegments, List.singleton_append, List.map_cons]

theorem target_of_query {u : Url} (h : u.query = none) : u.target = pathText u.path := by
  rw [target, h]
  exact String.append_empty

theorem toList_pathText (segments : List String) :
    (pathText segments).toList = segments.flatMap fun s => '/' :: s.toList := by
  simp [pathText, String.toList_join, List.flatMap_def, Function.comp_def]

/-! ### Taking apart -/

theorem splitChars_pathText {piece : List Char} (hpiece : '/' ∉ piece) (h : ∀ s ∈ segments, '/' ∉ s.toList) :
    Text.splitChars '/' (piece ++ segments.flatMap fun s => '/' :: s.toList) =
      piece :: segments.map String.toList := by
  induction segments generalizing piece with
  | nil => rw [List.flatMap_nil, List.append_nil, Text.splitChars_of_not_mem hpiece, List.map_nil]
  | cons s segments ih =>
    obtain ⟨hs, hsegments⟩ := List.forall_mem_cons.1 h
    rw [List.flatMap_cons, List.cons_append, Text.splitChars_append_cons hpiece, ih hs hsegments, List.map_cons]

theorem splitOn_pathText (h : ∀ s ∈ segments, '/' ∉ s.toList) :
    Text.splitOn '/' (pathText segments) = "" :: segments := by
  have hempty : '/' ∉ ([] : List Char) := List.not_mem_nil
  have hsplit := splitChars_pathText hempty h
  rw [List.nil_append] at hsplit
  rw [Text.splitOn, toList_pathText, hsplit]
  simp

end Url

namespace Server

theorem ofPath?_pathText (h : ∀ s ∈ segments, '/' ∉ s.toList) :
    Route.ofPath? (Url.pathText segments) = Route.ofSegments? segments := by
  rw [Route.ofPath?, Url.splitOn_pathText h]
  rfl

theorem readParameter_encode (name text : String) : readParameter name (encode inSegment text) = .ok text := by
  rw [readParameter, Text.Percent.decodeText?_encode (by decide)]

end Server

/-- A target that begins with a slash and names no query is the path. -/
theorem Http.Request.path_eq {r : Http.Request} (h : r.target.toList.head? = some '/')
    (htail : ∀ c ∈ r.target.toList, c ≠ '?' ∧ c ≠ '#') : r.path = r.target := by
  obtain ⟨cs, hcs⟩ := List.head?_eq_some_iff.1 h
  have htake : r.target.toList.takeWhile (fun c => c ≠ '?' ∧ c ≠ '#') = r.target.toList :=
    List.takeWhile_eq_self_iff.2 fun c hc => decide_eq_true (htail c hc)
  have hslash : isSchemeChar '/' = false := by decide
  rw [path, hcs, List.dropWhile_cons_of_neg (by simp [hslash]), ← hcs]
  simp only [htake]
  rw [hcs]
  show String.ofList ('/' :: cs) = r.target
  rw [← hcs, String.ofList_toList]

namespace Client

variable {c : Client}

/-- A request arrives at the route that its location's path names, if nothing in it parts or ends a path. -/
theorem route_of_path {u : Url} (hquery : u.query = none) (hne : u.path ≠ [])
    (h : ∀ s ∈ u.path, ∀ d ∈ s.toList, d ∉ ['#', '/', '?']) (method : Http.Method) (body : Option Bytes) :
    Server.Route.ofPath? (c.request method u body).received.path = Server.Route.ofSegments? u.path := by
  have htarget : (c.request method u body).received.target = Url.pathText u.path := Url.target_of_query hquery
  have hpath : (c.request method u body).received.path = (c.request method u body).received.target := by
    refine Http.Request.path_eq ?_ fun d hd => ?_
    · obtain ⟨s, path, hpath⟩ := List.exists_cons_of_ne_nil hne
      rw [htarget, Url.toList_pathText, hpath]
      rfl
    · rw [htarget, Url.toList_pathText] at hd
      obtain ⟨s, hs, hd⟩ := List.mem_flatMap.1 hd
      rcases List.mem_cons.1 hd with rfl | hd
      · decide
      · have hend := h s hs d hd
        simp only [List.mem_cons, not_or] at hend
        exact ⟨hend.2.2.1, hend.1⟩
  rw [hpath, htarget, Server.ofPath?_pathText]
  exact fun s hs hslash => h s hs '/' hslash (by decide)

/-- A request arrives at the route that its segments name. -/
theorem route_request (hroot : c.base.AtRoot) (hne : segments ≠ []) (h : ∀ s ∈ segments, Url.Carries s)
    (method : Http.Method) (body : Option Bytes) :
    Server.Route.ofPath? (c.request method (c.base.extend segments) body).received.path =
      Server.Route.ofSegments? (segments.map (encode inSegment)) := by
  have hpath := Url.extend_path hroot hne h
  have hquery : (c.base.extend segments).query = none := hroot.query
  have hends : ∀ s ∈ segments.map (encode inSegment), ∀ d ∈ s.toList, d ∉ ['#', '/', '?'] :=
    List.forall_mem_map.2 fun _ _ _ => Text.Percent.not_mem_of_mem_encode
  rw [← hpath] at hends ⊢
  refine route_of_path hquery ?_ hends method body
  rw [hpath]
  exact fun hnil => hne (List.map_eq_nil_iff.1 hnil)

end Client

end Testbed
