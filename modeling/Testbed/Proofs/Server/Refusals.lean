import Testbed.Proofs.Codec.Grammar
import Testbed.Proofs.Message.Shape
import Testbed.Proofs.Server.Denied

/-!
# What a refused request leaves behind

A request is taken apart before anything is done for it. So whatever is answered with another status than 200 or
500 was not carried out (`handle_of_refused`), and a body is refused for what it is alone: because it bears no
value, or one of the wrong shape (`refused_without_trace`). Only an answer that is too long to be written is refused
once it has been found, and what was done to find it stays done (`long_answer_is_refused`).
-/

namespace Testbed.Server

open Outcome

variable {body : Bytes} {v : Value} {e : Failure}

/-! ### Bodies -/

/-- The value of a body: of an empty one null, of any other the one that all of it is derived for. -/
def Bears (body : Bytes) (v : Value) : Prop := if body = [] then v = .null else Codec.Derives 0 v body

theorem readBody_eq_ok (hsize : body.length ≤ maxBody) : readBody body = .ok v ↔ Bears body v := by
  rw [readBody, if_neg (Nat.not_lt.2 hsize), Bears]
  by_cases hempty : body = []
  · rw [hempty]
    simp [eq_comm]
  · rw [if_neg (by simpa using hempty), if_neg hempty, mapError_eq_ok, Codec.decode_eq_ok,
      Codec.reads_decodeNext.ok_nil_iff]

theorem status_of_readBody_error (h : readBody body = .error e) : e.status = 400 := by
  unfold readBody at h
  split at h
  · cases h
    rfl
  · split at h
    · cases h
    · obtain ⟨cause, -, rfl⟩ := mapError_eq_error.1 h
      rfl

theorem exists_readResolve_iff (hsize : body.length ≤ maxBody) :
    (∃ request, readResolve body = .ok request) ↔ ∃ v, Bears body v ∧ Message.IsResolveRequest v := by
  simp only [readResolve, exists_bind_eq_ok, mapError_eq_ok, readBody_eq_ok hsize,
    Message.ResolveRequest.exists_ofValue_iff]

theorem status_of_readResolve_error (h : readResolve body = .error e) : e.status = 400 := by
  rcases bind_eq_error.1 h with h | ⟨v, -, h⟩
  · exact status_of_readBody_error h
  · obtain ⟨cause, -, rfl⟩ := mapError_eq_error.1 h
    rfl

theorem exists_readList_iff (hsize : body.length ≤ maxBody) :
    (∃ request, readList body = .ok request) ↔ ∃ v, Bears body v ∧ (v = .null ∨ Message.IsListRequest v) := by
  simp only [readList, exists_bind_eq_ok, readBody_eq_ok hsize]
  refine exists_congr fun v => and_congr_right fun _ => ?_
  cases v with
  | null => simp
  | _ => simp [mapError_eq_ok, Message.ListRequest.exists_ofValue_iff]

theorem status_of_readList_error (h : readList body = .error e) : e.status = 400 := by
  rcases bind_eq_error.1 h with h | ⟨v, -, h⟩
  · exact status_of_readBody_error h
  · split at h
    · cases h
    · obtain ⟨cause, -, rfl⟩ := mapError_eq_error.1 h
      rfl

theorem Bears.unique {w : Value} (hv : Bears body v) (hw : Bears body w) : v = w := by
  unfold Bears at hv hw
  split at hv
  · rw [if_pos ‹_›] at hw
    exact hv.trans hw.symm
  · rw [if_neg ‹_›] at hw
    have hsame : body ++ [] = body ++ [] := rfl
    exact (Codec.reads_decodeNext.unique hv hw hsame).1

/-- Not to bear a value that is wanted is to bear none or another one. -/
theorem not_exists_bears_iff {P : Value → Prop} : (¬∃ v, Bears body v ∧ P v) ↔
    (body ≠ [] ∧ ¬∃ v, Codec.Derives 0 v body) ∨ ∃ v, Bears body v ∧ ¬P v := by
  have hnone : (body ≠ [] ∧ ¬∃ v, Codec.Derives 0 v body) ↔ ¬∃ v, Bears body v := by
    by_cases hempty : body = []
    · simp [Bears, hempty]
    · simp [Bears, hempty]
  rw [hnone]
  constructor
  · intro h
    by_cases hbears : ∃ v, Bears body v
    · obtain ⟨v, hv⟩ := hbears
      exact .inr ⟨v, hv, fun hP => h ⟨v, hv, hP⟩⟩
    · exact .inl hbears
  · rintro (h | ⟨v, hv, hP⟩) ⟨w, hw, hPw⟩
    · exact h ⟨w, hw⟩
    · exact hP (hv.unique hw ▸ hPw)

/-! ### Requests -/

variable {ρ σ : Type} [Held ρ σ] [Described ρ] {server : Server (Site ρ σ)} {remote : Address} {r : Http.Request}
  {s : State ρ σ}

/-- The body asks for a value that the engine has, as a text that is too long to be written, and finding it makes the
site what it is after. -/
def FindsTooLong (server : Server (Site ρ σ)) (body : Bytes) (before after : Site ρ σ) : Prop :=
  ∃ request text, readResolve body = .ok request ∧ 2 ^ 32 ≤ (Text.utf8 text).length ∧
    (server.engine.resolve request.name request.properties request.config).run before = (.ok (some text), after)

theorem serve_resolve {request : Message.ResolveRequest} (hread : readResolve body = .ok request)
    (method : Http.Method) (s : State ρ σ) :
    server.serve .resolve method body s =
      ((((server.engine.resolve request.name request.properties request.config).run s.site).1.mapError
        Failure.resolution).map Value.ofOption,
        { s with site := ((server.engine.resolve request.name request.properties request.config).run s.site).2 }) := by
  rw [serve, hread]
  rfl

/-- Once its body is read, a request for a value fails in no other way than its resolution. -/
theorem resolution_of_error {request : Message.ResolveRequest} {method : Http.Method}
    (hread : readResolve body = .ok request) (h : (server.serve .resolve method body s).1 = .error e) :
    ∃ cause, e = .resolution cause := by
  rw [serve_resolve hread, map_eq_error, mapError_eq_error] at h
  obtain ⟨cause, -, rfl⟩ := h
  exact ⟨cause, rfl⟩

theorem exists_long_of_not_fits {a : Option String} (h : ¬(Value.ofOption a).Fits) :
    ∃ text, a = some text ∧ 2 ^ 32 ≤ (Text.utf8 text).length := by
  cases a with
  | none => exact absurd .null h
  | some text => exact ⟨text, rfl, Nat.not_lt.1 fun hlt => h (.string hlt)⟩

/-- A body for which a value comes up that is too long. -/
theorem finds_iff {request : Message.ResolveRequest} (hread : readResolve body = .ok request) (method : Http.Method) :
    (∃ v, (server.serve .resolve method body s).1 = .ok v ∧ ¬v.Fits) ↔
      ∃ site, FindsTooLong server body s.site site := by
  rw [serve_resolve hread]
  constructor
  · rintro ⟨v, hv, hf⟩
    obtain ⟨a, ha, rfl⟩ := map_eq_ok.1 hv
    obtain ⟨text, rfl, hlong⟩ := exists_long_of_not_fits hf
    exact ⟨_, request, text, hread, hlong, Prod.ext (mapError_eq_ok.1 ha) rfl⟩
  · rintro ⟨site, request', text, hread', hlong, hrun⟩
    cases hread.symm.trans hread'
    refine ⟨.string text, ?_, fun hf => ?_⟩
    · rw [hrun]
      rfl
    · cases hf with
      | string hlt => exact Nat.not_lt.2 hlong hlt

/-- What fails for another reason than that a name could not be resolved was not begun. -/
theorem serve_of_error {route : Route} {method : Http.Method} (h : (server.serve route method body s).1 = .error e)
    (hstatus : e.status ≠ 500) : (server.serve route method body s).2 = s := by
  cases route with
  | list | requiredGroups | requirements | resources | resourcesIn => rfl
  | closeAll | stop => cases h
  | close segment =>
    rw [serve] at h ⊢
    cases hscope : readScope segment with
    | error cause => rfl
    | ok scope =>
      rw [hscope] at h
      cases h
  | resolve =>
    cases hread : readResolve body with
    | error cause => rw [serve, hread]
    | ok request =>
      obtain ⟨cause, rfl⟩ := resolution_of_error hread h
      exact absurd rfl hstatus

/-- Of what changes a site only a request for a value can be answered with something that is too long. -/
theorem serve_of_not_fits {route : Route} {method : Http.Method} (h : (server.serve route method body s).1 = .ok v)
    (hf : ¬v.Fits) : (server.serve route method body s).2 = s ∨ route = .resolve ∧
      ∃ site, FindsTooLong server body s.site site ∧ (server.serve route method body s).2 = { s with site } := by
  cases route with
  | list | requiredGroups | requirements | resources | resourcesIn => exact .inl rfl
  | closeAll | stop =>
    cases h
    exact absurd (.bool _) hf
  | close segment =>
    rw [serve] at h
    cases hscope : readScope segment with
    | error cause =>
      rw [hscope] at h
      cases h
    | ok scope =>
      rw [hscope] at h
      cases h
      exact absurd (.bool _) hf
  | resolve =>
    cases hread : readResolve body with
    | error cause =>
      rw [serve, hread] at h
      cases h
    | ok request =>
      obtain ⟨site, hfinds⟩ := (finds_iff hread method).1 ⟨v, h, hf⟩
      obtain ⟨request', text, hread', -, hrun⟩ := id hfinds
      cases hread.symm.trans hread'
      refine .inr ⟨rfl, site, hfinds, ?_⟩
      rw [serve_resolve hread, hrun]

theorem answer_of_refused (h : (server.answer r s).1.status ∉ [200, 500]) : (server.answer r s).2 = s ∨
    Route.ofPath? r.path = some .resolve ∧
      ∃ site, FindsTooLong server r.body s.site site ∧ (server.answer r s).2 = { s with site } := by
  unfold answer at h ⊢
  split
  · exact .inl rfl
  · rename_i route hroute
    rw [hroute] at h
    dsimp only at h ⊢
    split
    · exact .inl rfl
    · rename_i hallows
      rw [if_neg hallows] at h
      cases houtcome : (server.serve route r.method r.body s).1 with
      | ok v =>
        have hf : ¬v.Fits := fun hf => h (by
          rw [houtcome, status_respond_ok_iff.2 hf]
          exact List.mem_cons_self)
        exact (serve_of_not_fits houtcome hf).imp_right fun hlong =>
          ⟨hroute.trans (congrArg some hlong.1), hlong.2⟩
      | error e =>
        refine .inl (serve_of_error houtcome fun hstatus => ?_)
        simp [houtcome, respond, Except.bind, Http.Response.ofText, hstatus] at h

/-- An accepted request is answered, with or without the body of the answer. -/
theorem handle_of_accepted (h : Access.check server.token remote (Access.presented r) = .ok ()) :
    (server.handle remote r s).1.status = (server.answer r s.access).1.status ∧
      (server.handle remote r s).2 = (server.answer r s.access).2 := by
  rw [handle, receive, h]
  dsimp only
  split
  · exact ⟨rfl, rfl⟩
  · exact ⟨rfl, rfl⟩

/-- A request that is neither answered as asked nor fails on the way counts as an access at most, unless its answer is
too long. -/
theorem handle_of_refused (h : (server.handle remote r s).1.status ∉ [200, 500]) :
    (server.handle remote r s).2 = s ∨ (server.handle remote r s).2 = s.access ∨
      Route.ofPath? r.path = some .resolve ∧
        ∃ site, FindsTooLong server r.body s.site site ∧ (server.handle remote r s).2 = { s.access with site } := by
  cases hcheck : Access.check server.token remote (Access.presented r) with
  | error denied =>
    obtain ⟨response, -, hhandle⟩ := handle_of_denied (s := s) hcheck
    exact .inl (congrArg Prod.snd hhandle)
  | ok =>
    obtain ⟨hstatus, hstate⟩ := handle_of_accepted (s := s) hcheck
    rw [hstatus] at h
    rw [hstate]
    exact .inr (answer_of_refused h)

theorem status_eq_badRequest_iff {route : Route}
    (haccepted : Access.check server.token remote (Access.presented r) = .ok ())
    (hroute : Route.ofPath? r.path = some route) (hallows : route.allows r.method = true) :
    (server.handle remote r s).1.status = 400 ↔
      (∃ e, (server.serve route r.method r.body s.access).1 = .error e ∧ e.status = 400) ∨
        ∃ v, (server.serve route r.method r.body s.access).1 = .ok v ∧ ¬v.Fits := by
  have hanswer : (server.answer r s.access).1 = respond (server.serve route r.method r.body s.access).1 := by
    rw [answer, hroute]
    simp [hallows]
  rw [(handle_of_accepted haccepted).1, hanswer]
  cases (server.serve route r.method r.body s.access).1 with
  | ok v =>
    have hstatus : (respond (.ok v)).status = 400 ↔ ¬v.Fits := by
      by_cases hf : v.Fits
      · simp [respond_of_fits hf, hf]
      · obtain ⟨n, -, hrespond⟩ := respond_of_not_fits hf
        simp [hrespond, Http.Response.ofText, hf]
    simp [hstatus]
  | error e => simp [respond, Except.bind, Http.Response.ofText]

/-- A response with another status than 200 and 500 says that nothing was done, so that site, time and stop are what
they were; or else that what was found for a name is too long to be written, after all was done to find it. A body that
is not too large is refused with 400 if and only if it bears no value or one of the wrong shape, or its answer is too
long; null, which an empty body bears, is as good as a request for the list and as no request for a name. -/
theorem refused_without_trace (server : Server (Site ρ σ)) (remote : Address) (r : Http.Request) (s : State ρ σ) :
    let outcome := server.handle remote r s
    (outcome.1.status ∉ [200, 500] → outcome.2 = s ∨ outcome.2 = s.access ∨
      Route.ofPath? r.path = some .resolve ∧
        ∃ site, FindsTooLong server r.body s.site site ∧ outcome.2 = { s.access with site }) ∧
    (Access.check server.token remote (Access.presented r) = .ok () → r.method = .post → r.body.length ≤ maxBody →
      (Route.ofPath? r.path = some .resolve → (outcome.1.status = 400 ↔
        (r.body ≠ [] ∧ ¬∃ v, Codec.Derives 0 v r.body) ∨
          (∃ v, Bears r.body v ∧ ¬Message.IsResolveRequest v) ∨ ∃ site, FindsTooLong server r.body s.site site)) ∧
      (Route.ofPath? r.path = some .list → (outcome.1.status = 400 ↔
        (r.body ≠ [] ∧ ¬∃ v, Codec.Derives 0 v r.body) ∨
          (∃ v, Bears r.body v ∧ ¬(v = .null ∨ Message.IsListRequest v)) ∨
          ∃ request, readList r.body = .ok request ∧
            ¬(Value.ofStrings (server.engine.resolvableProperties request.entries request.config)).Fits))) := by
  intro outcome
  refine ⟨handle_of_refused, fun haccepted hpost hsize => ⟨fun hroute => ?_, fun hroute => ?_⟩⟩
  · have hstatus := status_eq_badRequest_iff (s := s) haccepted hroute (by rw [hpost]; rfl)
    rw [hstatus, ← or_assoc, ← not_exists_bears_iff, ← exists_readResolve_iff hsize]
    cases hread : readResolve r.body with
    | error e =>
      have hserve : (server.serve .resolve r.method r.body s.access).1 = .error e := by rw [serve, hread]
      exact iff_of_true (.inl ⟨e, hserve, status_of_readResolve_error hread⟩) (by simp)
    | ok request =>
      refine or_congr (iff_of_false ?_ (by simp)) (finds_iff hread r.method)
      rintro ⟨e, he, hstatus⟩
      obtain ⟨cause, rfl⟩ := resolution_of_error hread he
      cases hstatus
  · have hstatus := status_eq_badRequest_iff (s := s) haccepted hroute (by rw [hpost]; rfl)
    have hserve : (server.serve .list r.method r.body s.access).1 = (readList r.body).map fun request =>
        .ofStrings (server.engine.resolvableProperties request.entries request.config) := by
      rw [serve, if_pos hpost]
    rw [hstatus, hserve, ← or_assoc, ← not_exists_bears_iff, ← exists_readList_iff hsize]
    cases hread : readList r.body with
    | error e => exact iff_of_true (.inl ⟨e, rfl, status_of_readList_error hread⟩) (by simp)
    | ok request => simp [Except.map]

section
open Rehearsal

/-- A number in the place of the name is refused; an empty body asks for the list. -/
theorem refused_numbered_name :
    let opened : State Player (Stage Daemon) := { site := { world := { runtime := {} } }, now := 70 }
    let send (path : String) (body : Bytes) :=
      guarded.handle (.v4 127 0 0 1) ⟨.post, path, withToken "open", body⟩ opened
    let numbered : Bytes := [6, 0, 0, 0, 1, 4, 0, 0, 0, 4, 110, 97, 109, 101, 3, 0, 0, 0, 7]
    Codec.encode (.map [(.string "name", .int 7)]) = .ok numbered ∧
      (send "/resolve" numbered).1.status = 400 ∧
      ((send "/resolve" numbered).2 = opened ∨ (send "/resolve" numbered).2 = opened.access) ∧
      (send "/list" []).1.status ≠ 400 := by
  intro opened send numbered
  have haccepted (path : String) (body : Bytes) : Access.check guarded.token (.v4 127 0 0 1)
      (Access.presented ⟨.post, path, withToken "open", body⟩) = .ok () := by
    rfl
  obtain ⟨hkept, hbody⟩ := refused_without_trace guarded (.v4 127 0 0 1)
    ⟨.post, "/resolve", withToken "open", numbered⟩ opened
  obtain ⟨hresolve, -⟩ := hbody (haccepted _ _) rfl (by decide)
  have hbears : Bears numbered (.map [(.string "name", .int 7)]) :=
    (readBody_eq_ok (by decide)).1 rfl
  have hshape : ¬Message.IsResolveRequest (.map [(.string "name", .int 7)]) := by
    rintro ⟨⟨v, hv, name, rfl⟩, -, -⟩
    cases hv
  have hstatus : (send "/resolve" numbered).1.status = 400 :=
    (hresolve (by decide)).2 (.inr (.inl ⟨_, hbears, hshape⟩))
  refine ⟨rfl, hstatus, ?_, ?_⟩
  · rcases hkept (by rw [hstatus]; decide) with hsame | haccess | ⟨-, site, ⟨request, text, hread, -⟩, -⟩
    · exact .inl hsame
    · exact .inr haccess
    · obtain ⟨v, hv, hrequest⟩ := (exists_readResolve_iff (by decide)).1 ⟨request, hread⟩
      exact absurd (hv.unique hbears ▸ hrequest) hshape
  · obtain ⟨-, hbody⟩ := refused_without_trace guarded (.v4 127 0 0 1) ⟨.post, "/list", withToken "open", []⟩ opened
    obtain ⟨-, hlist⟩ := hbody (haccepted _ _) rfl (by decide)
    intro hrefused
    rcases (hlist (by decide)).1 hrefused with ⟨hne, -⟩ | ⟨v, hv, hnull⟩ | ⟨request, hread, hf⟩
    · exact hne rfl
    · exact hnull (.inl hv)
    · cases hread
      exact hf (.list (by decide) nofun)

/-- A request for the name of a hoard. -/
def hoardAsked : Bytes := [6, 0, 0, 0, 1, 4, 0, 0, 0, 4, 110, 97, 109, 101, 4, 0, 0, 0, 5, 104, 111, 97, 114, 100]

theorem handle_hoardAsked {text : String} (hlong : 2 ^ 32 ≤ (Text.utf8 text).length) :
    let server : Server (Cast Daemon) := { engine := ⟨[hoarder text]⟩ }
    let outcome := server.handle (.v4 127 0 0 1) ⟨.post, "/resolve", [], hoardAsked⟩ { site := bareStage }
    outcome.1.status = 400 ∧ outcome.2.site.registry.size = 1 := by
  intro server outcome
  have haccepted : Access.check server.token (.v4 127 0 0 1) (Access.presented ⟨.post, "/resolve", [], hoardAsked⟩) =
    .ok () := rfl
  have hread : readResolve hoardAsked = .ok ⟨"hoard", ∅, ∅⟩ := rfl
  obtain ⟨hfound, hsize⟩ := resolve_hoarder text
  have hfinds : FindsTooLong server hoardAsked bareStage _ := ⟨_, _, hread, hlong, Prod.ext hfound rfl⟩
  have hstate : outcome.2 = (server.serve .resolve .post hoardAsked (State.access { site := bareStage })).2 :=
    (handle_of_accepted haccepted).2
  constructor
  · exact (status_eq_badRequest_iff haccepted rfl rfl).2 (.inr ((finds_iff hread .post).2 ⟨_, hfinds⟩))
  · rw [hstate, serve_resolve hread]
    exact hsize

/-- The name is well asked for, and a stand-in is started for it; but the text that is found has `2 ^ 32` letters. -/
theorem long_answer_is_refused :
    let server : Server (Cast Daemon) := { engine := ⟨[hoarder (letters (2 ^ 32))]⟩ }
    let opened : State Player (Stage Daemon) := { site := bareStage }
    let outcome := server.handle (.v4 127 0 0 1) ⟨.post, "/resolve", [], hoardAsked⟩ opened
    (∃ v, Bears hoardAsked v ∧ Message.IsResolveRequest v) ∧ outcome.1.status = 400 ∧
      opened.site.registry.size = 0 ∧ outcome.2.site.registry.size = 1 := by
  intro server opened outcome
  have hread : readResolve hoardAsked = .ok ⟨"hoard", ∅, ∅⟩ := rfl
  obtain ⟨hstatus, hsize⟩ := handle_hoardAsked (Nat.le_of_eq (length_utf8_letters (2 ^ 32)).symm)
  exact ⟨(exists_readResolve_iff (by decide)).1 ⟨_, hread⟩, hstatus, rfl, hsize⟩

end

end Testbed.Server
