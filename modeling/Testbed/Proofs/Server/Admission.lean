import Testbed.Proofs.Server.Responses

/-!
# Who is let in

A server lets in what comes from its own machine and, if it has a token that is not empty, has just that token
as its first header for one (`Admissible`), which no request does if no header can show the token
(`check_eq_ok_iff`). All else is answered 401 and changes nothing (`handle_of_not_admissible`); what is let in is
never answered so (`status_of_admissible`).
-/

namespace Testbed

namespace Address

/-- The addresses of the machine itself, as such or mapped. -/
inductive IsLocal : Address → Prop
  | v4 (b c d : UInt8) : IsLocal (.v4 127 b c d)
  | v6 : IsLocal (.v6 0 0 0 0 0 0 0 1)
  | mapped {high : UInt16} (low : UInt16) (h : high.toNat / 256 = 127) : IsLocal (.v6 0 0 0 0 0 0xffff high low)

theorem isLoopback_iff {a : Address} : a.isLoopback = true ↔ a.IsLocal := by
  -- The first number of a mapped address is the upper half of the group it begins in.
  have hfirst (high : UInt16) : (high >>> 8).toUInt8 = 127 ↔ high.toNat / 256 = 127 := by
    have hlt := high.toNat_lt
    rw [← UInt8.toNat_inj]
    simp [Nat.shiftRight_eq_div_pow]
    omega
  unfold isLoopback canonical
  split
  · rename_i high low
    rw [ofHalves, isOwnLoopback, decide_eq_true_eq, hfirst]
    constructor
    · exact .mapped low
    · intro h
      cases h with
      | mapped _ h => exact h
  · rename_i hmapped
    cases a with
    | v4 a b c d =>
      rw [isOwnLoopback, decide_eq_true_eq]
      constructor
      · rintro rfl
        exact .v4 b c d
      · intro h
        cases h with
        | v4 => rfl
    | v6 g₀ g₁ g₂ g₃ g₄ g₅ g₆ g₇ =>
      rw [isOwnLoopback, decide_eq_true_eq]
      · constructor
        · intro h
          exact h ▸ .v6
        · intro h
          cases h with
          | v6 => rfl
          | mapped _ h => exact absurd rfl (hmapped _ _)
      · nofun

instance (a : Address) : Decidable a.IsLocal := decidable_of_iff (a.isLoopback = true) isLoopback_iff

end Address

namespace Server

variable {token : Option String} {remote : Address} {r : Http.Request} {t : String}

/-- The request comes from the server's machine and shows the token that the server asks for, if it does. -/
structure Admissible (token : Option String) (remote : Address) (r : Http.Request) : Prop where
  isLocal : remote.IsLocal
  shows : ∀ t ∈ token, t ≠ "" → Http.header? tokenHeader r.headers = some (Text.utf8 t)

instance : Decidable (Admissible token remote r) :=
  decidable_of_iff (remote.IsLocal ∧ ∀ t ∈ token, t ≠ "" → Http.header? tokenHeader r.headers = some (Text.utf8 t))
    ⟨fun h => ⟨h.1, h.2⟩, fun h => ⟨h.isLocal, h.shows⟩⟩

/-- The token can be shown at all: a header has its bytes for text. -/
def Showable (token : Option String) : Prop := ∀ t ∈ token, t ≠ "" → (Text.utf8 t).all Http.isPlain = true

namespace Access

theorem presented_eq_some : presented r = some t ↔
    Http.header? tokenHeader r.headers = some (Text.utf8 t) ∧ (Text.utf8 t).all Http.isPlain = true := by
  have htext (value : Bytes) :
      Http.headerText? value = some t ↔ value = Text.utf8 t ∧ (Text.utf8 t).all Http.isPlain = true := by
    rw [Http.headerText?]
    split
    · rename_i hplain
      rw [Codec.ofUtf8?_eq_some]
      exact ⟨fun h => ⟨h, h ▸ hplain⟩, And.left⟩
    · rename_i hplain
      exact ⟨nofun, fun h => absurd (h.1 ▸ h.2) hplain⟩
  simp only [presented, Option.bind_eq_some_iff, htext]
  exact ⟨fun ⟨_, h, hvalue, hplain⟩ => ⟨hvalue ▸ h, hplain⟩, fun h => ⟨_, h.1, rfl, h.2⟩⟩

theorem check_eq_ok_iff : check token remote (presented r) = .ok () ↔
    Admissible token remote r ∧ Showable token := by
  have hrequired : check token remote (presented r) = .ok () ↔
      remote.isLoopback = true ∧ ∀ t ∈ required token, presented r = some t := by
    rw [check]
    cases remote.isLoopback <;> cases required token <;> simp
  rw [hrequired, Address.isLoopback_iff]
  simp only [required, Showable, Option.mem_def, Option.filter_eq_some_iff, decide_eq_true_eq, presented_eq_some,
    and_imp]
  constructor
  · rintro ⟨hlocal, h⟩
    exact ⟨⟨hlocal, fun t ht hne => (h t ht hne).1⟩, fun t ht hne => (h t ht hne).2⟩
  · rintro ⟨⟨hlocal, hshows⟩, hplain⟩
    exact ⟨hlocal, fun t ht hne => ⟨hshows t ht hne, hplain t ht hne⟩⟩

end Access

variable {ρ σ : Type} [Held ρ σ] [Described ρ] {server : Server (Site ρ σ)} {s : State ρ σ}

theorem handle_of_denied {denied : Denied}
    (h : Access.check server.token remote (Access.presented r) = .error denied) :
    ∃ response, response.status = 401 ∧ server.handle remote r s = (response, s) := by
  rw [handle, receive, h]
  dsimp only
  split
  · exact ⟨_, rfl, rfl⟩
  · exact ⟨_, rfl, rfl⟩

theorem handle_of_not_ok (h : Access.check server.token remote (Access.presented r) ≠ .ok ()) :
    ∃ response, response.status = 401 ∧ server.handle remote r s = (response, s) := by
  cases hcheck : Access.check server.token remote (Access.presented r) with
  | error denied => exact handle_of_denied hcheck
  | ok => exact absurd hcheck h

theorem handle_of_not_admissible (h : ¬Admissible server.token remote r) :
    ∃ response, response.status = 401 ∧ server.handle remote r s = (response, s) :=
  handle_of_not_ok fun hok => h (Access.check_eq_ok_iff.1 hok).1

/-- A server whose token no header can show lets in nobody. -/
theorem handle_of_not_showable (h : ¬Showable server.token) :
    ∃ response, response.status = 401 ∧ server.handle remote r s = (response, s) :=
  handle_of_not_ok fun hok => h (Access.check_eq_ok_iff.1 hok).2

theorem status_answer (r : Http.Request) (s : State ρ σ) :
    (server.answer r s).1.status ∈ [200, 400, 500, 404, 405] := by
  rw [answer]
  split
  · simp
  · split
    · simp
    · exact List.mem_append_left [404, 405] (status_respond _)

theorem status_of_admissible (h : Admissible server.token remote r) (hshow : Showable server.token) (s : State ρ σ) :
    (server.handle remote r s).1.status ≠ 401 := by
  have hstatus : (server.answer r s.access).1.status ∈ [200, 400, 500, 404, 405] := status_answer r s.access
  have hhandle : (server.handle remote r s).1.status = (server.answer r s.access).1.status := by
    rw [handle, receive, Access.check_eq_ok_iff.2 ⟨h, hshow⟩]
    dsimp only
    split
    · rfl
    · rfl
  rw [hhandle]
  intro he
  rw [he] at hstatus
  exact absurd hstatus (by decide)

end Server

end Testbed
