import Testbed.Proofs.Client.Operations

/-!
# Tokens beyond ASCII

A header carries the bytes of a token as they are, and a client that has the server's token shows it
(`Server.Admissible`). But the server takes a header for text only where all of it is ASCII, and a header that is no
text shows nothing. So the right token lets a client in exactly if it is ASCII, and a server whose token is not
lets in nobody (`right_token_admits_iff`).
-/

namespace Testbed

variable {t : String} {ch : Char}

namespace Http

/-- A header carries the text whole: it is not empty, and has neither controls of ASCII nor spaces around it. -/
structure Whole (t : String) : Prop where
  ne_empty : t ≠ ""
  visible : ∀ ch ∈ t.toList, 0x20 ≤ ch.toNat ∧ ch.toNat ≠ 0x7f
  head : t.toList.head? ≠ some ' '
  last : t.toList.getLast? ≠ some ' '

/-- What the bytes of a visible character are like: those of ASCII are plain, and a space is the only one that is
dropped around a value; all others are neither plain nor controls. -/
theorem of_mem_utf8EncodeChar (hch : 0x20 ≤ ch.toNat ∧ ch.toNat ≠ 0x7f) {b : UInt8}
    (hb : b ∈ String.utf8EncodeChar ch) : isPlain b = decide (ch.toNat < 128) ∧
      (b = 9 || !Text.Percent.isControl b) = true ∧ (ch ≠ ' ' → isSpacing b = false) := by
  by_cases hascii : ch.toNat < 128
  · have hall : ∀ n < 128, 0x20 ≤ n ∧ n ≠ 0x7f → isPlain (UInt8.ofNat n) = true ∧
        (UInt8.ofNat n = 9 || !Text.Percent.isControl (UInt8.ofNat n)) = true ∧
        (n ≠ 0x20 → isSpacing (UInt8.ofNat n) = false) := by
      decide
    rw [Text.utf8EncodeChar_of_lt hascii, List.mem_singleton] at hb
    obtain ⟨hplain, hsend, hspace⟩ := hall ch.toNat hascii hch
    rw [hb, decide_eq_true hascii]
    exact ⟨hplain, hsend, fun hne => hspace fun h => hne (Char.toNat_inj.1 h)⟩
  · have hall : ∀ b : UInt8, 128 ≤ b → isPlain b = false ∧ (b = 9 || !Text.Percent.isControl b) = true ∧
        isSpacing b = false :=
      Text.forall_byte (by decide +kernel)
    obtain ⟨hplain, hsend, hspace⟩ := hall b (Text.le_of_mem_utf8EncodeChar (Nat.le_of_not_lt hascii) hb)
    rw [decide_eq_false hascii]
    exact ⟨hplain, hsend, fun _ => hspace⟩

theorem dropWhile_append {front rest : Bytes} (hne : front ≠ []) (h : ∀ b ∈ front, isSpacing b = false) :
    (front ++ rest).dropWhile isSpacing = front ++ rest := by
  obtain ⟨b, front, rfl⟩ := List.exists_cons_of_ne_nil hne
  exact List.dropWhile_cons_of_neg (by simp [h b List.mem_cons_self])

namespace Whole

theorem isSendable (h : Whole t) : isSendable (Text.utf8 t) = true := by
  rw [Http.isSendable, Text.utf8_eq_flatMap, List.all_eq_true]
  intro b hb
  obtain ⟨ch, hch, hb⟩ := List.mem_flatMap.1 hb
  exact (of_mem_utf8EncodeChar (h.visible ch hch) hb).2.1

theorem all_isPlain_iff (h : Whole t) :
    (Text.utf8 t).all isPlain = true ↔ ∀ ch ∈ t.toList, ch.toNat < 128 := by
  rw [Text.utf8_eq_flatMap, List.all_eq_true]
  constructor
  · intro hall ch hch
    obtain ⟨b, hb⟩ := List.exists_mem_of_ne_nil _ (String.utf8EncodeChar_ne_nil (c := ch))
    have hplain := hall b (List.mem_flatMap.2 ⟨ch, hch, hb⟩)
    rwa [(of_mem_utf8EncodeChar (h.visible ch hch) hb).1, decide_eq_true_eq] at hplain
  · intro hall b hb
    obtain ⟨ch, hch, hb⟩ := List.mem_flatMap.1 hb
    rw [(of_mem_utf8EncodeChar (h.visible ch hch) hb).1]
    exact decide_eq_true (hall ch hch)

theorem trimValue_eq (h : Whole t) : trimValue (Text.utf8 t) = Text.utf8 t := by
  have hne : t.toList ≠ [] := fun hnil => h.ne_empty (String.toList_eq_nil_iff.1 hnil)
  have hkept (ch : Char) (hch : ch ∈ t.toList) (hspace : ch ≠ ' ') :
      ∀ b ∈ String.utf8EncodeChar ch, Http.isSpacing b = false :=
    fun b hb => (of_mem_utf8EncodeChar (h.visible ch hch) hb).2.2 hspace
  have hfront : (Text.utf8 t).dropWhile Http.isSpacing = Text.utf8 t := by
    obtain ⟨ch, rest, hcs⟩ := List.exists_cons_of_ne_nil hne
    have hspace : ch ≠ ' ' := fun he => h.head (by rw [hcs, he]; rfl)
    rw [Text.utf8_eq_flatMap, hcs, List.flatMap_cons]
    exact dropWhile_append String.utf8EncodeChar_ne_nil (hkept ch (hcs ▸ List.mem_cons_self) hspace)
  have hback : (Text.utf8 t).reverse.dropWhile Http.isSpacing = (Text.utf8 t).reverse := by
    obtain ⟨rest, ch, hcs⟩ := (List.eq_nil_or_concat' t.toList).resolve_left hne
    have hspace : ch ≠ ' ' := fun he => h.last (by rw [hcs, he]; exact List.getLast?_concat)
    have hmem : ch ∈ t.toList := hcs ▸ List.mem_append_right rest List.mem_cons_self
    rw [Text.utf8_eq_flatMap, hcs, List.flatMap_append, List.flatMap_singleton, List.reverse_append]
    refine dropWhile_append (mt List.reverse_eq_nil_iff.1 String.utf8EncodeChar_ne_nil) fun b hb => ?_
    exact hkept ch hmem hspace b (List.mem_reverse.1 hb)
  rw [trimValue, hfront, hback, List.reverse_reverse]

end Whole

end Http

namespace Server

theorem showable_some_iff (ht : Http.Whole t) : Showable (some t) ↔ ∀ ch ∈ t.toList, ch.toNat < 128 := by
  rw [← ht.all_isPlain_iff]
  exact ⟨fun h => h t rfl ht.ne_empty, fun h t' ht' _ => Option.some.inj ht' ▸ h⟩

end Server

namespace Client

variable {ρ σ : Type} [Held ρ σ] [Described ρ]

/-- A client that has the server's token and calls from its machine sends every request and shows the token in it. It
is let in exactly if the token is ASCII; otherwise each of its requests is answered 401, and so is any other request,
without a change at the server. -/
theorem right_token_admits_iff (t : String) (ht : Http.Whole t) (c : Client) (hc : c.token = some t)
    (server : Server (Site ρ σ)) (hs : server.token = some t) (remote : Address) (hremote : remote.IsLocal)
    (method : Http.Method) (url : Url) (body : Option Bytes) (s : Server.State ρ σ) :
    let r := c.request method url body
    let ascii := ∀ ch ∈ t.toList, ch.toNat < 128
    (∀ h ∈ r.headers, Http.isSendable h.2 = true) ∧
    Server.Admissible server.token remote r.received ∧
    (Server.Access.check server.token remote (Server.Access.presented r.received) = .ok () ↔ ascii) ∧
    ((server.handle remote r.received s).1.status = 401 ↔ ¬ascii) ∧
    (¬ascii → ∀ remote r s, (server.handle remote r s).1.status = 401 ∧ (server.handle remote r s).2 = s) := by
  intro r ascii
  have hsend : (r.headers.all fun h => Http.isSendable h.2) = true := by
    refine (all_isSendable_iff method url body).2 fun t' ht' => ?_
    rw [hc, Option.mem_some_iff] at ht'
    exact ht' ▸ ht.isSendable
  have hadmissible : Server.Admissible server.token remote r.received := by
    refine ⟨hremote, fun t' ht' _ => ?_⟩
    rw [hs, Option.mem_some_iff] at ht'
    rw [header?_request, hc, Option.map_some, ht.trimValue_eq, ht']
  have hshowable : Server.Showable server.token ↔ ascii := hs ▸ Server.showable_some_iff ht
  have hrefused : ¬ascii → ∀ remote r s, (server.handle remote r s).1.status = 401 ∧ (server.handle remote r s).2 = s := by
    intro hascii remote r s
    obtain ⟨response, hstatus, hhandle⟩ :
        ∃ response, response.status = 401 ∧ server.handle remote r s = (response, s) :=
      Server.handle_of_not_showable (mt hshowable.1 hascii)
    rw [hhandle]
    exact ⟨hstatus, rfl⟩
  refine ⟨List.all_eq_true.1 hsend, hadmissible, ?_, ?_, hrefused⟩
  · rw [Server.Access.check_eq_ok_iff, hshowable]
    exact and_iff_right hadmissible
  · constructor
    · exact fun hstatus hascii => Server.status_of_admissible hadmissible (hshowable.2 hascii) s hstatus
    · exact fun hascii => (hrefused hascii remote r.received s).1

section
open Rehearsal

/-- A client at the root of a server, with this token. -/
def holder (token : String) : Client := ⟨{ scheme := "http", host := some "localhost", path := [""] }, some token⟩

def locked (token : String) : Server (Cast Daemon) := { engine := ⟨[]⟩, token := some token }

theorem right_token_admits_phrase :
    let t := "1%, \"s ~"
    Http.Whole t ∧ Address.IsLocal (.v4 127 0 0 1) ∧
      Server.Access.check (locked t).token (.v4 127 0 0 1) (Server.Access.presented
        ((holder t).request .get ((holder t).base.extend ["list"]) none).received) = .ok () := by
  intro t
  have ht : Http.Whole t := ⟨by decide, by simp [t], by decide, by decide⟩
  have hlocal : Address.IsLocal (.v4 127 0 0 1) := .v4 0 0 1
  have hadmits := (right_token_admits_iff t ht (holder t) rfl (locked t) rfl _ hlocal .get
    ((holder t).base.extend ["list"]) none { site := { world := { runtime := {} } } }).2.2.1
  exact ⟨ht, hlocal, hadmits.2 (by simp [t])⟩

/-- The token arrives as it is, is the right one, and is refused. -/
theorem right_token_is_refused :
    let t := "é"
    let r := (holder t).request .get ((holder t).base.extend ["list"]) none
    (∀ h ∈ r.headers, Http.isSendable h.2 = true) ∧
      Http.header? Server.tokenHeader r.received.headers = some (Text.utf8 t) ∧
      Server.Access.check (locked t).token (.v4 127 0 0 1) (Server.Access.presented r.received) = .error .badToken ∧
      ((holder t).resolvableProperties (Transport.toServer (locked t)) |>.run
        { site := { world := { runtime := {} } } }).1 = .error (.server 401 "missing or wrong access token") := by
  decide +kernel

end

end Client

end Testbed
