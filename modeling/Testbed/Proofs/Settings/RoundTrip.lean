import Testbed.Proofs.Outcome
import Testbed.Proofs.Settings.Lines
import Testbed.Proofs.Text.Decimal

/-!
# What is left of settings in their file

Settings are written line by line and read line by line. Ports and timeouts come back as they were, but a token is
written as it stands and read as if it had been escaped: without outer blanks and without the backslashes
(`reread`), and only as far as its first line. So settings are read as they were written exactly if the token has
nothing to lose (`reads_back_iff`).
-/

namespace Testbed.Settings

open Text

variable {key value : String} {line cs ds : List Char} {c : Char}

/-! ### Values -/

theorem entryOf?_line (hkey : IsPlainKey key) (value : List Char) :
    entryOf? (key.toList ++ '=' :: value) = some (key, String.ofList (kept value)) := by
  have hblank : AllBlank [] := nofun
  have hentry := entryOf?_of_key hkey hblank (spells_self hkey) hblank (.inl rfl) value
  rwa [List.nil_append, List.append_nil] at hentry

theorem entries_entryLine (hkey : IsPlainKey key) (hvalue : '\n' ∉ value.toList) (rest : String) :
    entries (entryLine key value ++ rest) = (key, String.ofList (kept value.toList)) :: entries rest := by
  have hline : (key ++ "=" ++ value).toList = key.toList ++ '=' :: value.toList := by simp
  have hnewline : '\n' ∉ (key ++ "=" ++ value).toList := by
    rw [hline, List.mem_append, List.mem_cons]
    rintro (h | h | h)
    · obtain ⟨-, -, -, hne, -⟩ := hkey.plain _ h
      exact hne rfl
    · cases h
    · exact hvalue h
  rw [entryLine, entries_append_newline, entries_line hnewline, hline, entryOf?_line hkey]
  rfl

/-- A value has nothing to lose on a line: it holds no backslash and has no blank at either end. -/
structure IsPlainValue (cs : List Char) : Prop where
  noBackslash : '\\' ∉ cs
  start : ∀ c ∈ cs.head?, isBlank c = false
  finish : ∀ c ∈ cs.getLast?, isBlank c = false

theorem unescape_sublist (cs : List Char) : (unescape cs).Sublist cs := by
  fun_induction unescape cs with
  | case1 => exact .slnil
  | case2 c cs ih => exact .cons _ (.cons_cons _ ih)
  | case3 => exact List.nil_sublist _
  | case4 c cs _ _ ih => exact .cons_cons _ ih

theorem unescape_eq_self_iff : unescape cs = cs ↔ '\\' ∉ cs := by
  fun_induction unescape cs with
  | case1 => simp
  | case2 c cs ih =>
    refine iff_of_false (fun h => ?_) (by simp)
    have hlength := congrArg List.length h
    have hle := (unescape_sublist cs).length_le
    simp only [List.length_cons] at hlength
    omega
  | case3 => simp
  | case4 c cs hpair hlast ih =>
    simp [ih, (ne_backslash hpair hlast).symm]

/-- A value is read as it was written if and only if it is plain. -/
theorem kept_eq_self_iff : kept cs = cs ↔ IsPlainValue cs := by
  constructor
  · intro h
    -- Characters are only ever dropped, so none can have been dropped at any step.
    have hfinish : dropBlankEnd cs = cs := by
      refine (dropBlankEnd_sublist cs).eq_of_length_le (List.Sublist.length_le ?_)
      have hrest : (kept cs).Sublist (dropBlankEnd cs) :=
        ((dropBlankEnd_sublist _).trans (unescape_sublist _)).trans (dropBlank_sublist _)
      rwa [h] at hrest
    have hstart : dropBlank cs = cs := by
      refine (dropBlank_sublist cs).eq_of_length_le (List.Sublist.length_le ?_)
      have hrest := (dropBlankEnd_sublist (unescape (dropBlank cs))).trans (unescape_sublist _)
      rw [kept, hfinish] at h
      rwa [h] at hrest
    have hbackslash : unescape cs = cs := by
      refine (unescape_sublist cs).eq_of_length_le (List.Sublist.length_le ?_)
      have hrest := dropBlankEnd_sublist (unescape cs)
      rw [kept, hfinish, hstart] at h
      rwa [h] at hrest
    exact ⟨unescape_eq_self_iff.1 hbackslash, dropBlank_eq_self_iff.1 hstart, dropBlankEnd_eq_self_iff.1 hfinish⟩
  · intro h
    have hfinish := dropBlankEnd_eq_self_iff.2 h.finish
    rw [kept, hfinish, dropBlank_eq_self_iff.2 h.start, unescape_eq_self_iff.2 h.noBackslash, hfinish]

/-! ### Numbers and locations -/

theorem isPlainValue_of_visible (h : ∀ c ∈ cs, c ≠ '\\' ∧ isBlank c = false) : IsPlainValue cs where
  noBackslash hc := (h _ hc).1 rfl
  start c hc := (h c (List.mem_of_mem_head? hc)).2
  finish c hc := (h c (List.mem_of_mem_getLast? hc)).2

theorem visible_of_isDigit (h : c.isDigit = true) : c ≠ '\\' ∧ isBlank c = false ∧ c ≠ '\n' ∧ c ≠ '/' ∧ c ≠ ':' := by
  have hne (d : Char) (hd : ¬(48 ≤ d.toNat ∧ d.toNat ≤ 57)) : c ≠ d := fun he => hd (he ▸ toNat_of_isDigit h)
  exact ⟨hne _ (by decide), isBlank_eq_false_of_isDigit h, hne _ (by decide), hne _ (by decide), hne _ (by decide)⟩

theorem isPlainValue_of_isDigit (h : ∀ c ∈ cs, c.isDigit = true) : IsPlainValue cs :=
  isPlainValue_of_visible fun c hc => ⟨(visible_of_isDigit (h c hc)).1, (visible_of_isDigit (h c hc)).2.1⟩

theorem toList_uri (s : Settings) : s.uri.toList = "http://localhost:".toList ++ (portText s.port).toList :=
  String.toList_append

theorem portOf?_uri (s : Settings) : portOf? s.uri = some s.port := by
  have hdigits : ∀ c ∈ (portText s.port).toList, c.isDigit = true := fun c hc => isDigit_of_mem_ofNat hc
  have hscheme : authority.afterScheme s.uri.toList = some ("localhost:".toList ++ (portText s.port).toList) := by
    rw [toList_uri]
    rfl
  have hauthority : (authority s.uri).toList = "localhost:".toList ++ (portText s.port).toList := by
    have hhost : "localhost:".toList.all (· ≠ '/') = true := by decide
    rw [authority, hscheme, Option.getD_some, String.toList_ofList]
    refine List.takeWhile_eq_self_iff.2 fun c hc => ?_
    rcases List.mem_append.1 hc with hc | hc
    · exact List.all_eq_true.1 hhost c hc
    · simp [visible_of_isDigit (hdigits c hc)]
  have hreversed : (authority s.uri).toList.reverse =
      (portText s.port).toList.reverse ++ ':' :: "localhost".toList.reverse := by
    rw [hauthority, List.reverse_append]
    rfl
  have hlast : ((portText s.port).toList.reverse ++ ':' :: "localhost".toList.reverse).takeWhile (· ≠ ':') =
      (portText s.port).toList.reverse := by
    rw [List.takeWhile_append_of_pos, List.takeWhile_cons_of_neg (by simp), List.append_nil]
    intro c hc
    simp [visible_of_isDigit (hdigits c (List.mem_reverse.1 hc))]
  have hread : readPort? (portText s.port) = some s.port := by
    rw [readPort?, portText, readUnsigned?_ofNat, if_pos s.port.toNat_lt]
    simp
  simp only [portOf?, hreversed, hlast]
  simp [hread]

/-! ### Settings -/

theorem isPlainKey_of_mem (h : key ∈ [uriKey, tokenKey, readTimeoutKey, idleTimeoutKey]) : IsPlainKey key := by
  simp only [List.mem_cons, List.not_mem_nil, or_false] at h
  rcases h with rfl | rfl | rfl | rfl <;> exact isPlainKey_of_all (by decide) (by decide) (by decide)

theorem isPlainValue_ofNat (n : Nat) : IsPlainValue (ofNat n).toList :=
  isPlainValue_of_isDigit fun _ hc => isDigit_of_mem_ofNat hc

theorem entries_number (hkey : IsPlainKey key) (n : Nat) (rest : String) :
    entries (entryLine key (ofNat n) ++ rest) = (key, ofNat n) :: entries rest := by
  have hnewline : '\n' ∉ (ofNat n).toList := fun hc => (visible_of_isDigit (isDigit_of_mem_ofNat hc)).2.2.1 rfl
  rw [entries_entryLine hkey hnewline, kept_eq_self_iff.2 (isPlainValue_ofNat n), String.ofList_toList]

theorem visible_of_mem_uri {s : Settings} (hc : c ∈ s.uri.toList) : (c ≠ '\\' ∧ isBlank c = false) ∧ c ≠ '\n' := by
  have hhost : "http://localhost:".toList.all (fun c => (c ≠ '\\' ∧ isBlank c = false) ∧ c ≠ '\n') = true := by decide
  rw [toList_uri] at hc
  rcases List.mem_append.1 hc with hc | hc
  · exact of_decide_eq_true (List.all_eq_true.1 hhost c hc)
  · have hdigit := visible_of_isDigit (isDigit_of_mem_ofNat hc)
    exact ⟨⟨hdigit.1, hdigit.2.1⟩, hdigit.2.2.1⟩

theorem isPlainValue_uri (s : Settings) : IsPlainValue s.uri.toList :=
  isPlainValue_of_visible fun _ hc => (visible_of_mem_uri hc).1

theorem entries_uri (s : Settings) (rest : String) :
    entries (entryLine uriKey s.uri ++ rest) = (uriKey, s.uri) :: entries rest := by
  have hnewline : '\n' ∉ s.uri.toList := fun hc => (visible_of_mem_uri hc).2 rfl
  rw [entries_entryLine (isPlainKey_of_mem (by decide)) hnewline, kept_eq_self_iff.2 (isPlainValue_uri s),
    String.ofList_toList]

/-- The entries of a part of the file that is there only if something is recorded. -/
theorem entries_part {α : Type} (o : Option α) {lines : α → String} (entry : α → String × String) (rest : String)
    (h : ∀ a ∈ o, ∀ rest, entries (lines a ++ rest) = entry a :: entries rest) :
    entries ((o.map lines).getD "" ++ rest) = (o.map entry).toList ++ entries rest := by
  cases o with
  | none => simp
  | some a => simpa using h a rfl rest

theorem entries_render (s : Settings) (htoken : ∀ t ∈ s.accessToken, '\n' ∉ t.toList) :
    entries s.render = (uriKey, s.uri) ::
      ((s.accessToken.map fun t => (tokenKey, String.ofList (kept t.toList))).toList ++
        ((s.readTimeout.map fun ms => (readTimeoutKey, ofNat (ms / 1000))).toList ++
          (s.idleTimeoutMinutes.map fun m => (idleTimeoutKey, ofNat m)).toList)) := by
  have hidle := entries_part s.idleTimeoutMinutes (fun m => (idleTimeoutKey, ofNat m)) ""
    fun m _ => entries_number (isPlainKey_of_mem (by decide)) m
  rw [String.append_empty, entries_empty, List.append_nil] at hidle
  rw [render, String.append_assoc, String.append_assoc, entries_uri,
    entries_part s.accessToken _ _ fun t ht => entries_entryLine (isPlainKey_of_mem (by decide)) (htoken t ht),
    entries_part s.readTimeout _ _ fun ms _ => entries_number (isPlainKey_of_mem (by decide)) (ms / 1000), hidle]

/-- The token that is read where `token` was written in one line. -/
def reread (token : String) : Option String :=
  let value := String.ofList (kept token.toList)
  if value = "" then none else some value

theorem reread_eq_some_self_iff {token : String} :
    reread token = some token ↔ token ≠ "" ∧ IsPlainValue token.toList := by
  rw [reread, Option.ite_none_left_eq_some, Option.some.injEq, ← kept_eq_self_iff]
  constructor
  · rintro ⟨hne, h⟩
    exact ⟨h ▸ hne, by rw [← String.toList_inj] at h; simpa using h⟩
  · rintro ⟨hne, h⟩
    rw [h, String.ofList_toList]
    exact ⟨hne, rfl⟩

theorem Draft.take_uri (d : Draft) (s : Settings) : d.take uriKey s.uri = .ok { d with port := some s.port } := by
  rw [take, if_pos rfl, portOf?_uri]

theorem Draft.take_token (d : Draft) (value : String) :
    d.take tokenKey value = .ok { d with accessToken := if value = "" then none else some value } := by
  rw [take, if_neg (by decide), if_pos rfl]

theorem Draft.take_readTimeout (d : Draft) {n : Nat} (h : n < UInt64.size) :
    d.take readTimeoutKey (ofNat n) = .ok { d with readTimeout := some (1000 * n) } := by
  rw [take, if_neg (by decide), if_neg (by decide), if_pos rfl, readNumber, readUnsigned?_ofNat, if_pos h]
  rfl

theorem Draft.take_idleTimeout (d : Draft) {n : Nat} (h : n < UInt32.size) :
    d.take idleTimeoutKey (ofNat n) = .ok { d with idleTimeoutMinutes := some n } := by
  rw [take, if_neg (by decide), if_neg (by decide), if_neg (by decide), if_pos rfl, readNumber, readUnsigned?_ofNat,
    if_pos h]
  rfl

/-- The timeouts are such as the file can hold: whole seconds, and no more of them or of minutes than are read. -/
structure HasWholeTimeouts (s : Settings) : Prop where
  seconds : ∀ ms ∈ s.readTimeout, ms % 1000 = 0 ∧ ms / 1000 < UInt64.size
  minutes : ∀ m ∈ s.idleTimeoutMinutes, m < UInt32.size

theorem parse_render (s : Settings) (hs : s.HasWholeTimeouts) (htoken : ∀ t ∈ s.accessToken, '\n' ∉ t.toList) :
    parse s.render = .ok { s with accessToken := s.accessToken.bind reread } := by
  have hread := entries_render s htoken
  obtain ⟨port, token, seconds, minutes⟩ := s
  have hseconds : ∀ ms ∈ seconds, 1000 * (ms / 1000) = ms ∧ ms / 1000 < UInt64.size := by
    intro ms hms
    obtain ⟨hwhole, hbound⟩ := hs.seconds ms hms
    exact ⟨by omega, hbound⟩
  have hminutes : ∀ m ∈ minutes, m < UInt32.size := hs.minutes
  simp only [parse, hread, List.foldlM_cons, List.foldlM_append, Draft.take_uri, bind, Except.bind]
  cases token <;> cases seconds <;> cases minutes <;>
    simp_all [Draft.take_token, Draft.take_readTimeout, Draft.take_idleTimeout, reread, bind, Except.bind, pure,
      Except.pure]

/-! ### Tokens that are read -/

theorem sublist_of_splitKey? (h : splitKey? line = some (cs, ds)) : ds.Sublist line := by
  fun_induction splitKey? line generalizing cs with
  | case1 => cases h
  | case2 c line ih =>
    obtain ⟨⟨before, behind⟩, hrest, heq⟩ := Option.map_eq_some_iff.1 h
    cases heq
    exact ((ih hrest).cons c).cons _
  | case3 => cases h
  | case4 c line =>
    cases h
    exact List.sublist_cons_self c _
  | case5 c line _ _ _ ih =>
    obtain ⟨⟨before, behind⟩, hrest, heq⟩ := Option.map_eq_some_iff.1 h
    cases heq
    exact (ih hrest).cons c

theorem not_mem_of_mem_entries {text : String} (h : (key, value) ∈ entries text) : '\n' ∉ value.toList := by
  obtain ⟨line, hline, hentry⟩ := List.mem_filterMap.1 h
  have hnone : '\n' ∉ line := not_mem_of_mem_splitChars hline
  simp only [Option.ite_none_left_eq_some] at hentry
  obtain ⟨⟨before, rest⟩, hsplit, heq⟩ := Option.map_eq_some_iff.1 hentry.2
  cases heq
  have hvalue : (dropBlankEnd (unescape (dropBlank rest))).Sublist line :=
    (((dropBlankEnd_sublist _).trans (unescape_sublist _)).trans (dropBlank_sublist _)).trans
      ((sublist_of_splitKey? hsplit).trans (trimChars_sublist line))
  rw [String.toList_ofList]
  exact fun hc => hnone (hvalue.subset hc)

theorem Draft.token_of_take {d d' : Draft} (h : d.take key value = .ok d') {t : String} (ht : t ∈ d'.accessToken) :
    t ∈ d.accessToken ∨ t = value := by
  simp only [take] at h
  split at h
  · split at h <;> cases h
    exact .inl ht
  split at h
  · cases h
    refine .inr ?_
    simp only [Option.mem_def, Option.ite_none_left_eq_some] at ht
    exact (Option.some.inj ht.2).symm
  split at h
  · obtain ⟨seconds, -, hd⟩ := Outcome.bind_eq_ok.1 h
    cases hd
    exact .inl ht
  split at h
  · obtain ⟨minutes, -, hd⟩ := Outcome.bind_eq_ok.1 h
    cases hd
    exact .inl ht
  · cases h
    exact .inl ht

theorem token_of_foldlM {es : List (String × String)} {d d' : Draft} {t : String}
    (h : es.foldlM (fun (d : Draft) (key, value) => d.take key value) d = .ok d') (ht : t ∈ d'.accessToken) :
    t ∈ d.accessToken ∨ ∃ key, (key, t) ∈ es := by
  induction es generalizing d with
  | nil =>
    cases h
    exact .inl ht
  | cons e es ih =>
    rw [List.foldlM_cons] at h
    obtain ⟨next, hnext, hrest⟩ := Outcome.bind_eq_ok.1 h
    rcases ih hrest with hfirst | ⟨key, hkey⟩
    · rcases Draft.token_of_take hnext hfirst with hbefore | rfl
      · exact .inl hbefore
      · exact .inr ⟨e.1, List.mem_cons_self⟩
    · exact .inr ⟨key, List.mem_cons_of_mem e hkey⟩

/-- A token that is read stands in one line. -/
theorem not_mem_of_parse {text : String} {s : Settings} (h : parse text = .ok s) {t : String} (ht : t ∈ s.accessToken) :
    '\n' ∉ t.toList := by
  obtain ⟨d, hfold, hd⟩ := Outcome.bind_eq_ok.1 h
  split at hd
  · cases hd
    rcases token_of_foldlM hfold ht with hnone | ⟨key, hmem⟩
    · cases hnone
    · exact not_mem_of_mem_entries hmem
  · cases hd

/-! ### The round trip -/

/-- The file gives back settings just if their token is not empty, stands in one line, and has neither a backslash nor
a blank at either end; where it is in one line, only the token can be lost. -/
theorem reads_back_iff (s : Settings) (hs : s.HasWholeTimeouts) :
    ((∀ t ∈ s.accessToken, '\n' ∉ t.toList) →
        parse s.render = .ok { s with accessToken := s.accessToken.bind reread }) ∧
      (parse s.render = .ok s ↔ ∀ t ∈ s.accessToken, t ≠ "" ∧ '\n' ∉ t.toList ∧ IsPlainValue t.toList) := by
  refine ⟨parse_render s hs, fun h t ht => ?_, fun h => ?_⟩
  · have hline : ∀ t ∈ s.accessToken, '\n' ∉ t.toList := fun t ht => not_mem_of_parse h ht
    have hread : ({ s with accessToken := s.accessToken.bind reread } : Settings) = s :=
      Except.ok.inj ((parse_render s hs hline).symm.trans h)
    have htoken : s.accessToken.bind reread = s.accessToken := congrArg Settings.accessToken hread
    rw [ht, Option.bind_some, reread_eq_some_self_iff] at htoken
    exact ⟨htoken.1, hline t ht, htoken.2⟩
  · have htoken : s.accessToken.bind reread = s.accessToken := by
      cases hnone : s.accessToken with
      | none => rfl
      | some t =>
        obtain ⟨hne, -, hplain⟩ := h t hnone
        rw [Option.bind_some]
        exact reread_eq_some_self_iff.2 ⟨hne, hplain⟩
    rw [parse_render s hs fun t ht => (h t ht).2.1, htoken]

theorem reads_back_named :
    parse (render ⟨8080, some "it's mine", some 60000, some 45⟩) =
      .ok ⟨8080, some "it's mine", some 60000, some 45⟩ := by
  have htimeouts : HasWholeTimeouts ⟨8080, some "it's mine", some 60000, some 45⟩ := by
    constructor
    · rintro ms ⟨⟩
      decide
    · rintro m ⟨⟩
      decide
  refine (reads_back_iff _ htimeouts).2.2 ?_
  rintro t ⟨⟩
  refine ⟨by decide, by decide, by decide, ?_, ?_⟩
  · rintro c ⟨⟩
    decide
  · rintro c ⟨⟩
    decide

/-- A backslash is lost, blanks at the ends are lost, and a further line of the token becomes one of the file. -/
theorem reads_other_tokens :
    parse (render ⟨8080, some "a\\b", none, none⟩) = .ok ⟨8080, some "ab", none, none⟩ ∧
      parse (render ⟨8080, some " a ", none, none⟩) = .ok ⟨8080, some "a", none, none⟩ ∧
      parse (render ⟨8080, some "a\nserver.uri=http://localhost:9", none, none⟩) = .ok ⟨9, some "a", none, none⟩ ∧
      ¬∀ s : Settings, s.HasWholeTimeouts → s.accessToken ≠ some "" → parse s.render = .ok s := by
  have hbackslash : parse (render ⟨8080, some "a\\b", none, none⟩) = .ok ⟨8080, some "ab", none, none⟩ := by
    decide +kernel
  refine ⟨hbackslash, by decide +kernel, by decide +kernel, fun h => ?_⟩
  have hsame := h ⟨8080, some "a\\b", none, none⟩ ⟨nofun, nofun⟩ (by decide)
  rw [hbackslash] at hsame
  exact absurd hsame (by decide)

end Testbed.Settings
