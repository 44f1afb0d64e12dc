import Testbed.Proofs.Settings.RoundTrip

/-!
# The ways to write settings down

Other tools may write a settings file in their own way: its entries in any order, with `=` or `:` between key and value,
blanks around both, a backslash before whatever they like, line ends of either sort, and lines of their own among them
(`IsRendering`). All of them are read as the same settings (`parse_of_isRendering`), and the library's own form is one of
them (`isRendering_render`). White space around a key is no part of it, so a key is unknown if it is none of the four
without that.
-/

namespace Testbed.Settings

open Text

/-! ### Files of settings -/

/-- A line with an entry. -/
inductive IsEntryLine (key value : String) : List Char → Prop
  | mk {lead k gap sep behind v trail} (hlead : AllBlank lead) (hkey : Spells BareInKey key.toList k)
    (hgap : AllBlank gap) (hsep : IsSeparator sep) (hbehind : AllBlank behind)
    (hvalue : Spells BareInValue value.toList v) (htrail : AllBlank trail) :
    IsEntryLine key value ((lead ++ k ++ gap) ++ sep :: (behind ++ v ++ trail))

def knownKeys : List String := [uriKey, tokenKey, readTimeoutKey, idleTimeoutKey]

/-- A line that has nothing to say about a server. -/
inductive IsForeign : List Char → Prop
  | blank {line} (h : AllBlank line) : IsForeign line
  | comment {lead mark text} (hlead : AllBlank lead) (hmark : mark = '#' ∨ mark = '!') : IsForeign (lead ++ mark :: text)
  /-- All separators in the line are escaped. -/
  | unseparated {name line} (h : Spells BareInKey name line) : IsForeign line
  /-- So are they here, and the last backslash escapes nothing. -/
  | broken {name line} (h : Spells BareInKey name line) : IsForeign (line ++ ['\\'])
  | entry {name k sep value} (hkey : Spells BareInKey name k)
    (hunknown : String.ofList (trimChars name) ∉ knownKeys) (hsep : IsSeparator sep) : IsForeign (k ++ sep :: value)

/-- What may stand between a line and the rest; only the last line can do without. -/
inductive IsEnd : List Char → List Char → Prop
  | lf (rest) : IsEnd ['\n'] rest
  | crlf (rest) : IsEnd ['\r', '\n'] rest
  | last : IsEnd [] []

/-- A text has these entries, one in a line, with foreign lines among them. -/
inductive Holds : List (String × String) → List Char → Prop
  | nil : Holds [] []
  | foreign {line ending rest es} (hline : IsForeign line) (hbreak : '\n' ∉ line) (hend : IsEnd ending rest)
    (h : Holds es rest) : Holds es (line ++ (ending ++ rest))
  | entry {key value line ending rest es} (hline : IsEntryLine key value line) (hbreak : '\n' ∉ line)
    (hend : IsEnd ending rest) (h : Holds es rest) : Holds ((key, value) :: es) (line ++ (ending ++ rest))

/-- The entries of settings. -/
def recorded (s : Settings) : List (String × String) :=
  (uriKey, s.uri) :: ((s.accessToken.map fun t => (tokenKey, t)).toList ++
    ((s.readTimeout.map fun ms => (readTimeoutKey, ofNat (ms / 1000))).toList ++
      (s.idleTimeoutMinutes.map fun m => (idleTimeoutKey, ofNat m)).toList))

/-- The text has the entries of the settings once each, in whatever order. -/
def IsRendering (s : Settings) (text : String) : Prop := ∃ es, es.Perm s.recorded ∧ Holds es text.toList

variable {s : Settings} {key value : String} {cs line v rest ending : List Char} {es : List (String × String)}

/-! ### Lines -/

theorem IsForeign.not_mem_knownKeys (h : IsForeign line) : ∀ e ∈ entryOf? line, e.1 ∉ knownKeys := by
  have hnone (h : entryOf? line = none) : ∀ e ∈ entryOf? line, e.1 ∉ knownKeys := by
    rw [h]
    rintro e ⟨⟩
  cases h with
  | blank h =>
    have htrim : trimChars ([] ++ line) = [] := trimChars_append_of_blank h
    rw [List.nil_append] at htrim
    refine hnone ?_
    rw [entryOf?, htrim]
    rfl
  | @comment blanks mark text hblanks hmark =>
    have hblank : isBlank mark = false := by rcases hmark with rfl | rfl <;> rfl
    have htrim : trimChars (blanks ++ mark :: text) = mark :: dropBlankEnd text := by
      rw [trimChars, dropBlank_append_of_blank hblanks, dropBlank, List.dropWhile_cons_of_neg (by simp [hblank])]
      exact dropBlankEnd_cons hblank
    have hcomment : isComment (mark :: dropBlankEnd text) = true := by rcases hmark with rfl | rfl <;> rfl
    refine hnone ?_
    rw [entryOf?, htrim, if_pos hcomment]
  | unseparated h => exact hnone (entryOf?_eq_none h.splitKey?_eq_none.1)
  | broken h => exact hnone (entryOf?_eq_none h.splitKey?_eq_none.2)
  | entry h hunknown hsep =>
    intro e he
    obtain ⟨-, hentry⟩ := Option.ite_none_left_eq_some.1 he
    rw [splitEntry?_of_spells h hsep] at hentry
    cases hentry
    exact hunknown

theorem isForeign_of_not_mem (heq : '=' ∉ line) (hcolon : ':' ∉ line) : IsForeign line := by
  obtain ⟨name, k, hspells, rfl | rfl⟩ := Spells.exists_of_not_mem heq hcolon
  · exact .unseparated hspells
  · exact .broken hspells

theorem kept_of_spells (h : Spells BareInValue cs v) (hne : cs ≠ []) (hcs : IsTrimmed cs) {behind trail : List Char}
    (hbehind : AllBlank behind) (htrail : AllBlank trail) : kept (behind ++ v ++ trail) = cs := by
  have hv := h.isTrimmed hcs
  have hnonempty := h.ne_nil hne
  have hend : dropBlankEnd (behind ++ v ++ trail) = behind ++ v := by
    rw [dropBlankEnd_append_of_blank htrail, dropBlankEnd_eq_self_iff, List.getLast?_append,
      List.getLast?_eq_some_getLast hnonempty, Option.some_or, ← List.getLast?_eq_some_getLast hnonempty]
    exact hv.finish
  rw [kept, hend, dropBlank_append_of_blank hbehind, dropBlank_eq_self_iff.2 hv.start, h.unescape_eq,
    dropBlankEnd_eq_self_iff.2 hcs.finish]

theorem entryOf?_of_isEntryLine (hkey : IsPlainKey key) (hne : value ≠ "") (hvalue : IsTrimmed value.toList)
    (h : IsEntryLine key value line) : entryOf? line = some (key, value) := by
  obtain ⟨hlead, hk, hgap, hsep, hbehind, hv, htrail⟩ := h
  rw [entryOf?_of_key hkey hlead hk hgap hsep, kept_of_spells hv (by simpa using hne) hvalue hbehind htrail,
    String.ofList_toList]

/-! ### Files -/

theorem entryOf?_append_cr (line : List Char) : entryOf? (line ++ ['\r']) = entryOf? line := by
  rw [entryOf?, entryOf?, trimChars_append_of_blank (show AllBlank ['\r'] by decide)]

/-- The entries of a text by its lines. -/
def entriesOf (cs : List Char) : List (String × String) := (splitChars '\n' cs).filterMap entryOf?

theorem entriesOf_append (hbreak : '\n' ∉ line) (hend : IsEnd ending rest) :
    entriesOf (line ++ (ending ++ rest)) = (entryOf? line).toList ++ entriesOf rest := by
  have hfirst (first : List Char) (hbreak : '\n' ∉ first) :
      entriesOf (first ++ '\n' :: rest) = (entryOf? first).toList ++ entriesOf rest := by
    rw [entriesOf, splitChars_append_cons hbreak, List.filterMap_cons]
    cases entryOf? first <;> rfl
  cases hend with
  | lf => exact hfirst line hbreak
  | crlf =>
    have hcr := hfirst (line ++ ['\r']) (by simpa using hbreak)
    rw [entryOf?_append_cr] at hcr
    rw [← hcr]
    simp
  | last =>
    rw [List.append_nil, List.append_nil, entriesOf, splitChars_of_not_mem hbreak]
    cases hentry : entryOf? line <;> simp [hentry] <;> rfl

theorem of_mem_recorded (h : (key, value) ∈ s.recorded) :
    key = uriKey ∧ value = s.uri ∨ key = tokenKey ∧ value ∈ s.accessToken ∨
      (∃ ms ∈ s.readTimeout, key = readTimeoutKey ∧ value = ofNat (ms / 1000)) ∨
      ∃ m ∈ s.idleTimeoutMinutes, key = idleTimeoutKey ∧ value = ofNat m := by
  simp only [recorded, List.mem_cons, List.mem_append, Option.mem_toList, Option.map_eq_some_iff, Prod.mk.injEq] at h
  rcases h with huri | ⟨t, ht, rfl, rfl⟩ | ⟨ms, hms, rfl, rfl⟩ | ⟨m, hm, rfl, rfl⟩
  · exact .inl huri
  · exact .inr (.inl ⟨rfl, ht⟩)
  · exact .inr (.inr (.inl ⟨ms, hms, rfl, rfl⟩))
  · exact .inr (.inr (.inr ⟨m, hm, rfl, rfl⟩))

namespace Draft

/-- Takes all these entries into account. -/
def takeAll (d : Draft) (es : List (String × String)) : Except Problem Draft :=
  es.foldlM (fun d (key, value) => d.take key value) d

theorem takeAll_cons (d : Draft) (e : String × String) (es : List (String × String)) :
    d.takeAll (e :: es) = (d.take e.1 e.2).bind fun d => d.takeAll es := rfl

theorem take_of_unknown (h : key ∉ knownKeys) (d : Draft) (value : String) : d.take key value = .ok d := by
  simp only [knownKeys, List.mem_cons, List.not_mem_nil, or_false, not_or] at h
  obtain ⟨huri, htoken, hread, hidle⟩ := h
  rw [take, if_neg huri, if_neg htoken, if_neg hread, if_neg hidle]

/-- The draft with all that the settings have under these keys. -/
def fill (d : Draft) (s : Settings) (keys : List String) : Draft where
  port := if uriKey ∈ keys then some s.port else d.port
  accessToken := if tokenKey ∈ keys then s.accessToken else d.accessToken
  readTimeout := if readTimeoutKey ∈ keys then s.readTimeout else d.readTimeout
  idleTimeoutMinutes := if idleTimeoutKey ∈ keys then s.idleTimeoutMinutes else d.idleTimeoutMinutes

theorem fill_fill (d : Draft) (s : Settings) (key : String) (keys : List String) :
    (d.fill s [key]).fill s keys = d.fill s (key :: keys) := by
  simp only [fill, List.mem_cons, List.not_mem_nil, or_false, mk.injEq]
  grind

theorem take_of_mem_recorded (hs : s.HasWholeTimeouts) (htoken : ∀ t ∈ s.accessToken, t ≠ "")
    (h : (key, value) ∈ s.recorded) (d : Draft) : d.take key value = .ok (d.fill s [key]) := by
  rcases of_mem_recorded h with ⟨rfl, rfl⟩ | ⟨rfl, ht⟩ | ⟨ms, hms, rfl, rfl⟩ | ⟨m, hm, rfl, rfl⟩
  · rw [take_uri]
    rfl
  · rw [take_token, if_neg (htoken value ht), ← ht]
    rfl
  · obtain ⟨hwhole, hbound⟩ := hs.seconds ms hms
    rw [take_readTimeout d hbound, show 1000 * (ms / 1000) = ms by omega, ← hms]
    rfl
  · rw [take_idleTimeout d (hs.minutes m hm), ← hm]
    rfl

theorem takeAll_of_recorded (hs : s.HasWholeTimeouts) (htoken : ∀ t ∈ s.accessToken, t ≠ "")
    (hes : ∀ e ∈ es, e ∈ s.recorded) (d : Draft) : d.takeAll es = .ok (d.fill s (es.map Prod.fst)) := by
  induction es generalizing d with
  | nil => rfl
  | cons e es ih =>
    obtain ⟨he, hes⟩ := List.forall_mem_cons.1 hes
    rw [takeAll_cons, take_of_mem_recorded hs htoken he, Except.bind, ih hes, fill_fill, List.map_cons]

/-- Lines that do not matter do not change what is read. -/
theorem takeAll_entriesOf (h : Holds es cs) (hes : ∀ e ∈ es, IsPlainKey e.1 ∧ e.2 ≠ "" ∧ IsTrimmed e.2.toList)
    (d : Draft) : d.takeAll (entriesOf cs) = d.takeAll es := by
  induction h generalizing d with
  | nil => rfl
  | @foreign line ending rest es hline hbreak hend _ ih =>
    rw [entriesOf_append hbreak hend, ← ih hes]
    cases hentry : entryOf? line with
    | none => rfl
    | some e =>
      rw [Option.toList_some, List.singleton_append, takeAll_cons, take_of_unknown (hline.not_mem_knownKeys e hentry)]
      rfl
  | @entry key value line ending rest es hline hbreak hend _ ih =>
    obtain ⟨⟨hkey, hne, hvalue⟩, hes⟩ := List.forall_mem_cons.1 hes
    rw [entriesOf_append hbreak hend, entryOf?_of_isEntryLine hkey hne hvalue hline, Option.toList_some,
      List.singleton_append, takeAll_cons, takeAll_cons]
    exact congrArg (Except.bind _) (funext fun d => ih hes d)

theorem fill_recorded (s : Settings) (hes : es.Perm s.recorded) :
    fill {} s (es.map Prod.fst) = ⟨some s.port, s.accessToken, s.readTimeout, s.idleTimeoutMinutes⟩ := by
  have hmem (key : String) : key ∈ es.map Prod.fst ↔ key ∈ s.recorded.map Prod.fst := (hes.map _).mem_iff
  simp only [fill, hmem]
  obtain ⟨port, token, seconds, minutes⟩ := s
  cases token <;> cases seconds <;> cases minutes <;> simp [recorded]

end Draft

/-! ### Renderings -/

theorem isPlainKey_of_mem_recorded (h : (key, value) ∈ s.recorded) : IsPlainKey key := by
  refine isPlainKey_of_mem ?_
  rcases of_mem_recorded h with ⟨rfl, -⟩ | ⟨rfl, -⟩ | ⟨-, -, rfl, -⟩ | ⟨-, -, rfl, -⟩ <;> decide

theorem isTrimmed_of_mem_recorded (htoken : ∀ t ∈ s.accessToken, t ≠ "" ∧ trim t = t)
    (h : (key, value) ∈ s.recorded) : value ≠ "" ∧ IsTrimmed value.toList := by
  have hnumber (n : Nat) : ofNat n ≠ "" ∧ IsTrimmed (ofNat n).toList :=
    ⟨ofNat_ne_empty n, (isPlainValue_ofNat n).start, (isPlainValue_ofNat n).finish⟩
  rcases of_mem_recorded h with ⟨-, rfl⟩ | ⟨-, ht⟩ | ⟨ms, -, -, rfl⟩ | ⟨m, -, -, rfl⟩
  · refine ⟨?_, (isPlainValue_uri s).start, (isPlainValue_uri s).finish⟩
    rw [Ne, ← String.toList_eq_nil_iff, toList_uri]
    nofun
  · obtain ⟨hne, htrim⟩ := htoken value ht
    refine ⟨hne, trimChars_eq_self_iff.1 ?_⟩
    rw [← String.toList_inj, trim, String.toList_ofList] at htrim
    exact htrim
  · exact hnumber _
  · exact hnumber _

/-! ### The form that is written -/

section
variable {text : String}

theorem holds_entryLine (hkey : IsPlainKey key) (hvalue : '\n' ∉ value.toList ∧ '\\' ∉ value.toList)
    (h : Holds es text.toList) : Holds ((key, value) :: es) (entryLine key value ++ text).toList := by
  have hspells : Spells BareInValue value.toList value.toList := .self fun c hc hsame => hvalue.2 (hsame ▸ hc)
  have hblank : AllBlank [] := nofun
  have hline : IsEntryLine key value (([] ++ key.toList ++ []) ++ '=' :: ([] ++ value.toList ++ [])) :=
    .mk hblank (spells_self hkey) hblank (.inl rfl) hblank hspells hblank
  have hbreak : '\n' ∉ ([] ++ key.toList ++ []) ++ '=' :: ([] ++ value.toList ++ []) := by
    have hnone : '\n' ∉ key.toList := fun hc => (hkey.plain _ hc).2.2.2.1 rfl
    simp [hnone, hvalue.1]
  have hholds := Holds.entry hline hbreak (.lf _) h
  simpa [entryLine] using hholds

theorem holds_part {α : Type} {o : Option α} {value : α → String} (hkey : IsPlainKey key)
    (hvalue : ∀ a ∈ o, '\n' ∉ (value a).toList ∧ '\\' ∉ (value a).toList) (h : Holds es text.toList) :
    Holds ((o.map fun a => (key, value a)).toList ++ es)
      ((o.map fun a => entryLine key (value a)).getD "" ++ text).toList := by
  cases o with
  | none => simpa using h
  | some a => exact holds_entryLine hkey (hvalue a rfl) h

end

theorem unbroken_ofNat (n : Nat) : '\n' ∉ (ofNat n).toList ∧ '\\' ∉ (ofNat n).toList :=
  ⟨fun hc => (visible_of_isDigit (isDigit_of_mem_ofNat hc)).2.2.1 rfl, (isPlainValue_ofNat n).noBackslash⟩

/-- What is written for settings is one of their renderings, if their token has neither a backslash nor a line break. -/
theorem isRendering_render (s : Settings) (htoken : ∀ t ∈ s.accessToken, '\n' ∉ t.toList ∧ '\\' ∉ t.toList) :
    s.IsRendering s.render := by
  refine ⟨s.recorded, .refl _, ?_⟩
  have hplain {key : String} (h : key ∈ knownKeys) : IsPlainKey key := isPlainKey_of_mem h
  have huri : '\n' ∉ s.uri.toList ∧ '\\' ∉ s.uri.toList :=
    ⟨fun hc => (visible_of_mem_uri hc).2 rfl, (isPlainValue_uri s).noBackslash⟩
  have hend : Holds [] "".toList := .nil
  rw [render, recorded, ← String.append_empty (s := _ ++ _), String.append_assoc, String.append_assoc,
    String.append_assoc, ← List.append_nil (Option.toList (s.idleTimeoutMinutes.map _))]
  refine holds_entryLine (hplain (by decide)) huri (holds_part (hplain (by decide)) htoken ?_)
  refine holds_part (hplain (by decide)) (fun _ _ => unbroken_ofNat _) ?_
  exact holds_part (hplain (by decide)) (fun _ _ => unbroken_ofNat _) hend

/-- Settings are read as they are from whatever is a rendering of them, if only their token has no blank at an end and
is not empty. -/
theorem parse_of_isRendering (s : Settings) (hs : s.HasWholeTimeouts)
    (htoken : ∀ t ∈ s.accessToken, t ≠ "" ∧ trim t = t) (text : String) (h : s.IsRendering text) :
    parse text = .ok s := by
  obtain ⟨es, hperm, hholds⟩ := h
  have hread : Draft.takeAll {} (entries text) =
      .ok ⟨some s.port, s.accessToken, s.readTimeout, s.idleTimeoutMinutes⟩ := by
    rw [entries_eq, ← entriesOf, Draft.takeAll_entriesOf hholds fun e he => ?_,
      Draft.takeAll_of_recorded hs (fun t ht => (htoken t ht).1) fun e he => hperm.mem_iff.1 he,
      Draft.fill_recorded s hperm]
    have hmem := hperm.mem_iff.1 he
    exact ⟨isPlainKey_of_mem_recorded hmem, isTrimmed_of_mem_recorded htoken hmem⟩
  rw [parse, ← Draft.takeAll, hread]
  rfl

theorem parse_rendering_of_another_tool :
    parse ("# shared\r\n\n  server.idle.timeout.minutes : 5\t\nserver\\.access.token=a\\\\b\r\n" ++
      "more=\nno separator\nserver.uri=http\\://localhost:80") = .ok ⟨80, some "a\\b", none, some 5⟩ := by
  have hcomment : IsForeign "# shared".toList := @IsForeign.comment [] '#' " shared".toList nofun (.inl rfl)
  have hidle : IsEntryLine idleTimeoutKey "5" "  server.idle.timeout.minutes : 5\t".toList :=
    @IsEntryLine.mk _ _ "  ".toList idleTimeoutKey.toList " ".toList ':' " ".toList "5".toList "\t".toList (by decide)
      (.of_all (by decide)) (by decide) (.inr rfl) (by decide) (.of_all (by decide)) (by decide)
  have hserver : Spells BareInKey "server".toList "server".toList := .of_all (by decide)
  have htoken : IsEntryLine tokenKey "a\\b" "server\\.access.token=a\\\\b".toList :=
    @IsEntryLine.mk _ _ [] "server\\.access.token".toList [] '=' [] "a\\\\b".toList [] (by decide)
      (hserver.append (.escaped (.of_all (by decide)))) (by decide) (.inl rfl) (by decide)
      (.plain (by decide) (.escaped (.of_all (by decide)))) (by decide)
  have hmore : IsForeign "more=".toList :=
    @IsForeign.entry "more".toList "more".toList '=' [] (.of_all (by decide)) (by decide) (.inl rfl)
  have hnone : IsForeign "no separator".toList := isForeign_of_not_mem (by decide) (by decide)
  have hscheme : Spells BareInValue "http".toList "http".toList := .of_all (by decide)
  have huri : IsEntryLine uriKey "http://localhost:80" "server.uri=http\\://localhost:80".toList :=
    @IsEntryLine.mk _ _ [] uriKey.toList [] '=' [] "http\\://localhost:80".toList [] (by decide) (.of_all (by decide))
      (by decide) (.inl rfl) (by decide) (hscheme.append (.escaped (.of_all (by decide)))) (by decide)
  have hempty : IsForeign [] := .blank (by decide)
  have hlines := Holds.foreign hcomment (by decide) (.crlf _) <| .foreign hempty (by decide) (.lf _) <|
    .entry hidle (by decide) (.lf _) <| .entry htoken (by decide) (.crlf _) <| .foreign hmore (by decide) (.lf _) <|
    .foreign hnone (by decide) (.lf _) <| .entry huri (by decide) .last .nil
  refine parse_of_isRendering ⟨80, some "a\\b", none, some 5⟩ ⟨nofun, ?_⟩ ?_ _
    ⟨[(idleTimeoutKey, "5"), (tokenKey, "a\\b"), (uriKey, "http://localhost:80")], by decide +kernel, ?_⟩
  · rintro m ⟨⟩
    decide
  · rintro t ⟨⟩
    decide
  · convert hlines using 1
    decide +kernel

end Testbed.Settings
