import Testbed.Proofs.Text.Decimal
import Testbed.Proofs.Value.Order

/-!
# What the text of a value tells of it

Strings stand bare in a text, so it may be that of several values: `1` is an integer and a string, `[a, b]` a list of
one string and a list of two. Where no string can be taken for anything else (`Value.Legible`), a text is that of one
value only (`text_inj`): read from its front, it shows where each part ends (`eq_of_text_append`).
-/

namespace Testbed.Value

variable {α : Type} {v w : Value} {s : String} {c close : Char} {a b r r' : List Char}

/-- The characters that stand around the parts of lists and maps. -/
def marks : List Char := [',', '=', '[', ']', '\x7b', '\x7d']

theorem not_mem_marks_of_all {cs : List Char} (h : cs.all (· ∉ marks) = true) : ∀ c ∈ cs, c ∉ marks :=
  fun c hc => of_decide_eq_true (List.all_eq_true.1 h c hc)

/-- A string without marks that is the text of no other scalar. -/
structure IsWord (s : String) : Prop where
  ne_empty : s ≠ ""
  unmarked : ∀ c ∈ s.toList, c ∉ marks
  ne_null : s ≠ "null"
  ne_bool : s ≠ "true" ∧ s ≠ "false"
  ne_int : ∀ i : Int32, s ≠ Text.ofInt i.toInt

/-- Every string in the value is a word. -/
inductive Legible : Value → Prop
  | null : Legible .null
  | bool (b : Bool) : Legible (.bool b)
  | int (i : Int32) : Legible (.int i)
  | string {s : String} (h : IsWord s) : Legible (.string s)
  | list {items : List Value} (h : ∀ v ∈ items, Legible v) : Legible (.list items)
  | map {pairs : List (Value × Value)} (hkey : ∀ p ∈ pairs, Legible p.1) (hvalue : ∀ p ∈ pairs, Legible p.2) :
    Legible (.map pairs)

/-! ### Scalars -/

def IsScalar : Value → Prop
  | list _ | map _ => False
  | _ => True

/-- A part of a text that no mark interrupts. -/
structure Unmarked (cs : List Char) : Prop where
  ne_nil : cs ≠ []
  not_mem : ∀ c ∈ cs, c ∉ marks

theorem Unmarked.head (h : Unmarked (c :: a)) : c ∉ marks := h.not_mem c (List.mem_cons_self ..)

theorem Legible.unmarked (hv : Legible v) (hscalar : v.IsScalar) : Unmarked v.text.toList := by
  cases hv with
  | null => exact ⟨by decide, not_mem_marks_of_all (by decide)⟩
  | bool b => cases b <;> exact ⟨by decide, not_mem_marks_of_all (by decide)⟩
  | int i =>
    refine ⟨fun h => Text.ofInt_ne_empty i.toInt (String.toList_inj.1 h), fun c hc hmark => ?_⟩
    have hall : ∀ c ∈ marks, c ≠ '-' ∧ c.isDigit = false := by simp [marks, Char.isDigit]
    obtain ⟨hminus, hdigit⟩ := hall c hmark
    rcases Text.of_mem_ofInt hc with rfl | hc
    · exact hminus rfl
    · rw [hdigit] at hc
      cases hc
  | string h => exact ⟨fun hnil => h.ne_empty (String.toList_inj.1 hnil), h.unmarked⟩
  | list | map => cases hscalar

theorem IsWord.eq_string (hs : IsWord s) (hw : Legible w) (hscalar : w.IsScalar) (h : s = w.text) :
    w = .string s := by
  cases hw with
  | null => exact absurd h hs.ne_null
  | bool b =>
    cases b with
    | false => exact absurd h hs.ne_bool.2
    | true => exact absurd h hs.ne_bool.1
  | int i => exact absurd h (hs.ne_int i)
  | string => rw [h]; rfl
  | list | map => cases hscalar

theorem ofInt_ne {t : String} (hc : c ∈ t.toList) (hletter : c ≠ '-' ∧ c.isDigit = false) (i : Int32) :
    Text.ofInt i.toInt ≠ t := by
  rintro rfl
  rcases Text.of_mem_ofInt hc with rfl | hdigit
  · exact hletter.1 rfl
  · rw [hletter.2] at hdigit
    cases hdigit

theorem eq_of_text_of_isScalar (hv : Legible v) (hw : Legible w) (hvs : v.IsScalar) (hws : w.IsScalar)
    (h : v.text = w.text) : v = w := by
  have hnull := ofInt_ne (c := 'u') (t := "null") (by decide) (by decide)
  have hbool (b : Bool) := ofInt_ne (c := 'e') (t := (Value.bool b).text) (by cases b <;> decide) (by decide)
  cases hv with
  | string hs => exact (hs.eq_string hw hws h).symm
  | null =>
    cases hw with
    | null => rfl
    | bool b => cases b <;> exact absurd h (by decide)
    | int i => exact absurd h.symm (hnull i)
    | string hs => exact hs.eq_string .null trivial h.symm
    | list | map => cases hws
  | bool a =>
    cases hw with
    | null => cases a <;> exact absurd h (by decide)
    | bool b =>
      have hinj : ∀ a b, (Value.bool a).text = (Value.bool b).text → a = b := by decide
      rw [hinj a b h]
    | int i => exact absurd h.symm (hbool a i)
    | string hs => exact hs.eq_string (.bool a) trivial h.symm
    | list | map => cases hws
  | int i =>
    cases hw with
    | null => exact absurd h (hnull i)
    | bool b => exact absurd h (hbool b i)
    | int j => rw [Int32.toInt_inj.1 (Text.ofInt_inj.1 h)]
    | string hs => exact hs.eq_string (.int i) trivial h.symm
    | list | map => cases hws
  | list | map => cases hvs

/-! ### Parts in a row -/

/-- Nothing follows, or a mark. -/
def Ends (r : List Char) : Prop := ∀ c ∈ r.head?, c ∈ marks

theorem ends_cons (hc : c ∈ marks) (r : List Char) : Ends (c :: r) := fun _ hd => Option.some.inj hd ▸ hc

/-- What no mark interrupts goes up to the first mark. -/
theorem Unmarked.append_inj (ha : Unmarked a) (hb : Unmarked b) (hr : Ends r) (hr' : Ends r')
    (h : a ++ r = b ++ r') : a = b ∧ r = r' := by
  have htake {a r : List Char} (ha : Unmarked a) (hr : Ends r) :
      (a ++ r).takeWhile (fun c => c ∉ marks) = a := by
    rw [List.takeWhile_append_of_pos fun c hc => decide_eq_true (ha.not_mem c hc)]
    cases r with
    | nil => simp
    | cons c r => simp [hr c rfl]
  have hab : a = b := by rw [← htake ha hr, h, htake hb hr']
  subst hab
  exact ⟨rfl, List.append_cancel_left h⟩

/-- Two parts are told apart by how they are written, whatever may follow them. -/
def TellsApart (write : α → List Char) (x y : α) : Prop :=
  ∀ r r', Ends r → Ends r' → write x ++ r = write y ++ r' → x = y ∧ r = r'

/-- It is not written as if a list or map ended or went on before it. -/
def Begins (cs : List Char) : Prop := ∃ c rest, cs = c :: rest ∧ c ∉ [',', '=', ']', '\x7d']

/-- What stands behind the first part of a list or map that has `xs` after it. -/
def behind (write : α → List Char) (close : Char) (r : List Char) : List α → List Char
  | [] => close :: r
  | x :: xs => ',' :: ' ' :: write x ++ behind write close r xs

variable {write : α → List Char} {x : α} {xs ys : List α}

theorem intercalate_append (x : α) (xs : List α) :
    [',', ' '].intercalate ((x :: xs).map write) ++ close :: r = write x ++ behind write close r xs := by
  induction xs generalizing x with
  | nil => simp [behind]
  | cons y ys ih =>
    have hrest := ih y
    rw [List.map_cons] at hrest
    rw [List.map_cons, List.map_cons, List.intercalate_cons_cons, List.append_assoc, List.append_assoc, hrest, behind]
    rfl

theorem ends_behind (hclose : close ∈ marks) : Ends (behind write close r xs) := by
  cases xs with
  | nil => exact ends_cons hclose r
  | cons x xs => exact ends_cons (by decide) _

theorem behind_inj (hclose : close ∈ marks) (hcomma : close ≠ ',')
    (hxy : ∀ x ∈ xs, ∀ y ∈ ys, TellsApart write x y) (h : behind write close r xs = behind write close r' ys) :
    xs = ys ∧ r = r' := by
  -- the parts are taken from the front; each is followed by a comma or by the closing mark
  induction xs generalizing ys with
  | nil =>
    cases ys with
    | nil => exact ⟨rfl, (List.cons.inj h).2⟩
    | cons y ys => exact absurd (List.cons.inj h).1 hcomma
  | cons x xs ih =>
    cases ys with
    | nil => exact absurd (List.cons.inj h).1.symm hcomma
    | cons y ys =>
      have hparts : write x ++ behind write close r xs = write y ++ behind write close r' ys := by
        simpa [behind] using h
      obtain ⟨rfl, hrest⟩ := hxy x (List.mem_cons_self ..) y (List.mem_cons_self ..) _ _ (ends_behind hclose)
        (ends_behind hclose) hparts
      obtain ⟨rfl, hr⟩ := ih (fun x hx y hy => hxy x (List.mem_cons_of_mem _ hx) y (List.mem_cons_of_mem _ hy)) hrest
      exact ⟨rfl, hr⟩

theorem intercalate_inj (hclose : close ∈ [']', '\x7d']) (hxy : ∀ x ∈ xs, ∀ y ∈ ys, TellsApart write x y)
    (hx : ∀ x ∈ xs, Begins (write x)) (hy : ∀ y ∈ ys, Begins (write y))
    (h : [',', ' '].intercalate (xs.map write) ++ close :: r = [',', ' '].intercalate (ys.map write) ++ close :: r') :
    xs = ys ∧ r = r' := by
  have hmarks : ∀ c ∈ [']', '\x7d'], c ∈ marks ∧ c ∈ [',', '=', ']', '\x7d'] ∧ c ≠ ',' := by simp [marks]
  obtain ⟨hmark, hends, hcomma⟩ := hmarks close hclose
  have hempty {z : α} {zs : List α} {r r' : List Char} (hz : Begins (write z)) :
      close :: r ≠ [',', ' '].intercalate ((z :: zs).map write) ++ close :: r' := by
    obtain ⟨c, rest, hc, hnot⟩ := hz
    rw [intercalate_append, hc]
    exact fun h => hnot ((List.cons.inj h).1 ▸ hends)
  cases xs with
  | nil =>
    cases ys with
    | nil => exact ⟨rfl, (List.cons.inj h).2⟩
    | cons y ys => exact absurd h (hempty (hy y (List.mem_cons_self ..)))
  | cons x xs =>
    cases ys with
    | nil => exact absurd h.symm (hempty (hx x (List.mem_cons_self ..)))
    | cons y ys =>
      rw [intercalate_append, intercalate_append] at h
      have hbehind : behind write close r xs = behind write close r' ys ∧ x = y := by
        obtain ⟨hsame, hrest⟩ := hxy x (List.mem_cons_self ..) y (List.mem_cons_self ..) _ _ (ends_behind hmark)
          (ends_behind hmark) h
        exact ⟨hrest, hsame⟩
      obtain ⟨hbehind, rfl⟩ := hbehind
      obtain ⟨rfl, hr⟩ := behind_inj hmark hcomma
        (fun x hx y hy => hxy x (List.mem_cons_of_mem _ hx) y (List.mem_cons_of_mem _ hy)) hbehind
      exact ⟨rfl, hr⟩

/-! ### Values -/

/-- A key and a value with a sign of equality between them. -/
def pairChars (p : Value × Value) : List Char := p.1.text.toList ++ '=' :: p.2.text.toList

theorem itemTexts_eq (items : List Value) : itemTexts items = items.map text := by
  induction items with
  | nil => rfl
  | cons v items ih => rw [itemTexts, ih, List.map_cons]

theorem pairTexts_eq (pairs : List (Value × Value)) :
    pairTexts pairs = pairs.map fun p => p.1.text ++ "=" ++ p.2.text := by
  induction pairs with
  | nil => rfl
  | cons p pairs ih => rw [pairTexts, ih, List.map_cons]

theorem toList_text_list (items : List Value) (r : List Char) : (Value.list items).text.toList ++ r =
    '[' :: ([',', ' '].intercalate (items.map fun v => v.text.toList) ++ ']' :: r) := by
  rw [text, itemTexts_eq, String.toList_append, String.toList_append, String.toList_intercalate, List.map_map]
  simp [Function.comp_def]

theorem toList_text_map (pairs : List (Value × Value)) (r : List Char) : (Value.map pairs).text.toList ++ r =
    '\x7b' :: ([',', ' '].intercalate (pairs.map pairChars) ++ '\x7d' :: r) := by
  have hchars (p : Value × Value) : (p.1.text ++ "=" ++ p.2.text).toList = pairChars p := by
    simp [pairChars]
  rw [text, pairTexts_eq, String.toList_append, String.toList_append, String.toList_intercalate, List.map_map]
  simp [Function.comp_def, hchars]

theorem Unmarked.begins (ha : Unmarked a) : Begins a := by
  obtain ⟨c, rest, rfl⟩ := List.exists_cons_of_ne_nil ha.ne_nil
  have hmarks : ∀ d ∈ [',', '=', ']', '\x7d'], d ∈ marks := by simp [marks]
  exact ⟨c, rest, rfl, fun h => ha.head (hmarks c h)⟩

theorem Legible.begins (hv : Legible v) : Begins v.text.toList := by
  cases hv with
  | list h =>
    rw [← List.append_nil (Value.text _).toList, toList_text_list]
    exact ⟨_, _, rfl, by decide⟩
  | map hkey hvalue =>
    rw [← List.append_nil (Value.text _).toList, toList_text_map]
    exact ⟨_, _, rfl, by decide⟩
  | null => exact (Legible.null.unmarked trivial).begins
  | bool b => exact ((Legible.bool b).unmarked trivial).begins
  | int i => exact ((Legible.int i).unmarked trivial).begins
  | string h => exact ((Legible.string h).unmarked trivial).begins

theorem Begins.append (h : Begins a) (b : List Char) : Begins (a ++ b) := by
  obtain ⟨c, rest, rfl, hc⟩ := h
  exact ⟨c, rest ++ b, rfl, hc⟩

theorem Legible.text_append_ne (hv : Legible v) (hscalar : v.IsScalar) (hc : c ∈ marks) :
    v.text.toList ++ r ≠ c :: r' := by
  have htext := hv.unmarked hscalar
  obtain ⟨d, rest, hd⟩ := List.exists_cons_of_ne_nil htext.ne_nil
  rw [hd] at htext ⊢
  exact fun h => htext.head ((List.cons.inj h).1 ▸ hc)

theorem cases_isScalar (v : Value) : v.IsScalar ∨ (∃ items, v = .list items) ∨ ∃ pairs, v = .map pairs := by
  cases v with
  | list items => exact .inr (.inl ⟨items, rfl⟩)
  | map pairs => exact .inr (.inr ⟨pairs, rfl⟩)
  | null | bool | int | string => exact .inl trivial

theorem tellsApart_of_isScalar (hv : Legible v) (hw : Legible w) (hscalar : v.IsScalar) :
    TellsApart (fun v : Value => v.text.toList) v w := by
  intro r r' hr hr' h
  dsimp only at h
  rcases w.cases_isScalar with hws | ⟨items, rfl⟩ | ⟨pairs, rfl⟩
  · obtain ⟨htext, hrest⟩ := (hv.unmarked hscalar).append_inj (hw.unmarked hws) hr hr' h
    exact ⟨eq_of_text_of_isScalar hv hw hscalar hws (String.toList_inj.1 htext), hrest⟩
  · rw [toList_text_list] at h
    exact absurd h (hv.text_append_ne hscalar (by decide))
  · rw [toList_text_map] at h
    exact absurd h (hv.text_append_ne hscalar (by decide))

theorem tellsApart_pairs {p q : Value × Value} (hkey : TellsApart (fun v : Value => v.text.toList) p.1 q.1)
    (hvalue : TellsApart (fun v : Value => v.text.toList) p.2 q.2) : TellsApart pairChars p q := by
  intro r r' hr hr' h
  rw [pairChars, pairChars, List.append_assoc, List.append_assoc, List.cons_append, List.cons_append] at h
  obtain ⟨hk, h⟩ := hkey _ _ (ends_cons (by decide) _) (ends_cons (by decide) _) h
  obtain ⟨hv, hrest⟩ := hvalue r r' hr hr' (List.cons.inj h).2
  exact ⟨Prod.ext hk hv, hrest⟩

/-- A text is read from its front: it shows where it ends and whose it is. -/
theorem tellsApart (hv : Legible v) (hw : Legible w) : TellsApart (fun v : Value => v.text.toList) v w := by
  -- the induction is on one of the values; the other must begin alike, and so is of the same kind
  induction hv generalizing w with
  | null => exact tellsApart_of_isScalar .null hw trivial
  | bool b => exact tellsApart_of_isScalar (.bool b) hw trivial
  | int i => exact tellsApart_of_isScalar (.int i) hw trivial
  | string hs => exact tellsApart_of_isScalar (.string hs) hw trivial
  | @list items hitems ih =>
    intro r r' hr hr' h
    dsimp only at h
    rw [toList_text_list] at h
    rcases w.cases_isScalar with hws | ⟨others, rfl⟩ | ⟨pairs, rfl⟩
    · exact absurd h.symm (hw.text_append_ne hws (by decide))
    · cases hw with
      | list hothers =>
        rw [toList_text_list] at h
        obtain ⟨rfl, hrest⟩ := intercalate_inj (by decide) (fun x hx y hy => ih x hx (hothers y hy))
          (fun x hx => (hitems x hx).begins) (fun y hy => (hothers y hy).begins) (List.cons.inj h).2
        exact ⟨rfl, hrest⟩
    · rw [toList_text_map] at h
      exact absurd (List.cons.inj h).1 (by decide)
  | @map pairs hkey hvalue ihkey ihvalue =>
    intro r r' hr hr' h
    dsimp only at h
    rw [toList_text_map] at h
    rcases w.cases_isScalar with hws | ⟨items, rfl⟩ | ⟨others, rfl⟩
    · exact absurd h.symm (hw.text_append_ne hws (by decide))
    · rw [toList_text_list] at h
      exact absurd (List.cons.inj h).1 (by decide)
    · cases hw with
      | map hothersKey hothersValue =>
        rw [toList_text_map] at h
        obtain ⟨rfl, hrest⟩ := intercalate_inj (by decide)
          (fun p hp q hq => tellsApart_pairs (ihkey p hp (hothersKey q hq)) (ihvalue p hp (hothersValue q hq)))
          (fun p hp => (hkey p hp).begins.append _) (fun q hq => (hothersKey q hq).begins.append _)
          (List.cons.inj h).2
        exact ⟨rfl, hrest⟩

theorem text_inj (hv : Legible v) (hw : Legible w) : v.text = w.text ↔ v = w := by
  refine ⟨fun h => ?_, congrArg text⟩
  have happend : v.text.toList ++ [] = w.text.toList ++ [] := by rw [h]
  exact (tellsApart hv hw [] [] nofun nofun happend).1

/-- Both are strings, or no string in them can be taken for anything else. -/
def Comparable (v w : Value) : Prop := (∃ s t, v = .string s ∧ w = .string t) ∨ Legible v ∧ Legible w

theorem Comparable.text_eq_iff (h : Comparable v w) : v.text = w.text ↔ v = w := by
  rcases h with ⟨s, t, rfl, rfl⟩ | ⟨hv, hw⟩
  · exact ⟨congrArg Value.string, congrArg text⟩
  · exact text_inj hv hw

end Testbed.Value
