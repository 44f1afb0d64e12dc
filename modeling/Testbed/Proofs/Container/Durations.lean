import Testbed.Container.Block
import Testbed.Proofs.Text.Blank
import Testbed.Proofs.Text.Decimal
import Mathlib

/-!
# Times of a configuration

A time counts milliseconds, seconds or minutes. An integer counts seconds; a text has a numeral and behind it a unit, or
none for seconds (`Tells`). What is read of a value is what it tells, to the millisecond, and no value tells two times
(`duration_is_what_is_told`).
-/

namespace Testbed.Container.Block

open Text

inductive TimeUnit where
  | milliseconds
  | seconds
  | minutes
  deriving DecidableEq

namespace TimeUnit

def text : TimeUnit → String
  | milliseconds => "ms"
  | seconds => "s"
  | minutes => "m"

/-- In milliseconds. -/
def length : TimeUnit → Nat
  | milliseconds => 1
  | seconds => 1000
  | minutes => 60000

/-- Whether a text can tell so many of them. Minutes have to be few enough in seconds, too. -/
def Admits (u : TimeUnit) (n : Nat) : Prop := n < 2 ^ 64 ∧ (u = minutes → 60 * n < 2 ^ 64)

end TimeUnit

/-- What may stand behind the numeral of a text. -/
inductive IsSuffix : List Char → TimeUnit → Prop
  | bare : IsSuffix [] .seconds
  | named {gap : List Char} {u : TimeUnit} (hgap : ∀ c ∈ gap, isBlank c = true) : IsSuffix (gap ++ u.text.toList) u

/-- The value tells a time of `n` units. -/
inductive Tells : Value → Nat → TimeUnit → Prop
  | int {i : Int32} (h : 0 ≤ i.toInt) : Tells (.int i) i.toInt.toNat .seconds
  | string {s : String} {before digits suffix after : List Char} {n : Nat} {u : TimeUnit}
    (hs : s.toList = before ++ (digits ++ suffix) ++ after) (hbefore : ∀ c ∈ before, isBlank c = true)
    (hdigits : IsNumeral digits n) (hsuffix : IsSuffix suffix u) (hafter : ∀ c ∈ after, isBlank c = true)
    (hn : u.Admits n) : Tells (.string s) n u

variable {digits suffix : List Char} {u u' : TimeUnit} {s : String} {n n' ms : Nat} {v : Value}

/-! ### What stands behind a numeral -/

theorem TimeUnit.text_inj (h : u.text.toList = u'.text.toList) : u = u' := by
  cases u <;> cases u' <;> first | rfl | exact absurd h (by decide)

theorem TimeUnit.isTrimmed_text (u : TimeUnit) : IsTrimmed u.text.toList where
  start c hc := by cases u <;> (obtain rfl := Option.some.inj hc; rfl)
  finish c hc := by cases u <;> (obtain rfl := Option.some.inj hc; rfl)

theorem TimeUnit.trimChars_text {gap : List Char} (hgap : ∀ c ∈ gap, isBlank c = true) :
    trimChars (gap ++ u.text.toList) = u.text.toList := by
  have h : trimChars (gap ++ u.text.toList ++ []) = u.text.toList := u.isTrimmed_text.trimChars_append hgap nofun
  rwa [List.append_nil] at h

/-- The milliseconds of `n` units, the unit being what `suffix` is but for blanks around it. -/
def reckon? (suffix : List Char) (n : Nat) : Option Nat :=
  match String.ofList (trimChars suffix) with
  | "" => if suffix.isEmpty then some (1000 * n) else none
  | "ms" => some n
  | "s" => some (1000 * n)
  | "m" => if 60 * n < UInt64.size then some (1000 * (60 * n)) else none
  | _ => none

namespace IsSuffix

theorem unique (h : IsSuffix suffix u) (h' : IsSuffix suffix u') : u = u' := by
  generalize hcs : suffix = cs at h'
  cases h with
  | bare =>
    cases h' with
    | bare => rfl
    | named => cases u' <;> simp [TimeUnit.text] at hcs
  | named hgap =>
    cases h' with
    | bare => cases u <;> simp [TimeUnit.text] at hcs
    | named hgap' =>
      have htrim := congrArg trimChars hcs
      rw [TimeUnit.trimChars_text hgap, TimeUnit.trimChars_text hgap'] at htrim
      exact TimeUnit.text_inj htrim

theorem reckon?_eq (h : IsSuffix suffix u) (hn : u.Admits n) : reckon? suffix n = some (n * u.length) := by
  cases h with
  | bare => simp [reckon?, trimChars, dropBlank, dropBlankEnd, TimeUnit.length, Nat.mul_comm]
  | named hgap =>
    rw [reckon?, TimeUnit.trimChars_text hgap, String.ofList_toList]
    cases u with
    | milliseconds => simp [TimeUnit.text, TimeUnit.length]
    | seconds => simp [TimeUnit.text, TimeUnit.length, Nat.mul_comm]
    | minutes =>
      have hlt : 60 * n < UInt64.size := hn.2 rfl
      simp only [TimeUnit.text, TimeUnit.length, if_pos hlt]
      congr 1
      omega

/-- The numeral ends where the suffix begins. -/
theorem isDigit_head (h : IsSuffix suffix u) : ∀ c ∈ suffix.head?, c.isDigit = false := by
  intro c hc
  cases h with
  | bare => cases hc
  | @named gap u hgap =>
    cases gap with
    | nil =>
      have hunit : ∀ c ∈ u.text.toList.head?, c.isDigit = false := by cases u <;> simp [TimeUnit.text]
      exact hunit c hc
    | cons b gap =>
      obtain rfl : b = c := Option.some.inj hc
      refine Bool.eq_false_iff.2 fun hdigit => ?_
      have hblank := isBlank_eq_false_of_isDigit hdigit
      rw [hgap b (List.mem_cons_self ..)] at hblank
      cases hblank

theorem isBlank_getLast (h : IsSuffix suffix u) : ∀ c ∈ suffix.getLast?, isBlank c = false := by
  intro c hc
  cases h with
  | bare => cases hc
  | @named gap u hgap =>
    refine u.isTrimmed_text.finish c ?_
    cases u <;> simpa [TimeUnit.text, List.getLast?_append] using hc

theorem isTrimmed_append (h : IsSuffix suffix u) (hne : digits ≠ []) (hdigits : ∀ c ∈ digits, c.isDigit = true) :
    IsTrimmed (digits ++ suffix) where
  start c hc := by
    rw [List.head?_append, List.head?_eq_some_head hne, Option.some_or, ← List.head?_eq_some_head hne] at hc
    exact isBlank_eq_false_of_isDigit (hdigits c (List.mem_of_mem_head? hc))
  finish c hc := by
    rw [List.getLast?_append, Option.mem_def, Option.or_eq_some_iff] at hc
    rcases hc with hc | ⟨-, hc⟩
    · exact h.isBlank_getLast c hc
    · exact isBlank_eq_false_of_isDigit (hdigits c (List.mem_of_mem_getLast? hc))

end IsSuffix

/-- A suffix that is read is one, but for blanks at its end. -/
theorem exists_isSuffix (h : reckon? suffix n = some ms) (hn : n < 2 ^ 64) :
    ∃ core after u, suffix = core ++ after ∧ IsSuffix core u ∧ (∀ c ∈ after, isBlank c = true) ∧ u.Admits n ∧
      ms = n * u.length := by
  obtain ⟨gap, after, hsuffix, hgap, hafter⟩ := exists_trimChars suffix
  have named (u : TimeUnit) (htext : String.ofList (trimChars suffix) = u.text) (hn : u.Admits n)
      (hms : ms = n * u.length) : ∃ core after u, suffix = core ++ after ∧ IsSuffix core u ∧
        (∀ c ∈ after, isBlank c = true) ∧ u.Admits n ∧ ms = n * u.length := by
    rw [← String.toList_inj, String.toList_ofList] at htext
    rw [htext] at hsuffix
    exact ⟨_, after, u, hsuffix, .named hgap, hafter, hn, hms⟩
  rw [reckon?] at h
  split at h
  · rw [Option.ite_none_right_eq_some] at h
    obtain ⟨hempty, h⟩ := h
    refine ⟨[], [], .seconds, List.isEmpty_iff.1 hempty, .bare, nofun, ⟨hn, nofun⟩, ?_⟩
    rw [← Option.some.inj h, TimeUnit.length, Nat.mul_comm]
  · rename_i htext
    refine named .milliseconds htext ⟨hn, nofun⟩ ?_
    rw [← Option.some.inj h, TimeUnit.length, Nat.mul_one]
  · rename_i htext
    refine named .seconds htext ⟨hn, nofun⟩ ?_
    rw [← Option.some.inj h, TimeUnit.length, Nat.mul_comm]
  · rename_i htext
    rw [Option.ite_none_right_eq_some] at h
    obtain ⟨hlt, h⟩ := h
    refine named .minutes htext ⟨hn, fun _ => hlt⟩ ?_
    rw [← Option.some.inj h, TimeUnit.length]
    omega
  · cases h

/-! ### Texts -/

theorem duration?_string (s : String) : duration? (.string s) =
    ((readDigits? ((trimChars s.toList).takeWhile Char.isDigit)).filter (· < UInt64.size)).bind
      (reckon? ((trimChars s.toList).dropWhile Char.isDigit)) := by
  rw [duration?]
  split
  · rename_i hnone
    rw [hnone, Option.bind_none]
  · rename_i n hsome
    rw [hsome, Option.bind_some]
    unfold reckon?
    generalize (trimChars s.toList).dropWhile Char.isDigit = suffix
    generalize String.ofList (trimChars suffix) = text
    rfl

/-- The numeral and the suffix are what a text that tells a time is cut into. -/
theorem Tells.exists_cut (h : Tells (.string s) n u) :
    readDigits? ((trimChars s.toList).takeWhile Char.isDigit) = some n ∧
      IsSuffix ((trimChars s.toList).dropWhile Char.isDigit) u ∧ u.Admits n := by
  cases h with
  | @string _ before digits suffix after _ _ hs hbefore hdigits hsuffix hafter hn =>
    obtain ⟨hne, hall⟩ := hdigits.ne_nil_and_isDigit
    have htrim : trimChars s.toList = digits ++ suffix := by
      rw [hs, (hsuffix.isTrimmed_append hne hall).trimChars_append hbefore hafter]
    rw [htrim, List.takeWhile_append_of_pos hall, List.dropWhile_append_of_pos hall]
    have hstop : suffix.takeWhile Char.isDigit = [] ∧ suffix.dropWhile Char.isDigit = suffix := by
      cases suffix with
      | nil => exact ⟨rfl, rfl⟩
      | cons c rest =>
        have hc := hsuffix.isDigit_head c rfl
        simp [hc]
    rw [hstop.1, hstop.2, List.append_nil]
    exact ⟨hdigits.readDigits?_eq, hsuffix, hn⟩

theorem duration?_of_tells (h : Tells v n u) : duration? v = some (n * u.length) := by
  cases v with
  | int i =>
    cases h with
    | int hi => rw [duration?, if_pos hi, TimeUnit.length, Nat.mul_comm]
  | string s =>
    obtain ⟨hdigits, hsuffix, hn⟩ := h.exists_cut
    have hlt : n < UInt64.size := hn.1
    rw [duration?_string, hdigits, Option.filter_some, if_pos (by simpa using hlt), Option.bind_some]
    exact hsuffix.reckon?_eq hn
  | _ => cases h

theorem exists_tells (h : duration? v = some ms) : ∃ n u, Tells v n u ∧ ms = n * u.length := by
  cases v with
  | int i =>
    rw [duration?, Option.ite_none_right_eq_some] at h
    obtain ⟨hi, h⟩ := h
    refine ⟨_, _, .int hi, ?_⟩
    rw [← Option.some.inj h, TimeUnit.length, Nat.mul_comm]
  | string s =>
    rw [duration?_string, Option.bind_eq_some_iff] at h
    obtain ⟨n, hn, hsuffix⟩ := h
    obtain ⟨hn, hlt⟩ := Option.filter_eq_some_iff.1 hn
    obtain ⟨core, gap, u, hcut, hcore, hgap, hadmits, hms⟩ := exists_isSuffix hsuffix (by simpa using hlt)
    obtain ⟨before, after, hs, hbefore, hafter⟩ := exists_trimChars s.toList
    have hparts : s.toList =
        before ++ ((trimChars s.toList).takeWhile Char.isDigit ++ core) ++ (gap ++ after) := by
      rw [List.append_assoc, ← List.append_assoc _ gap, List.append_assoc _ core, ← hcut,
        List.takeWhile_append_dropWhile, ← List.append_assoc, ← hs]
    refine ⟨n, u, .string hparts hbefore (readDigits?_eq_some_iff.1 hn) hcore ?_ hadmits, hms⟩
    intro c hc
    rcases List.mem_append.1 hc with hc | hc
    · exact hgap c hc
    · exact hafter c hc
  | _ => cases h

theorem Tells.unique (h : Tells v n u) (h' : Tells v n' u') : n = n' ∧ u = u' := by
  cases v with
  | int i =>
    cases h
    cases h'
    exact ⟨rfl, rfl⟩
  | string s =>
    obtain ⟨hdigits, hsuffix, -⟩ := h.exists_cut
    obtain ⟨hdigits', hsuffix', -⟩ := h'.exists_cut
    exact ⟨Option.some.inj (hdigits.symm.trans hdigits'), hsuffix.unique hsuffix'⟩
  | _ => cases h

/-- Of a value is read what it tells, in milliseconds, and nothing where it tells nothing; it tells one count of one
unit. -/
theorem duration_is_what_is_told (v : Value) :
    (∀ ms, duration? v = some ms ↔ ∃ n u, Tells v n u ∧ ms = n * u.length) ∧
      ∀ n n' u u', Tells v n u → Tells v n' u' → n = n' ∧ u = u' := by
  refine ⟨fun ms => ⟨exists_tells, ?_⟩, fun n n' u u' h h' => h.unique h'⟩
  rintro ⟨n, u, h, rfl⟩
  exact duration?_of_tells h

/-- The most minutes that are read. -/
theorem duration_of_most_minutes :
    let v : Value := .string " 307445734561825860\tm "
    Tells v 307445734561825860 .minutes ∧ duration? v = some 18446744073709551600000 ∧
      ∀ n u, Tells v n u → n = 307445734561825860 ∧ u = .minutes := by
  intro v
  have hdigits : IsNumeral "307445734561825860".toList 307445734561825860 :=
    readDigits?_eq_some_iff.1 (by decide)
  have hsuffix : IsSuffix (['\t'] ++ TimeUnit.minutes.text.toList) .minutes := .named (List.forall_mem_singleton.2 rfl)
  have hparts : " 307445734561825860\tm ".toList = [' '] ++ ("307445734561825860".toList ++
      (['\t'] ++ TimeUnit.minutes.text.toList)) ++ [' '] := by decide
  have h : Tells v 307445734561825860 .minutes :=
    .string hparts (List.forall_mem_singleton.2 rfl) hdigits hsuffix (List.forall_mem_singleton.2 rfl)
      ⟨by decide, fun _ => by decide⟩
  obtain ⟨hread, hunique⟩ := duration_is_what_is_told v
  exact ⟨h, (hread _).2 ⟨_, _, h, rfl⟩, fun n u hn => hunique _ _ _ _ hn h⟩

end Testbed.Container.Block
