import Testbed.Bootstrap
import Testbed.Proofs.Codec.Readers
import Testbed.Proofs.Files.Frame

/-!
# Watching for a port

A port file is looked at with pauses in between until a look decides: the first that finds more than blanks, or the
tenth that finds blanks (`watch_decides`). How often the file was missing makes no difference. What is seen can be any
sequence of sights (`shows_showing`), and nothing but the sights matters.
-/

namespace Testbed.Bootstrap

open Settings (readPort?)

variable {file : Path} {h : Host} {sights : Nat → Sight} {r r' : Except Client.Error UInt16} {b m n looks : Nat}

/-! ### Sights -/

/-- The file is there and holds blanks at most. -/
def Sight.IsBlank : Sight → Prop
  | .text s => Text.trim s = ""
  | _ => False

instance : DecidablePred Sight.IsBlank
  | .text s => inferInstanceAs (Decidable (Text.trim s = ""))
  | .missing | .unreadable _ => .isFalse id

/-- The host after `n` pauses of a watch. -/
def paused (h : Host) (n : Nat) : Host := (Host.pause lookInterval)^[n] h

theorem paused_succ (h : Host) (n : Nat) : paused h (n + 1) = (paused h n).pause lookInterval :=
  Function.iterate_succ_apply' _ n h

theorem pauses_paused (h : Host) (n : Nat) : (paused h n).pauses = h.pauses ++ List.replicate n lookInterval := by
  induction n with
  | zero => simp [paused]
  | succ n ih =>
    rw [paused_succ, List.replicate_succ', ← List.append_assoc, ← ih]
    rfl

/-- Looks with pauses in between find the port file like this. -/
def Shows (file : Path) (h : Host) (sights : Nat → Sight) : Prop := ∀ n, look file (paused h n) = sights n

/-- How many of the first `n` looks find the file blank. -/
def blanks (sights : Nat → Sight) (n : Nat) : Nat := Nat.count (fun i => (sights i).IsBlank) n

/-- Look number `n` decides the watch. -/
inductive Decides (file : Path) (sights : Nat → Sight) (n : Nat) : Except Client.Error UInt16 → Prop
  | port {s port} (hsight : sights n = .text s) (hport : readPort? (Text.trim s) = some port) :
    Decides file sights n (.ok port)
  | noPort {s} (hsight : sights n = .text s) (hs : Text.trim s ≠ "") (hport : readPort? (Text.trim s) = none) :
    Decides file sights n (.error (.settings file (.notAPort (Text.trim s))))
  | blank (hblank : (sights n).IsBlank) (htenth : blanks sights (n + 1) = maxBlank) :
    Decides file sights n (.error (.emptyPortFile file))
  | unreadable {cause} (hsight : sights n = .unreadable cause) : Decides file sights n (.error (.system cause))

/-- Look number `n` decides, and none before it. -/
structure DecidesFirst (file : Path) (sights : Nat → Sight) (n : Nat) (r : Except Client.Error UInt16) : Prop where
  decides : Decides file sights n r
  first : ∀ m < n, ∀ r', ¬Decides file sights m r'

theorem readPort?_empty : readPort? "" = none := by decide

theorem Decides.unique (h : Decides file sights n r) (h' : Decides file sights n r') : r = r' := by
  cases h <;> cases h' <;> simp_all [Sight.IsBlank, readPort?_empty]

theorem DecidesFirst.unique (h : DecidesFirst file sights n r) (h' : DecidesFirst file sights m r') :
    n = m ∧ r = r' := by
  obtain rfl : n = m := by
    rcases Nat.lt_trichotomy n m with hlt | rfl | hlt
    · exact absurd h.decides (h'.first n hlt r)
    · rfl
    · exact absurd h'.decides (h.first m hlt r')
  exact ⟨rfl, h.decides.unique h'.decides⟩

theorem not_decides_of_missing (hsight : sights n = .missing) : ¬Decides file sights n r := by
  intro h
  cases h <;> simp_all [Sight.IsBlank]

theorem not_decides_of_blank (hblank : (sights n).IsBlank) (hfew : blanks sights (n + 1) ≠ maxBlank) :
    ¬Decides file sights n r := by
  intro h
  cases h <;> simp_all [Sight.IsBlank, readPort?_empty]

/-! ### The watch -/

theorem blanks_succ (sights : Nat → Sight) (n : Nat) :
    blanks sights (n + 1) = blanks sights n + if (sights n).IsBlank then 1 else 0 := Nat.count_succ _ n

/-- What a look comes to when `blanks sights n` before it have found the file blank. -/
theorem judge_blanks (file : Path) (hfew : blanks sights n < maxBlank) : match judge file (blanks sights n) (sights n) with
    | .port port => Decides file sights n (.ok port)
    | .failed e => Decides file sights n (.error e)
    | .undecided b => b = blanks sights (n + 1) ∧ b < maxBlank ∧ ∀ r, ¬Decides file sights n r := by
  have hcount := blanks_succ sights n
  cases hsight : sights n with
  | missing =>
    have hblank : ¬(sights n).IsBlank := by rw [hsight]; exact id
    rw [if_neg hblank] at hcount
    exact ⟨hcount.symm, hfew, fun r => not_decides_of_missing hsight⟩
  | unreadable cause => exact .unreadable hsight
  | text s =>
    dsimp only [judge]
    by_cases hs : Text.trim s = ""
    · have hblank : (sights n).IsBlank := by rwa [hsight]
      rw [if_pos hblank] at hcount
      rw [if_pos hs]
      by_cases htenth : maxBlank ≤ blanks sights n + 1
      · rw [if_pos htenth]
        exact .blank hblank (by omega)
      · rw [if_neg htenth]
        exact ⟨hcount.symm, by omega, fun r => not_decides_of_blank hblank (by omega)⟩
    · rw [if_neg hs]
      cases hport : readPort? (Text.trim s) with
      | some port => exact .port hsight hport
      | none => exact .noPort hsight hs hport

/-- A watch that has come to look number `n` undecided ends at the first look that decides, or runs out of looks. -/
theorem watch_paused (hshows : Shows file h sights) (looks : Nat) (hfew : blanks sights n < maxBlank)
    (hopen : ∀ m < n, ∀ r, ¬Decides file sights m r) :
    (∃ m < n + looks, ∃ r, DecidesFirst file sights m r ∧
      watch file looks (blanks sights n) (paused h n) = (some r, paused h m)) ∨
    (∀ m < n + looks, ∀ r, ¬Decides file sights m r) ∧
      watch file looks (blanks sights n) (paused h n) = (none, paused h (n + looks)) := by
  induction looks generalizing n with
  | zero => exact .inr ⟨hopen, rfl⟩
  | succ looks ih =>
    have hjudge := judge_blanks file hfew
    rw [watch, hshows n]
    cases hverdict : judge file (blanks sights n) (sights n) with
    | port port =>
      rw [hverdict] at hjudge
      exact .inl ⟨n, by omega, _, ⟨hjudge, hopen⟩, rfl⟩
    | failed e =>
      rw [hverdict] at hjudge
      exact .inl ⟨n, by omega, _, ⟨hjudge, hopen⟩, rfl⟩
    | undecided b =>
      rw [hverdict] at hjudge
      obtain ⟨rfl, hstill, hnot⟩ := hjudge
      have hbefore : ∀ m < n + 1, ∀ r, ¬Decides file sights m r := by
        intro m hm
        rcases Nat.lt_succ_iff_lt_or_eq.1 hm with hlt | rfl
        · exact hopen m hlt
        · exact hnot
      have hrest := ih hstill hbefore
      rwa [paused_succ h n, Nat.succ_add_eq_add_succ] at hrest

theorem watch_cases (hshows : Shows file h sights) (looks : Nat) :
    (∃ m < looks, ∃ r, DecidesFirst file sights m r ∧ watch file looks 0 h = (some r, paused h m)) ∨
    (∀ m < looks, ∀ r, ¬Decides file sights m r) ∧ watch file looks 0 h = (none, paused h looks) := by
  have hwatch := watch_paused (n := 0) hshows looks (show 0 < maxBlank by decide) nofun
  rwa [Nat.zero_add] at hwatch

/-- Where a port file is looked for in the root directory. -/
def rootPortFile : Path := ⟨"/port"⟩

/-- What brings about a sight. -/
def Sight.announcement : Sight → Announcement
  | .text s => .write (Text.utf8 s)
  | _ => .withdraw

theorem look_announced {sight : Sight} (hreadable : ∀ cause, sight ≠ .unreadable cause) (f : Files)
    (hfiles : h.files = Host.announced (some sight.announcement) rootPortFile f) : look rootPortFile h = sight := by
  have hplace (g : Files) : g.place rootPortFile = .ok ["port"] := rfl
  cases sight with
  | unreadable cause => exact absurd rfl (hreadable cause)
  | text s =>
    have hput : h.files = f.put ["port"] (.file (Text.utf8 s)) := hfiles
    have hread : h.files.read rootPortFile = .ok (Text.utf8 s) := by
      refine Files.read_eq_ok.2 ⟨["port"], hplace _, ?_, by decide⟩
      rw [hput, Files.node?_put, if_neg nofun, if_pos rfl]
    have htext : h.files.readText rootPortFile = .ok s := by
      simp [Files.readText, hread, Codec.ofUtf8?_eq_some.2 rfl, bind, Except.bind]
    rw [look, htext]
  | missing =>
    have herase : h.files = f.erase ["port"] := hfiles
    have hnode : h.files.node? ["port"] = none := by
      rw [herase, Files.node?_erase, if_neg nofun, if_pos rfl]
    have htext : h.files.readText rootPortFile = .error .notFound := by
      simp [Files.readText, Files.read, Files.find, hplace, hnode, bind, Except.bind]
    rw [look, htext]

/-- A host on which the port file goes through a sequence of sights. -/
def showing (sights : Nat → Sight) : Host where
  behaviour := { start := fun _ files => (.ok (), files), announce := fun n => some (sights n).announcement }
  portFile := rootPortFile
  files := Host.announced (some (sights 0).announcement) rootPortFile {}

theorem shows_showing (hreadable : ∀ n cause, sights n ≠ .unreadable cause) :
    Shows rootPortFile (showing sights) sights := by
  have hfiles (n : Nat) : (paused (showing sights) n).behaviour = (showing sights).behaviour ∧
      (paused (showing sights) n).portFile = rootPortFile ∧ (paused (showing sights) n).moment = n ∧
      ∃ f, (paused (showing sights) n).files = Host.announced (some (sights n).announcement) rootPortFile f := by
    induction n with
    | zero => exact ⟨rfl, rfl, rfl, {}, rfl⟩
    | succ n ih =>
      obtain ⟨hbehaviour, hfile, hmoment, f, -⟩ := ih
      rw [paused_succ]
      refine ⟨hbehaviour, hfile, congrArg (· + 1) hmoment, (paused (showing sights) n).files, ?_⟩
      simp only [Host.pause, Host.next, hbehaviour, hfile, hmoment]
      rfl
  intro n
  obtain ⟨-, -, -, f, hf⟩ := hfiles n
  exact look_announced (hreadable n) f hf

/-! ### The whole -/

/-- Any sequence of sights can be met with, and whatever is met with, a watch ends at the first look that decides it, with
what it decides and a pause for every look before; until there is one it goes on. -/
theorem watch_decides (sights : Nat → Sight) :
    ((∀ n cause, sights n ≠ .unreadable cause) → ∃ file h, Shows file h sights) ∧
    ∀ file h, Shows file h sights → ∀ looks,
      (∀ r k, watch file looks 0 h = (some r, k) ↔ ∃ n < looks, DecidesFirst file sights n r ∧ k = paused h n) ∧
      (∀ k, watch file looks 0 h = (none, k) ↔ (∀ n < looks, ∀ r, ¬Decides file sights n r) ∧ k = paused h looks) ∧
      ∀ n, (paused h n).pauses = h.pauses ++ List.replicate n lookInterval := by
  refine ⟨fun hreadable => ⟨rootPortFile, showing sights, shows_showing hreadable⟩, fun file h hshows looks => ?_⟩
  rcases watch_cases hshows looks with ⟨m, hm, r, hfirst, hrun⟩ | ⟨hopen, hrun⟩
  · refine ⟨fun r' k => ?_, fun k => ?_, pauses_paused h⟩
    · rw [hrun]
      constructor
      · rintro ⟨⟩
        exact ⟨m, hm, hfirst, rfl⟩
      · rintro ⟨n, -, hfirst', rfl⟩
        obtain ⟨rfl, rfl⟩ := hfirst.unique hfirst'
        rfl
    · rw [hrun]
      refine iff_of_false nofun ?_
      rintro ⟨hopen, -⟩
      exact hopen m hm r hfirst.decides
  · refine ⟨fun r k => ?_, fun k => ?_, pauses_paused h⟩
    · rw [hrun]
      refine iff_of_false nofun ?_
      rintro ⟨n, hn, hfirst, -⟩
      exact hopen n hn r hfirst.decides
    · rw [hrun]
      constructor
      · rintro ⟨⟩
        exact ⟨hopen, rfl⟩
      · rintro ⟨-, rfl⟩
        rfl

/-- A file that is made and emptied again: every third look finds none, the others a line break. -/
def hesitant (n : Nat) : Sight := if n % 3 = 0 then .missing else .text "\n"

theorem watch_hesitant :
    Shows rootPortFile (showing hesitant) hesitant ∧
      watch rootPortFile 20 0 (showing hesitant) =
        (some (.error (.emptyPortFile rootPortFile)), paused (showing hesitant) 14) ∧
      (paused (showing hesitant) 14).pauses = List.replicate 14 200 := by
  have hshows : Shows rootPortFile (showing hesitant) hesitant := by
    refine shows_showing fun n cause => ?_
    rw [hesitant]
    split <;> nofun
  have hcounts : ∀ m < 14, blanks hesitant (m + 1) ≠ maxBlank := by decide +kernel
  have hfirst : DecidesFirst rootPortFile hesitant 14 (.error (.emptyPortFile rootPortFile)) := by
    refine ⟨.blank (by decide +kernel) (by decide +kernel), fun m hm r' => ?_⟩
    by_cases hmissing : m % 3 = 0
    · exact not_decides_of_missing (if_pos hmissing)
    · refine not_decides_of_blank ?_ (hcounts m hm)
      rw [hesitant, if_neg hmissing]
      decide +kernel
  obtain ⟨hended, -, hpauses⟩ := (watch_decides hesitant).2 rootPortFile (showing hesitant) hshows 20
  exact ⟨hshows, (hended _ _).2 ⟨14, by decide, hfirst, rfl⟩, hpauses 14⟩

end Testbed.Bootstrap
