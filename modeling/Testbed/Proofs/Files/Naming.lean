import Testbed.Files
import Testbed.Settings.Store
import Mathlib.Tactic.Common

/-!
# The files of a directory

A name joined to the path of a directory is the last part of the path that comes of it, so wherever that path leads,
it leads to something of that name.
-/

namespace Testbed

open Text

/-- A part that something in a directory can be called. -/
structure Path.IsName (name : String) : Prop where
  ne_empty : name ≠ ""
  noSlash : '/' ∉ name.toList
  noDots : Path.isDots name = false

instance (name : String) : Decidable (Path.IsName name) :=
  decidable_of_iff (name ≠ "" ∧ '/' ∉ name.toList ∧ Path.isDots name = false)
    ⟨fun h => ⟨h.1, h.2.1, h.2.2⟩, fun h => ⟨h.ne_empty, h.noSlash, h.noDots⟩⟩

namespace Path

variable {p : Path} {name : String}

theorem not_isAbsolute_of_noSlash (h : '/' ∉ name.toList) : isAbsolute ⟨name⟩ = false := by
  rw [isAbsolute, decide_eq_false_iff_not]
  exact fun hslash => h (List.mem_of_mem_head? hslash)

/-- What stands before a name that is joined to a path is empty or ends in a slash. -/
theorem exists_join_text (p : Path) : ∃ before : List Char, (before = [] ∨ ∃ cs, before = cs ++ ['/']) ∧
    ∀ name, '/' ∉ name.toList → (p.join name).text.toList = before ++ name.toList := by
  by_cases hempty : p.text = ""
  · refine ⟨[], .inl rfl, fun name hname => ?_⟩
    rw [join, if_pos (.inr hempty), List.nil_append]
  by_cases hslash : p.text.toList.getLast? = some '/'
  · obtain ⟨cs, hcs⟩ := List.getLast?_eq_some_iff.1 hslash
    refine ⟨p.text.toList, .inr ⟨cs, hcs⟩, fun name hname => ?_⟩
    rw [join, if_neg (by simp [not_isAbsolute_of_noSlash hname, hempty]), if_pos hslash, String.toList_append]
  · refine ⟨p.text.toList ++ ['/'], .inr ⟨_, rfl⟩, fun name hname => ?_⟩
    rw [join, if_neg (by simp [not_isAbsolute_of_noSlash hname, hempty]), if_neg hslash]
    simp

/-- The parts on both sides of a slash follow one another. -/
theorem parts_of_text (q : Path) (rest : List Char) (h : p.text.toList = q.text.toList ++ '/' :: rest) :
    p.parts = q.parts ++ parts ⟨String.ofList rest⟩ := by
  simp [parts, splitOn, h, splitChars_append_sep]

theorem parts_name (hname : IsName name) : parts ⟨name⟩ = [name] := by
  simp [parts, splitOn, splitChars_of_not_mem hname.noSlash, hname.ne_empty]

/-- A name that is joined to a path is one more part. -/
theorem parts_join (p : Path) (hname : IsName name) : (p.join name).parts = p.parts ++ [name] := by
  by_cases hempty : p.text = ""
  · rw [join, if_pos (.inr hempty), parts_name hname, parts, hempty]
    rfl
  rw [join, if_neg (by simp [not_isAbsolute_of_noSlash hname.noSlash, hempty])]
  split
  · rename_i hslash
    obtain ⟨cs, hcs⟩ := List.getLast?_eq_some_iff.1 hslash
    have hp : p.parts = parts ⟨String.ofList cs⟩ := by
      rw [parts_of_text ⟨String.ofList cs⟩ [] (by simpa using hcs)]
      exact List.append_nil _
    rw [parts_of_text ⟨String.ofList cs⟩ name.toList (by simp [hcs]), String.ofList_toList,
      parts_name hname, hp]
  · rw [parts_of_text p name.toList (by simp), String.ofList_toList, parts_name hname]

theorem getLast?_parts_join (p : Path) (hname : IsName name) : (p.join name).parts.getLast? = some name := by
  rw [parts_join p hname, List.getLast?_concat]

end Path

theorem Settings.isName_fileName : Path.IsName fileName := by decide

theorem Settings.isName_portFileName : Path.IsName portFileName := by decide

end Testbed
