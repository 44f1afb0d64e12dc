import Testbed.Proofs.Files.Naming
import Testbed.Proofs.Outcome

/-!
# What the steps on files leave alone

A step spares a name if the files of that name, in whatever directory, are the same before and after it. Making
directories spares every name, and a step on a file of one name spares all others. Where a path led before a step that
takes no directory away, it leads afterwards.
-/

namespace Testbed.Files

open Outcome

variable {f g k : Files} {name other : String} {names goal : List String} {content : Bytes} {p q : Path} {node : Node}

/-! ### Single nodes -/

theorem node?_put (f : Files) (goal names : List String) (node : Node) :
    (f.put goal node).node? names =
      if names = [] then some .directory else if names = goal then some node else f.node? names := by
  by_cases hroot : names = []
  · simp [node?, hroot]
  · simp [node?, put, hroot, Assoc.get?_insert]

theorem node?_erase (f : Files) (goal names : List String) :
    (f.erase goal).node? names =
      if names = [] then some .directory else if names = goal then none else f.node? names := by
  by_cases hroot : names = []
  · simp [node?, hroot]
  · simp [node?, erase, hroot, Assoc.get?_erase]

theorem node?_nil (f : Files) : f.node? [] = some .directory := rfl

/-! ### Names that are spared -/

/-- The files of a name, in whatever directory, are there with what they held, and no further ones. -/
def Spares (name : String) (f g : Files) : Prop :=
  ∀ names content, names.getLast? = some name →
    (g.node? names = some (.file content) ↔ f.node? names = some (.file content))

theorem Spares.refl (name : String) (f : Files) : Spares name f f := fun _ _ _ => Iff.rfl

theorem Spares.trans (hfg : Spares name f g) (hgk : Spares name g k) : Spares name f k :=
  fun names content hlast => (hgk names content hlast).trans (hfg names content hlast)

theorem spares_of_node? (h : goal.getLast? ≠ some name)
    (hnode : ∀ names, names ≠ [] → names ≠ goal → g.node? names = f.node? names) : Spares name f g := by
  intro names content hlast
  have hne : names ≠ goal := by
    rintro rfl
    exact h hlast
  have hroot : names ≠ [] := by
    rintro rfl
    cases hlast
  rw [hnode names hroot hne]

theorem spares_put (h : goal.getLast? ≠ some name) (node : Node) : Spares name f (f.put goal node) :=
  spares_of_node? h fun names hroot hne => by rw [node?_put, if_neg hroot, if_neg hne]

theorem spares_erase (h : goal.getLast? ≠ some name) : Spares name f (f.erase goal) :=
  spares_of_node? h fun names hroot hne => by rw [node?_erase, if_neg hroot, if_neg hne]

theorem spares_put_directory (name : String) (h : f.node? goal = none) : Spares name f (f.put goal .directory) := by
  intro names content hlast
  rw [node?_put]
  split
  · rename_i hroot
    rw [hroot, node?_nil]
  split
  · rename_i hgoal
    rw [hgoal, h]
    exact iff_of_false nofun nofun
  · rfl

/-! ### Making directories -/

/-- One after another, directories are made at places of `ps` where there was nothing. -/
inductive Makes (ps : List Path) : Files → Files → Prop
  | refl (f : Files) : Makes ps f f
  | step {f g : Files} {p : Path} {names : List String} (hp : p ∈ ps) (hplace : f.place p = .ok names)
    (hnone : f.node? names = none) (hrest : Makes ps (f.put names .directory) g) : Makes ps f g

theorem Makes.trans {ps : List Path} (hfg : Makes ps f g) (hgk : Makes ps g k) : Makes ps f k := by
  induction hfg with
  | refl => exact hgk
  | step hp hplace hnone _ ih => exact .step hp hplace hnone (ih hgk)

theorem Makes.mono {ps qs : List Path} (hsub : ∀ p ∈ ps, p ∈ qs) (h : Makes ps f g) : Makes qs f g := by
  induction h with
  | refl f => exact .refl f
  | step hp hplace hnone _ ih => exact .step (hsub _ hp) hplace hnone ih

theorem makes_ensureDirectory (h : f.ensureDirectory p = .ok g) : Makes [p] f g := by
  rw [ensureDirectory] at h
  split at h
  · split at h <;> cases h
    exact .refl f
  obtain ⟨names, hplace, hput⟩ := bind_eq_ok.1 h
  split at hput
  · cases hput
  · rename_i hcondition
    cases hput
    exact .step (by simp) hplace (by simpa using fun hsome => hcondition (.inr hsome)) (.refl _)

theorem makes_makeUpward {ps : List Path} (h : f.makeUpward ps = .ok g) : Makes ps f g := by
  induction ps generalizing g with
  | nil =>
    cases h
    exact .refl f
  | cons p above ih =>
    have hfirst : ∀ q ∈ [p], q ∈ p :: above := by simp
    rw [makeUpward] at h
    split at h
    · obtain ⟨higher, hhigher, hlast⟩ := bind_eq_ok.1 h
      have hmade := (ih hhigher).mono (List.subset_cons_self p above)
      exact hmade.trans ((makes_ensureDirectory hlast).mono hfirst)
    · exact (makes_ensureDirectory h).mono hfirst

theorem makes_makeDirectories (h : f.makeDirectories p = .ok g) : Makes p.ancestors f g :=
  (makes_makeUpward h).mono fun _ hq => (List.mem_filter.1 hq).1

theorem Makes.spares {ps : List Path} (name : String) (h : Makes ps f g) : Spares name f g := by
  induction h with
  | refl f => exact .refl name f
  | step _ _ hnone _ ih => exact (spares_put_directory name hnone).trans ih

theorem spares_makeDirectories (name : String) (h : f.makeDirectories p = .ok g) : Spares name f g :=
  (makes_makeDirectories h).spares name

/-! ### The place of a path -/

/-- The system follows a path only if there is no zero in it and it is not too long. -/
def IsFollowed (p : Path) : Prop := '\x00' ∉ p.text.toList ∧ p.text.utf8ByteSize < pathLimit

/-- Where the way of a path begins. -/
def root (f : Files) (p : Path) : List String := if p.isAbsolute then [] else f.workingDirectory

theorem place_of_isFollowed (hp : IsFollowed p) : f.place p =
    match p.parts.getLast? with
    | none => if p.text = "" then .error .notFound else .ok []
    | some last => p.parts.dropLast.foldlM f.enter (f.root p) >>= (advance? · last) := by
  rw [Files.place, if_neg hp.1, if_neg (Nat.not_le.2 hp.2)]
  rfl

theorem isFollowed_of_place (h : f.place p = .ok names) : IsFollowed p := by
  rw [Files.place] at h
  split at h
  · cases h
  split at h
  · cases h
  · exact ⟨‹_›, Nat.not_le.1 ‹_›⟩

theorem place_nil (hparts : p.parts = []) : f.place p = .ok names ↔ IsFollowed p ∧ p.text ≠ "" ∧ names = [] := by
  refine ⟨fun h => ⟨isFollowed_of_place h, ?_⟩, ?_⟩
  · rw [place_of_isFollowed (isFollowed_of_place h), hparts] at h
    dsimp only [List.getLast?_nil] at h
    split at h <;> cases h
    exact ⟨‹_›, rfl⟩
  · rintro ⟨hp, htext, rfl⟩
    rw [place_of_isFollowed hp, hparts]
    exact if_neg htext

theorem place_concat {before : List String} {last : String} (hparts : p.parts = before ++ [last]) :
    f.place p = .ok names ↔ IsFollowed p ∧
      ∃ directory, before.foldlM f.enter (f.root p) = .ok directory ∧ advance? directory last = .ok names := by
  have hplace (hp : IsFollowed p) : f.place p = .ok names ↔
      ∃ directory, before.foldlM f.enter (f.root p) = .ok directory ∧ advance? directory last = .ok names := by
    rw [place_of_isFollowed hp, hparts, List.getLast?_concat, List.dropLast_concat]
    exact bind_eq_ok
  constructor
  · intro h
    have hp := isFollowed_of_place h
    exact ⟨hp, (hplace hp).1 h⟩
  · rintro ⟨hp, h⟩
    exact (hplace hp).2 h

theorem advance?_eq_ok {start : List String} {part : String} (h : advance? start part = .ok names) :
    names = advance start part := by
  rw [advance?] at h
  split at h <;> cases h
  rfl

theorem advance_of_noDots {part : String} (h : Path.isDots part = false) (start : List String) :
    advance start part = start ++ [part] := by
  have hdots : part ≠ "." ∧ part ≠ ".." := by simpa [Path.isDots] using h
  rw [advance, if_neg hdots.1, if_neg hdots.2]

theorem getLast?_of_place (hlast : p.parts.getLast? = some name) (hdots : Path.isDots name = false)
    (h : f.place p = .ok names) : names.getLast? = some name := by
  obtain ⟨before, hparts⟩ := List.getLast?_eq_some_iff.1 hlast
  obtain ⟨-, directory, -, hadvance⟩ := (place_concat hparts).1 h
  rw [advance?_eq_ok hadvance, advance_of_noDots hdots, List.getLast?_concat]

theorem getLast?_of_place_join (hname : Path.IsName name) (h : f.place (p.join name) = .ok names) :
    names.getLast? = some name :=
  getLast?_of_place (Path.getLast?_parts_join p hname) hname.noDots h

theorem getLast?_ne_of_place_join (hother : Path.IsName other) (hne : other ≠ name)
    (h : f.place (p.join other) = .ok names) : names.getLast? ≠ some name := by
  rw [getLast?_of_place_join hother h, ne_eq, Option.some.injEq]
  exact hne

/-- All directories are still there. -/
structure KeepsDirectories (f g : Files) : Prop where
  workingDirectory : g.workingDirectory = f.workingDirectory
  node? : ∀ names, f.node? names = some .directory → g.node? names = some .directory

theorem KeepsDirectories.trans (hfg : KeepsDirectories f g) (hgk : KeepsDirectories g k) : KeepsDirectories f k where
  workingDirectory := hgk.workingDirectory.trans hfg.workingDirectory
  node? names h := hgk.node? names (hfg.node? names h)

theorem keepsDirectories_put (h : f.node? goal ≠ some .directory) (node : Node) :
    KeepsDirectories f (f.put goal node) where
  workingDirectory := rfl
  node? names hnames := by
    have hne : names ≠ goal := by
      rintro rfl
      exact h hnames
    rw [node?_put, if_neg hne, hnames, ite_self]

theorem keepsDirectories_erase (h : f.node? goal ≠ some .directory) : KeepsDirectories f (f.erase goal) where
  workingDirectory := rfl
  node? names hnames := by
    have hne : names ≠ goal := by
      rintro rfl
      exact h hnames
    rw [node?_erase, if_neg hne, hnames, ite_self]

theorem enter_eq_ok {start : List String} {part : String} :
    f.enter start part = .ok names ↔ advance? start part = .ok names ∧ f.node? names = some .directory := by
  rw [enter, bind_eq_ok]
  constructor
  · rintro ⟨goal, hgoal, hnode⟩
    split at hnode <;> cases hnode
    exact ⟨hgoal, ‹_›⟩
  · rintro ⟨hgoal, hnode⟩
    exact ⟨names, hgoal, by rw [hnode]⟩

theorem KeepsDirectories.foldlM_enter (h : KeepsDirectories f g) {parts start : List String}
    (hparts : parts.foldlM f.enter start = .ok names) : parts.foldlM g.enter start = .ok names := by
  induction parts generalizing start with
  | nil => exact hparts
  | cons part parts ih =>
    rw [List.foldlM_cons] at hparts ⊢
    obtain ⟨next, hnext, hrest⟩ := bind_eq_ok.1 hparts
    obtain ⟨hadvance, hnode⟩ := enter_eq_ok.1 hnext
    exact bind_eq_ok.2 ⟨next, enter_eq_ok.2 ⟨hadvance, h.node? next hnode⟩, ih hrest⟩

theorem KeepsDirectories.place (h : KeepsDirectories f g) (hplace : f.place p = .ok names) : g.place p = .ok names := by
  rcases List.eq_nil_or_concat p.parts with hparts | ⟨before, last, hparts⟩
  · exact (place_nil hparts).2 ((place_nil hparts).1 hplace)
  rw [List.concat_eq_append] at hparts
  obtain ⟨hp, directory, hdirectory, hlast⟩ := (place_concat hparts).1 hplace
  refine (place_concat hparts).2 ⟨hp, directory, ?_, hlast⟩
  rw [root, h.workingDirectory]
  exact h.foldlM_enter hdirectory

theorem isDirectory_iff : f.isDirectory p = true ↔ ∃ names, f.place p = .ok names ∧ f.node? names = some .directory := by
  rw [isDirectory, decide_eq_true_iff, toOption_eq_some, find, bind_eq_ok]
  refine exists_congr fun names => and_congr_right fun _ => ?_
  cases f.node? names with
  | none => simp
  | some node =>
    cases node with
    | directory => simp
    | file content => cases p.endsInSlash <;> simp

theorem KeepsDirectories.isDirectory (h : KeepsDirectories f g) (hp : f.isDirectory p = true) :
    g.isDirectory p = true := by
  obtain ⟨names, hplace, hnode⟩ := isDirectory_iff.1 hp
  exact isDirectory_iff.2 ⟨names, h.place hplace, h.node? names hnode⟩

/-! ### Files -/

theorem find_eq_ok_file : f.find p = .ok (.file content) ↔
    ∃ names, f.place p = .ok names ∧ f.node? names = some (.file content) ∧ p.endsInSlash = false := by
  rw [find, bind_eq_ok]
  refine exists_congr fun names => and_congr_right fun _ => ?_
  cases hnode : f.node? names with
  | none => simp
  | some node =>
    cases node with
    | directory => simp
    | file held => cases p.endsInSlash <;> simp

theorem read_eq_ok : f.read p = .ok content ↔
    ∃ names, f.place p = .ok names ∧ f.node? names = some (.file content) ∧ p.endsInSlash = false := by
  rw [← find_eq_ok_file, read, bind_eq_ok]
  constructor
  · rintro ⟨node, hfind, hcontent⟩
    cases node <;> cases hcontent
    exact hfind
  · intro hfind
    exact ⟨_, hfind, rfl⟩

theorem find_eq_notFound_of_read (h : f.read p = .error .notFound) : f.find p = .error .notFound := by
  rcases bind_eq_error.1 h with hfind | ⟨node, -, hnode⟩
  · exact hfind
  · cases node <;> cases hnode

theorem Spares.read (hspares : Spares name f g) (hkeeps : KeepsDirectories f g) (hname : Path.IsName name)
    (hread : f.read (p.join name) = .ok content) : g.read (p.join name) = .ok content := by
  obtain ⟨names, hplace, hnode, hslash⟩ := read_eq_ok.1 hread
  have hlast := getLast?_of_place_join hname hplace
  exact read_eq_ok.2 ⟨names, hkeeps.place hplace, (hspares names content hlast).2 hnode, hslash⟩

/-! ### Writing -/

theorem target_eq_ok (h : f.target p = .ok names) :
    f.place p = .ok names ∧ p.endsInName = true ∧ p.endsInSlash = false ∧ f.node? names ≠ some .directory := by
  obtain ⟨goal, hplace, hgoal⟩ := bind_eq_ok.1 h
  split at hgoal
  · cases hgoal
  · rename_i hcondition
    cases hgoal
    simp only [not_or] at hcondition
    exact ⟨hplace, by simpa using hcondition.1, by simpa using hcondition.2.1, hcondition.2.2⟩

theorem write_eq_ok (h : f.write p content = .ok g) : ∃ names, f.place p = .ok names ∧ p.endsInSlash = false ∧
    f.node? names ≠ some .directory ∧ g = f.put names (.file content) := by
  obtain ⟨names, htarget, hput⟩ := bind_eq_ok.1 h
  obtain ⟨hplace, -, hslash, hnode⟩ := target_eq_ok htarget
  cases hput
  exact ⟨names, hplace, hslash, hnode, rfl⟩

theorem ne_nil_of_node?_ne (h : f.node? names ≠ some .directory) : names ≠ [] := by
  rintro rfl
  exact h (node?_nil f)

theorem read_put (hplace : f.place p = .ok names) (hslash : p.endsInSlash = false)
    (hnode : f.node? names ≠ some .directory) (content : Bytes) :
    (f.put names (.file content)).read p = .ok content := by
  refine read_eq_ok.2 ⟨names, (keepsDirectories_put hnode _).place hplace, ?_, hslash⟩
  rw [node?_put, if_neg (ne_nil_of_node?_ne hnode), if_pos rfl]

theorem read_write (h : f.write p content = .ok g) : g.read p = .ok content := by
  obtain ⟨names, hplace, hslash, hnode, rfl⟩ := write_eq_ok h
  exact read_put hplace hslash hnode content

/-- What a file held that was moved is found where it was moved to. -/
theorem read_rename (hread : f.read p = .ok content) (h : f.rename p q = .ok g) : g.read q = .ok content := by
  obtain ⟨start, hstart, h⟩ := bind_eq_ok.1 h
  obtain ⟨goal, hgoal, h⟩ := bind_eq_ok.1 h
  dsimp only at h
  split at h
  · obtain ⟨_, hbusy, _⟩ := bind_eq_ok.1 h
    cases hbusy
  obtain ⟨held, hheld, h⟩ := bind_eq_ok.1 h
  obtain rfl : content = held := Except.ok.inj (hread.symm.trans hheld)
  split at h
  · obtain ⟨_, hfailed, _⟩ := bind_eq_ok.1 h
    cases hfailed
  rename_i hslash
  split at h
  · obtain ⟨_, hfailed, _⟩ := bind_eq_ok.1 h
    cases hfailed
  rename_i hnode
  cases h
  obtain ⟨names, hplace, hfile, -⟩ := read_eq_ok.1 hread
  obtain rfl : start = names := Except.ok.inj (hstart.symm.trans hplace)
  have hkeeps : KeepsDirectories f (f.erase start) := keepsDirectories_erase (by rw [hfile]; nofun)
  refine read_put (hkeeps.place hgoal) (by simpa using hslash) ?_ content
  rw [node?_erase, if_neg (ne_nil_of_node?_ne hnode)]
  split
  · nofun
  · exact hnode

/-! ### Replacing -/

theorem read_replace (h : f.replace p q content = (.ok (), g)) : g.read p = .ok content := by
  rw [replace] at h
  split at h
  · cases h
  rename_i written hwrite
  split at h <;> cases h
  rename_i hrename
  exact read_rename (read_write hwrite) hrename

theorem remove_eq_ok (h : f.remove p = .ok g) :
    ∃ names content, f.place p = .ok names ∧ f.node? names = some (.file content) ∧ g = f.erase names := by
  obtain ⟨_, hread, h⟩ := bind_eq_ok.1 h
  obtain ⟨names, hplace, h⟩ := bind_eq_ok.1 h
  cases h
  cases hcontent : f.read p with
  | error e =>
    rw [hcontent] at hread
    cases hread
  | ok content =>
    obtain ⟨found, hfound, hnode, -⟩ := read_eq_ok.1 hcontent
    obtain rfl : names = found := Except.ok.inj (hplace.symm.trans hfound)
    exact ⟨names, content, hplace, hnode, rfl⟩

theorem read_eq_notFound_of_remove (h : f.remove p = .error .notFound) : f.read p = .error .notFound := by
  cases hread : f.read p with
  | error e =>
    rw [remove, hread] at h
    exact congrArg Except.error (Except.error.inj h)
  | ok content =>
    obtain ⟨names, hplace, -⟩ := read_eq_ok.1 hread
    rw [remove, hread, hplace] at h
    cases h

theorem removeAny_eq_ok {any : Bool} (h : f.removeAny p = .ok (any, g)) :
    g = f ∨ ∃ names content, f.place p = .ok names ∧ f.node? names = some (.file content) ∧ g = f.erase names := by
  rw [removeAny] at h
  split at h <;> cases h
  · exact .inr (remove_eq_ok ‹_›)
  · exact .inl rfl

theorem keepsDirectories_removeAny {any : Bool} (h : f.removeAny p = .ok (any, g)) : KeepsDirectories f g := by
  rcases removeAny_eq_ok h with rfl | ⟨names, content, -, hnode, rfl⟩
  · exact ⟨rfl, fun _ => id⟩
  · exact keepsDirectories_erase (by rw [hnode]; nofun)

theorem spares_removeAny {any : Bool} (hother : Path.IsName other) (hne : other ≠ name)
    (h : f.removeAny (p.join other) = .ok (any, g)) : Spares name f g := by
  rcases removeAny_eq_ok h with rfl | ⟨names, content, hplace, -, rfl⟩
  · exact .refl name _
  · exact spares_erase (getLast?_ne_of_place_join hother hne hplace)

theorem find_of_removeAny {any : Bool} (h : f.removeAny p = .ok (any, g)) : g.find p = .error .notFound := by
  have hkeeps := keepsDirectories_removeAny h
  rw [removeAny] at h
  split at h <;> cases h
  · rename_i hremove
    obtain ⟨names, content, hplace, hnode, rfl⟩ := remove_eq_ok hremove
    have hroot : names ≠ [] := ne_nil_of_node?_ne (f := f) (by rw [hnode]; nofun)
    rw [find, hkeeps.place hplace]
    simp [bind, Except.bind, node?_erase, hroot]
  · rename_i hremove
    exact find_eq_notFound_of_read (read_eq_notFound_of_remove hremove)

end Testbed.Files
