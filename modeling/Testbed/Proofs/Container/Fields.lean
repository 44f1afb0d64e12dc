import Testbed.Container.Block
import Testbed.Proofs.Outcome

/-!
# What is wrong with a block

Reading the blocks of a configuration fails over a field of one of them, and the error says which
(`exists_field_of_readAll`).
-/

namespace Testbed.Container.Block

variable {α β : Type} {id : String} {x : Read α} {f : α → Read β} {config : Properties} {e : Provider.Error}

/-- Where it fails, it does over a field of the block. -/
def FailsIn (id : String) (x : Read α) : Prop :=
  ∀ e, x = .error e → ∃ field problem, e = .config (fieldKey id field) problem

theorem failsIn_ok (a : α) : FailsIn id (.ok a) := nofun

theorem failsIn_config {field problem : String} :
    FailsIn id (.error (.config (fieldKey id field) problem) : Read α) := by
  rintro e ⟨⟩
  exact ⟨field, problem, rfl⟩

theorem failsIn_unusable {field expected : String} {v : Value} :
    FailsIn id (unusable id field expected v : Read α) := failsIn_config

theorem FailsIn.bind (h : FailsIn id x) (hrest : ∀ a, FailsIn id (f a)) : FailsIn id (x >>= f) := by
  intro e he
  rcases Outcome.bind_eq_error.1 he with hx | ⟨a, -, hf⟩
  · exact h e hx
  · exact hrest a e hf

theorem failsIn_mapM {g : α → Read β} (h : ∀ a, FailsIn id (g a)) (xs : List α) : FailsIn id (xs.mapM g) := by
  induction xs with
  | nil => exact failsIn_ok []
  | cons a xs ih =>
    rw [List.mapM_cons]
    exact (h a).bind fun b => ih.bind fun bs => failsIn_ok (b :: bs)

/-! ### Fields -/

theorem failsIn_portMap (v : Value) : FailsIn id (portMap id v) := by
  unfold portMap
  split
  · refine failsIn_mapM (fun p => ?_) _
    obtain ⟨property, port⟩ := p
    dsimp only
    split
    · refine (failsIn_ok _).bind fun name => ?_
      split
      · exact failsIn_ok _
      · exact failsIn_unusable
    · exact failsIn_unusable.bind fun _ => by
        split
        · exact failsIn_ok _
        · exact failsIn_unusable
  · exact failsIn_unusable

theorem failsIn_readImage (v : Option Value) : FailsIn id (readImage id v) := by
  unfold readImage
  split
  · exact failsIn_ok _
  · exact failsIn_ok _
  · exact failsIn_unusable

theorem failsIn_readPorts (v : Option Value) : FailsIn id (readPorts id v) := by
  unfold readPorts
  split
  · exact failsIn_ok _
  · exact (failsIn_mapM failsIn_portMap _).bind fun maps => failsIn_ok maps.flatten
  · exact failsIn_portMap _
  · exact failsIn_unusable

theorem failsIn_readHostnames (v : Option Value) : FailsIn id (readHostnames id v) := by
  unfold readHostnames
  split
  · exact failsIn_ok _
  · exact failsIn_ok _
  · exact failsIn_ok _
  · exact failsIn_unusable

theorem failsIn_readEnv (v : Option Value) : FailsIn id (readEnv id v) := by
  unfold readEnv
  split
  · exact failsIn_ok _
  · exact failsIn_ok _
  · exact failsIn_unusable

theorem failsIn_readCommand (v : Option Value) : FailsIn id (readCommand id v) := by
  unfold readCommand
  split
  · exact failsIn_ok _
  · exact failsIn_ok _
  · exact failsIn_ok _
  · exact failsIn_unusable

theorem failsIn_readTimeout (v : Option Value) : FailsIn id (readTimeout id v) := by
  unfold readTimeout
  split
  · exact failsIn_ok _
  · split
    · exact failsIn_ok _
    · exact failsIn_unusable

/-! ### Wait strategies -/

theorem failsIn_waitNames (config : Properties) (id : String) : FailsIn id (waitNames config id) := by
  unfold waitNames
  dsimp only
  split
  · exact (failsIn_ok _).bind fun own => failsIn_ok _
  · exact (failsIn_ok _).bind fun own => failsIn_ok _
  · exact (failsIn_ok _).bind fun own => failsIn_ok _
  · exact failsIn_unusable.bind fun own => failsIn_ok _

theorem failsIn_readStream (v : Option Value) : FailsIn id (readStream id v) := by
  unfold readStream
  split
  · exact failsIn_ok _
  · split
    · exact failsIn_ok _
    · exact failsIn_ok _
    · exact failsIn_unusable

theorem failsIn_logWait (config : Properties) (id : String) : FailsIn id (logWait config id) := by
  have hrest (message : String) : FailsIn id (do
      let stream ← readStream id (waitPart? config id "log" "stream")
      .ok (Wait.log message stream)) := (failsIn_readStream _).bind fun stream => failsIn_ok _
  unfold logWait
  dsimp only
  split
  · exact failsIn_config.bind hrest
  · split
    · exact failsIn_unusable.bind hrest
    · exact (failsIn_ok _).bind hrest
  · exact failsIn_unusable.bind hrest

theorem failsIn_readWait (config : Properties) (id name : String) : FailsIn id (readWait config id name) := by
  unfold readWait
  split
  · exact failsIn_ok _
  · exact failsIn_logWait config id
  · exact failsIn_config

/-! ### Blocks -/

theorem failsIn_read (config : Properties) (id : String) : FailsIn id (read config id) := by
  unfold read
  refine (failsIn_readImage _).bind fun image => (failsIn_readPorts _).bind fun ports => ?_
  refine (failsIn_readHostnames _).bind fun hostnames => (failsIn_readEnv _).bind fun env => ?_
  refine (failsIn_readCommand _).bind fun command => (failsIn_readTimeout _).bind fun startupTimeout => ?_
  refine (failsIn_waitNames config id).bind fun names => ?_
  exact (failsIn_mapM (failsIn_readWait config id) names).bind fun wait => failsIn_ok _

theorem exists_field_of_readAll (h : readAll config = .error e) :
    ∃ id ∈ ids config, ∃ field problem, e = .config (fieldKey id field) problem := by
  obtain ⟨id, hid, hread⟩ := Outcome.exists_of_mapM_eq_error h
  exact ⟨id, hid, failsIn_read config id e hread⟩

end Testbed.Container.Block
