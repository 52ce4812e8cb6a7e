import CrudForge.Command.Settings
import CrudForge.Proofs.Outcome

/-!
# Commands in a world of values

`runIn` is what a command comes to in a `Workspace`, and the world it leaves behind. A sequence is
run by running its halves, the second in the world that the first one leaves
(`runIn_bind_eq_ok_iff`). What is known of a command before it writes anything has been read, and
reading leaves the world as it is (`ReadOnly`).
-/

namespace CrudForge

/-- The result of a command in a world, and the world behind it. -/
def runIn {ε α : Type} (x : ExceptT ε (StateM Workspace) α) (w : Workspace) :
    Except ε α × Workspace :=
  x.run.run w

variable {ε ε' α β : Type} {w w' : Workspace}

/-- A command without a result leaves its world behind if it succeeds. -/
theorem runIn_eq_ok {x : ExceptT ε (StateM Workspace) Unit}
    (done : (runIn x w).1.toOption = some ()) : runIn x w = (.ok (), (runIn x w).2) := by
  cases ran : runIn x w with
  | mk r w' =>
    rw [ran] at done
    cases r with
    | ok u => rfl
    | error e => cases done

theorem runIn_ofExcept (r : Except CommandError α) :
    runIn (Command.ofExcept r : Command (StateM Workspace) α) w = (r, w) := rfl

theorem runIn_ofExcept_eq_ok_iff {r : Except CommandError α} {a : α} :
    runIn (Command.ofExcept r : Command (StateM Workspace) α) w = (.ok a, w') ↔
      r = .ok a ∧ w' = w := by
  rw [runIn_ofExcept, Prod.mk.injEq]
  exact and_congr_right fun _ => eq_comm

theorem runIn_look (path : String) :
    runIn (Host.look path : ExceptT ε (StateM Workspace) Found) w = (.ok (w.files.look path), w) :=
  rfl

theorem runIn_write (path text : String) :
    runIn (Host.write path text : ExceptT ε (StateM Workspace) (Except FileFault Unit)) w =
      match w.files.write path text with
      | .ok files => (.ok (.ok ()), { w with files })
      | .error fault => (.ok (.error fault), w) := by
  have unfolded : runIn (Host.write path text :
      ExceptT ε (StateM Workspace) (Except FileFault Unit)) w =
        Prod.map Except.ok id ((match w.files.write path text with
          | .ok files => do
            set { w with files }
            return .ok ()
          | .error fault => return .error fault :
            StateM Workspace (Except FileFault Unit)).run w) := rfl
  rw [unfolded]
  cases w.files.write path text <;> rfl

/-! ## Sequences -/

theorem runIn_bind {x : ExceptT ε (StateM Workspace) α}
    {f : α → ExceptT ε (StateM Workspace) β} :
    runIn (x >>= f) w =
      match runIn x w with
      | (.ok a, w₁) => runIn (f a) w₁
      | (.error e, w₁) => (.error e, w₁) := by
  show (match x.run.run w with
    | (r, w₁) => StateT.run (match r with
      | .ok a => (f a).run
      | .error e => pure (.error e)) w₁) = _
  rw [runIn]
  cases x.run.run w with
  | mk r w₁ => cases r <;> rfl

/-- A sequence succeeds iff both halves do, one after the other. -/
theorem runIn_bind_eq_ok_iff {x : ExceptT ε (StateM Workspace) α}
    {f : α → ExceptT ε (StateM Workspace) β} {b : β} :
    runIn (x >>= f) w = (.ok b, w') ↔
      ∃ a w₁, runIn x w = (.ok a, w₁) ∧ runIn (f a) w₁ = (.ok b, w') := by
  rw [runIn_bind]
  cases ran : runIn x w with
  | mk r w₁ =>
    cases r with
    | error e => simp
    | ok a =>
      constructor
      · intro rest
        exact ⟨a, w₁, rfl, rest⟩
      · rintro ⟨_, _, same, rest⟩
        cases same
        exact rest

/-! ## Reading -/

/-- A command leaves the world as it is. -/
def ReadOnly (x : ExceptT ε (StateM Workspace) α) : Prop :=
  ∀ w, (runIn x w).2 = w

namespace ReadOnly

variable {x : ExceptT ε (StateM Workspace) α} {f : α → ExceptT ε (StateM Workspace) β}

theorem eq_of_runIn (reads : ReadOnly x) {r : Except ε α} (ran : runIn x w = (r, w')) :
    w' = w := by
  have same := reads w
  rw [ran] at same
  exact same

theorem pure (a : α) : ReadOnly (pure a : ExceptT ε (StateM Workspace) α) := fun _ => rfl

theorem throw (e : ε) : ReadOnly (throw e : ExceptT ε (StateM Workspace) α) := fun _ => rfl

theorem ofExcept (r : Except CommandError α) :
    ReadOnly (Command.ofExcept r : Command (StateM Workspace) α) := fun _ => rfl

theorem look (path : String) :
    ReadOnly (Host.look path : ExceptT ε (StateM Workspace) Found) := fun _ => rfl

theorem environment :
    ReadOnly (Host.environment : ExceptT ε (StateM Workspace) Environment) := fun _ => rfl

theorem bind (first : ReadOnly x) (rest : ∀ a, ReadOnly (f a)) : ReadOnly (x >>= f) := by
  intro w
  have same := first w
  rw [runIn_bind]
  cases ran : runIn x w with
  | mk r w₁ =>
    rw [ran] at same
    cases r with
    | error e => exact same
    | ok a => exact (rest a w₁).trans same

theorem adapt (reads : ReadOnly x) (g : ε → ε') : ReadOnly (x.adapt g) := fun w => reads w

end ReadOnly

/-! ## What is read first -/

theorem readOnly_addFile (path : String) (es : ConfigEntries) :
    ReadOnly (Config.addFile path es : ExceptT ConfigError (StateM Workspace) ConfigEntries) := by
  refine .bind (.look path) fun found => ?_
  split
  · exact .pure es
  · split
    · exact .pure _
    · exact .throw _
  · exact .throw _

theorem readOnly_addVariables (path : String) (env : Environment) :
    ReadOnly (Config.addVariables path env :
      ExceptT ConfigError (StateM Workspace) Environment) := by
  refine .bind (.look path) fun found => ?_
  split <;> exact .pure _

theorem readOnly_settings (profile : Option String) :
    ReadOnly (Command.settings profile : Command (StateM Workspace) Settings) := by
  refine .bind (.adapt ?_ _) fun config => .ofExcept _
  refine .bind .environment fun env => .bind (readOnly_addFile _ _) fun es => ?_
  refine .bind (readOnly_addFile _ _) fun es => .bind (readOnly_addVariables _ _) fun env => ?_
  exact .bind (readOnly_addVariables _ _) fun env => .pure _

/-- The manifest that a file holds as a text. -/
theorem runIn_manifest {path text : String} {m : Manifest}
    (found : (w.files.look path).text = .ok text) (read : Manifest.ofText text = .ok m) :
    runIn (Command.manifest path : Command (StateM Workspace) Manifest) w = (.ok m, w) := by
  refine runIn_bind_eq_ok_iff.2 ⟨w.files.look path, w, runIn_look path, ?_⟩
  refine runIn_bind_eq_ok_iff.2 ⟨text, w, ?_, ?_⟩
  · exact runIn_ofExcept_eq_ok_iff.2 ⟨Outcome.mapError_eq_ok_iff.2 found, rfl⟩
  · exact runIn_ofExcept_eq_ok_iff.2 ⟨Outcome.mapError_eq_ok_iff.2 read, rfl⟩

theorem runIn_classes {path : String} {naming : NamingConfig} {m : Manifest}
    {cs : List ServiceClass}
    (read : runIn (Command.manifest path : Command (StateM Workspace) Manifest) w = (.ok m, w))
    (made : m.classes naming = .ok cs) :
    runIn (Command.classes path naming : Command (StateM Workspace) (List ServiceClass)) w =
      (.ok cs, w) :=
  runIn_bind_eq_ok_iff.2 ⟨m, w, read, runIn_ofExcept_eq_ok_iff.2 ⟨made, rfl⟩⟩

theorem readOnly_classes (path : String) (naming : NamingConfig) :
    ReadOnly (Command.classes path naming : Command (StateM Workspace) (List ServiceClass)) := by
  refine .bind (.bind (.look path) fun found => ?_) fun manifest => .ofExcept _
  exact .bind (.ofExcept _) fun text => .ofExcept _

end CrudForge
