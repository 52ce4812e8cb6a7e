import CrudForge.Command.Generate
import CrudForge.Proofs.Command.World
import CrudForge.Proofs.Files.Directory

/-!
# How commands end

`Ends x w Q E` says that a command which is run in a world either succeeds, with a result and a
world of which `Q` holds, or fails, with an error and a world of which `E` holds. A sequence ends
as its second half does in the world that the first one leaves (`Ends.bind`), and what every step
of a traversal keeps is kept by the whole (`Ends.forM`). So what holds of the files and is kept by
each text that is written (`KeptBy`) holds however a run ends that begins to write
(`ends_generate`).
-/

namespace CrudForge

variable {ε α β : Type} {w w' : Workspace}

/-- A command run in a world ends with `Q` if it succeeds, and with `E` if it fails. -/
def Ends (x : ExceptT ε (StateM Workspace) α) (w : Workspace) (Q : α → Workspace → Prop)
    (E : ε → Workspace → Prop) : Prop :=
  (∀ a w', runIn x w = (.ok a, w') → Q a w') ∧ ∀ e w', runIn x w = (.error e, w') → E e w'

namespace Ends

variable {x : ExceptT ε (StateM Workspace) α} {f : α → ExceptT ε (StateM Workspace) β}
  {Q Q' : α → Workspace → Prop} {E E' : ε → Workspace → Prop}

theorem of_ok {a : α} (ran : runIn x w = (.ok a, w')) (holds : Q a w') : Ends x w Q E := by
  constructor
  · intro b w₁ ran'
    cases ran.symm.trans ran'
    exact holds
  · intro e w₁ ran'
    cases ran.symm.trans ran'

theorem of_error {e : ε} (ran : runIn x w = (.error e, w')) (holds : E e w') : Ends x w Q E := by
  constructor
  · intro b w₁ ran'
    cases ran.symm.trans ran'
  · intro e' w₁ ran'
    cases ran.symm.trans ran'
    exact holds

theorem mono (ends : Ends x w Q E) (ok : ∀ a w', Q a w' → Q' a w')
    (error : ∀ e w', E e w' → E' e w') : Ends x w Q' E' :=
  ⟨fun a w' ran => ok a w' (ends.1 a w' ran), fun e w' ran => error e w' (ends.2 e w' ran)⟩

theorem bind {R : β → Workspace → Prop} (first : Ends x w Q E)
    (rest : ∀ a w', Q a w' → Ends (f a) w' R E) : Ends (x >>= f) w R E := by
  constructor
  · intro b w' ran
    obtain ⟨a, w₁, head, tail⟩ := runIn_bind_eq_ok_iff.1 ran
    exact (rest a w₁ (first.1 a w₁ head)).1 b w' tail
  · intro e w' ran
    rw [runIn_bind] at ran
    cases head : runIn x w with
    | mk r w₁ =>
      rw [head] at ran
      cases r with
      | ok a => exact (rest a w₁ (first.1 a w₁ head)).2 e w' ran
      | error e' =>
        cases ran
        exact first.2 e w' head

/-- A command that cannot end with an error ends with a result. -/
theorem exists_ok (ends : Ends x w Q fun _ _ => False) :
    ∃ a w', runIn x w = (.ok a, w') ∧ Q a w' := by
  cases ran : runIn x w with
  | mk r w' =>
    cases r with
    | ok a => exact ⟨a, w', rfl, ends.1 a w' ran⟩
    | error e => exact absurd (ends.2 e w' ran) not_false

/-- A traversal whose steps keep what holds of the world. -/
theorem forM {I : Workspace → Prop} {as : List α} {step : α → ExceptT ε (StateM Workspace) Unit}
    (kept : ∀ a ∈ as, ∀ w, I w → Ends (step a) w (fun _ => I) E) (start : I w) :
    Ends (as.forM step) w (fun _ => I) E := by
  induction as generalizing w with
  | nil => exact .of_ok rfl start
  | cons a as ih =>
    obtain ⟨head, tail⟩ := List.forall_mem_cons.1 kept
    exact (head w start).bind fun _ w' holds => ih tail holds

end Ends

/-- A command that only reads leaves the world to its results. -/
theorem ReadOnly.ends {x : ExceptT ε (StateM Workspace) α} (reads : ReadOnly x) (w : Workspace) :
    Ends x w (fun a w' => w' = w ∧ runIn x w = (.ok a, w))
      fun e w' => w' = w ∧ runIn x w = (.error e, w) := by
  constructor
  · intro a w' ran
    have same := reads.eq_of_runIn ran
    exact ⟨same, same ▸ ran⟩
  · intro e w' ran
    have same := reads.eq_of_runIn ran
    exact ⟨same, same ▸ ran⟩

namespace Command

variable {colored : Bool} {directory path text : String} {f : ServiceFile}
  {fs : List ServiceFile} {E : CommandError → Workspace → Prop}

theorem ends_ofFault {Q : α → Workspace → Prop} {r : Except FileFault α}
    (ok : ∀ a, r = .ok a → Q a w) (error : ∀ fault, r = .error fault → E (.file fault) w) :
    Ends (ofFault r : Command (StateM Workspace) α) w Q E := by
  cases r with
  | ok a => exact .of_ok rfl (ok a rfl)
  | error fault => exact .of_error rfl (error fault rfl)

/-- Printing does nothing to the files. -/
theorem ends_printLine (line : String) :
    Ends (printLine line : Command (StateM Workspace) Unit) w
      (fun _ w' => w'.files = w.files) E :=
  .of_ok rfl rfl

/-- A text that is written or not, and what comes behind it if it is. -/
theorem ends_write {rest : Command (StateM Workspace) α} {Q : α → Workspace → Prop}
    (refused : ∀ fault, w.files.write path text = .error fault → E (.file fault) w)
    (written : ∀ files, w.files.write path text = .ok files → Ends rest { w with files } Q E) :
    Ends (do ofFault (← Host.write path text); rest) w Q E := by
  have ran := runIn_write (ε := CommandError) (w := w) path text
  cases result : w.files.write path text with
  | ok files =>
    rw [result] at ran
    have first : Ends (Host.write path text : Command (StateM Workspace) (Except FileFault Unit)) w
        (fun r w' => r = .ok () ∧ w' = { w with files }) E := .of_ok ran ⟨rfl, rfl⟩
    refine first.bind fun r w₁ done => ?_
    rw [done.1, done.2]
    exact written files result
  | error fault =>
    rw [result] at ran
    have first : Ends (Host.write path text : Command (StateM Workspace) (Except FileFault Unit)) w
        (fun r w' => r = .error fault ∧ w' = w) E := .of_ok ran ⟨rfl, rfl⟩
    refine first.bind fun r w₁ done => ?_
    rw [done.1, done.2]
    exact .of_error rfl (refused fault result)

/-! ## Before services are written -/

theorem readOnly_serviceFiles (args : GenerateArgs) :
    ReadOnly (serviceFiles args : Command (StateM Workspace) (List ServiceFile)) := by
  refine .bind (readOnly_settings args.profile) fun s => ?_
  exact .bind (readOnly_classes args.manifest s.naming) fun cs => .ofExcept _

/-- The files of the services of a manifest, from its classes under the settings. -/
theorem runIn_serviceFiles_eq_ok_iff {args : GenerateArgs} :
    runIn (serviceFiles args : Command (StateM Workspace) (List ServiceFile)) w = (.ok fs, w') ↔
      w' = w ∧ ∃ s cs,
        runIn (settings args.profile : Command (StateM Workspace) Settings) w = (.ok s, w) ∧
        runIn (classes args.manifest s.naming : Command (StateM Workspace) (List ServiceClass)) w =
          (.ok cs, w) ∧
        cs.mapM (ServiceFile.ofClass s.render) = .ok fs := by
  constructor
  · intro ran
    obtain ⟨s, w₁, set, ran⟩ := runIn_bind_eq_ok_iff.1 ran
    cases (readOnly_settings args.profile).eq_of_runIn set
    obtain ⟨cs, w₂, generated, ran⟩ := runIn_bind_eq_ok_iff.1 ran
    cases (readOnly_classes args.manifest s.naming).eq_of_runIn generated
    rw [runIn_ofExcept_eq_ok_iff, Outcome.mapError_eq_ok_iff] at ran
    obtain ⟨rendered, rfl⟩ := ran
    exact ⟨rfl, s, cs, set, generated, rendered⟩
  · rintro ⟨rfl, s, cs, set, generated, rendered⟩
    refine runIn_bind_eq_ok_iff.2 ⟨s, w', set, runIn_bind_eq_ok_iff.2 ⟨cs, w', generated, ?_⟩⟩
    exact runIn_ofExcept_eq_ok_iff.2 ⟨Outcome.mapError_eq_ok_iff.2 rendered, rfl⟩

theorem ends_showAll (colored : Bool) (fs : List ServiceFile) :
    Ends (fs.forM (showService colored) : Command (StateM Workspace) Unit) w
      (fun _ w' => w'.files = w.files) E := by
  refine .forM (I := fun w' => w'.files = w.files) (fun f _ w₁ same => ?_) rfl
  refine (ends_printLine _).bind fun _ w₂ same' =>
    (ends_printLine _).mono ?_ fun e w' failed => failed
  intro _ w₃ same''
  rw [same'', same', same]

/-- Nothing is occupied behind a check that passes, and only a path that is makes it fail. -/
theorem ends_refuseOccupied (directory : String) (fs : List ServiceFile) :
    Ends (refuseOccupied directory fs : Command (StateM Workspace) Unit) w
      (fun _ w' => w' = w ∧ ∀ f ∈ fs, w.files.look (Path.join directory f.name) = .nothing)
      fun e w' => w' = w ∧ ∃ path, e = .occupied path := by
  induction fs with
  | nil => exact .of_ok rfl ⟨rfl, by simp⟩
  | cons f fs ih =>
    have first : Ends (Host.occupied (Path.join directory f.name) :
        Command (StateM Workspace) Bool) w
        (fun b w' => w' = w ∧ (b = false → w.files.look (Path.join directory f.name) = .nothing))
        (fun e w' => w' = w ∧ ∃ path, e = .occupied path) := .of_ok rfl ⟨rfl, by simp⟩
    refine first.bind fun b w₁ found => ?_
    obtain ⟨rfl, free⟩ := found
    cases b with
    | true => exact .of_error rfl ⟨rfl, _, rfl⟩
    | false =>
      refine ih.mono (fun u w' passed => ⟨passed.1, ?_⟩) fun e w' failed => failed
      exact List.forall_mem_cons.2 ⟨free rfl, passed.2⟩

/-- The failures of writing: what held of the files still does, and a file operation failed. -/
def FaultWhile (I : FileTree → Prop) (e : CommandError) (w : Workspace) : Prop :=
  I w.files ∧ ∃ fault, e = .file fault

theorem ends_makeDirectory (directory : String) :
    Ends (makeDirectory directory : Command (StateM Workspace) Unit) w
      (fun _ w' => w'.files = w.files.withDirectory directory)
      (FaultWhile (· = w.files.withDirectory directory)) := by
  have first : Ends (Host.occupied directory : Command (StateM Workspace) Bool) w
      (fun b w' => w' = w ∧ b = decide (w.files.look directory ≠ .nothing))
      (FaultWhile (· = w.files.withDirectory directory)) := .of_ok rfl ⟨rfl, rfl⟩
  refine first.bind fun b w₁ found => ?_
  obtain ⟨rfl, rfl⟩ := found
  rw [FileTree.withDirectory]
  by_cases free : w₁.files.look directory = .nothing
  · have made : Ends (Host.createDirs directory :
        Command (StateM Workspace) (Except FileFault Unit)) w₁
        (fun _ w' => w'.files = (w₁.files.createDirs directory).1)
        (FaultWhile (· = (w₁.files.createDirs directory).1)) := .of_ok rfl rfl
    have missing : (!decide (w₁.files.look directory ≠ .nothing)) = true := by simp [free]
    rw [if_pos free, if_pos missing]
    exact made.bind fun r w₂ files =>
      ends_ofFault (fun _ _ => files) fun fault _ => ⟨files, fault, rfl⟩
  · have there : (!decide (w₁.files.look directory ≠ .nothing)) ≠ true := by simp [free]
    rw [if_neg free, if_neg there]
    exact .of_ok rfl rfl

/-! ## Writing services -/

/-- What holds of the files is kept by both texts that are written for a service: its own, and the
index with its declaration. -/
structure KeptBy (I : FileTree → Prop) (directory : String) (f : ServiceFile) : Prop where
  service : ∀ t t', I t → t.write (Path.join directory f.name) f.code = .ok t' → I t'
  index : ∀ t t' text, I t →
    t.look (Path.join directory ModuleIndex.fileName) = .file (.text text) →
    t.write (Path.join directory ModuleIndex.fileName) (ModuleIndex.add text f.module) = .ok t' →
    I t'

variable {I : FileTree → Prop}

theorem KeptBy.ends_registerModule (kept : KeptBy I directory f) (start : I w.files) :
    Ends (registerModule colored directory f.module : Command (StateM Workspace) Unit) w
      (fun _ w' => I w'.files) (FaultWhile I) := by
  let found := w.files.look (Path.join directory ModuleIndex.fileName)
  have looked : Ends (Host.look (Path.join directory ModuleIndex.fileName) :
      Command (StateM Workspace) Found) w (fun a w' => a = found ∧ w' = w) (FaultWhile I) :=
    .of_ok rfl ⟨rfl, rfl⟩
  refine looked.bind fun a w₁ same => ?_
  obtain ⟨rfl, rfl⟩ := same
  split
  · exact .of_ok rfl start
  · have read : Ends (ofFault found.text : Command (StateM Workspace) String) w₁
        (fun text w' => found.text = .ok text ∧ w' = w₁) (FaultWhile I) :=
      ends_ofFault (fun _ ok => ⟨ok, rfl⟩) fun fault _ => ⟨start, fault, rfl⟩
    refine read.bind fun text w₂ content => ?_
    obtain ⟨content, rfl⟩ := content
    split
    · exact .of_ok rfl start
    · refine ends_write (fun fault _ => ⟨start, fault, rfl⟩) fun files written => ?_
      have holds := kept.index _ _ text start (FileTree.text_eq_ok_iff.1 content) written
      refine (ends_printLine _).mono (fun _ w' same => ?_) fun e w' failed => failed
      rw [same]
      exact holds

theorem KeptBy.ends_writeService (kept : KeptBy I directory f) (start : I w.files) :
    Ends (writeService colored directory f : Command (StateM Workspace) Unit) w
      (fun _ w' => I w'.files) (FaultWhile I) := by
  refine ends_write (fun fault _ => ⟨start, fault, rfl⟩) fun files written => ?_
  have holds := kept.service _ _ start written
  refine (ends_printLine _).bind fun _ w' same => kept.ends_registerModule ?_
  rw [same]
  exact holds

/-- What is kept by the texts of every service holds however their writing ends. -/
theorem ends_writeAll (kept : ∀ f ∈ fs, KeptBy I directory f) (start : I w.files) :
    Ends (fs.forM (writeService colored directory) : Command (StateM Workspace) Unit) w
      (fun _ w' => I w'.files) (FaultWhile I) :=
  .forM (fun f mem _ holds => (kept f mem).ends_writeService holds) start

/-- What holds of the tree with its directory and is kept by the texts of every service holds however
making the directory and writing the services ends. -/
theorem ends_writeFiles (colored : Bool) (made : I (w.files.withDirectory directory))
    (kept : ∀ f ∈ fs, KeptBy I directory f) :
    Ends (do
      makeDirectory directory
      fs.forM (writeService colored directory) : Command (StateM Workspace) Unit) w
      (fun _ w' => I w'.files) (FaultWhile I) := by
  have start := (ends_makeDirectory directory (w := w)).mono (fun _ _ same => same)
    fun e w' failed => (⟨failed.1 ▸ made, failed.2⟩ : FaultWhile I e w')
  refine start.bind fun _ w₁ same => ends_writeAll kept ?_
  rw [same]
  exact made

/-! ## Runs -/

/-- A run leaves the files alone, or it is meant to write, and what holds of the tree with its
directory and is kept by the texts of its services holds however it ends. Its services are those
that were rendered, and if it is not forced there was nothing at their paths. -/
theorem ends_generate (colored : Bool) (args : GenerateArgs)
    (made : I (w.files.withDirectory args.out))
    (kept : ∀ fs, runIn (serviceFiles args : Command (StateM Workspace) (List ServiceFile)) w =
        (.ok fs, w) →
      (args.force = false → ∀ f ∈ fs, w.files.look (Path.join args.out f.name) = .nothing) →
      ∀ f ∈ fs, KeptBy I args.out f) :
    Ends (generate colored args : Command (StateM Workspace) Unit) w
      (fun _ w' => w'.files = w.files ∨ args.dryRun = false ∧ I w'.files)
      (fun e w' => w'.files = w.files ∨ args.dryRun = false ∧ FaultWhile I e w') := by
  have read := ((readOnly_serviceFiles args).ends w).mono (fun fs w' found => found)
    fun e w' failed => (Or.inl (congrArg Workspace.files failed.1) :
      w'.files = w.files ∨ args.dryRun = false ∧ FaultWhile I e w')
  refine read.bind fun fs w₁ found => ?_
  obtain ⟨rfl, rendered⟩ := found
  cases dry : args.dryRun with
  | true =>
    rw [if_pos rfl]
    exact (ends_showAll colored fs (E := fun _ w' => w'.files = w₁.files)).mono
      (fun _ w' same => .inl same) fun _ w' same => .inl same
  | false =>
    rw [if_neg Bool.false_ne_true]
    have write (free : args.force = false →
        ∀ f ∈ fs, w₁.files.look (Path.join args.out f.name) = .nothing) :
        Ends (do
          makeDirectory args.out
          fs.forM (writeService colored args.out) : Command (StateM Workspace) Unit) w₁
          (fun _ w' => w'.files = w₁.files ∨ false = false ∧ I w'.files)
          (fun e w' => w'.files = w₁.files ∨ false = false ∧ FaultWhile I e w') := by
      exact (ends_writeFiles colored made (kept fs rendered free)).mono
        (fun _ w' holds => .inr ⟨rfl, holds⟩) fun e w' failed => .inr ⟨rfl, failed⟩
    cases forced : args.force with
    | true => exact write fun unforced => by rw [forced] at unforced; cases unforced
    | false =>
      have refused := (ends_refuseOccupied args.out fs (w := w₁)).mono (fun _ _ free => free)
        fun e w' failed => (Or.inl (congrArg Workspace.files failed.1) :
          w'.files = w₁.files ∨ false = false ∧ FaultWhile I e w')
      refine refused.bind fun _ w₂ free => ?_
      obtain ⟨rfl, free⟩ := free
      exact write fun _ => free

/-- What a run that is not forced does with its services. -/
def writeFresh (colored : Bool) (directory : String) (fs : List ServiceFile) :
    Command (StateM Workspace) Unit := do
  refuseOccupied directory fs
  makeDirectory directory
  fs.forM (writeService colored directory)

/-- A run that is not forced succeeds if its services are rendered and can be written. -/
theorem runIn_generate {args : GenerateArgs} (dry : args.dryRun = false)
    (unforced : args.force = false)
    (read : runIn (serviceFiles args : Command (StateM Workspace) (List ServiceFile)) w =
      (.ok fs, w))
    (written : (runIn (writeFresh colored args.out fs) w).1.toOption = some ()) :
    runIn (generate colored args : Command (StateM Workspace) Unit) w =
      (.ok (), (runIn (writeFresh colored args.out fs) w).2) := by
  rw [← runIn_eq_ok written, generate, runIn_bind, read, dry, unforced]
  rfl

/-- What a run that succeeds has written, and into which tree. -/
theorem exists_writing {args : GenerateArgs} (dry : args.dryRun = false)
    (ran : runIn (generate colored args : Command (StateM Workspace) Unit) w = (.ok (), w')) :
    ∃ fs w₁, runIn (serviceFiles args : Command (StateM Workspace) (List ServiceFile)) w =
        (.ok fs, w) ∧
      (args.force = false → ∀ f ∈ fs, w.files.look (Path.join args.out f.name) = .nothing) ∧
      w₁.files = w.files.withDirectory args.out ∧
      runIn (fs.forM (writeService colored args.out) : Command (StateM Workspace) Unit) w₁ =
        (.ok (), w') := by
  obtain ⟨fs, w₀, read, rest⟩ := runIn_bind_eq_ok_iff.1 ran
  have same := (readOnly_serviceFiles args).eq_of_runIn read
  subst same
  rw [dry, if_neg Bool.false_ne_true] at rest
  have written (rest : runIn (do
      makeDirectory args.out
      fs.forM (writeService colored args.out) : Command (StateM Workspace) Unit) w₀ =
        (.ok (), w')) :
      ∃ w₁, w₁.files = w₀.files.withDirectory args.out ∧
        runIn (fs.forM (writeService colored args.out) : Command (StateM Workspace) Unit) w₁ =
          (.ok (), w') := by
    obtain ⟨⟨⟩, w₁, made, last⟩ := runIn_bind_eq_ok_iff.1 rest
    exact ⟨w₁, (ends_makeDirectory args.out).1 _ _ made, last⟩
  cases forced : args.force with
  | true =>
    rw [forced, if_neg (by simp)] at rest
    obtain ⟨w₁, made, last⟩ := written rest
    exact ⟨fs, w₁, read, fun unforced => absurd unforced.symm Bool.false_ne_true, made, last⟩
  | false =>
    rw [forced, if_pos (by rfl)] at rest
    obtain ⟨⟨⟩, w₂, checked, later⟩ := runIn_bind_eq_ok_iff.1 rest
    obtain ⟨same, free⟩ := (ends_refuseOccupied args.out fs).1 _ _ checked
    subst same
    obtain ⟨w₁, made, last⟩ := written later
    exact ⟨fs, w₁, read, fun _ => free, made, last⟩

end Command
end CrudForge
