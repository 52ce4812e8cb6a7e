import CrudForge.Proofs.Command.ModuleIndex
import CrudForge.Proofs.Command.World
import CrudForge.Proofs.Files.Tree

/-!
# Writing services one after the other

What writing a service does to what is at a place is told by `afterService`: its code is there if
its path leads there, and then its module is declared if the path of the index does. A run over
some services does this once for each of them (`node?_of_writeAll`), and no directory is made or
lost on the way.
-/

namespace CrudForge.Command

variable {colored : Bool} {directory module : String} {f : ServiceFile} {fs : List ServiceFile}
  {w w' : Workspace} {t t' : FileTree}

/-! ## Pieces -/

theorem runIn_ofFault_eq_ok_iff {α : Type} {r : Except FileFault α} {a : α} :
    runIn (ofFault r : Command (StateM Workspace) α) w = (.ok a, w') ↔ r = .ok a ∧ w' = w := by
  rw [ofFault, runIn_ofExcept_eq_ok_iff, Outcome.mapError_eq_ok_iff]

/-- A text that is written, and what comes behind it. -/
theorem exists_of_write {α : Type} {path text : String} {rest : Command (StateM Workspace) α}
    {a : α}
    (ran : runIn (do ofFault (← Host.write path text); rest) w = (.ok a, w')) :
    ∃ files, w.files.write path text = .ok files ∧ runIn rest { w with files } = (.ok a, w') := by
  obtain ⟨r, w₁, written, ran⟩ := runIn_bind_eq_ok_iff.1 ran
  obtain ⟨⟨⟩, w₂, done, ran⟩ := runIn_bind_eq_ok_iff.1 ran
  obtain ⟨rfl, rfl⟩ := runIn_ofFault_eq_ok_iff.1 done
  rw [runIn_write] at written
  cases result : w.files.write path text with
  | error fault =>
    rw [result] at written
    cases written
  | ok files =>
    rw [result] at written
    cases written
    exact ⟨files, rfl, ran⟩

/-! ## One service -/

/-- What is at a place once a module is declared there, if there is a text. -/
def declareAt (module : String) : Option Entry → Option Entry
  | some (.file (.text text)) => some (.file (.text (ModuleIndex.register text module)))
  | found => found

/-- What is at a place once a service has been written. -/
def afterService (t : FileTree) (directory : String) (q : Place) (found : Option Entry)
    (f : ServiceFile) : Option Entry :=
  let written :=
    if t.place? (Path.join directory f.name) = some q then some (.file (.text f.code)) else found
  if t.place? (Path.join directory ModuleIndex.fileName) = some q then declareAt f.module written
  else written

theorem node?_of_registerModule
    (ran : runIn (registerModule colored directory module : Command (StateM Workspace) Unit) w =
      (.ok (), w')) :
    FileTree.SameDirectories w.files w'.files ∧ ∀ q, w'.files.node? q =
      if w.files.place? (Path.join directory ModuleIndex.fileName) = some q then
        declareAt module (w.files.node? q)
      else w.files.node? q := by
  obtain ⟨found, w₁, looked, ran⟩ := runIn_bind_eq_ok_iff.1 ran
  cases looked
  split at ran
  · rename_i nothing
    cases ran
    refine ⟨.refl _, fun q => ?_⟩
    split
    · rename_i placed
      rw [FileTree.look_eq_nothing_iff.1 nothing q placed]
      rfl
    · rfl
  · obtain ⟨text, w₁, read, rest⟩ := runIn_bind_eq_ok_iff.1 ran
    obtain ⟨found, rfl⟩ := runIn_ofFault_eq_ok_iff.1 read
    obtain ⟨p, placed, content⟩ := FileTree.look_eq_file_iff.1 (FileTree.text_eq_ok_iff.1 found)
    split at rest
    · rename_i declared
      cases rest
      refine ⟨.refl _, fun q => ?_⟩
      split
      · rename_i same
        cases placed.symm.trans same
        rw [content, declareAt, ModuleIndex.register, if_pos declared]
      · rfl
    · rename_i undeclared
      obtain ⟨files, written, last⟩ := exists_of_write rest
      cases last
      refine ⟨FileTree.sameDirectories_of_write written, fun q => ?_⟩
      rw [FileTree.node?_of_write written placed]
      by_cases same : q = p
      · subst same
        rw [if_pos rfl, if_pos placed, content, declareAt, ModuleIndex.register, if_neg undeclared]
      · rw [if_neg same, if_neg fun found => same (Option.some.inj (found.symm.trans placed))]

theorem node?_of_writeService
    (ran : runIn (writeService colored directory f : Command (StateM Workspace) Unit) w =
      (.ok (), w')) :
    FileTree.SameDirectories w.files w'.files ∧
      (∃ p, w.files.place? (Path.join directory f.name) = some p) ∧
      ∀ q, w'.files.node? q = afterService w.files directory q (w.files.node? q) f := by
  obtain ⟨files, written, ran⟩ := exists_of_write ran
  obtain ⟨⟨⟩, w₁, printed, ran⟩ := runIn_bind_eq_ok_iff.1 ran
  cases printed
  obtain ⟨same, content⟩ := node?_of_registerModule ran
  obtain ⟨p, placed, -⟩ := FileTree.write_eq_ok_iff.1 written
  have kept := FileTree.sameDirectories_of_write written
  refine ⟨kept.trans same, ⟨p, placed⟩, fun q => ?_⟩
  rw [content q, FileTree.node?_of_write written placed, kept.place?_eq, afterService, placed]
  simp only [Option.some.injEq, eq_comm]

/-! ## All services -/

theorem node?_of_writeAll
    (ran : runIn (fs.forM (writeService colored directory) : Command (StateM Workspace) Unit) w =
      (.ok (), w')) :
    FileTree.SameDirectories w.files w'.files ∧
      (∀ f ∈ fs, ∃ p, w.files.place? (Path.join directory f.name) = some p) ∧
      ∀ q, w'.files.node? q = fs.foldl (afterService w.files directory q) (w.files.node? q) := by
  induction fs generalizing w with
  | nil =>
    cases ran
    exact ⟨.refl _, by simp, fun q => rfl⟩
  | cons f fs ih =>
    obtain ⟨⟨⟩, w₁, first, rest⟩ := runIn_bind_eq_ok_iff.1 ran
    obtain ⟨same, placed, content⟩ := node?_of_writeService first
    obtain ⟨same', placed', content'⟩ := ih rest
    refine ⟨same.trans same', ?_, fun q => ?_⟩
    · intro g mem
      rcases List.mem_cons.1 mem with rfl | mem
      · exact placed
      · rw [← same.place?_eq]
        exact placed' g mem
    · have paths : afterService w₁.files directory q = afterService w.files directory q := by
        funext found g
        rw [afterService, afterService, same.place?_eq, same.place?_eq]
      rw [content' q, content q, paths, List.foldl_cons]

end CrudForge.Command
