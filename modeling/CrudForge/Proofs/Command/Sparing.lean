import CrudForge.Proofs.Command.Ending
import CrudForge.Proofs.Command.OneFile

/-!
# Runs that spare what is there

A run that shows its files, or that fails before it touches any, leaves the tree as it is. A run
that is not forced looks at the paths of its services before it makes the directory for them. So
it spares every file but those to which a path leads only once that directory is there (`Unseen`),
and there are none of them if the directory was there before, or if the paths never go up.
-/

namespace CrudForge

/-- A file is as it was, or it is the index and holds something more behind its text. -/
def Spared (directory : String) (q : Place) (content : FileContent) (t : FileTree) : Prop :=
  t.node? q = some (.file content) ∨
    ModuleIndex.place? t directory = some q ∧ ∃ text more, content = .text text ∧
      t.node? q = some (.file (.text (text ++ more)))

/-- A service whose path leads to a place once the directory is there, and did not before. -/
def Unseen (t : FileTree) (directory : String) (f : ServiceFile) (q : Place) : Prop :=
  f.place? t directory ≠ some q ∧ f.place? (t.withDirectory directory) directory = some q

/-- A service that a run has rendered when it begins to write. -/
def Rendered (args : GenerateArgs) (w : Workspace) (f : ServiceFile) : Prop :=
  ∃ fs, runIn (Command.serviceFiles args : Command (StateM Workspace) (List ServiceFile)) w =
    (.ok fs, w) ∧ f ∈ fs

variable {directory text module : String} {f : ServiceFile} {fs : List ServiceFile}
  {t t' : FileTree} {q : Place} {content : FileContent}

/-! ## What a service does to a file that is not its own -/

/-- A file is spared by a text that is written somewhere else. -/
theorem Spared.of_write {path : String} (spared : Spared directory q content t)
    (written : t.write path text = .ok t') (other : t.place? path ≠ some q) :
    Spared directory q content t' := by
  obtain ⟨p, placed, -⟩ := FileTree.write_eq_ok_iff.1 written
  have node : t'.node? q = t.node? q := by
    rw [FileTree.node?_of_write written placed, if_neg]
    intro here
    exact other (here ▸ placed)
  rcases spared with unchanged | ⟨index, grown⟩
  · exact .inl (node.trans unchanged)
  · have kept := FileTree.sameDirectories_of_write written
    refine .inr ⟨(kept.place?_eq _).trans index, ?_⟩
    rw [node]
    exact grown

/-- A file is spared by a declaration, which comes behind the text of the index. -/
theorem Spared.of_add (spared : Spared directory q content t)
    (found : t.look (Path.join directory ModuleIndex.fileName) = .file (.text text))
    (written : t.write (Path.join directory ModuleIndex.fileName)
      (ModuleIndex.add text module) = .ok t') :
    Spared directory q content t' := by
  obtain ⟨p, placed, holds⟩ := FileTree.look_eq_file_iff.1 found
  by_cases here : q = p
  · subst here
    have kept := FileTree.sameDirectories_of_write written
    have index : ModuleIndex.place? t' directory = some q := (kept.place?_eq _).trans placed
    have added := FileTree.node?_of_write written placed q
    rw [if_pos rfl] at added
    obtain ⟨more, longer⟩ := ModuleIndex.exists_add_eq text module
    rcases spared with unchanged | ⟨-, first, between, rfl, grown⟩
    · rw [unchanged] at holds
      cases holds
      exact .inr ⟨index, text, more, rfl, longer ▸ added⟩
    · rw [grown] at holds
      cases holds
      refine .inr ⟨index, first, between ++ more, rfl, ?_⟩
      rw [added, longer, String.append_assoc]
  · refine spared.of_write written fun same => here ?_
    exact Option.some.inj (same.symm.trans placed)

namespace Command

variable {colored : Bool} {args : GenerateArgs} {w w' : Workspace}

/-- No directory has come or gone since the services began to be written, and a file is spared. -/
def Sparing (t : FileTree) (directory : String) (q : Place) (content : FileContent)
    (t' : FileTree) : Prop :=
  FileTree.SameDirectories t t' ∧ Spared directory q content t'

/-- A service spares every file but its own. -/
theorem keptBy_sparing (other : f.place? t directory ≠ some q) :
    KeptBy (Sparing t directory q content) directory f := by
  constructor
  · intro t₁ t₂ sparing written
    have kept := FileTree.sameDirectories_of_write written
    refine ⟨sparing.1.trans kept, sparing.2.of_write written ?_⟩
    rw [sparing.1.place?_eq]
    exact other
  · intro t₁ t₂ text sparing found written
    have kept := FileTree.sameDirectories_of_write written
    exact ⟨sparing.1.trans kept, sparing.2.of_add found written⟩

/-! ## Runs -/

/-- A service that is not forced reaches a file only unseen. -/
theorem unseen_of_place? (free : t.look (Path.join directory f.name) = .nothing)
    (file : t.node? q = some (.file content))
    (placed : f.place? (t.withDirectory directory) directory = some q) :
    Unseen t directory f q := by
  refine ⟨fun seen => ?_, placed⟩
  have nothing := FileTree.look_eq_nothing_iff.1 free q seen
  rw [nothing] at file
  cases file

/-- Nothing is unseen if the directory was there before, or if around everything in the tree there
was a directory and the path never goes up. -/
theorem missing_of_unseen (unseen : Unseen t directory f q)
    (file : t.node? q = some (.file content)) :
    t.look directory = .nothing ∧
      (t.Closed → ".." ∈ Path.parts (Path.join directory f.name)) := by
  obtain ⟨before, behind⟩ := unseen
  constructor
  · by_contra there
    rw [FileTree.withDirectory, if_neg there] at behind
    exact before behind
  · intro closed
    by_contra straight
    have grows := FileTree.grows_withDirectory t directory
    exact before (grows.place?_of_file closed straight behind file)

/-- What a run that succeeds without being forced has written, and into which tree. -/
theorem exists_written (dry : args.dryRun = false) (forced : args.force = false)
    (ran : runIn (generate colored args : Command (StateM Workspace) Unit) w = (.ok (), w')) :
    ∃ fs w₁, runIn (serviceFiles args : Command (StateM Workspace) (List ServiceFile)) w =
        (.ok fs, w) ∧
      (∀ f ∈ fs, w.files.look (Path.join args.out f.name) = .nothing) ∧
      w₁.files = w.files.withDirectory args.out ∧
      runIn (fs.forM (writeService colored args.out) : Command (StateM Workspace) Unit) w₁ =
        (.ok (), w') := by
  obtain ⟨fs, w₁, read, free, directory, written⟩ := exists_writing dry ran
  exact ⟨fs, w₁, read, free forced, directory, written⟩

/-- Where a run succeeds, a place that services lead to has the code of one of them. -/
theorem exists_code_of_place? (written : runIn (fs.forM (writeService colored directory) :
      Command (StateM Workspace) Unit) w = (.ok (), w')) (mem : f ∈ fs)
    (placed : f.place? w.files directory = some q)
    (other : ModuleIndex.place? w'.files directory ≠ some q) :
    ∃ g ∈ fs, g.place? w.files directory = some q ∧
      w'.files.node? q = some (.file (.text g.code)) := by
  obtain ⟨same, -, content⟩ := node?_of_writeAll written
  have index : w.files.place? (Path.join directory ModuleIndex.fileName) ≠ some q := by
    rw [← same.place?_eq]
    exact other
  -- Of the services that lead there, the last one has the last word.
  have some : ∃ g ∈ fs, w.files.place? (Path.join directory g.name) = some q := ⟨f, mem, placed⟩
  obtain ⟨front, g, back, split, placed, last⟩ := exists_last some
  refine ⟨g, split ▸ List.mem_append_right front List.mem_cons_self, placed, ?_⟩
  rw [content, split, foldl_afterService_last placed last, if_neg index]

section

variable {r : Except CommandError Unit}

theorem files_of_refused
    (ran : runIn (generate colored args : Command (StateM Workspace) Unit) w = (r, w'))
    (refused : args.dryRun = true ∨ ∃ e, r = .error e ∧ ∀ fault, e ≠ .file fault) :
    w'.files = w.files := by
  have ends := ends_generate colored args (w := w) (I := fun _ => True) trivial
    fun _ _ _ _ _ => ⟨fun _ _ _ _ => trivial, fun _ _ _ _ _ _ => trivial⟩
  cases r with
  | ok u =>
    rcases ends.1 u w' ran with same | ⟨dry, -⟩
    · exact same
    · rcases refused with shown | ⟨e, failed, -⟩
      · exact absurd (dry.symm.trans shown) Bool.false_ne_true
      · cases failed
  | error e =>
    rcases ends.2 e w' ran with same | ⟨dry, -, fault, failed⟩
    · exact same
    · rcases refused with shown | ⟨e', same, other⟩
      · exact absurd (dry.symm.trans shown) Bool.false_ne_true
      · cases same
        exact absurd failed (other fault)

/-- A file that no service reaches unseen is spared, however the run ends. -/
theorem spared_of_unreached
    (ran : runIn (generate colored args : Command (StateM Workspace) Unit) w = (r, w'))
    (forced : args.force = false) (file : w.files.node? q = some (.file content))
    (unreached : ∀ f, Rendered args w f → ¬ Unseen w.files args.out f q) :
    Spared args.out q content w'.files := by
  let made := w.files.withDirectory args.out
  have grows := FileTree.grows_withDirectory w.files args.out
  have ends := ends_generate colored args (w := w) (I := Sparing made args.out q content)
    ⟨.refl made, .inl (grows.node?_eq_file_iff.2 file)⟩
    fun fs rendered free f mem => keptBy_sparing fun placed =>
      unreached f ⟨fs, rendered, mem⟩ (unseen_of_place? (free forced f mem) file placed)
  have still (same : w'.files = w.files) : Spared args.out q content w'.files :=
    .inl (same ▸ file)
  cases r with
  | ok u =>
    rcases ends.1 u w' ran with same | ⟨-, -, spared⟩
    · exact still same
    · exact spared
  | error e =>
    rcases ends.2 e w' ran with same | ⟨-, ⟨-, spared⟩, -⟩
    · exact still same
    · exact spared

end

/-- A file that is reached unseen has the code of a service that does so, if the run succeeds. -/
theorem exists_code_of_unseen
    (ran : runIn (generate colored args : Command (StateM Workspace) Unit) w = (.ok (), w'))
    (dry : args.dryRun = false) (forced : args.force = false)
    (file : w.files.node? q = some (.file content)) (rendered : Rendered args w f)
    (unseen : Unseen w.files args.out f q) (other : ModuleIndex.place? w'.files args.out ≠ some q) :
    ∃ g, Rendered args w g ∧ Unseen w.files args.out g q ∧
      w'.files.node? q = some (.file (.text g.code)) := by
  obtain ⟨fs, w₁, read, free, directory, written⟩ := exists_written dry forced ran
  obtain ⟨fs', read', mem⟩ := rendered
  cases read.symm.trans read'
  have placed := unseen.2
  rw [← directory] at placed
  obtain ⟨g, mem', placed', code⟩ := exists_code_of_place? written mem placed other
  rw [directory] at placed'
  exact ⟨g, ⟨fs, read, mem'⟩, unseen_of_place? (free g mem') file placed', code⟩

/-- A run that shows its files, or fails for another reason than a file operation, leaves the tree
as it is. One that is not forced spares every file to which none of its services leads unseen,
which happens only if the directory is missing and the path goes up; and if such a run succeeds,
the code of such a service is in the file. -/
theorem generate_spares {colored : Bool} {args : GenerateArgs} {w w' : Workspace}
    {r : Except CommandError Unit}
    (ran : runIn (generate colored args : Command (StateM Workspace) Unit) w = (r, w')) :
    ((args.dryRun = true ∨ ∃ e, r = .error e ∧ ∀ fault, e ≠ .file fault) →
      w'.files = w.files) ∧
    (args.force = false → ∀ q content, w.files.node? q = some (.file content) →
      (Spared args.out q content w'.files ∨
        ∃ f, Rendered args w f ∧ Unseen w.files args.out f q) ∧
      ∀ f, Rendered args w f → Unseen w.files args.out f q →
        w.files.look args.out = .nothing ∧
        (w.files.Closed → ".." ∈ Path.parts (Path.join args.out f.name)) ∧
        (r = .ok () → args.dryRun = false → ModuleIndex.place? w'.files args.out ≠ some q →
          ∃ g, Rendered args w g ∧ Unseen w.files args.out g q ∧
            w'.files.node? q = some (.file (.text g.code)))) := by
  constructor
  · exact files_of_refused ran
  · intro forced q content file
    constructor
    -- Unless a service leads there unseen, every service keeps the file, and so does the run.
    · by_cases reached : ∃ f, Rendered args w f ∧ Unseen w.files args.out f q
      · exact .inr reached
      · exact .inl (spared_of_unreached ran forced file fun f rendered unseen =>
          reached ⟨f, rendered, unseen⟩)
    · intro f rendered unseen
      obtain ⟨missing, up⟩ := missing_of_unseen unseen file
      refine ⟨missing, up, fun succeeded dry other => ?_⟩
      rw [succeeded] at ran
      exact exists_code_of_unseen ran dry forced file rendered unseen other

/-! ## A path that goes up -/

open Rendering

/-- A manifest of one entity. -/
def detourManifest : String := "entities:\n  - name: OrderLine\n"

/-- The place of the file that the run of that manifest writes over. -/
def detourPlace : Place := ["b", "order_line_service.rs"]

/-- A world with that manifest, and with a file where its service could be. -/
def detourWorkspace : Workspace where
  files :=
    { entries := [(["entities.yaml"], .file (.text detourManifest)), (["b"], .directory),
        (detourPlace, .file (.text "kept"))] }

/-- The service of that manifest is written, and nothing is forced. -/
def detourArgs : GenerateArgs := { manifest := "entities.yaml", out := "a/../b" }

theorem closed_detourWorkspace : detourWorkspace.files.Closed :=
  FileTree.closed_of_entries (by decide)

/-- The file of the service of that manifest. -/
theorem serviceFiles_detour :
    runIn (serviceFiles detourArgs : Command (StateM Workspace) (List ServiceFile))
      detourWorkspace = (.ok [collidingFile "OrderLine"], detourWorkspace) := by
  have settings : ∃ s, runIn (settings none : Command (StateM Workspace) Settings)
      detourWorkspace = (.ok s, detourWorkspace) ∧ s.naming = {} ∧ s.render = {} :=
    exists_settings (by decide +kernel)
  obtain ⟨s, set, naming, render⟩ := settings
  have found : (detourWorkspace.files.look detourArgs.manifest).text = .ok detourManifest := by
    decide +kernel
  have read : Manifest.ofText detourManifest = .ok (bareManifest ["OrderLine"]) := by
    decide +kernel
  have resolved : (bareManifest ["OrderLine"]).resolve = .ok (["OrderLine"].map bareEntity) := by
    decide +kernel
  have classes := classes_bare found read resolved (by decide)
  refine serviceFiles_bare set naming render classes ?_
  have member : "OrderLine" ∈ collidingNames := List.mem_cons_self
  have module := moduleName_colliding "OrderLine" member
  have file : (collidingFile "OrderLine").name = fileName (bareService {} "OrderLine" "i64") := by
    rw [fileName, module]
    rfl
  rw [Outcome.mapM_eq_ok_iff]
  exact .cons (ofClass_eq_ok_iff.2 ⟨render_colliding "OrderLine" member, module.symm, file⟩) .nil

theorem generate_detour :
    ∃ w, runIn (generate false detourArgs : Command (StateM Workspace) Unit) detourWorkspace =
      (.ok (), w) :=
  ⟨_, runIn_generate rfl rfl serviceFiles_detour (by decide +kernel)⟩

theorem place?_detour : (collidingFile "OrderLine").place?
    (detourWorkspace.files.withDirectory detourArgs.out) detourArgs.out = some detourPlace := by
  decide

theorem bareText_ne_kept (entity : String) : bareText {} entity "i64" ≠ "kept" := by
  intro same
  have last := congrArg (fun text => text.toList.getLast?) same
  simp only [bareText, classText, String.toList_append] at last
  rw [List.getLast?_append_of_ne_nil _ (by decide)] at last
  exact absurd last (by decide)

theorem index_detour
    (ran : runIn (generate false detourArgs : Command (StateM Workspace) Unit) detourWorkspace =
      (.ok (), w')) : ModuleIndex.place? w'.files detourArgs.out ≠ some detourPlace := by
  obtain ⟨fs, w₁, -, -, directory, written⟩ := exists_written rfl rfl ran
  obtain ⟨same, -, -⟩ := node?_of_writeAll written
  rw [ModuleIndex.place?, same.place?_eq, directory]
  have index : ModuleIndex.place? (detourWorkspace.files.withDirectory detourArgs.out)
      detourArgs.out ≠ some detourPlace := by
    decide
  exact index

/-- That run is not forced and succeeds, and replaces a file that is not the index. -/
theorem exists_generate_replaces :
    ∃ args w w', args.force = false ∧ w.files.Closed ∧
      runIn (generate false args : Command (StateM Workspace) Unit) w = (.ok (), w') ∧
      ∃ q content, w.files.node? q = some (.file content) ∧
        ModuleIndex.place? w'.files args.out ≠ some q ∧
        w'.files.node? q ≠ some (.file content) := by
  obtain ⟨w', ran⟩ := generate_detour
  obtain ⟨fs, w₁, read, -, directory, written⟩ := exists_written rfl rfl ran
  cases read.symm.trans serviceFiles_detour
  have placed := place?_detour
  rw [← directory] at placed
  have other := index_detour ran
  obtain ⟨g, mem, -, code⟩ := exists_code_of_place? written List.mem_cons_self placed other
  rw [List.mem_singleton.1 mem] at code
  refine ⟨detourArgs, detourWorkspace, w', rfl, closed_detourWorkspace, ran, detourPlace,
    .text "kept", by decide, other, fun kept => ?_⟩
  exact bareText_ne_kept "OrderLine" (text_inj (code.symm.trans kept))

theorem generate_spares_detour :
    ∃ w', runIn (generate false detourArgs : Command (StateM Workspace) Unit) detourWorkspace =
        (.ok (), w') ∧
      (Spared detourArgs.out detourPlace (.text "kept") w'.files ∨
        ∃ f, Rendered detourArgs detourWorkspace f ∧
          Unseen detourWorkspace.files detourArgs.out f detourPlace) ∧
      detourWorkspace.files.look detourArgs.out = .nothing ∧
      ".." ∈ Path.parts (Path.join detourArgs.out (collidingFile "OrderLine").name) ∧
      ∃ g, Rendered detourArgs detourWorkspace g ∧
        Unseen detourWorkspace.files detourArgs.out g detourPlace ∧
        w'.files.node? detourPlace = some (.file (.text g.code)) := by
  obtain ⟨w', ran⟩ := generate_detour
  have rendered : Rendered detourArgs detourWorkspace (collidingFile "OrderLine") :=
    ⟨_, serviceFiles_detour, List.mem_cons_self⟩
  have unseen : Unseen detourWorkspace.files detourArgs.out (collidingFile "OrderLine")
      detourPlace := by
    refine ⟨?_, place?_detour⟩
    decide
  obtain ⟨spared, reached⟩ :=
    (generate_spares ran).2 rfl detourPlace (.text "kept") (by decide)
  obtain ⟨missing, up, code⟩ := reached _ rendered unseen
  exact ⟨w', ran, spared, missing, up closed_detourWorkspace, code rfl rfl (index_detour ran)⟩

end Command
end CrudForge
