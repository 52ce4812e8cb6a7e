import CrudForge.Proofs.Command.BareManifest
import CrudForge.Proofs.Command.Ending
import CrudForge.Proofs.Command.Writing
import CrudForge.Proofs.Files.Path

/-!
# One file for each service

Every service of a run is in its file afterwards iff `NothingLost`: services whose paths lead to
one place have the same code, and a service that is written over the index declares every module
that is declared in it from then on. Where the names of the files are plain, their paths lead to
one place iff their modules are the same.
-/

namespace CrudForge

/-- No file of some services is lost to another one, or to the declarations of the index. The key
of a service tells where it is written to, and `index` is the key of the index. -/
structure NothingLost {κ : Type} (key : ServiceFile → κ) (index : κ) (fs : List ServiceFile) :
    Prop where
  alone : ∀ f ∈ fs, ∀ g ∈ fs, key f = key g → f.code = g.code
  index : ∀ front f back, fs = front ++ f :: back → key f = index → (∀ g ∈ back, key g ≠ index) →
    ∀ g ∈ f :: back, ModuleIndex.declares f.code g.module = true

section Keys

variable {κ κ' : Type} {key : ServiceFile → κ} {key' : ServiceFile → κ'} {index : κ} {index' : κ'}
  {fs : List ServiceFile}

/-- What is lost can be told from which keys are the same. -/
theorem NothingLost.transfer (safe : NothingLost key index fs)
    (same : ∀ f ∈ fs, ∀ g ∈ fs, key f = key g ↔ key' f = key' g)
    (indexed : ∀ f ∈ fs, key f = index ↔ key' f = index') : NothingLost key' index' fs where
  alone f memF g memG together := safe.alone f memF g memG ((same f memF g memG).2 together)
  index front f back split here last := by
    have mem : f ∈ fs := split ▸ List.mem_append_right front List.mem_cons_self
    refine safe.index front f back split ((indexed f mem).2 here) fun g later => ?_
    have memG : g ∈ fs := split ▸ List.mem_append_right front (List.mem_cons_of_mem f later)
    rw [Ne, indexed g memG]
    exact last g later

/-- Only which keys are the same makes a difference. -/
theorem NothingLost.congr (same : ∀ f ∈ fs, ∀ g ∈ fs, key f = key g ↔ key' f = key' g)
    (indexed : ∀ f ∈ fs, key f = index ↔ key' f = index') :
    NothingLost key index fs ↔ NothingLost key' index' fs := by
  constructor
  · intro safe
    exact safe.transfer same indexed
  · intro safe
    exact safe.transfer (fun f memF g memG => (same f memF g memG).symm) fun f mem =>
      (indexed f mem).symm

end Keys

/-- The place to which a service is written. -/
def ServiceFile.place? (t : FileTree) (directory : String) (f : ServiceFile) : Option Place :=
  t.place? (Path.join directory f.name)

/-- The place of the index of a directory. -/
def ModuleIndex.place? (t : FileTree) (directory : String) : Option Place :=
  t.place? (Path.join directory fileName)

namespace Command

variable {directory : String} {f : ServiceFile} {fs front back : List ServiceFile}
  {t t' : FileTree} {q : Place}

/-! ## The last one that is written to a place -/

/-- The last element of a list that has a property. -/
theorem exists_last {α : Type} {p : α → Prop} {xs : List α} (found : ∃ x ∈ xs, p x) :
    ∃ front x back, xs = front ++ x :: back ∧ p x ∧ ∀ y ∈ back, ¬ p y := by
  induction xs with
  | nil => simp at found
  | cons x xs ih =>
    by_cases later : ∃ y ∈ xs, p y
    · obtain ⟨front, y, back, rfl, holds, last⟩ := ih later
      exact ⟨x :: front, y, back, rfl, holds, last⟩
    · obtain ⟨y, mem, holds⟩ := found
      rcases List.mem_cons.1 mem with rfl | mem
      · exact ⟨[], y, xs, rfl, holds, fun z mem holds => later ⟨z, mem, holds⟩⟩
      · exact absurd ⟨y, mem, holds⟩ later

/-- The text at a place behind services that are written elsewhere. -/
theorem foldl_afterService_text
    (elsewhere : ∀ g ∈ back, t.place? (Path.join directory g.name) ≠ some q) (text : String) :
    back.foldl (afterService t directory q) (some (.file (.text text))) =
      some (.file (.text
        (if t.place? (Path.join directory ModuleIndex.fileName) = some q then
          (back.map (·.module)).foldl ModuleIndex.register text
        else text))) := by
  induction back generalizing text with
  | nil => simp
  | cons g back ih =>
    obtain ⟨first, elsewhere⟩ := List.forall_mem_cons.1 elsewhere
    rw [List.foldl_cons, afterService, if_neg first]
    split
    · rename_i index
      rw [declareAt, ih elsewhere, if_pos index, List.map_cons, List.foldl_cons]
    · rename_i index
      rw [ih elsewhere, if_neg index]

/-- The text at a place that a service is written to, if no later one is. -/
theorem foldl_afterService_last (written : t.place? (Path.join directory f.name) = some q)
    (last : ∀ g ∈ back, t.place? (Path.join directory g.name) ≠ some q) (found : Option Entry) :
    (front ++ f :: back).foldl (afterService t directory q) found =
      some (.file (.text
        (if t.place? (Path.join directory ModuleIndex.fileName) = some q then
          ((f :: back).map (·.module)).foldl ModuleIndex.register f.code
        else f.code))) := by
  rw [List.foldl_append, List.foldl_cons, afterService, if_pos written]
  split
  · rename_i index
    rw [declareAt, foldl_afterService_text last, if_pos index, List.map_cons, List.foldl_cons]
  · rename_i index
    rw [foldl_afterService_text last, if_neg index]

theorem text_inj {a b : String}
    (same : some (Entry.file (.text a)) = some (Entry.file (.text b))) : a = b := by
  simpa using same

/-- Where every service is at its place afterwards, nothing is lost. -/
theorem nothingLost_of_kept
    (placed : ∀ f ∈ fs, ∃ p, t.place? (Path.join directory f.name) = some p)
    (content : ∀ q, t'.node? q = fs.foldl (afterService t directory q) (t.node? q))
    (kept : ∀ f ∈ fs, ∀ p, t.place? (Path.join directory f.name) = some p →
      t'.node? p = some (.file (.text f.code))) :
    NothingLost (ServiceFile.place? t directory) (ModuleIndex.place? t directory) fs := by
  constructor
  · intro f memF g memG together
    obtain ⟨p, place⟩ := placed f memF
    have left := kept f memF p place
    have right := kept g memG p (together.symm.trans place)
    exact text_inj (left.symm.trans right)
  · intro front f back split index last
    have mem : f ∈ fs := split ▸ List.mem_append_right front List.mem_cons_self
    obtain ⟨p, place⟩ := placed f mem
    have indexed : t.place? (Path.join directory ModuleIndex.fileName) = some p :=
      index.symm.trans place
    rw [ModuleIndex.place?, indexed] at last
    have node := kept f mem p place
    rw [content, split, foldl_afterService_last place last, if_pos indexed] at node
    have declared := ModuleIndex.registerAll_eq_self_iff.1 (text_inj node)
    exact fun g mem => declared g.module (List.mem_map_of_mem mem)

/-- Where nothing is lost, the last service that is written to a place has the code of all that
are, and what is declared behind it leaves its text as it is. -/
theorem node?_of_nothingLost
    (content : ∀ q, t'.node? q = fs.foldl (afterService t directory q) (t.node? q))
    (safe : NothingLost (ServiceFile.place? t directory) (ModuleIndex.place? t directory) fs)
    (mem : f ∈ fs) (place : t.place? (Path.join directory f.name) = some q) :
    t'.node? q = some (.file (.text f.code)) := by
  have written : ∃ g ∈ fs, t.place? (Path.join directory g.name) = some q := ⟨f, mem, place⟩
  obtain ⟨front, g, back, split, placeG, last⟩ := exists_last written
  have memG : g ∈ fs := split ▸ List.mem_append_right front List.mem_cons_self
  have code : g.code = f.code := safe.alone g memG f mem (placeG.trans place.symm)
  rw [content, split, foldl_afterService_last placeG last]
  split
  · rename_i indexed
    have declared := safe.index front g back split (placeG.trans indexed.symm) fun h mem => by
      rw [ModuleIndex.place?, indexed]
      exact last h mem
    rw [ModuleIndex.registerAll_eq_self_iff.2, code]
    intro module registered
    obtain ⟨h, later, rfl⟩ := List.mem_map.1 registered
    exact declared h later
  · rw [code]

/-- Every service is in its file iff nothing is lost. -/
theorem kept_iff_nothingLost (same : FileTree.SameDirectories t t')
    (placed : ∀ f ∈ fs, ∃ p, t.place? (Path.join directory f.name) = some p)
    (content : ∀ q, t'.node? q = fs.foldl (afterService t directory q) (t.node? q)) :
    (∀ f ∈ fs, t'.look (Path.join directory f.name) = .file (.text f.code)) ↔
      NothingLost (ServiceFile.place? t' directory) (ModuleIndex.place? t' directory) fs := by
  have found {f : ServiceFile} {p : Place}
      (place : t.place? (Path.join directory f.name) = some p) :
      t'.look (Path.join directory f.name) = .file (.text f.code) ↔
        t'.node? p = some (.file (.text f.code)) :=
    FileTree.look_eq_file_iff_of_place? ((same.place?_eq _).trans place)
  have keys : ServiceFile.place? t' directory = ServiceFile.place? t directory :=
    funext fun f => same.place?_eq _
  have indexKey : ModuleIndex.place? t' directory = ModuleIndex.place? t directory :=
    same.place?_eq _
  rw [keys, indexKey]
  constructor
  · intro kept
    exact nothingLost_of_kept placed content fun f mem p place => (found place).1 (kept f mem)
  · intro safe f mem
    obtain ⟨p, place⟩ := placed f mem
    exact (found place).2 (node?_of_nothingLost content safe mem place)

/-! ## Runs -/

variable {colored : Bool} {args : GenerateArgs} {w w' : Workspace}

/-- What a run has read and rendered when it begins to write. -/
theorem exists_of_generate (dry : args.dryRun = false)
    (ran : runIn (generate colored args : Command (StateM Workspace) Unit) w = (.ok (), w')) :
    ∃ s cs fs w₁, runIn (settings args.profile : Command (StateM Workspace) Settings) w =
        (.ok s, w) ∧
      runIn (classes args.manifest s.naming : Command (StateM Workspace) (List ServiceClass)) w =
        (.ok cs, w) ∧
      cs.mapM (ServiceFile.ofClass s.render) = .ok fs ∧
      runIn (fs.forM (writeService colored args.out) : Command (StateM Workspace) Unit) w₁ =
        (.ok (), w') := by
  obtain ⟨fs, w₁, read, -, -, written⟩ := exists_writing dry ran
  obtain ⟨-, s, cs, set, generated, rendered⟩ := runIn_serviceFiles_eq_ok_iff.1 read
  exact ⟨s, cs, fs, w₁, set, generated, rendered, written⟩

theorem ofClass_eq_ok_iff {o : RenderOptions} {c : ServiceClass} :
    ServiceFile.ofClass o c = .ok f ↔
      c.render o = .ok f.code ∧ f.module = Rendering.moduleName c ∧
        f.name = Rendering.fileName c := by
  rw [ServiceFile.ofClass, Outcome.bind_eq_ok_iff]
  obtain ⟨module, name, code⟩ := f
  constructor
  · rintro ⟨text, rendered, same⟩
    cases Outcome.pure_eq_ok_iff.1 same
    exact ⟨rendered, rfl, rfl⟩
  · rintro ⟨rendered, rfl, rfl⟩
    exact ⟨code, rendered, rfl⟩

/-- The name of a file is that of its module with `.rs` behind it. -/
theorem name_eq_iff {f g : ServiceFile} (nameF : f.name = f.module ++ ".rs")
    (nameG : g.name = g.module ++ ".rs") : f.name = g.name ↔ f.module = g.module := by
  rw [nameF, nameG, ← String.toList_inj, ← String.toList_inj, String.toList_append,
    String.toList_append, List.append_left_inj]

theorem plain_indexName : Path.Plain ModuleIndex.fileName :=
  ⟨by decide, by decide, by decide, by decide, by decide⟩

/-- Where file names are plain, services are told apart by their modules. -/
theorem nothingLost_place?_iff
    (placed : ∀ f ∈ fs, ∃ p, t.place? (Path.join directory f.name) = some p)
    (named : ∀ f ∈ fs, f.name = f.module ++ ".rs") (plain : ∀ f ∈ fs, Path.Plain f.name) :
    NothingLost (ServiceFile.place? t directory) (ModuleIndex.place? t directory) fs ↔
      NothingLost (·.module) "mod" fs := by
  refine NothingLost.congr (fun f memF g memG => ?_) fun f mem => ?_
  · obtain ⟨p, place⟩ := placed f memF
    exact (FileTree.place?_join_eq_iff (plain f memF) (plain g memG) place).trans
      (name_eq_iff (named f memF) (named g memG))
  · obtain ⟨p, place⟩ := placed f mem
    exact (FileTree.place?_join_eq_iff (plain f mem) plain_indexName place).trans
      (@name_eq_iff f ⟨"mod", ModuleIndex.fileName, ""⟩ (named f mem) rfl)

/-- After a run that writes, every service is in its file iff nothing is lost; where file names
are plain, nothing is lost iff services of one module have the same code and none is called `mod`
that does not declare the modules behind it itself. -/
theorem generate_keeps_iff {colored : Bool} {args : GenerateArgs} {w w' : Workspace}
    (dry : args.dryRun = false)
    (ran : runIn (generate colored args : Command (StateM Workspace) Unit) w = (.ok (), w')) :
    ∃ s cs fs, runIn (settings args.profile : Command (StateM Workspace) Settings) w =
        (.ok s, w) ∧
      runIn (classes args.manifest s.naming : Command (StateM Workspace) (List ServiceClass)) w =
        (.ok cs, w) ∧
      cs.mapM (ServiceFile.ofClass s.render) = .ok fs ∧
      ((∀ c ∈ cs, ∃ code, c.render s.render = .ok code ∧
          w'.files.look (Path.join args.out (Rendering.fileName c)) = .file (.text code)) ↔
        NothingLost (ServiceFile.place? w'.files args.out)
          (ModuleIndex.place? w'.files args.out) fs) ∧
      ((∀ f ∈ fs, Path.Plain f.name) →
        (NothingLost (ServiceFile.place? w'.files args.out)
            (ModuleIndex.place? w'.files args.out) fs ↔
          NothingLost (·.module) "mod" fs)) := by
  obtain ⟨s, cs, fs, w₁, set, generated, rendered, written⟩ := exists_of_generate dry ran
  obtain ⟨same, placed, content⟩ := node?_of_writeAll written
  refine ⟨s, cs, fs, set, generated, rendered, ?_, fun plain => ?_⟩
  · rw [← kept_iff_nothingLost same placed content]
    have made := Outcome.mapM_eq_ok_iff.1 rendered
    constructor
    · intro kept f mem
      obtain ⟨c, member, made⟩ := Outcome.exists_of_mem_right made mem
      obtain ⟨code, text, found⟩ := kept c member
      obtain ⟨text', -, name⟩ := ofClass_eq_ok_iff.1 made
      cases text.symm.trans text'
      rw [name]
      exact found
    · intro kept c member
      obtain ⟨f, mem, made⟩ := Outcome.exists_of_mem_right made.flip member
      obtain ⟨text, -, name⟩ := ofClass_eq_ok_iff.1 made
      exact ⟨f.code, text, name ▸ kept f mem⟩
  · refine nothingLost_place?_iff (fun f mem => ?_) (fun f mem => ?_) plain
    · rw [same.place?_eq]
      exact placed f mem
    · obtain ⟨c, -, made⟩ := Outcome.exists_of_mem_right (Outcome.mapM_eq_ok_iff.1 rendered) mem
      obtain ⟨-, module, name⟩ := ofClass_eq_ok_iff.1 made
      rw [name, module, Rendering.fileName]

/-! ## Two services of one module -/

open Rendering

/-- Two entities whose services have one module. -/
def collidingNames : List String := ["OrderLine", "Order_Line"]

/-- A manifest of those entities. -/
def collidingManifest : String := "entities:\n  - name: OrderLine\n  - name: Order_Line\n"

/-- A world with that manifest and nothing else. -/
def collidingWorkspace : Workspace where
  files := { entries := [(["entities.yaml"], .file (.text collidingManifest))] }

/-- The services of that manifest are written, and nothing is forced. -/
def collidingArgs : GenerateArgs := { manifest := "entities.yaml", out := "out" }

/-- The services of those entities. -/
def collidingServices : List ServiceClass :=
  collidingNames.map fun name => bareService {} name "i64"

/-- The file of the service of one of those entities. -/
def collidingFile (name : String) : ServiceFile where
  module := "order_line_service"
  name := "order_line_service.rs"
  code := bareText {} name "i64"

theorem settings_colliding : ∃ s,
    runIn (settings none : Command (StateM Workspace) Settings) collidingWorkspace =
      (.ok s, collidingWorkspace) ∧ s.naming = {} ∧ s.render = {} :=
  exists_settings (by decide)

theorem classes_collidingManifest {w : Workspace} {path : String}
    (found : (w.files.look path).text = .ok collidingManifest) :
    runIn (classes path {} : Command (StateM Workspace) (List ServiceClass)) w =
      (.ok collidingServices, w) := by
  have read : Manifest.ofText collidingManifest = .ok (bareManifest collidingNames) := by
    decide +kernel
  have resolved : (bareManifest collidingNames).resolve = .ok (collidingNames.map bareEntity) := by
    decide +kernel
  exact classes_bare found read resolved (by decide)

theorem classes_colliding :
    runIn (classes collidingArgs.manifest {} : Command (StateM Workspace) (List ServiceClass))
      collidingWorkspace = (.ok collidingServices, collidingWorkspace) :=
  classes_collidingManifest (by decide +kernel)

theorem plain_colliding : ∀ name ∈ collidingNames, Naming.Plain name ∧
    Naming.Plain (({} : NamingConfig).serviceName name) ∧
      Naming.Plain (({} : NamingConfig).repositoryName name) := by
  decide +kernel

theorem render_colliding : ∀ name ∈ collidingNames,
    (bareService {} name "i64").render {} = .ok (bareText {} name "i64") := by
  intro name member
  have idType : Grammar.TypeText "i64" := .name (by decide +kernel)
  obtain ⟨plain, service, repository⟩ := plain_colliding name member
  exact render_bareService plain idType service repository

theorem moduleName_colliding :
    ∀ name ∈ collidingNames, moduleName (bareService {} name "i64") = "order_line_service" := by
  decide

theorem ofClass_colliding :
    collidingServices.mapM (ServiceFile.ofClass {}) = .ok (collidingNames.map collidingFile) := by
  rw [Outcome.mapM_eq_ok_iff, collidingServices, List.forall₂_map_left_iff,
    List.forall₂_map_right_iff, List.forall₂_same]
  intro name member
  have module := moduleName_colliding name member
  have file : (collidingFile name).name = fileName (bareService {} name "i64") := by
    rw [fileName, module]
    rfl
  exact ofClass_eq_ok_iff.2 ⟨render_colliding name member, module.symm, file⟩

/-- The run over that manifest succeeds. -/
theorem generate_colliding :
    ∃ w, runIn (generate false collidingArgs : Command (StateM Workspace) Unit)
      collidingWorkspace = (.ok (), w) := by
  obtain ⟨s, set, naming, render⟩ := settings_colliding
  have files : runIn (serviceFiles collidingArgs : Command (StateM Workspace) (List ServiceFile))
      collidingWorkspace = (.ok (collidingNames.map collidingFile), collidingWorkspace) :=
    serviceFiles_bare set naming render classes_colliding ofClass_colliding
  exact ⟨_, runIn_generate rfl rfl files (by decide +kernel)⟩

theorem bareText_colliding : bareText {} "OrderLine" "i64" ≠ bareText {} "Order_Line" "i64" := by
  intro same
  have letters := congrArg String.toList same
  rw [bareText, bareText, classText, classText,
    preamble_plain (identifier_repository {} "OrderLine" "i64"),
    preamble_plain (identifier_repository {} "Order_Line" "i64")] at letters
  simp only [header, String.toList_append, List.append_assoc] at letters
  exact absurd letters (by decide)

/-- That run leaves the text of one service where the other one should be. -/
theorem exists_generate_loses :
    ∃ w w', runIn (generate false collidingArgs : Command (StateM Workspace) Unit) w =
        (.ok (), w') ∧
      ∃ s cs, runIn (settings collidingArgs.profile : Command (StateM Workspace) Settings) w =
          (.ok s, w) ∧
        runIn (classes collidingArgs.manifest s.naming :
          Command (StateM Workspace) (List ServiceClass)) w = (.ok cs, w) ∧
        ∃ c ∈ cs, ∃ code, c.render s.render = .ok code ∧
          w'.files.look (Path.join collidingArgs.out (fileName c)) ≠ .file (.text code) := by
  obtain ⟨w', ran⟩ := generate_colliding
  obtain ⟨s, set, naming, render⟩ := settings_colliding
  refine ⟨collidingWorkspace, w', ran, s, collidingServices, set, naming ▸ classes_colliding, ?_⟩
  have first : "OrderLine" ∈ collidingNames := List.mem_cons_self
  have second : "Order_Line" ∈ collidingNames := List.mem_cons_of_mem _ List.mem_cons_self
  rw [render]
  by_cases kept : w'.files.look (Path.join collidingArgs.out
      (fileName (bareService {} "OrderLine" "i64"))) = .file (.text (bareText {} "OrderLine" "i64"))
  · refine ⟨_, List.mem_map_of_mem second, _, render_colliding _ second, fun kept' => ?_⟩
    rw [fileName, moduleName_colliding _ first] at kept
    rw [fileName, moduleName_colliding _ second, kept] at kept'
    injection kept' with content
    injection content with same
    exact bareText_colliding same
  · exact ⟨_, List.mem_map_of_mem first, _, render_colliding _ first, kept⟩

theorem generate_keeps_iff_colliding :
    ∃ w', collidingArgs.dryRun = false ∧
      runIn (generate false collidingArgs : Command (StateM Workspace) Unit) collidingWorkspace =
        (.ok (), w') ∧
      ∃ s cs fs, runIn (settings collidingArgs.profile : Command (StateM Workspace) Settings)
          collidingWorkspace = (.ok s, collidingWorkspace) ∧
        runIn (classes collidingArgs.manifest s.naming :
          Command (StateM Workspace) (List ServiceClass)) collidingWorkspace =
            (.ok cs, collidingWorkspace) ∧
        cs.mapM (ServiceFile.ofClass s.render) = .ok fs ∧
        ((∀ c ∈ cs, ∃ code, c.render s.render = .ok code ∧
            w'.files.look (Path.join collidingArgs.out (fileName c)) = .file (.text code)) ↔
          NothingLost (ServiceFile.place? w'.files collidingArgs.out)
            (ModuleIndex.place? w'.files collidingArgs.out) fs) ∧
        ((∀ f ∈ fs, Path.Plain f.name) →
          (NothingLost (ServiceFile.place? w'.files collidingArgs.out)
              (ModuleIndex.place? w'.files collidingArgs.out) fs ↔
            NothingLost (·.module) "mod" fs)) := by
  have dry : collidingArgs.dryRun = false := rfl
  obtain ⟨w', ran⟩ := generate_colliding
  exact ⟨w', dry, ran, generate_keeps_iff dry ran⟩

end Command
end CrudForge
