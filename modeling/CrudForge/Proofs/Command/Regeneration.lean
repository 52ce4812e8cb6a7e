import CrudForge.Proofs.Command.OneFile
import CrudForge.Proofs.Naming.Plain

/-!
# Running again

If a directory has an index, a run over services whose modules have plain names adds to it one line
for each module that it did not declare, and the same run over the tree that it leaves finds
everything as it should be: every service has a file to write over, the last one at a place is the
last one there again, and the index declares all modules (`foldl_afterService_again`). So it
succeeds if it is forced, and changes nothing (`generate_again`).
-/

namespace CrudForge

/-! ## The tree -/

namespace FileTree

variable {t : FileTree} {directory name : String} {p : Place}

/-- A directory that a path goes through is there. -/
theorem withDirectory_of_place? (plain : Path.Plain name)
    (placed : t.place? (Path.join directory name) = some p) : t.withDirectory directory = t := by
  rw [withDirectory]
  split
  · rename_i nothing
    by_cases empty : directory = ""
    · rw [empty]
      rfl
    · obtain ⟨q, place, there⟩ := place?_of_join plain empty placed
      rw [look_eq_nothing_iff.1 nothing q place] at there
      cases there
  · rfl

end FileTree

namespace Command

variable {colored : Bool} {directory old : String} {f : ServiceFile} {fs back : List ServiceFile}
  {t : FileTree} {p q index : Place} {found : Option Entry} {w w' : Workspace}
  {E : CommandError → Workspace → Prop}

/-! ## Services beside an index -/

/-- The name of a module has no other characters than letters, digits and underscores, and is not
that of the index. -/
structure PlainModule (module : String) : Prop where
  letters : ∀ c ∈ module.toList, Naming.isWordChar c = true
  other : module ≠ "mod"

theorem PlainModule.newline {module : String} (plain : PlainModule module) :
    '\n' ∉ module.toList := fun mem => absurd (plain.letters _ mem) (by decide)

/-- Services that are written to places in a directory, none of them to that of its index. -/
structure Beside (t : FileTree) (directory : String) (index : Place) (fs : List ServiceFile) :
    Prop where
  indexed : ModuleIndex.place? t directory = some index
  placed : ∀ f ∈ fs, ∃ p, f.place? t directory = some p
  apart : ∀ f ∈ fs, f.place? t directory ≠ some index
  lines : ∀ module ∈ fs.map (·.module), '\n' ∉ module.toList

/-- The file of a module with a plain name has a plain name. -/
theorem PlainModule.plain (plain : PlainModule f.module) (named : f.name = f.module ++ ".rs")
    (placed : f.place? t directory = some p) : Path.Plain f.name := by
  have name : f.name.toList = f.module.toList ++ ".rs".toList := by
    rw [named, String.toList_append]
  have whole : '/' ∉ f.name.toList := by
    rw [name, List.mem_append]
    rintro (mem | mem)
    · exact absurd (plain.letters _ mem) (by decide)
    · exact absurd mem (by decide)
  have other (s : String) (short : s.toList.length < 3) : f.name ≠ s := by
    rintro rfl
    rw [name, List.length_append] at short
    have length : ".rs".toList.length = 3 := rfl
    omega
  have nonempty := other "" (by decide)
  have dot := other "." (by decide)
  have dots := other ".." (by decide)
  exact ⟨whole, FileTree.isName_of_place? whole nonempty dot dots placed, nonempty, dot, dots⟩

theorem beside_of_plain (indexed : ModuleIndex.place? t directory = some index)
    (placed : ∀ f ∈ fs, ∃ p, f.place? t directory = some p)
    (named : ∀ f ∈ fs, f.name = f.module ++ ".rs") (plain : ∀ f ∈ fs, PlainModule f.module) :
    Beside t directory index fs where
  indexed := indexed
  placed := placed
  apart f mem same := by
    have name := (plain f mem).plain (named f mem) same
    have together : f.name = ModuleIndex.fileName :=
      (FileTree.place?_join_eq_iff name plain_indexName same).1 (same.trans indexed.symm)
    exact (plain f mem).other
      ((@name_eq_iff f ⟨"mod", ModuleIndex.fileName, ""⟩ (named f mem) rfl).1 together)
  lines module mem := by
    obtain ⟨f, known, rfl⟩ := List.mem_map.1 mem
    exact (plain f known).newline

/-! ## The same services again -/

/-- Where neither a service nor the index is, nothing is written. -/
theorem foldl_afterService_elsewhere
    (elsewhere : ∀ f ∈ fs, t.place? (Path.join directory f.name) ≠ some q)
    (other : t.place? (Path.join directory ModuleIndex.fileName) ≠ some q) :
    fs.foldl (afterService t directory q) found = found := by
  induction fs with
  | nil => rfl
  | cons f fs ih =>
    obtain ⟨first, elsewhere⟩ := List.forall_mem_cons.1 elsewhere
    rw [List.foldl_cons, afterService, if_neg first, if_neg other]
    exact ih elsewhere

theorem Beside.foldl_index (beside : Beside t directory index fs) :
    fs.foldl (afterService t directory index) (some (.file (.text old))) =
      some (.file (.text ((fs.map (·.module)).foldl ModuleIndex.register old))) := by
  have indexed : t.place? (Path.join directory ModuleIndex.fileName) = some index := beside.indexed
  rw [foldl_afterService_text beside.apart, if_pos indexed]

/-- What some services leave at a place, they leave there again. -/
theorem Beside.foldl_afterService_again (beside : Beside t directory index fs)
    (text : q = index → found = some (.file (.text old))) :
    fs.foldl (afterService t directory q) (fs.foldl (afterService t directory q) found) =
      fs.foldl (afterService t directory q) found := by
  by_cases reached : ∃ f ∈ fs, f.place? t directory = some q
  · -- The last service there has the last word, whatever was there before.
    obtain ⟨front, f, back, split, placed, last⟩ := exists_last reached
    rw [split, foldl_afterService_last placed last, foldl_afterService_last placed last]
  · have elsewhere : ∀ f ∈ fs, f.place? t directory ≠ some q := fun f mem placed =>
      reached ⟨f, mem, placed⟩
    by_cases here : q = index
    · rw [text here, here, beside.foldl_index, beside.foldl_index,
        ModuleIndex.registerAll_again beside.lines]
    · have other : ModuleIndex.place? t directory ≠ some q := by
        rw [beside.indexed]
        exact fun same => here (Option.some.inj same).symm
      rw [foldl_afterService_elsewhere elsewhere other,
        foldl_afterService_elsewhere elsewhere other]

/-! ## Writing again -/

/-- A module that the index declares already is not declared again. -/
theorem ends_registerModule_of_declares {module : String}
    (indexed : w.files.look (Path.join directory ModuleIndex.fileName) = .file (.text old))
    (declared : ModuleIndex.declares old module = true) :
    Ends (registerModule colored directory module : Command (StateM Workspace) Unit) w
      (fun _ w' => w' = w) E := by
  have ran : runIn (registerModule colored directory module : Command (StateM Workspace) Unit) w =
      (.ok (), w) := by
    refine runIn_bind_eq_ok_iff.2 ⟨_, w, runIn_look _, ?_⟩
    rw [indexed, if_neg (by simp)]
    refine runIn_bind_eq_ok_iff.2 ⟨old, w, runIn_ofFault_eq_ok_iff.2 ⟨rfl, rfl⟩, ?_⟩
    rw [if_pos declared]
    rfl
  exact .of_ok ran rfl

/-- A tree with the directories of another one, and with a text for the index. -/
def Indexed (t : FileTree) (index : Place) (text : String) (w : Workspace) : Prop :=
  FileTree.SameDirectories t w.files ∧ w.files.node? index = some (.file (.text text))

/-- A service of a module that is declared is written wherever there is no directory. -/
theorem ends_writeService_of_declares (indexed : ModuleIndex.place? t directory = some index)
    (placed : f.place? t directory = some p) (free : t.node? p ≠ some .directory)
    (apart : p ≠ index) (declared : ModuleIndex.declares old f.module = true)
    (start : Indexed t index old w) :
    Ends (writeService colored directory f : Command (StateM Workspace) Unit) w
      (fun _ => Indexed t index old) E := by
  obtain ⟨same, text⟩ := start
  have place : w.files.place? (Path.join directory f.name) = some p :=
    (same.place?_eq _).trans placed
  have written : w.files.write (Path.join directory f.name) f.code =
      .ok (w.files.put p (.file (.text f.code))) :=
    FileTree.write_eq_ok_iff.2 ⟨p, place, fun there => free ((same.directory p).1 there), rfl⟩
  refine ends_write (fun fault failed => by cases written.symm.trans failed) fun files done => ?_
  have kept := same.trans (FileTree.sameDirectories_of_write done)
  have text' : files.node? index = some (.file (.text old)) := by
    rw [FileTree.node?_of_write done place, if_neg apart.symm]
    exact text
  refine (ends_printLine _).bind fun _ w₁ printed => ?_
  have looked : w₁.files.look (Path.join directory ModuleIndex.fileName) = .file (.text old) := by
    rw [printed, FileTree.look_eq_file_iff]
    exact ⟨index, (kept.place?_eq _).trans indexed, text'⟩
  refine (ends_registerModule_of_declares looked declared).mono ?_ fun e w₂ failed => failed
  rintro _ w₂ rfl
  rw [Indexed, printed]
  exact ⟨kept, text'⟩

theorem ends_makeDirectory_of_place? {name : String} (plain : Path.Plain name)
    (placed : w.files.place? (Path.join directory name) = some p) :
    Ends (makeDirectory directory : Command (StateM Workspace) Unit) w
      (fun _ w' => w'.files = w.files) E := by
  by_cases empty : directory = ""
  · rw [empty]
    exact .of_ok rfl rfl
  · obtain ⟨q, place, there⟩ := FileTree.place?_of_join plain empty placed
    have there : w.files.look directory ≠ .nothing := fun nothing => by
      rw [FileTree.look_eq_nothing_iff.1 nothing q place] at there
      cases there
    have occupied : runIn (Host.occupied directory : Command (StateM Workspace) Bool) w =
        (.ok true, w) := by
      rw [← decide_eq_true there]
      rfl
    exact .of_ok (runIn_bind_eq_ok_iff.2 ⟨true, w, occupied, rfl⟩) rfl

/-- Services whose modules are declared are written again, and the index stays. -/
theorem Beside.ends_writeAll (beside : Beside t directory index fs)
    (free : ∀ f ∈ fs, ∀ p, f.place? t directory = some p → t.node? p ≠ some .directory)
    (declared : ∀ f ∈ fs, ModuleIndex.declares old f.module = true)
    (start : Indexed t index old w) :
    Ends (fs.forM (writeService colored directory) : Command (StateM Workspace) Unit) w
      (fun _ => Indexed t index old) E := by
  refine .forM (fun f mem w₁ holds => ?_) start
  obtain ⟨p, placed⟩ := beside.placed f mem
  have apart : p ≠ index := by
    rintro rfl
    exact beside.apart f mem placed
  exact ends_writeService_of_declares beside.indexed placed (free f mem p placed) apart
    (declared f mem) holds

/-! ## Runs -/

variable {args : GenerateArgs} {cs : List ServiceClass} {s : Settings}

/-- A run that is forced, and does not show its files, succeeds if its services are those that are
in the tree. -/
theorem exists_generate_again (beside : Beside w.files args.out index fs)
    (dry : args.dryRun = false) (forced : args.force = true)
    (read : runIn (serviceFiles args : Command (StateM Workspace) (List ServiceFile)) w =
      (.ok fs, w))
    (text : w.files.node? index = some (.file (.text old)))
    (free : ∀ f ∈ fs, ∀ p, f.place? w.files args.out = some p → w.files.node? p ≠ some .directory)
    (declared : ∀ f ∈ fs, ModuleIndex.declares old f.module = true) :
    ∃ w', runIn (generate colored args : Command (StateM Workspace) Unit) w = (.ok (), w') := by
  have ends : Ends (generate colored args : Command (StateM Workspace) Unit) w
      (fun _ => Indexed w.files index old) fun _ _ => False := by
    have first : Ends (serviceFiles args : Command (StateM Workspace) (List ServiceFile)) w
        (fun fs' w' => fs' = fs ∧ w' = w) (fun _ _ => False) := .of_ok read ⟨rfl, rfl⟩
    refine first.bind fun fs' w₁ same => ?_
    obtain ⟨rfl, rfl⟩ := same
    rw [dry, forced, if_neg Bool.false_ne_true, if_neg (by simp)]
    refine (ends_makeDirectory_of_place? plain_indexName beside.indexed).bind fun _ w₂ same => ?_
    refine beside.ends_writeAll free declared ?_
    rw [Indexed, same]
    exact ⟨.refl _, text⟩
  obtain ⟨⟨⟩, w', ran, -⟩ := ends.exists_ok
  exact ⟨w', ran⟩

/-- A run over services writes to a place: it is that of one of them, or that of the index, and
something is added there. -/
def Writes (t : FileTree) (directory old : String) (fs : List ServiceFile) (q : Place) : Prop :=
  (∃ f ∈ fs, f.place? t directory = some q) ∨
    ModuleIndex.place? t directory = some q ∧
      ModuleIndex.addition old (fs.map (·.module)) ≠ ""

/-- The tree that is left by a run over services in a directory that is there. -/
structure Leaves (t : FileTree) (directory : String) (fs : List ServiceFile) (t' : FileTree) :
    Prop where
  same : FileTree.SameDirectories t t'
  placed : ∀ f ∈ fs, ∃ p, f.place? t directory = some p
  content : ∀ q, t'.node? q = fs.foldl (afterService t directory q) (t.node? q)

theorem leaves_of_generate (dry : args.dryRun = false)
    (indexed : ModuleIndex.place? w.files args.out = some index)
    (ran : runIn (generate colored args : Command (StateM Workspace) Unit) w = (.ok (), w')) :
    ∃ fs, runIn (serviceFiles args : Command (StateM Workspace) (List ServiceFile)) w =
        (.ok fs, w) ∧ Leaves w.files args.out fs w'.files := by
  obtain ⟨fs, w₁, read, -, directory, written⟩ := exists_writing dry ran
  rw [FileTree.withDirectory_of_place? plain_indexName indexed] at directory
  obtain ⟨same, placed, content⟩ := node?_of_writeAll written
  rw [directory] at same placed content
  exact ⟨fs, read, same, placed, content⟩

/-- Behind a run there is a file wherever a service leads. -/
theorem Leaves.exists_text {t' : FileTree} (leaves : Leaves t directory fs t') (mem : f ∈ fs)
    (placed : f.place? t directory = some q) :
    ∃ text, t'.node? q = some (.file (.text text)) := by
  have reached : ∃ g ∈ fs, t.place? (Path.join directory g.name) = some q := ⟨f, mem, placed⟩
  obtain ⟨front, g, back, split, placed, last⟩ := exists_last reached
  rw [leaves.content, split, foldl_afterService_last placed last]
  exact ⟨_, rfl⟩

theorem Leaves.node?_index {t' : FileTree} (leaves : Leaves t directory fs t')
    (beside : Beside t directory index fs) (text : t.node? index = some (.file (.text old))) :
    t'.node? index =
      some (.file (.text ((fs.map (·.module)).foldl ModuleIndex.register old))) := by
  rw [leaves.content, text, beside.foldl_index]

/-- A run leaves a place as it is to which it does not write. -/
theorem Leaves.node?_eq {t' : FileTree} (leaves : Leaves t directory fs t')
    (beside : Beside t directory index fs) (text : t.node? index = some (.file (.text old)))
    (unwritten : ¬ Writes t directory old fs q) : t'.node? q = t.node? q := by
  have elsewhere : ∀ f ∈ fs, f.place? t directory ≠ some q := fun f mem placed =>
    unwritten (.inl ⟨f, mem, placed⟩)
  by_cases here : q = index
  · have none : ModuleIndex.addition old (fs.map (·.module)) = "" := by
      by_contra more
      exact unwritten (.inr ⟨here ▸ beside.indexed, more⟩)
    rw [here, leaves.node?_index beside text, ModuleIndex.registerAll_eq beside.lines, none,
      String.append_empty, text]
  · have other : ModuleIndex.place? t directory ≠ some q := by
      rw [beside.indexed]
      exact fun same => here (Option.some.inj same).symm
    rw [leaves.content, foldl_afterService_elsewhere elsewhere other]

theorem Beside.of_sameDirectories {t' : FileTree} (beside : Beside t directory index fs)
    (same : FileTree.SameDirectories t t') : Beside t' directory index fs where
  indexed := (same.place?_eq _).trans beside.indexed
  placed f mem := (beside.placed f mem).imp fun _ placed => (same.place?_eq _).trans placed
  apart f mem placed := beside.apart f mem ((same.place?_eq _).symm.trans placed)
  lines := beside.lines

/-- A second run over the same services leaves the tree that the first one left. -/
theorem Leaves.again {t' t'' : FileTree} (leaves : Leaves t directory fs t')
    (again : Leaves t' directory fs t'') (beside : Beside t directory index fs)
    (text : t.node? index = some (.file (.text old))) (q : Place) : t''.node? q = t'.node? q := by
  have paths : afterService t' directory q = afterService t directory q := by
    funext found g
    rw [afterService, afterService, leaves.same.place?_eq, leaves.same.place?_eq]
  rw [again.content, paths, leaves.content,
    beside.foldl_afterService_again fun here => here ▸ text]

theorem runIn_classes_congr {path : String} {naming : NamingConfig}
    (same : w'.files.look path = w.files.look path)
    (generated : runIn (classes path naming : Command (StateM Workspace) (List ServiceClass)) w =
      (.ok cs, w)) :
    runIn (classes path naming : Command (StateM Workspace) (List ServiceClass)) w' =
      (.ok cs, w') := by
  obtain ⟨m, w₁, read, made⟩ := runIn_bind_eq_ok_iff.1 generated
  obtain ⟨found, w₂, looked, read⟩ := runIn_bind_eq_ok_iff.1 read
  cases looked
  obtain ⟨text, w₃, content, parsed⟩ := runIn_bind_eq_ok_iff.1 read
  rw [runIn_ofExcept_eq_ok_iff] at content parsed made
  refine runIn_classes (runIn_bind_eq_ok_iff.2 ⟨_, w', runIn_look path, ?_⟩) made.1
  rw [same]
  exact runIn_bind_eq_ok_iff.2 ⟨text, w', runIn_ofExcept_eq_ok_iff.2 ⟨content.1, rfl⟩,
    runIn_ofExcept_eq_ok_iff.2 ⟨parsed.1, rfl⟩⟩

theorem named_of_rendered {o : RenderOptions} (rendered : cs.mapM (ServiceFile.ofClass o) = .ok fs)
    (mem : f ∈ fs) : f.name = f.module ++ ".rs" := by
  obtain ⟨c, -, made⟩ := Outcome.exists_of_mem_right (Outcome.mapM_eq_ok_iff.1 rendered) mem
  obtain ⟨-, module, name⟩ := ofClass_eq_ok_iff.1 made
  rw [name, module, Rendering.fileName]

/-- If the directory of a run that writes has an index, and the modules of its services have plain
names, then the index has one more line for each module that it did not declare. Once more over the
tree that is left, with the same settings and a manifest to which nothing was written, the run
succeeds if it is forced, and leaves everything as it is. -/
theorem generate_again {colored : Bool} {args : GenerateArgs} {w w' : Workspace} {old : String}
    (dry : args.dryRun = false)
    (ran : runIn (generate colored args : Command (StateM Workspace) Unit) w = (.ok (), w'))
    (indexed : w.files.look (Path.join args.out ModuleIndex.fileName) = .file (.text old)) :
    ∃ s cs fs, runIn (settings args.profile : Command (StateM Workspace) Settings) w =
        (.ok s, w) ∧
      runIn (classes args.manifest s.naming : Command (StateM Workspace) (List ServiceClass)) w =
        (.ok cs, w) ∧
      cs.mapM (ServiceFile.ofClass s.render) = .ok fs ∧
      ((∀ f ∈ fs, PlainModule f.module) →
        w'.files.look (Path.join args.out ModuleIndex.fileName) =
          .file (.text (old ++ ModuleIndex.addition old (fs.map (·.module)))) ∧
        ∀ (colored' : Bool) (w₂ : Workspace) (s₂ : Settings), w₂.files = w'.files →
          runIn (settings args.profile : Command (StateM Workspace) Settings) w₂ = (.ok s₂, w₂) →
          s₂.naming = s.naming → s₂.render = s.render →
          (∀ q, w.files.place? args.manifest = some q → ¬ Writes w.files args.out old fs q) →
          ∃ w₃, runIn (generate colored' { args with force := true } :
              Command (StateM Workspace) Unit) w₂ = (.ok (), w₃) ∧
            ∀ q, w₃.files.node? q = w₂.files.node? q) := by
  obtain ⟨index, place, text⟩ := FileTree.look_eq_file_iff.1 indexed
  obtain ⟨fs, read, leaves⟩ := leaves_of_generate dry place ran
  obtain ⟨-, s, cs, set, generated, rendered⟩ := runIn_serviceFiles_eq_ok_iff.1 read
  refine ⟨s, cs, fs, set, generated, rendered, fun plain => ?_⟩
  have beside : Beside w.files args.out index fs :=
    beside_of_plain place leaves.placed (fun f mem => named_of_rendered rendered mem) plain
  have register := leaves.node?_index beside text
  constructor
  · rw [← ModuleIndex.registerAll_eq beside.lines]
    exact FileTree.look_eq_file_iff.2 ⟨index, (leaves.same.place?_eq _).trans place, register⟩
  · intro colored' w₂ s₂ left set₂ naming render unwritten
    rw [← left] at leaves register
    have beside₂ := beside.of_sameDirectories leaves.same
    have manifest : w₂.files.look args.manifest = w.files.look args.manifest :=
      leaves.same.look_eq fun q found => leaves.node?_eq beside text (unwritten q found)
    have read₂ : runIn (serviceFiles { args with force := true } :
        Command (StateM Workspace) (List ServiceFile)) w₂ = (.ok fs, w₂) := by
      refine runIn_serviceFiles_eq_ok_iff.2 ⟨rfl, s₂, cs, set₂, ?_, render ▸ rendered⟩
      exact naming ▸ runIn_classes_congr manifest generated
    have free : ∀ f ∈ fs, ∀ p, f.place? w₂.files args.out = some p →
        w₂.files.node? p ≠ some .directory := by
      intro f mem p placed there
      obtain ⟨content, file⟩ := leaves.exists_text mem ((leaves.same.place?_eq _).symm.trans placed)
      rw [there] at file
      cases file
    have declared : ∀ f ∈ fs, ModuleIndex.declares
        ((fs.map (·.module)).foldl ModuleIndex.register old) f.module = true := fun f mem =>
      (ModuleIndex.declares_registerAll beside.lines).2 (.inr (List.mem_map_of_mem mem))
    have dry₂ : ({ args with force := true } : GenerateArgs).dryRun = false := dry
    have succeeds : ∃ w₃, runIn (generate colored' { args with force := true } :
        Command (StateM Workspace) Unit) w₂ = (.ok (), w₃) :=
      exists_generate_again beside₂ dry₂ rfl read₂ register free declared
    obtain ⟨w₃, ran₃⟩ := succeeds
    obtain ⟨fs₃, read₃, leaves₃⟩ := leaves_of_generate dry₂ beside₂.indexed ran₃
    cases read₂.symm.trans read₃
    exact ⟨w₃, ran₃, leaves.again leaves₃ beside text⟩

/-! ## Two services in one directory -/

/-- A world in which the manifest of the two services that share a file is above the working
directory, and in another directory there is an index that does not end in a line feed. -/
def indexedWorkspace : Workspace where
  files :=
    { entries := [(["home"], .directory), (["home", "work"], .directory),
        (["home", "entities.yaml"], .file (.text collidingManifest)), (["srv"], .directory),
        (["srv", "mod.rs"], .file (.text "pub mod other;"))]
      here := ["home", "work"] }

/-- The services of that manifest are written to that directory. -/
def indexedArgs : GenerateArgs := { manifest := "../entities.yaml", out := "/srv" }

/-- What the run over that manifest leaves. -/
def indexedAfter : Workspace :=
  (runIn (writeFresh false indexedArgs.out (collidingNames.map collidingFile))
    indexedWorkspace).2

theorem settings_indexed : ∃ s,
    runIn (settings none : Command (StateM Workspace) Settings) indexedWorkspace =
      (.ok s, indexedWorkspace) ∧ s.naming = {} ∧ s.render = {} :=
  exists_settings (by decide +kernel)

theorem settings_indexedAfter : ∃ s,
    runIn (settings none : Command (StateM Workspace) Settings) indexedAfter =
      (.ok s, indexedAfter) ∧ s.naming = {} ∧ s.render = {} :=
  exists_settings (by decide +kernel)

theorem classes_indexed :
    runIn (classes indexedArgs.manifest {} : Command (StateM Workspace) (List ServiceClass))
      indexedWorkspace = (.ok collidingServices, indexedWorkspace) :=
  classes_collidingManifest (by decide +kernel)

theorem generate_indexed :
    runIn (generate false indexedArgs : Command (StateM Workspace) Unit) indexedWorkspace =
      (.ok (), indexedAfter) := by
  obtain ⟨s, set, naming, render⟩ := settings_indexed
  have files : runIn (serviceFiles indexedArgs : Command (StateM Workspace) (List ServiceFile))
      indexedWorkspace = (.ok (collidingNames.map collidingFile), indexedWorkspace) :=
    serviceFiles_bare set naming render classes_indexed ofClass_colliding
  exact runIn_generate rfl rfl files (by decide +kernel)

theorem plainModule_colliding : ∀ f ∈ collidingNames.map collidingFile, PlainModule f.module := by
  intro f mem
  have plain : PlainModule "order_line_service" :=
    ⟨List.all_eq_true.1 (by decide), by decide⟩
  obtain ⟨name, -, rfl⟩ := List.mem_map.1 mem
  exact plain

/-- The manifest is neither the file of a service nor the index. -/
theorem not_writes_indexed {q : Place}
    (manifest : indexedWorkspace.files.place? indexedArgs.manifest = some q) :
    ¬ Writes indexedWorkspace.files indexedArgs.out "pub mod other;"
      (collidingNames.map collidingFile) q := by
  have place : indexedWorkspace.files.place? indexedArgs.manifest =
      some ["home", "entities.yaml"] := by
    decide
  have service : ∀ name ∈ collidingNames, (collidingFile name).place? indexedWorkspace.files
      indexedArgs.out ≠ some ["home", "entities.yaml"] := by
    decide
  have index : ModuleIndex.place? indexedWorkspace.files indexedArgs.out ≠
      some ["home", "entities.yaml"] := by
    decide
  cases place.symm.trans manifest
  rintro (⟨f, mem, placed⟩ | ⟨placed, -⟩)
  · obtain ⟨name, known, rfl⟩ := List.mem_map.1 mem
    exact service name known placed
  · exact index placed

theorem generate_again_colliding :
    indexedArgs.dryRun = false ∧
      runIn (generate false indexedArgs : Command (StateM Workspace) Unit) indexedWorkspace =
        (.ok (), indexedAfter) ∧
      indexedWorkspace.files.look (Path.join indexedArgs.out ModuleIndex.fileName) =
        .file (.text "pub mod other;") ∧
      indexedAfter.files.look (Path.join indexedArgs.out ModuleIndex.fileName) =
        .file (.text "pub mod other;\npub mod order_line_service;\n") ∧
      ∃ w, runIn (generate false { indexedArgs with force := true } :
          Command (StateM Workspace) Unit) indexedAfter = (.ok (), w) ∧
        ∀ q, w.files.node? q = indexedAfter.files.node? q := by
  have indexed : indexedWorkspace.files.look
      (Path.join indexedArgs.out ModuleIndex.fileName) = .file (.text "pub mod other;") := by
    decide +kernel
  obtain ⟨s, cs, fs, set, generated, rendered, again⟩ := generate_again rfl generate_indexed indexed
  obtain ⟨s', set', naming, render⟩ := settings_indexed
  cases set.symm.trans set'
  rw [naming] at generated
  cases generated.symm.trans classes_indexed
  rw [render] at rendered
  cases rendered.symm.trans ofClass_colliding
  obtain ⟨register, same⟩ := again plainModule_colliding
  obtain ⟨s₂, set₂, naming₂, render₂⟩ := settings_indexedAfter
  exact ⟨rfl, generate_indexed, indexed, register, same false _ s₂ rfl set₂
    (naming₂.trans naming.symm) (render₂.trans render.symm) fun _ => not_writes_indexed⟩

end Command
end CrudForge
