import CrudForge.Command.Generate
import CrudForge.Proofs.Text.Split

/-!
# Declaring modules

A module that is declared leaves the text of an index alone, and any other makes it longer. So
after any number of modules the text is what it was iff it declared all of them from the start
(`registerAll_eq_self_iff`). The text is read again for every module, and it declares behind it
what it did before and that module (`declares_add`). So all that is added to it is one line for
each module that it did not declare at the start (`registerAll_eq`), and then it declares all of
them (`declares_registerAll`).
-/

namespace CrudForge.ModuleIndex

/-- A text in which a module is declared: the text itself if it declares it already. -/
def register (text module : String) : String :=
  if declares text module then text else add text module

theorem length_lt_add (text module : String) : text.length < (add text module).length := by
  simp only [add, declaration, String.length_append]
  have line : "\n".length = 1 := by decide
  omega

/-- A declaration comes behind the text that it is added to. -/
theorem exists_add_eq (text module : String) : ∃ more, add text module = text ++ more := by
  rw [add]
  refine ⟨(if text.toList.isEmpty || text.toList.getLast? = some '\n' then "" else "\n") ++
    declaration module ++ "\n", ?_⟩
  simp only [String.append_assoc]

theorem length_le_register (text module : String) :
    text.length ≤ (register text module).length := by
  rw [register]
  split
  · exact Nat.le_refl _
  · exact Nat.le_of_lt (length_lt_add text module)

theorem length_le_registerAll (text : String) (modules : List String) :
    text.length ≤ (modules.foldl register text).length := by
  induction modules generalizing text with
  | nil => exact Nat.le_refl _
  | cons module modules ih => exact Nat.le_trans (length_le_register text module) (ih _)

/-- Nothing is added to a text iff it declares all of the modules. -/
theorem registerAll_eq_self_iff {text : String} {modules : List String} :
    modules.foldl register text = text ↔ ∀ module ∈ modules, declares text module = true := by
  induction modules with
  | nil => simp
  | cons module modules ih =>
    rw [List.foldl_cons, List.forall_mem_cons]
    by_cases declared : declares text module = true
    · rw [register, if_pos declared, ih]
      simp [declared]
    · refine iff_of_false (fun same => ?_) fun all => declared all.1
      have longer := length_le_registerAll (register text module) modules
      rw [same, register, if_neg declared] at longer
      exact Nat.not_lt.2 longer (length_lt_add text module)

/-! ## Lines -/

variable {text a module : String} {modules : List String}

/-- What comes between a text and a line behind it. -/
def separator (text : String) : String :=
  if text.toList.isEmpty || text.toList.getLast? = some '\n' then "" else "\n"

theorem add_eq (text a : String) : add text a = text ++ separator text ++ declaration a ++ "\n" :=
  rfl

theorem declaration_inj {a b : String} : declaration a = declaration b ↔ a = b := by
  rw [declaration, declaration, ← String.toList_inj, ← String.toList_inj, String.toList_append,
    String.toList_append, String.toList_append, String.toList_append, List.append_left_inj,
    List.append_right_inj]

theorem toList_declaration (a : String) :
    (declaration a).toList = 'p' :: ("ub mod ".toList ++ a.toList ++ [';']) := by
  rw [declaration, String.toList_append, String.toList_append]
  rfl

theorem declaration_ne_nil (a : String) : (declaration a).toList ≠ [] := by
  rw [toList_declaration]
  exact List.cons_ne_nil _ _

theorem trimChars_declaration (a : String) :
    Text.trimChars (declaration a).toList = (declaration a).toList := by
  rw [toList_declaration]
  refine Text.trimChars_eq_self ?_ ?_
  · intro c first
    cases first
    decide +kernel
  · intro c last
    rw [← List.cons_append, List.getLast?_concat] at last
    cases last
    decide +kernel

theorem declares_iff :
    declares text module = true ↔ Text.HasLine text.toList (declaration module).toList := by
  rw [Text.hasLine_iff (declaration_ne_nil module), declares, List.any_eq_true]
  simp only [Text.lines, List.mem_map, exists_exists_and_eq_and, Text.trim]
  simp only [← String.toList_inj, String.toList_ofList, decide_eq_true_eq]

theorem newline_notMem_declaration (line : '\n' ∉ a.toList) : '\n' ∉ (declaration a).toList := by
  rw [toList_declaration, List.mem_cons, List.mem_append, List.mem_append]
  simp [line]

/-- A text with one more line has the lines that it had before, and that one. -/
theorem hasLine_add {word : List Char} (some : word ≠ []) (line : '\n' ∉ a.toList) :
    Text.HasLine (add text a).toList word ↔
      Text.HasLine text.toList word ∨ (declaration a).toList = word := by
  have last : Text.HasLine ((declaration a).toList ++ ['\n']) word ↔
      (declaration a).toList = word := by
    rw [Text.hasLine_append, Text.hasLine_of_notMem (newline_notMem_declaration line),
      trimChars_declaration, or_iff_left (Text.not_hasLine_nil some)]
  have feed : "\n".toList = ['\n'] := rfl
  rw [add_eq, separator, String.toList_append, String.toList_append, String.toList_append, feed,
    List.append_assoc, List.append_assoc]
  by_cases empty : text.toList = []
  · have none : "".toList = [] := rfl
    rw [empty, if_pos (by simp), none, List.nil_append, List.nil_append, last,
      or_iff_right (Text.not_hasLine_nil some)]
  · by_cases ended : text.toList.getLast? = Option.some '\n'
    · -- The line feed at the end of the text is that in front of the line.
      have none : "".toList = [] := rfl
      obtain ⟨front, ends⟩ := List.getLast?_eq_some_iff.1 ended
      rw [if_pos (by simp [ended]), none, List.nil_append, ends, List.append_assoc,
        List.singleton_append, Text.hasLine_append, last, Text.hasLine_append,
        or_iff_left (Text.not_hasLine_nil some)]
    · rw [if_neg (by simp [empty, ended]), feed, List.singleton_append, Text.hasLine_append, last]

theorem declares_add (line : '\n' ∉ a.toList) :
    declares (add text a) module = true ↔ declares text module = true ∨ module = a := by
  rw [declares_iff, hasLine_add (declaration_ne_nil module) line, declares_iff, String.toList_inj,
    declaration_inj, eq_comm]

/-! ## What is added -/

/-- Those of some modules that a text does not declare, each of them once. -/
def undeclared (text : String) (modules : List String) : List String :=
  (modules.filter fun module => !declares text module).eraseDups

/-- Lines that declare some modules. -/
def lines (modules : List String) : String :=
  String.join (modules.map fun module => declaration module ++ "\n")

/-- What is added to a text for some modules. -/
def addition (text : String) (modules : List String) : String :=
  if undeclared text modules = [] then "" else separator text ++ lines (undeclared text modules)

theorem undeclared_cons_of_declares (declared : declares text a = true) :
    undeclared text (a :: modules) = undeclared text modules := by
  rw [undeclared, List.filter_cons, declared, if_neg (by simp), undeclared]

theorem undeclared_cons (line : '\n' ∉ a.toList) (new : declares text a ≠ true) :
    undeclared text (a :: modules) = a :: undeclared (add text a) modules := by
  rw [undeclared, List.filter_cons, if_pos (by simpa using new), List.eraseDups_cons,
    List.filter_filter, undeclared]
  refine congrArg (a :: ·.eraseDups) (List.filter_congr fun module _ => ?_)
  rw [Bool.eq_iff_iff]
  simp only [Bool.and_eq_true, Bool.not_eq_true', ← Bool.not_eq_true, declares_add line,
    beq_iff_eq, not_or, and_comm]

theorem separator_add (text a : String) : separator (add text a) = "" := by
  have ended : (add text a).toList.getLast? = some '\n' := by
    rw [add_eq, String.toList_append]
    exact List.getLast?_concat
  rw [separator, ended, if_pos (by simp)]

theorem addition_eq_of_separator (ended : separator text = "") :
    addition text modules = lines (undeclared text modules) := by
  rw [addition, ended, String.empty_append]
  split
  · rename_i none
    rw [none]
    rfl
  · rfl

theorem registerAll_eq (line : ∀ module ∈ modules, '\n' ∉ module.toList) :
    modules.foldl register text = text ++ addition text modules := by
  induction modules generalizing text with
  | nil => exact (String.append_empty).symm
  | cons a modules ih =>
    obtain ⟨first, line⟩ := List.forall_mem_cons.1 line
    rw [List.foldl_cons, register]
    by_cases declared : declares text a = true
    · rw [if_pos declared, ih line, addition, addition, undeclared_cons_of_declares declared]
    · rw [if_neg declared, ih line, addition_eq_of_separator (separator_add text a), addition,
        undeclared_cons first declared, if_neg (List.cons_ne_nil _ _), add_eq, lines, lines,
        List.map_cons, String.join_cons]
      simp only [String.append_assoc]

theorem declares_registerAll (line : ∀ module ∈ modules, '\n' ∉ module.toList) :
    declares (modules.foldl register text) module = true ↔
      declares text module = true ∨ module ∈ modules := by
  induction modules generalizing text with
  | nil => simp
  | cons a modules ih =>
    obtain ⟨first, line⟩ := List.forall_mem_cons.1 line
    rw [List.foldl_cons, ih line, register, List.mem_cons, ← or_assoc]
    refine or_congr_left ?_
    by_cases declared : declares text a = true
    · rw [if_pos declared]
      refine ⟨.inl, fun known => known.elim id ?_⟩
      rintro rfl
      exact declared
    · rw [if_neg declared, declares_add first]

/-- Declaring some modules again adds nothing. -/
theorem registerAll_again (line : ∀ module ∈ modules, '\n' ∉ module.toList) :
    modules.foldl register (modules.foldl register text) = modules.foldl register text :=
  registerAll_eq_self_iff.2 fun _ mem => (declares_registerAll line).2 (.inr mem)

end CrudForge.ModuleIndex
