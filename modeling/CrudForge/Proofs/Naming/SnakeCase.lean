import Mathlib.Data.Bool.AllAny
import Mathlib.Logic.Basic
import CrudForge.Naming.Basic
import CrudForge.Proofs.Text.Ascii

/-!
# Snake case

Snake case is written from left to right with an eye on what was written last. That comes down to
a rule on neighbours: a character is preceded by an underscore iff it is uppercase and stands
behind one that is neither uppercase nor an underscore (`snakeCase_eq_flatMap`). So what stands
behind an underscore is converted as if a name began there, and a name without uppercase
characters stays as it is (`snakeCase_laws`).
-/

namespace CrudForge.Naming

open Text (isUpper lowerChar)

variable {afterUpper : Bool} {last : Option Char} {c : Char} {cs : List Char} {s : String}

/-! ## One character -/

/-- What a character becomes, apart from an underscore in front of it. -/
def snakeChar (c : Char) : List Char :=
  if isUpper c then lowerChar c else [c]

theorem snakeChar_of_lower (lower : isUpper c = false) : snakeChar c = [c] := by
  rw [snakeChar, lower, if_neg Bool.false_ne_true]

/-- Behind an uppercase character there is no underscore, whatever was written last. -/
theorem snakeFrom_afterUpper (last last' : Option Char) (cs : List Char) :
    snakeFrom true last cs = snakeFrom true last' cs := by
  induction cs generalizing last last' with
  | nil => rfl
  | cons c cs ih =>
    rw [snakeFrom, snakeFrom]
    split
    · exact congrArg (lowerChar c ++ ·) (ih _ _)
    · rfl

/-- One character is converted, and it is all that matters for those behind it. -/
theorem snakeFrom_cons (afterUpper : Bool) (last : Option Char) (c : Char) (cs : List Char) :
    snakeFrom afterUpper last (c :: cs) =
      (if isUpper c && (!afterUpper && last != some '_') then ['_'] else []) ++ snakeChar c ++
        snakeFrom (isUpper c) (some c) cs := by
  rw [snakeFrom, snakeChar]
  cases isUpper c with
  | false => rfl
  | true =>
    dsimp only
    rw [if_pos rfl, if_pos rfl, Bool.true_and, snakeFrom_afterUpper _ (some c)]
    split <;> rfl

/-- Whatever holds of the underscore holds of all that is written iff it holds of what each
character becomes. -/
theorem forall_mem_snakeFrom {P : Char → Prop} (sign : P '_') :
    (∀ d ∈ snakeFrom afterUpper last cs, P d) ↔ ∀ c ∈ cs, ∀ d ∈ snakeChar c, P d := by
  induction cs generalizing afterUpper last with
  | nil => simp [snakeFrom]
  | cons c cs ih =>
    have first : ∀ d ∈ if isUpper c && (!afterUpper && last != some '_') then ['_'] else [],
        P d := by
      split
      · exact List.forall_mem_singleton.2 sign
      · exact nofun
    rw [snakeFrom_cons, List.forall_mem_append, List.forall_mem_append, ih, List.forall_mem_cons]
    exact ⟨fun ⟨⟨_, own⟩, rest⟩ => ⟨own, rest⟩, fun ⟨own, rest⟩ => ⟨⟨first, own⟩, rest⟩⟩

/-! ## Names without uppercase characters -/

theorem snakeFrom_eq_self (lower : ∀ c ∈ cs, isUpper c = false) :
    snakeFrom afterUpper last cs = cs := by
  induction cs generalizing afterUpper last with
  | nil => rfl
  | cons c cs ih =>
    obtain ⟨first, rest⟩ := List.forall_mem_cons.1 lower
    rw [snakeFrom_cons, first, snakeChar_of_lower first, ih rest]
    rfl

/-- Names without uppercase characters are in snake case. -/
theorem snakeCase_eq_self (lower : ∀ c ∈ s.toList, isUpper c = false) : snakeCase s = s := by
  rw [snakeCase, snakeFrom_eq_self lower, String.ofList_toList]

/-- Every uppercase character of a text has a lower case without uppercase characters. -/
def Lowerable (s : String) : Prop :=
  ∀ c ∈ s.toList, isUpper c = true → ∀ d ∈ lowerChar c, isUpper d = false

instance (s : String) : Decidable (Lowerable s) :=
  decidable_of_iff (s.toList.all fun c => !isUpper c || (lowerChar c).all fun d => !isUpper d)
    (by simp [Lowerable, Decidable.or_iff_not_imp_left])

theorem lower_snakeChar_iff :
    (∀ d ∈ snakeChar c, isUpper d = false) ↔
      (isUpper c = true → ∀ d ∈ lowerChar c, isUpper d = false) := by
  cases upper : isUpper c with
  | false => simp [snakeChar_of_lower upper, upper]
  | true => simp [snakeChar, upper]

/-- Snake case has no uppercase characters iff each of them has another lower case. -/
theorem lower_snakeCase_iff : (∀ c ∈ (snakeCase s).toList, isUpper c = false) ↔ Lowerable s := by
  have sign : isUpper '_' = false := by decide
  rw [snakeCase, String.toList_ofList, forall_mem_snakeFrom sign]
  exact forall₂_congr fun _ _ => lower_snakeChar_iff

theorem Lowerable.snakeCase_snakeCase (lowerable : Lowerable s) :
    snakeCase (snakeCase s) = snakeCase s :=
  snakeCase_eq_self (lower_snakeCase_iff.2 lowerable)

theorem lower_ascii (small : c.toNat < 128) : isUpper c.toLower = false :=
  Text.of_ascii small (by decide)

theorem lowerable_of_ascii (ascii : ∀ c ∈ s.toList, c.toNat < 128) : Lowerable s := by
  intro c mem _ d lowered
  rw [Text.lowerChar_ascii (ascii c mem), List.mem_singleton] at lowered
  exact lowered ▸ lower_ascii (ascii c mem)

/-! ## Names joined by an underscore -/

/-- Behind an underscore all is as at the beginning of a name. -/
theorem snakeFrom_underscore (cs : List Char) :
    snakeFrom false (some '_') cs = snakeFrom true none cs := by
  cases cs with
  | nil => rfl
  | cons c cs =>
    rw [snakeFrom_cons, snakeFrom_cons]
    rfl

theorem snakeFrom_append (cs ds : List Char) :
    snakeFrom afterUpper last (cs ++ '_' :: ds) =
      snakeFrom afterUpper last cs ++ '_' :: snakeFrom true none ds := by
  induction cs generalizing afterUpper last with
  | nil =>
    have sign : isUpper '_' = false := by decide
    rw [List.nil_append, snakeFrom_cons, sign, snakeChar_of_lower sign, snakeFrom_underscore]
    rfl
  | cons c cs ih =>
    rw [List.cons_append, snakeFrom_cons, snakeFrom_cons, ih, List.append_assoc _ _ ('_' :: _)]

theorem snakeCase_append (a b : String) :
    snakeCase (a ++ "_" ++ b) = snakeCase a ++ "_" ++ snakeCase b := by
  have sign : "_".toList = ['_'] := rfl
  refine String.toList_inj.1 ?_
  simp only [snakeCase, String.toList_append, String.toList_ofList, sign, List.append_assoc,
    List.singleton_append, snakeFrom_append]

/-- The name of a getter in snake case is that of the field behind `get_`. -/
theorem snakeCase_getter (member : String) :
    snakeCase ("get_" ++ member) = "get_" ++ snakeCase member :=
  snakeCase_append "get" member

/-- A name without uppercase characters stays as it is; names that an underscore joins are
converted each by itself, as a getter shows; and no uppercase character is left iff each has
another lower case, as in all ASCII names: then a second conversion changes nothing. -/
theorem snakeCase_laws :
    (∀ s : String, (∀ c ∈ s.toList, isUpper c = false) → snakeCase s = s) ∧
    (∀ a b : String, snakeCase (a ++ "_" ++ b) = snakeCase a ++ "_" ++ snakeCase b) ∧
    (∀ member : String, ∃ getter, (AccessorStyle.getter.accessor member).args = [.name getter] ∧
      snakeCase getter = "get_" ++ snakeCase member) ∧
    (∀ s : String, (Lowerable s ↔ ∀ c ∈ (snakeCase s).toList, isUpper c = false) ∧
      (Lowerable s → snakeCase (snakeCase s) = snakeCase s)) ∧
    ∀ s : String, (∀ c ∈ s.toList, c.toNat < 128) → Lowerable s := by
  refine ⟨fun _ => snakeCase_eq_self, snakeCase_append, fun member => ?_, fun s => ?_,
    fun _ => lowerable_of_ascii⟩
  · exact ⟨_, rfl, snakeCase_getter member⟩
  · exact ⟨lower_snakeCase_iff.symm, Lowerable.snakeCase_snakeCase⟩

theorem snakeCase_laws_mixedNames :
    (∀ c ∈ "maß_2".toList, isUpper c = false) ∧ snakeCase "maß_2" = "maß_2" ∧
      Lowerable "HTTPÄnderungÎle" ∧
      snakeCase (snakeCase "HTTPÄnderungÎle") = snakeCase "HTTPÄnderungÎle" ∧
      (∀ c ∈ "HTTPCode_9".toList, c.toNat < 128) ∧ Lowerable "HTTPCode_9" := by
  have lower : ∀ c ∈ "maß_2".toList, isUpper c = false :=
    List.all_iff_forall_prop.1 (by decide +kernel)
  have lowerable : Lowerable "HTTPÄnderungÎle" := by decide +kernel
  have ascii : ∀ c ∈ "HTTPCode_9".toList, c.toNat < 128 :=
    List.all_iff_forall_prop.1 (by decide)
  obtain ⟨same, -, -, again, small⟩ := snakeCase_laws
  exact ⟨lower, same _ lower, lowerable, (again _).2 lowerable, ascii, small _ ascii⟩

/-! ## The rule on neighbours -/

/-- An underscore belongs in front of a character of a name: it is uppercase, and stands behind one
that is neither uppercase nor an underscore. -/
def BeginsWord (cs : List Char) (i : Fin cs.length) : Prop :=
  0 < i.val ∧ isUpper (cs.get i) = true ∧
    isUpper (cs.get ⟨i.val - 1, Nat.sub_lt_of_lt i.isLt⟩) = false ∧
    cs.get ⟨i.val - 1, Nat.sub_lt_of_lt i.isLt⟩ ≠ '_'

instance (cs : List Char) (i : Fin cs.length) : Decidable (BeginsWord cs i) :=
  inferInstanceAs (Decidable (_ ∧ _ ∧ _ ∧ _))

/-- What is written for the character at a place. -/
def snakePiece (cs : List Char) (i : Fin cs.length) : List Char :=
  (if BeginsWord cs i then ['_'] else []) ++ snakeChar (cs.get i)

theorem snakePiece_first (c : Char) (cs : List Char) :
    snakePiece (c :: cs) (0 : Fin (cs.length + 1)) = snakeChar c := by
  rw [snakePiece, if_neg fun begins => Nat.lt_irrefl 0 begins.1]
  rfl

theorem snakePiece_second (b c : Char) (cs : List Char) :
    snakePiece (b :: c :: cs) (Fin.succ (0 : Fin (cs.length + 1))) =
      (if isUpper c && (!isUpper b && some b != some '_') then ['_'] else []) ++ snakeChar c := by
  have same : BeginsWord (b :: c :: cs) (Fin.succ (0 : Fin (cs.length + 1))) ↔
      (isUpper c && (!isUpper b && some b != some '_')) = true := by
    simp [BeginsWord]
  exact congrArg (· ++ snakeChar c) (if_congr same rfl rfl)

/-- Only the character in front of a place matters, and not what stands further in front. -/
theorem snakePiece_later (b c : Char) (cs : List Char) (i : Fin cs.length) :
    snakePiece (b :: c :: cs) i.succ.succ = snakePiece (c :: cs) i.succ := by
  have same : BeginsWord (b :: c :: cs) i.succ.succ ↔ BeginsWord (c :: cs) i.succ :=
    and_congr_left' ⟨fun _ => Nat.zero_lt_succ _, fun _ => Nat.zero_lt_succ _⟩
  exact congrArg (· ++ snakeChar (cs.get i)) (if_congr same rfl rfl)

theorem flatMap_finRange_succ {α : Type} {n : Nat} (f : Fin (n + 1) → List α) :
    (List.finRange (n + 1)).flatMap f =
      f 0 ++ (List.finRange n).flatMap fun i => f i.succ := by
  rw [List.finRange_succ, List.flatMap_cons, List.flatMap_map]

/-- Behind a character, each one is written as its place asks for. -/
theorem snakeFrom_behind (b : Char) (cs : List Char) :
    snakeFrom (isUpper b) (some b) cs =
      (List.finRange cs.length).flatMap fun i => snakePiece (b :: cs) i.succ := by
  induction cs generalizing b with
  | nil => rfl
  | cons c cs ih =>
    have split := flatMap_finRange_succ fun i => snakePiece (b :: c :: cs) i.succ
    simp only [snakePiece_later] at split
    rw [snakeFrom_cons, ih c, ← snakePiece_second]
    exact split.symm

/-- A name in snake case consists of what is written for each of its characters: the character in
lower case if it is uppercase, and behind an underscore iff a word begins there. -/
theorem snakeCase_eq_flatMap (s : String) :
    (snakeCase s).toList = (List.finRange s.toList.length).flatMap fun i =>
      (if BeginsWord s.toList i then ['_'] else []) ++
        if isUpper (s.toList.get i) then lowerChar (s.toList.get i) else [s.toList.get i] := by
  change _ = (List.finRange s.toList.length).flatMap (snakePiece s.toList)
  rw [snakeCase, String.toList_ofList]
  cases s.toList with
  | nil => rfl
  | cons c cs =>
    have split := flatMap_finRange_succ (snakePiece (c :: cs))
    have first : (isUpper c && (!true && none != some '_')) = false := Bool.and_false _
    rw [snakePiece_first] at split
    rw [snakeFrom_cons, first, snakeFrom_behind]
    exact split.symm

end CrudForge.Naming
