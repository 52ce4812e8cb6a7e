import Mathlib.Order.Bounds.Basic
import CrudForge.Proofs.Code.Nesting

/-!
# The grammar of bodies

A body is made of statements, expressions and blocks, and a block of bodies in turn (`Derivable`).
Checking only counts open blocks. That the count tells derivable bodies from all others is
`derivable_iff`: what is left to read while blocks are open is, block by block, the end of a body,
the bodies that continue the block, and the fragment that closes it (`Closing`).

Where checking fails, the count also tells how far a body goes on being completable
(`extendable_iff`), and how many blocks a completion has to close (`unclosed_iff`). The whole is
`checkBody_outcome`.
-/

namespace CrudForge

/-- A block: the body that it opens with, and the bodies that it is continued with. -/
structure Block where
  opening : CodeBlock
  inner : List Fragment
  arms : List (CodeBlock × List Fragment)
  semicolon : Bool

namespace Block

/-- The bodies that a block is continued with, each behind the fragment that begins it. -/
def continued (arms : List (CodeBlock × List Fragment)) : List Fragment :=
  arms.flatMap fun arm => .nextBlock arm.1 :: arm.2

/-- The fragments of a block. -/
def fragments (b : Block) : List Fragment :=
  .beginBlock b.opening :: (b.inner ++ (continued b.arms ++ [.endBlock b.semicolon]))

theorem continued_cons (arm : CodeBlock × List Fragment)
    (arms : List (CodeBlock × List Fragment)) :
    continued (arm :: arms) = .nextBlock arm.1 :: (arm.2 ++ continued arms) := rfl

theorem fragments_append (b : Block) (rest : List Fragment) :
    b.fragments ++ rest =
      .beginBlock b.opening ::
        (b.inner ++ (continued b.arms ++ .endBlock b.semicolon :: rest)) := by
  simp only [fragments, List.cons_append, List.append_assoc, List.nil_append]

end Block

/-- The grammar of bodies: a body is empty, or a statement, an expression or a block stands in
front of another one. A block is `beginBlock`, a body, any number of bodies behind a `nextBlock`
each, and `endBlock`. -/
inductive Derivable : List Fragment → Prop
  | empty : Derivable []
  | statement {code : CodeBlock} {rest : List Fragment} :
    Derivable rest → Derivable (.statement code :: rest)
  | expr {code : CodeBlock} {rest : List Fragment} :
    Derivable rest → Derivable (.expr code :: rest)
  | block {b : Block} {rest : List Fragment} :
    Derivable b.inner → (∀ arm ∈ b.arms, Derivable arm.2) → Derivable rest →
    Derivable (b.fragments ++ rest)

variable {body front rest : List Fragment} {depth : Nat}

theorem Derivable.append (first : Derivable front) (last : Derivable rest) :
    Derivable (front ++ rest) := by
  induction first with
  | empty => exact last
  | statement _ ih => exact .statement ih
  | expr _ ih => exact .expr ih
  | block inner arms _ _ _ ih =>
    rw [List.append_assoc]
    exact .block inner arms ih

/-! ## Counting open blocks -/

theorem openBehind_continued {arms : List (CodeBlock × List Fragment)}
    (balanced : ∀ arm ∈ arms, openBehind (depth + 1) arm.2 = some (depth + 1)) :
    openBehind (depth + 1) (Block.continued arms) = some (depth + 1) := by
  induction arms with
  | nil => rfl
  | cons arm arms ih =>
    obtain ⟨first, others⟩ := List.forall_mem_cons.1 balanced
    rw [Block.continued_cons, openBehind_cons rfl, openBehind_append first]
    exact ih others

/-- As many blocks are open behind a derivable body as in front of it. -/
theorem Derivable.openBehind (derivable : Derivable body) (depth : Nat) :
    openBehind depth body = some depth := by
  induction derivable generalizing depth with
  | empty => rfl
  | statement _ ih => exact ih depth
  | expr _ ih => exact ih depth
  | block _ _ _ inner arms rest =>
    rw [Block.fragments_append, openBehind_cons rfl, openBehind_append (inner _),
      openBehind_append (openBehind_continued fun arm mem => arms arm mem _), openBehind_cons rfl]
    exact rest depth

/-- What is left of a body where some blocks are open, the innermost first: the end of a body,
the bodies that continue the block, and what is left behind it. -/
inductive Closing : Nat → List Fragment → Prop
  | none {body : List Fragment} : Derivable body → Closing 0 body
  | block {depth : Nat} {inner rest : List Fragment} {arms : List (CodeBlock × List Fragment)}
    {semicolon : Bool} : Derivable inner → (∀ arm ∈ arms, Derivable arm.2) → Closing depth rest →
    Closing (depth + 1) (inner ++ (Block.continued arms ++ .endBlock semicolon :: rest))

/-- A derivable body may stand in front of what is left. -/
theorem Closing.append (closing : Closing depth rest) (first : Derivable front) :
    Closing depth (front ++ rest) := by
  cases closing with
  | none derivable => exact .none (first.append derivable)
  | block inner arms closing =>
    rw [← List.append_assoc]
    exact .block (first.append inner) arms closing

/-- Behind a fragment that opens a block, what is left begins with the rest of that block. -/
theorem Closing.beginBlock {code : CodeBlock} (closing : Closing (depth + 1) rest) :
    Closing depth (.beginBlock code :: rest) := by
  cases closing with
  | @block _ inner behind arms semicolon derivable each closing =>
    have opened : Derivable (Block.fragments ⟨code, inner, arms, semicolon⟩ ++ []) :=
      .block derivable each .empty
    have whole := closing.append opened
    rw [List.append_nil, Block.fragments_append] at whole
    exact whole

/-- A fragment that goes on with a block ends the body in front of it. -/
theorem Closing.nextBlock {code : CodeBlock} (closing : Closing (depth + 1) rest) :
    Closing (depth + 1) (.nextBlock code :: rest) := by
  cases closing with
  | @block _ inner behind arms semicolon derivable each closing =>
    have each : ∀ arm ∈ (code, inner) :: arms, Derivable arm.2 :=
      List.forall_mem_cons.2 ⟨derivable, each⟩
    have whole : Closing (depth + 1)
        ([] ++ (Block.continued ((code, inner) :: arms) ++ .endBlock semicolon :: behind)) :=
      .block .empty each closing
    rw [Block.continued_cons, List.nil_append, List.cons_append, List.append_assoc] at whole
    exact whole

theorem Closing.endBlock {semicolon : Bool} (closing : Closing depth rest) :
    Closing (depth + 1) (.endBlock semicolon :: rest) := by
  have none : ∀ arm ∈ ([] : List (CodeBlock × List Fragment)), Derivable arm.2 :=
    fun _ mem => absurd mem List.not_mem_nil
  exact .block .empty none closing

/-- Where the count comes down to nothing, all blocks are closed one after the other. -/
theorem closing_of_openBehind (closed : openBehind depth body = some 0) : Closing depth body := by
  induction body generalizing depth with
  | nil =>
    cases closed
    exact .none .empty
  | cons f rest ih =>
    rcases openBehind_cons_eq_some_iff.1 closed with ⟨depth', goesOn, closed⟩
    have closing := ih closed
    cases f with
    | statement code =>
      cases goesOn
      exact closing.append (.statement .empty)
    | expr code =>
      cases goesOn
      exact closing.append (.expr .empty)
    | beginBlock code =>
      cases goesOn
      exact closing.beginBlock
    | nextBlock code =>
      cases depth <;> cases goesOn
      exact closing.nextBlock
    | endBlock semicolon =>
      cases depth <;> cases goesOn
      exact closing.endBlock

/-- A body is derivable iff no block is open behind it, and none was missing on the way. -/
theorem derivable_iff : Derivable body ↔ openBehind 0 body = some 0 := by
  constructor
  · intro derivable
    exact derivable.openBehind 0
  · intro closed
    cases closing_of_openBehind closed with
    | none derivable => exact derivable

/-! ## Completing a body -/

/-- A body that something can be added to so that the whole is derivable. -/
def Extendable (body : List Fragment) : Prop :=
  ∃ rest, Derivable (body ++ rest)

theorem extendable_iff : Extendable body ↔ ∃ depth, openBehind 0 body = some depth := by
  constructor
  · rintro ⟨rest, derivable⟩
    rcases openBehind_append_eq_some_iff.1 (derivable_iff.1 derivable) with ⟨depth, opened, -⟩
    exact ⟨depth, opened⟩
  · rintro ⟨depth, opened⟩
    refine ⟨(List.replicate depth false).map .endBlock, derivable_iff.2 ?_⟩
    have ends := openBehind_ends (List.replicate depth false) 0
    rw [List.length_replicate, Nat.zero_add] at ends
    rw [openBehind_append opened]
    exact ends

theorem Extendable.of_append (extendable : Extendable (front ++ rest)) : Extendable front := by
  rcases extendable with ⟨more, derivable⟩
  rw [List.append_assoc] at derivable
  exact ⟨rest ++ more, derivable⟩

theorem Extendable.take (extendable : Extendable body) (n : Nat) : Extendable (body.take n) := by
  rw [← List.take_append_drop n body] at extendable
  exact extendable.of_append

/-- So many fragments are as many as a derivable body can begin with. -/
def LongestExtendable (body : List Fragment) (n : Nat) : Prop :=
  IsGreatest {k | k ≤ body.length ∧ Extendable (body.take k)} n

theorem longestExtendable_iff {f : Fragment} :
    LongestExtendable (front ++ f :: rest) front.length ↔
      Extendable front ∧ ¬ Extendable (front ++ [f]) := by
  have here : (front ++ f :: rest).take front.length = front := List.take_left
  have next : (front ++ f :: rest).take (front.length + 1) = front ++ [f] := by
    rw [List.append_cons]
    exact List.take_left' List.length_append
  have longer : front.length + 1 ≤ (front ++ f :: rest).length := by simp
  constructor
  · rintro ⟨⟨-, extendable⟩, greatest⟩
    refine ⟨here ▸ extendable, fun further => ?_⟩
    have most := greatest ⟨longer, next.symm ▸ further⟩
    omega
  · rintro ⟨extendable, stuck⟩
    refine ⟨⟨by omega, here.symm ▸ extendable⟩, ?_⟩
    rintro n ⟨-, extendable⟩
    by_contra more
    apply stuck
    have further := extendable.take (front.length + 1)
    rw [List.take_take, Nat.min_eq_left (by omega), next] at further
    exact further

/-- A body stops being extendable at the first fragment that has no place. -/
theorem stuck_iff {f : Fragment} :
    Extendable front ∧ ¬ Extendable (front ++ [f]) ↔
      ∃ depth, openBehind 0 front = some depth ∧ f.openAfter depth = none := by
  simp only [extendable_iff]
  constructor
  · rintro ⟨⟨depth, opened⟩, stuck⟩
    refine ⟨depth, opened, Option.eq_none_iff_forall_ne_some.2 fun depth' goesOn => ?_⟩
    exact stuck ⟨depth', (openBehind_append opened).trans (openBehind_cons goesOn)⟩
  · rintro ⟨depth, opened, misplaced⟩
    refine ⟨⟨depth, opened⟩, ?_⟩
    rintro ⟨last, through⟩
    rw [openBehind_append opened] at through
    rcases openBehind_cons_eq_some_iff.1 through with ⟨depth', goesOn, -⟩
    cases misplaced.symm.trans goesOn

/-- Whether a fragment closes a block. -/
def Fragment.isEnd : Fragment → Bool
  | endBlock _ => true
  | _ => false

/-- So many closing fragments complete a body, with or without semicolons, and whatever completes
it has no fewer of them. -/
structure Unclosed (body : List Fragment) (n : Nat) : Prop where
  completes : ∀ semicolons : List Bool, semicolons.length = n →
    Derivable (body ++ semicolons.map .endBlock)
  least : ∀ rest, Derivable (body ++ rest) → n ≤ rest.countP Fragment.isEnd

theorem le_countP_isEnd (closed : openBehind depth body = some 0) :
    depth ≤ body.countP Fragment.isEnd := by
  induction body generalizing depth with
  | nil =>
    cases closed
    rfl
  | cons f rest ih =>
    rcases openBehind_cons_eq_some_iff.1 closed with ⟨depth', goesOn, closed⟩
    have enough := ih closed
    rw [List.countP_cons]
    cases f <;> cases depth <;> cases goesOn <;> simp only [Fragment.isEnd] <;> grind

theorem unclosed_of_openBehind {n : Nat} (opened : openBehind 0 body = some n) :
    Unclosed body n where
  completes semicolons enough := by
    have ends := openBehind_ends semicolons 0
    rw [enough, Nat.zero_add] at ends
    rw [derivable_iff, openBehind_append opened]
    exact ends
  least rest derivable := by
    rw [derivable_iff, openBehind_append opened] at derivable
    exact le_countP_isEnd derivable

theorem countP_isEnd_ends (semicolons : List Bool) :
    (semicolons.map Fragment.endBlock).countP Fragment.isEnd = semicolons.length := by
  rw [List.countP_eq_length.2, List.length_map]
  intro f mem
  obtain ⟨semicolon, -, rfl⟩ := List.mem_map.1 mem
  rfl

theorem Unclosed.le {n n' : Nat} (unclosed : Unclosed body n) (other : Unclosed body n') :
    n ≤ n' := by
  have enough := unclosed.least _ (other.completes (List.replicate n' false) List.length_replicate)
  rw [countP_isEnd_ends, List.length_replicate] at enough
  exact enough

theorem unclosed_iff {n : Nat} : Unclosed body n ↔ openBehind 0 body = some n := by
  constructor
  · intro unclosed
    have completed := unclosed.completes (List.replicate n false) List.length_replicate
    obtain ⟨depth, opened⟩ := extendable_iff.1 ⟨_, completed⟩
    have counted := unclosed_of_openBehind opened
    rw [opened, Nat.le_antisymm (unclosed.le counted) (counted.le unclosed)]
  · exact unclosed_of_openBehind

/-! ## The outcome of checking a body -/

/-- All pieces of code pass their check. -/
def CodePasses (body : List Fragment) : Prop :=
  ∀ f ∈ body, ∀ code, f.code? = some code → code.check = .ok ()

theorem codePasses_iff : CodePasses body ↔ ∀ f ∈ body, f.checkCode = .ok () := by
  simp only [CodePasses, Fragment.checkCode_eq_ok_iff]
  rfl

/-- Checking goes on behind fragments that have nothing wrong with them. -/
theorem checkBodyFrom_append {index depth' : Nat} (passes : CodePasses front)
    (opened : openBehind depth front = some depth') :
    checkBodyFrom index depth (front ++ rest) =
      checkBodyFrom (index + front.length) depth' rest := by
  rw [codePasses_iff] at passes
  induction front generalizing index depth with
  | nil =>
    cases opened
    rfl
  | cons f front ih =>
    obtain ⟨sound, passes⟩ := List.forall_mem_cons.1 passes
    rcases openBehind_cons_eq_some_iff.1 opened with ⟨depth'', goesOn, opened⟩
    rw [List.cons_append, checkBodyFrom_step sound goesOn, ih passes opened, List.length_cons,
      Nat.add_assoc, Nat.add_comm 1]

/-- The first fault of a body in front of which `depth` blocks are open. -/
inductive FirstFault (index depth : Nat) (body : List Fragment) : BodyFault → Prop
  | code {front rest : List Fragment} {f : Fragment} {depth' : Nat} {inner : CodeFault} :
    body = front ++ f :: rest → CodePasses front → openBehind depth front = some depth' →
    f.checkCode = .error (.code inner) → FirstFault index depth body (.code inner)
  | misplaced {front rest : List Fragment} {f : Fragment} {depth' : Nat} :
    body = front ++ f :: rest → CodePasses (front ++ [f]) →
    openBehind depth front = some depth' → f.openAfter depth' = none →
    FirstFault index depth body (f.misplaced (index + front.length))
  | leftOpen {n : Nat} :
    CodePasses body → openBehind depth body = some n → 0 < n →
    FirstFault index depth body (.leftOpen n)

theorem FirstFault.cons {index depth' : Nat} {f : Fragment} {fault : BodyFault}
    (sound : f.checkCode = .ok ()) (goesOn : f.openAfter depth = some depth')
    (first : FirstFault (index + 1) depth' rest fault) :
    FirstFault index depth (f :: rest) fault := by
  have more {front : List Fragment} (passes : CodePasses front) : CodePasses (f :: front) := by
    rw [codePasses_iff] at passes ⊢
    exact List.forall_mem_cons.2 ⟨sound, passes⟩
  cases first with
  | code split passes opened faulty =>
    have split := congrArg (f :: ·) split
    exact .code split (more passes) ((openBehind_cons goesOn).trans opened) faulty
  | @misplaced front _ f' _ split passes opened misplaced =>
    have split := congrArg (f :: ·) split
    have last : index + 1 + front.length = index + (f :: front).length := by
      rw [List.length_cons, Nat.add_assoc, Nat.add_comm 1]
    rw [last]
    exact .misplaced split (more passes) ((openBehind_cons goesOn).trans opened) misplaced
  | leftOpen passes opened positive =>
    exact .leftOpen (more passes) ((openBehind_cons goesOn).trans opened) positive

/-- The fault that checking a body reports is its first one. -/
theorem firstFault_of_checkBodyFrom {index : Nat} {fault : BodyFault}
    (failed : checkBodyFrom index depth body = .error fault) : FirstFault index depth body fault := by
  induction body generalizing index depth with
  | nil =>
    unfold checkBodyFrom at failed
    split at failed
    · cases failed
    · rename_i positive
      cases failed
      exact .leftOpen (fun _ mem => absurd mem List.not_mem_nil) rfl (Nat.pos_of_ne_zero positive)
  | cons f rest ih =>
    have none : CodePasses [] := fun _ mem => absurd mem List.not_mem_nil
    have split : f :: rest = [] ++ f :: rest := rfl
    rcases Outcome.ok_or_error f.checkCode with ⟨⟨⟩, sound⟩ | ⟨fault', faulty⟩
    · cases goesOn : f.openAfter depth with
      | some depth' =>
        rw [checkBodyFrom_step sound goesOn] at failed
        exact (ih failed).cons sound goesOn
      | none =>
        rw [checkBodyFrom_misplaced sound goesOn] at failed
        cases failed
        refine .misplaced split ?_ rfl goesOn
        exact codePasses_iff.2 (List.forall_mem_singleton.2 sound)
    · rw [checkBodyFrom_code faulty] at failed
      cases failed
      obtain ⟨code, inner, -, -, rfl⟩ := Fragment.checkCode_eq_error_iff.1 faulty
      exact .code split none rfl faulty

/-- The first fault of a body is reported. -/
theorem FirstFault.checkBodyFrom_eq_error {index : Nat} {fault : BodyFault}
    (first : FirstFault index depth body fault) :
    checkBodyFrom index depth body = .error fault := by
  cases first with
  | code split passes opened faulty =>
    rw [split, checkBodyFrom_append passes opened, checkBodyFrom_code faulty]
  | misplaced split passes opened misplaced =>
    rw [codePasses_iff, List.forall_mem_append, List.forall_mem_singleton] at passes
    rw [split, checkBodyFrom_append (codePasses_iff.2 passes.1) opened,
      checkBodyFrom_misplaced passes.2 misplaced]
  | leftOpen passes opened positive =>
    rw [← List.append_nil body, checkBodyFrom_append passes opened, checkBodyFrom,
      if_neg (Nat.ne_of_gt positive)]

/-- Checking a body reports its first fault. -/
theorem checkBodyFrom_eq_error_iff {index : Nat} {fault : BodyFault} :
    checkBodyFrom index depth body = .error fault ↔ FirstFault index depth body fault :=
  ⟨firstFault_of_checkBodyFrom, FirstFault.checkBodyFrom_eq_error⟩

/-- The `i`-th fragment of a body has no place in it: a derivable body can go on behind all the
fragments in front of it and behind no more, and the code so far, its own included, passes. -/
structure StuckAt (body : List Fragment) (i : Nat) (f : Fragment) : Prop where
  split : ∃ front rest, body = front ++ f :: rest ∧ front.length = i ∧ CodePasses (front ++ [f])
  longest : LongestExtendable body i

theorem checkBody_of_stuckAt {i : Nat} {f : Fragment} (stuck : StuckAt body i f) :
    checkBody body = .error (f.misplaced i) := by
  rcases stuck with ⟨⟨front, rest, rfl, rfl, passes⟩, longest⟩
  rcases stuck_iff.1 (longestExtendable_iff.1 longest) with ⟨depth, opened, misplaced⟩
  have first : FirstFault 0 0 (front ++ f :: rest) (f.misplaced (0 + front.length)) :=
    .misplaced rfl passes opened misplaced
  rw [Nat.zero_add] at first
  exact checkBodyFrom_eq_error_iff.2 first

theorem exists_stuckAt {i : Nat} {fault : BodyFault} (failed : checkBody body = .error fault)
    (nesting : fault = .nothingToContinue i ∨ fault = .nothingToClose i) :
    ∃ f depth, StuckAt body i f ∧ f.openAfter depth = none ∧ fault = f.misplaced i := by
  cases checkBodyFrom_eq_error_iff.1 failed with
  | code => rcases nesting with other | other <;> cases other
  | leftOpen => rcases nesting with other | other <;> cases other
  | @misplaced front rest f depth split passes opened misplaced =>
    have place : front.length = i := by
      rcases nesting with same | same <;> cases f <;> cases same <;> exact (Nat.zero_add _).symm
    rw [place, Nat.zero_add]
    have stuck : LongestExtendable body front.length := by
      rw [split]
      exact longestExtendable_iff.2 (stuck_iff.2 ⟨depth, opened, misplaced⟩)
    exact ⟨f, depth, ⟨⟨front, rest, split, place, passes⟩, place ▸ stuck⟩, misplaced, rfl⟩

theorem checkBody_nothingToContinue_iff {i : Nat} :
    checkBody body = .error (.nothingToContinue i) ↔ ∃ code, StuckAt body i (.nextBlock code) := by
  constructor
  · intro failed
    rcases exists_stuckAt failed (.inl rfl) with ⟨f, depth, stuck, misplaced, same⟩
    rcases (Fragment.openAfter_eq_none_iff.1 misplaced).2 with ⟨code, rfl⟩ | ⟨semicolon, rfl⟩
    · exact ⟨code, stuck⟩
    · cases same
  · rintro ⟨code, stuck⟩
    exact checkBody_of_stuckAt stuck

theorem checkBody_nothingToClose_iff {i : Nat} :
    checkBody body = .error (.nothingToClose i) ↔
      ∃ semicolon, StuckAt body i (.endBlock semicolon) := by
  constructor
  · intro failed
    rcases exists_stuckAt failed (.inr rfl) with ⟨f, depth, stuck, misplaced, same⟩
    rcases (Fragment.openAfter_eq_none_iff.1 misplaced).2 with ⟨code, rfl⟩ | ⟨semicolon, rfl⟩
    · cases same
    · exact ⟨semicolon, stuck⟩
  · rintro ⟨semicolon, stuck⟩
    exact checkBody_of_stuckAt stuck

theorem checkBody_leftOpen_iff {n : Nat} :
    checkBody body = .error (.leftOpen n) ↔ 0 < n ∧ CodePasses body ∧ Unclosed body n := by
  rw [unclosed_iff]
  constructor
  · intro failed
    generalize same : BodyFault.leftOpen n = fault at failed
    cases checkBodyFrom_eq_error_iff.1 failed with
    | code => cases same
    | @misplaced _ _ f => cases f <;> cases same
    | leftOpen passes opened positive =>
      cases same
      exact ⟨positive, passes, opened⟩
  · rintro ⟨positive, passes, opened⟩
    exact checkBodyFrom_eq_error_iff.2 (.leftOpen passes opened positive)

theorem checkBody_code_iff {inner : CodeFault} :
    checkBody body = .error (.code inner) ↔
      ∃ front f rest code, body = front ++ f :: rest ∧ CodePasses front ∧ Extendable front ∧
        f.code? = some code ∧ code.check = .error inner := by
  simp only [extendable_iff]
  constructor
  · intro failed
    generalize same : BodyFault.code inner = fault at failed
    cases checkBodyFrom_eq_error_iff.1 failed with
    | @code front rest f depth _ split passes opened faulty =>
      cases same
      obtain ⟨code, _, carried, failed, same⟩ := Fragment.checkCode_eq_error_iff.1 faulty
      cases same
      exact ⟨front, f, rest, code, split, passes, ⟨depth, opened⟩, carried, failed⟩
    | @misplaced _ _ f => cases f <;> cases same
    | leftOpen => cases same
  · rintro ⟨front, f, rest, code, split, passes, ⟨depth, opened⟩, carried, failed⟩
    have faulty : f.checkCode = .error (.code inner) :=
      Fragment.checkCode_eq_error_iff.2 ⟨code, inner, carried, failed, rfl⟩
    exact checkBodyFrom_eq_error_iff.2 (.code split passes opened faulty)

theorem checkBody_eq_ok_iff_derivable :
    checkBody body = .ok () ↔ CodePasses body ∧ Derivable body := by
  rw [checkBody_eq_ok_iff, codePasses_iff, derivable_iff]

/-- A body is accepted iff its code passes and it is derivable. A fault of nesting is reported at
the fragment that a derivable body cannot go on with, unless the whole body can be completed: then
the number of closing fragments that are missing is reported. Code is at fault only behind
fragments that are neither. -/
theorem checkBody_outcome (body : List Fragment) :
    (checkBody body = .ok () ↔ CodePasses body ∧ Derivable body) ∧
    (∀ i, checkBody body = .error (.nothingToContinue i) ↔
      ∃ code, StuckAt body i (.nextBlock code)) ∧
    (∀ i, checkBody body = .error (.nothingToClose i) ↔
      ∃ semicolon, StuckAt body i (.endBlock semicolon)) ∧
    (∀ n, checkBody body = .error (.leftOpen n) ↔
      0 < n ∧ CodePasses body ∧ (∀ k, Extendable (body.take k)) ∧ Unclosed body n) ∧
    ∀ inner, checkBody body = .error (.code inner) ↔
      ∃ front f rest code, body = front ++ f :: rest ∧ CodePasses front ∧ Extendable front ∧
        f.code? = some code ∧ code.check = .error inner := by
  refine ⟨checkBody_eq_ok_iff_derivable, fun i => checkBody_nothingToContinue_iff,
    fun i => checkBody_nothingToClose_iff, fun n => ?_, fun inner => checkBody_code_iff⟩
  rw [checkBody_leftOpen_iff]
  refine and_congr_right fun _ => and_congr_right fun _ => (and_iff_right_of_imp ?_).symm
  intro unclosed
  exact Extendable.take (extendable_iff.2 ⟨n, unclosed_iff.1 unclosed⟩)

example : checkBody [.beginBlock ⟨"if a", []⟩, .endBlock false, .nextBlock ⟨"else", []⟩] =
    .error (.nothingToContinue 2) := by
  decide

end CrudForge
