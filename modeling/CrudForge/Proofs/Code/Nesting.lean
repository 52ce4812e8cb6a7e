import CrudForge.Proofs.Code.Placeholders

/-!
# Blocks inside of blocks

`Fragment.openAfter` is what one fragment does to the number of open blocks, and everything that
walks over a body goes by it. Checking a body is such a walk: a fragment with sound code that has
its place is passed over (`checkBodyFrom_step`), and any other ends the walk with its fault
(`checkBodyFrom_code`, `checkBodyFrom_misplaced`).
-/

namespace CrudForge

namespace Fragment

/-- The number of open blocks behind a fragment; none if it goes on with a block or closes one
where none is open. -/
def openAfter : Fragment → Nat → Option Nat
  | beginBlock _, depth => some (depth + 1)
  | nextBlock _, 0 | endBlock _, 0 => none
  | endBlock _, depth + 1 => some depth
  | _, depth => some depth

/-- The number of blocks around the line of a fragment, where `depth` blocks are open in front of
it. A fragment that goes on with a block or closes it stands outside of it. -/
def level : Fragment → Nat → Nat
  | nextBlock _, depth | endBlock _, depth => depth - 1
  | _, depth => depth

/-- The fault of a fragment that stands where no block is open. -/
def misplaced (index : Nat) : Fragment → BodyFault
  | nextBlock _ => .nothingToContinue index
  | _ => .nothingToClose index

theorem openAfter_eq_none_iff {f : Fragment} {depth : Nat} :
    f.openAfter depth = none ↔
      depth = 0 ∧ ((∃ code, f = .nextBlock code) ∨ ∃ semicolon, f = .endBlock semicolon) := by
  cases f <;> cases depth <;> simp [openAfter]

theorem checkCode_eq_ok_iff {f : Fragment} :
    f.checkCode = .ok () ↔ ∀ code, f.code? = some code → code.Sound := by
  rw [checkCode]
  cases f.code? with
  | none => simp
  | some code => simp [CodeBlock.Sound]

theorem checkCode_eq_error_iff {f : Fragment} {fault : BodyFault} :
    f.checkCode = .error fault ↔
      ∃ code inner, f.code? = some code ∧ code.check = .error inner ∧ fault = .code inner := by
  rw [checkCode]
  cases f.code? with
  | none => simp
  | some code =>
    rw [Outcome.mapError_eq_error_iff]
    constructor
    · rintro ⟨inner, faulty, rfl⟩
      exact ⟨code, inner, rfl, faulty, rfl⟩
    · rintro ⟨_, inner, same, faulty, rfl⟩
      cases same
      exact ⟨inner, faulty, rfl⟩

end Fragment

section Check

variable {index depth depth' : Nat} {f : Fragment} {rest : List Fragment}

theorem checkBodyFrom_code {fault : BodyFault} (faulty : f.checkCode = .error fault) :
    checkBodyFrom index depth (f :: rest) = .error fault := by
  cases f <;> cases depth <;> simp only [checkBodyFrom, faulty] <;> rfl

theorem checkBodyFrom_step (sound : f.checkCode = .ok ())
    (goesOn : f.openAfter depth = some depth') :
    checkBodyFrom index depth (f :: rest) = checkBodyFrom (index + 1) depth' rest := by
  cases f <;> cases depth <;> cases goesOn <;> simp only [checkBodyFrom, sound] <;> rfl

theorem checkBodyFrom_misplaced (sound : f.checkCode = .ok ())
    (misplaced : f.openAfter depth = none) :
    checkBodyFrom index depth (f :: rest) = .error (f.misplaced index) := by
  obtain ⟨rfl, ⟨code, rfl⟩ | ⟨semicolon, rfl⟩⟩ := Fragment.openAfter_eq_none_iff.1 misplaced <;>
    simp only [checkBodyFrom, sound] <;> rfl

/-- Blocks that are open can all be closed. -/
theorem checkBodyFrom_close (index depth : Nat) :
    checkBodyFrom index depth (List.replicate depth (.endBlock false)) = .ok () := by
  induction depth generalizing index with
  | zero => rfl
  | succ depth ih => exact (checkBodyFrom_step rfl rfl).trans (ih (index + 1))

end Check

/-! ## Bodies without faults -/

/-- The number of open blocks behind a body; none if a fragment has no place in it. -/
def openBehind (depth : Nat) (body : List Fragment) : Option Nat :=
  body.foldlM (fun depth f => f.openAfter depth) depth

section Open

variable {depth depth' : Nat} {f : Fragment} {front rest : List Fragment}

theorem openBehind_cons (goesOn : f.openAfter depth = some depth') :
    openBehind depth (f :: rest) = openBehind depth' rest := by
  rw [openBehind, List.foldlM_cons, goesOn]
  rfl

theorem openBehind_cons_eq_some_iff {last : Nat} :
    openBehind depth (f :: rest) = some last ↔
      ∃ depth', f.openAfter depth = some depth' ∧ openBehind depth' rest = some last := by
  rw [openBehind, List.foldlM_cons]
  exact Option.bind_eq_some_iff

theorem openBehind_append (opened : openBehind depth front = some depth') :
    openBehind depth (front ++ rest) = openBehind depth' rest := by
  rw [openBehind] at opened
  rw [openBehind, List.foldlM_append, opened]
  rfl

theorem openBehind_append_eq_some_iff {last : Nat} :
    openBehind depth (front ++ rest) = some last ↔
      ∃ depth', openBehind depth front = some depth' ∧ openBehind depth' rest = some last := by
  rw [openBehind, List.foldlM_append]
  exact Option.bind_eq_some_iff

/-- Each closing fragment closes one block. -/
theorem openBehind_ends (semicolons : List Bool) (depth : Nat) :
    openBehind (depth + semicolons.length) (semicolons.map .endBlock) = some depth := by
  induction semicolons with
  | nil => rfl
  | cons semicolon semicolons ih => exact (openBehind_cons rfl).trans ih

end Open

theorem checkBodyFrom_eq_ok_iff {index depth : Nat} {body : List Fragment} :
    checkBodyFrom index depth body = .ok () ↔
      (∀ f ∈ body, f.checkCode = .ok ()) ∧ openBehind depth body = some 0 := by
  induction body generalizing index depth with
  | nil => simp [checkBodyFrom, openBehind]
  | cons f rest ih =>
    rw [List.forall_mem_cons, openBehind, List.foldlM_cons]
    cases code : f.checkCode with
    | error fault => simp [checkBodyFrom_code code]
    | ok _ =>
      cases goesOn : f.openAfter depth with
      | none => simp [checkBodyFrom_misplaced code goesOn]
      | some depth' =>
        rw [checkBodyFrom_step code goesOn, ih]
        simp [openBehind]

/-- A body is accepted iff its code is sound and its blocks are balanced. -/
theorem checkBody_eq_ok_iff {body : List Fragment} :
    checkBody body = .ok () ↔
      (∀ f ∈ body, f.checkCode = .ok ()) ∧ openBehind 0 body = some 0 :=
  checkBodyFrom_eq_ok_iff

end CrudForge
