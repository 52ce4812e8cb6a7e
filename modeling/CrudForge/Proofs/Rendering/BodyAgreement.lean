import CrudForge.Proofs.Generation.Failure
import CrudForge.Proofs.Rendering.Class
import CrudForge.Rendering.Target

/-!
# Printing a body goes as far as checking it

Checking a body and printing its lines are two walks over the same fragments, and
`Fragment.openAfter` decides for both whether a fragment has its place. So they end at the same
fragment (`StopsAt`), or at none: all that printing does not mind is a block that is left open.
-/

namespace CrudForge.Rendering

/-! ## Where reading ends -/

section StopsAt

variable {ε ε' α β : Type} {read : List Fragment → Except ε α} {body : List Fragment}

/-- Reading a body ends at a fragment: whatever stands behind it, the error is the same, while
the fragments in front of it can go on to a body without any error. -/
structure StopsAt (read : List Fragment → Except ε α) (body : List Fragment) (index : Nat)
    (e : ε) : Prop where
  lt : index < body.length
  fails : ∀ rest, read (body.take (index + 1) ++ rest) = .error e
  passes : ∃ rest a, read (body.take index ++ rest) = .ok a

/-- The error of the fragment at which reading ends is that of the whole body. -/
theorem StopsAt.eq_error {index : Nat} {e : ε} (stops : StopsAt read body index e) :
    read body = .error e := by
  have whole := stops.fails (body.drop (index + 1))
  rwa [List.take_append_drop] at whole

theorem StopsAt.head {f : Fragment} {rest : List Fragment} {e : ε}
    (fails : ∀ rest, read (f :: rest) = .error e) (passes : ∃ rest a, read rest = .ok a) :
    StopsAt read (f :: rest) 0 e where
  lt := Nat.succ_pos _
  fails := fails
  passes := passes

theorem StopsAt.cons {read' : List Fragment → Except ε β} {f : Fragment} {index : Nat} {e : ε}
    (step : ∀ rest, ∃ g : β → α, read (f :: rest) = g <$> read' rest)
    (stops : StopsAt read' body index e) : StopsAt read (f :: body) (index + 1) e where
  lt := Nat.succ_lt_succ stops.lt
  fails rest := by
    obtain ⟨g, stepped⟩ := step (body.take (index + 1) ++ rest)
    rw [List.take_succ_cons, List.cons_append, stepped, stops.fails]
    rfl
  passes := by
    obtain ⟨rest, a, passed⟩ := stops.passes
    obtain ⟨g, stepped⟩ := step (body.take index ++ rest)
    refine ⟨rest, g a, ?_⟩
    rw [List.take_succ_cons, List.cons_append, stepped, passed]
    rfl

end StopsAt

/-! ## One fragment at a time -/

variable {g : TargetGrammar} {method : String} {depth depth' : Nat} {f : Fragment}

/-- The code of a fragment as it is printed. -/
def printedCode (g : TargetGrammar) (f : Fragment) : Except CodeFault String :=
  (f.code?.map fun code => code.expand (writeArg g)).getD (.ok "")

/-- The text of the line of a fragment whose code is written. -/
def lineText : Fragment → String → String
  | .statement _, code => code ++ ";"
  | .expr _, code => code
  | .beginBlock _, code => code ++ " \x7b"
  | .nextBlock _, code => "\x7d " ++ code ++ " \x7b"
  | .endBlock semicolon, _ => blockEnd semicolon

theorem exists_printedCode_iff : (∃ text, printedCode g f = .ok text) ↔ f.checkCode = .ok () := by
  rw [printedCode, Fragment.checkCode]
  cases f.code? with
  | none => simp
  | some code => simp [CodeBlock.exists_expand_eq_ok_iff]

theorem checkCode_eq_error_iff {fault : BodyFault} :
    f.checkCode = .error fault ↔ ∃ inner, printedCode g f = .error inner ∧ fault = .code inner := by
  rw [Fragment.checkCode_eq_error_iff, printedCode]
  cases f.code? with
  | none => simp
  | some code => simp [CodeBlock.expand_eq_error_iff]

theorem bodyLinesFrom_code {inner : CodeFault} (faulty : printedCode g f = .error inner)
    (rest : List Fragment) :
    bodyLinesFrom g method depth (f :: rest) = .error (.malformedBody method inner.message) := by
  rw [printedCode] at faulty
  rw [bodyLinesFrom, faulty]

/-- A fragment that has its place becomes one line, and what follows goes on behind it. -/
theorem bodyLinesFrom_cons {code : String} (printed : printedCode g f = .ok code)
    (goesOn : f.openAfter depth = some depth') (rest : List Fragment) :
    bodyLinesFrom g method depth (f :: rest) =
      (⟨f.level depth, lineText f code⟩ :: ·) <$> bodyLinesFrom g method depth' rest := by
  rw [printedCode] at printed
  cases f <;> cases depth <;> cases goesOn <;> rw [bodyLinesFrom, printed] <;> rfl

theorem exists_bodyLinesFrom_step (sound : f.checkCode = .ok ())
    (goesOn : f.openAfter depth = some depth') :
    ∃ line, ∀ rest, bodyLinesFrom g method depth (f :: rest) =
      (line :: ·) <$> bodyLinesFrom g method depth' rest := by
  obtain ⟨text, printed⟩ := (@exists_printedCode_iff g f).2 sound
  exact ⟨_, bodyLinesFrom_cons printed goesOn⟩

theorem bodyLinesFrom_misplaced (sound : f.checkCode = .ok ())
    (misplaced : f.openAfter depth = none) (rest : List Fragment) :
    bodyLinesFrom g method depth (f :: rest) = .error (.malformedBody method "unopened block") := by
  obtain ⟨text, printed⟩ := (@exists_printedCode_iff g f).2 sound
  rw [printedCode] at printed
  obtain ⟨rfl, ⟨code, rfl⟩ | ⟨semicolon, rfl⟩⟩ := Fragment.openAfter_eq_none_iff.1 misplaced <;>
    rw [bodyLinesFrom, printed]

/-! ## Whole bodies -/

section Walk

variable {index : Nat} {body : List Fragment}

/-- A body is printed if nothing is wrong with it but blocks that are left open. -/
theorem exists_bodyLinesFrom_eq_ok
    (fine : ∀ fault, checkBodyFrom index depth body = .error fault → ∃ n, fault = .leftOpen n) :
    ∃ lines, bodyLinesFrom g method depth body = .ok lines := by
  induction body generalizing index depth with
  | nil => exact ⟨[], rfl⟩
  | cons f rest ih =>
    rcases Outcome.ok_or_error f.checkCode with ⟨⟨⟩, sound⟩ | ⟨fault, faulty⟩
    · cases goesOn : f.openAfter depth with
      | some depth' =>
        rw [checkBodyFrom_step sound goesOn] at fine
        obtain ⟨lines, printed⟩ := ih fine
        obtain ⟨line, stepped⟩ := @exists_bodyLinesFrom_step g method _ _ _ sound goesOn
        exact ⟨line :: lines, by rw [stepped, printed]; rfl⟩
      | none =>
        obtain ⟨n, left⟩ := fine _ (checkBodyFrom_misplaced sound goesOn)
        cases f <;> cases left
    · obtain ⟨n, rfl⟩ := fine _ (checkBodyFrom_code faulty)
      obtain ⟨code, inner, -, -, coded⟩ := Fragment.checkCode_eq_error_iff.1 faulty
      cases coded

/-- Any other fault ends both walks at one fragment, for one reason if it is in the code. -/
theorem exists_stopsAt {fault : BodyFault}
    (failed : checkBodyFrom index depth body = .error fault) (other : ∀ n, fault ≠ .leftOpen n) :
    ∃ i reason, StopsAt (checkBodyFrom index depth) body i fault ∧
      StopsAt (bodyLinesFrom g method depth) body i (.malformedBody method reason) ∧
      ∀ inner, fault = .code inner → reason = fault.message := by
  induction body generalizing index depth with
  | nil =>
    rw [checkBodyFrom] at failed
    by_cases closed : depth = 0
    · rw [if_pos closed] at failed
      cases failed
    · rw [if_neg closed] at failed
      cases failed
      exact absurd rfl (other depth)
  | cons f rest ih =>
    -- Where the walk ends at `f`, the blocks in front of it can still be closed.
    have closing : ∃ rest a, checkBodyFrom index depth rest = .ok a :=
      ⟨_, (), checkBodyFrom_close index depth⟩
    have printing : ∃ rest lines, bodyLinesFrom g method depth rest = .ok lines := ⟨[], [], rfl⟩
    rcases Outcome.ok_or_error f.checkCode with ⟨⟨⟩, sound⟩ | ⟨fault', faulty⟩
    · cases goesOn : f.openAfter depth with
      | some depth' =>
        rw [checkBodyFrom_step sound goesOn] at failed
        obtain ⟨i, reason, checked, printed, same⟩ := ih failed
        obtain ⟨line, stepped⟩ := @exists_bodyLinesFrom_step g method _ _ _ sound goesOn
        refine ⟨i + 1, reason, checked.cons fun rest => ⟨id, ?_⟩,
          printed.cons fun rest => ⟨_, stepped rest⟩, same⟩
        rw [checkBodyFrom_step sound goesOn, id_map]
      | none =>
        rw [checkBodyFrom_misplaced sound goesOn] at failed
        cases failed
        refine ⟨0, _, .head (fun rest => checkBodyFrom_misplaced sound goesOn) closing,
          .head (bodyLinesFrom_misplaced sound goesOn) printing, fun inner coded => ?_⟩
        cases f <;> cases coded
    · rw [checkBodyFrom_code faulty] at failed
      cases failed
      obtain ⟨inner, printed, rfl⟩ := (@checkCode_eq_error_iff g f _).1 faulty
      exact ⟨0, _, .head (fun rest => checkBodyFrom_code faulty) closing,
        .head (bodyLinesFrom_code printed) printing, fun _ _ => rfl⟩

/-- A body is printed if it is accepted or some of its blocks are left open. -/
theorem exists_bodyLines_eq_ok
    (fine : ∀ fault, checkBody body = .error fault → ∃ n, fault = .leftOpen n) :
    ∃ lines, bodyLines g method body = .ok lines :=
  exists_bodyLinesFrom_eq_ok fine

end Walk

/-- A body that is accepted is printed, and so is one whose only fault is that blocks are left
open. Any other fault ends printing at the fragment at which it ends checking, with the same
reason if the fault is in the code. So nothing that is generated fails for a malformed body. -/
theorem bodyLines_agrees (g : TargetGrammar) (method : String) (body : List Fragment) :
    (checkBody body = .ok () → ∃ lines, bodyLines g method body = .ok lines) ∧
    (∀ n, checkBody body = .error (.leftOpen n) → ∃ lines, bodyLines g method body = .ok lines) ∧
    (∀ fault, checkBody body = .error fault → (∀ n, fault ≠ .leftOpen n) →
      ∃ i reason, StopsAt checkBody body i fault ∧
        StopsAt (bodyLines g method) body i (.malformedBody method reason) ∧
        bodyLines g method body = .error (.malformedBody method reason) ∧
        ∀ inner, fault = .code inner → reason = fault.message) ∧
    ∀ naming e c, Generation.generate naming e = .ok c →
      ∀ o name reason, renderClass g c o ≠ .error (.malformedBody name reason) := by
  refine ⟨fun accepted => ?_, fun n left => ?_, fun fault failed other => ?_,
    fun naming e c generated o name reason failed => ?_⟩
  · refine exists_bodyLines_eq_ok fun fault failed => ?_
    cases accepted.symm.trans failed
  · refine exists_bodyLines_eq_ok fun fault failed => ⟨n, ?_⟩
    cases left.symm.trans failed
    rfl
  · obtain ⟨i, reason, checked, printed, same⟩ := @exists_stopsAt g method _ _ _ _ failed other
    exact ⟨i, reason, checked, printed, printed.eq_error, same⟩
  · obtain ⟨m, mem, unprinted⟩ := exists_of_malformedBody failed
    have accepted := Generation.checkBody_of_generate generated mem
    obtain ⟨lines, printed⟩ := @exists_bodyLines_eq_ok g m.name m.body fun fault failed =>
      absurd (accepted.symm.trans failed) Outcome.ok_ne_error
    cases unprinted.symm.trans printed

theorem bodyLines_agrees_standard :
    (checkBody [.expr ⟨"x", []⟩] = .ok () ∧
      ∃ lines, bodyLines .standard "m" [.expr ⟨"x", []⟩] = .ok lines) ∧
    (checkBody [.beginBlock ⟨"x", []⟩] = .error (.leftOpen 1) ∧
      ∃ lines, bodyLines .standard "m" [.beginBlock ⟨"x", []⟩] = .ok lines) ∧
    (checkBody [.beginBlock ⟨"x", []⟩, .expr ⟨"$N", []⟩] =
        .error (.code (.missingArgument 1 "$N")) ∧
      ∃ i reason,
        StopsAt (bodyLines .standard "m") [.beginBlock ⟨"x", []⟩, .expr ⟨"$N", []⟩] i
          (.malformedBody "m" reason) ∧
        reason = (BodyFault.code (.missingArgument 1 "$N")).message) ∧
    ∃ c, Generation.generate {}
        (StaticEntity.metadata
          { idType := "i64", fields := [], crud := { name := "Order" }, endpoints := [] }) =
        .ok c ∧
      ∀ o name reason, renderClass .standard c o ≠ .error (.malformedBody name reason) := by
  refine ⟨⟨rfl, (bodyLines_agrees _ _ _).1 rfl⟩, ⟨rfl, (bodyLines_agrees _ _ _).2.1 1 rfl⟩,
    ⟨rfl, ?_⟩, ?_⟩
  · obtain ⟨i, reason, -, printed, -, same⟩ :=
      (bodyLines_agrees .standard "m" [.beginBlock ⟨"x", []⟩, .expr ⟨"$N", []⟩]).2.2.1
        (.code (.missingArgument 1 "$N")) rfl (fun n left => by cases left)
    exact ⟨i, reason, printed, same _ rfl⟩
  · obtain ⟨c, generated⟩ := (@Generation.exists_generate_iff (StaticEntity.metadata
        { idType := "i64", fields := [], crud := { name := "Order" }, endpoints := [] }) {}).2
      { nonempty := fun empty => absurd empty (by decide)
        same := rfl
        known := fun _ mem => absurd mem List.not_mem_nil
        distinct := fun filtered => absurd rfl filtered
        endpoints := fun _ mem => absurd mem List.not_mem_nil }
    exact ⟨c, generated, (bodyLines_agrees .standard "m" []).2.2.2 _ _ _ generated⟩

end CrudForge.Rendering
