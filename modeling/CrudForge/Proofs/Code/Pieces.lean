import CrudForge.Proofs.Code.Expanding

/-!
# What a format means

A format splits into pieces: characters that stand for themselves, `$$`, and placeholders. Its block
is expanded iff it splits and its placeholders are for the arguments, one for each (`Split.Fits`),
and then the pieces are filled in (`expand_meaning`). Otherwise a fault is reported: of those that
the format has, the leftmost one, and if it has none, the number of arguments that are not used
(`Reported`). There is only one way to split a format (`isPrefix_of_text`), and so only one fault.
-/

namespace CrudForge.CodeBlock

/-- The letters of placeholders. -/
def letters : List Char := ['N', 'S', 'L']

/-- A piece of a format. -/
inductive Piece
  | plain (c : Char)
  /-- A dollar sign, which is written twice. -/
  | dollar
  | placeholder (letter : Char)

namespace Piece

/-- A piece as it stands in a format. -/
def chars : Piece → List Char
  | plain c => [c]
  | dollar => ['$', '$']
  | placeholder letter => ['$', letter]

/-- The letter of a placeholder. -/
def letter? : Piece → Option Char
  | placeholder letter => some letter
  | _ => none

/-- A dollar sign does not stand for itself, and a placeholder has one of three letters. -/
def Valid : Piece → Prop
  | plain c => c ≠ '$'
  | dollar => True
  | placeholder letter => letter ∈ letters

/-- Pieces as they stand in a format. -/
def text (pieces : List Piece) : List Char := pieces.flatMap chars

/-- The letters of the placeholders among some pieces. -/
def holes (pieces : List Piece) : List Char := pieces.filterMap letter?

/-- The text that pieces stand for if their placeholders take some arguments, one after the
other. -/
def fill (write : CodeArg → String) : List Piece → List CodeArg → List Char
  | [], _ => []
  | plain c :: pieces, args => c :: fill write pieces args
  | dollar :: pieces, args => '$' :: fill write pieces args
  | placeholder _ :: pieces, [] => fill write pieces []
  | placeholder _ :: pieces, arg :: args => (write arg).toList ++ fill write pieces args

/-- The beginning of a format that some pieces make up. -/
structure Begins (format : List Char) (pieces : List Piece) (rest : List Char) : Prop where
  valid : ∀ p ∈ pieces, p.Valid
  split : format = text pieces ++ rest

end Piece

open Piece

/-- A fault of what is left of a format, `count` placeholders of which have been read, and where
`next` is the argument of the next one. -/
inductive FaultAt (format : String) (count : Nat) (next : Option CodeArg) :
    List Char → CodeFault → Prop
  | dangling : FaultAt format count next ['$'] (.danglingDollar format)
  | unknown {marker : Char} {rest : List Char} :
    marker ≠ '$' → marker ∉ letters →
    FaultAt format count next ('$' :: marker :: rest) (.unknownPlaceholder marker format)
  | missing {letter : Char} {rest : List Char} :
    letter ∈ letters → next = none →
    FaultAt format count next ('$' :: letter :: rest) (.missingArgument (count + 1) format)
  | wrong {letter : Char} {rest : List Char} {arg : CodeArg} :
    letter ∈ letters → next = some arg → arg.marker ≠ letter →
    FaultAt format count next ('$' :: letter :: rest) (.wrongArgument (count + 1) letter arg)

/-- A fault at a position of a format, whatever other faults there are. A placeholder is for the
argument that has its number. -/
def Faulty (block : CodeBlock) (position : Nat) (fault : CodeFault) : Prop :=
  ∃ pieces rest, Begins block.format.toList pieces rest ∧ (text pieces).length = position ∧
    FaultAt block.format (holes pieces).length block.args[(holes pieces).length]? rest fault

/-- The fault that is reported: the leftmost one of a format, or if it has none, the number of
arguments that have no placeholder. -/
inductive Reported (block : CodeBlock) : CodeFault → Prop
  | leftmost {position : Nat} {fault : CodeFault} :
    block.Faulty position fault →
    (∀ position' fault', block.Faulty position' fault' → position ≤ position') →
    Reported block fault
  | unused {pieces : List Piece} :
    (∀ position fault, ¬ block.Faulty position fault) →
    Begins block.format.toList pieces [] → (holes pieces).length < block.args.length →
    Reported block (.unusedArguments (block.args.length - (holes pieces).length) block.format)

variable {write : CodeArg → String} {format : String} {position : Nat} {cs rest : List Char}
  {ps qs pieces : List Piece} {args taken left : List CodeArg} {fault : CodeFault}
  {block : CodeBlock}

/-! ## Pieces -/

theorem marker_mem_letters (a : CodeArg) : a.marker ∈ letters := by
  cases a <;> simp [CodeArg.marker, letters]

theorem dollar_notMem_letters : '$' ∉ letters := by
  decide

theorem isMarker_iff {c : Char} : (c = 'N' || c = 'S' || c = 'L') = true ↔ c ∈ letters := by
  simp [letters, or_assoc]

namespace Piece

theorem text_cons (p : Piece) (ps : List Piece) : text (p :: ps) = p.chars ++ text ps := rfl

theorem text_append (ps qs : List Piece) : text (ps ++ qs) = text ps ++ text qs :=
  List.flatMap_append

theorem holes_append (ps qs : List Piece) : holes (ps ++ qs) = holes ps ++ holes qs :=
  List.filterMap_append

theorem holes_placeholder (letter : Char) (ps : List Piece) :
    holes (.placeholder letter :: ps) = letter :: holes ps := rfl

/-- A piece in front of the pieces of what is behind it. -/
theorem Begins.cons {p : Piece} (begins : Begins cs pieces rest) (valid : p.Valid) :
    Begins (p.chars ++ cs) (p :: pieces) rest where
  valid := List.forall_mem_cons.2 ⟨valid, begins.valid⟩
  split := by rw [begins.split, text_cons, List.append_assoc]

theorem valid_dollar : dollar.Valid := trivial

theorem Begins.nil (cs : List Char) : Begins cs [] cs := ⟨by simp, rfl⟩

/-- The first piece of a format is known from its first two characters. -/
theorem head_unique {p q : Piece} (validP : p.Valid) (validQ : q.Valid) {xs ys : List Char}
    (same : p.chars ++ xs = q.chars ++ ys) : p = q ∧ xs = ys := by
  cases p <;> cases q <;>
    simp only [chars, List.cons_append, List.nil_append, List.cons.injEq] at same
  case plain.plain => exact ⟨congrArg _ same.1, same.2⟩
  case dollar.dollar => exact ⟨rfl, same.2.2⟩
  case placeholder.placeholder => exact ⟨congrArg _ same.2.1, same.2.2⟩
  case plain.dollar | plain.placeholder => exact absurd same.1 validP
  case dollar.plain | placeholder.plain => exact absurd same.1.symm validQ
  case dollar.placeholder => exact absurd (same.2.1 ▸ validQ) dollar_notMem_letters
  case placeholder.dollar => exact absurd (same.2.1 ▸ validP) dollar_notMem_letters

/-- There is only one way to split a format, and so the pieces of a shorter part are the first ones
of a longer part. -/
theorem isPrefix_of_text (validP : ∀ p ∈ ps, p.Valid) (validQ : ∀ q ∈ qs, q.Valid)
    {xs ys : List Char} (same : text ps ++ xs = text qs ++ ys)
    (shorter : (text qs).length ≤ (text ps).length) : qs <+: ps := by
  induction qs generalizing ps with
  | nil => exact List.nil_prefix
  | cons q qs ih =>
    obtain ⟨headQ, tailQ⟩ := List.forall_mem_cons.1 validQ
    cases ps with
    | nil => cases q <;> simp [text, chars] at shorter
    | cons p ps =>
      obtain ⟨headP, tailP⟩ := List.forall_mem_cons.1 validP
      rw [text_cons, text_cons, List.append_assoc, List.append_assoc] at same
      obtain ⟨rfl, behind⟩ := head_unique headP headQ same
      rw [text_cons, text_cons, List.length_append, List.length_append] at shorter
      exact List.cons_prefix_cons.2 ⟨rfl, ih tailP tailQ behind (Nat.le_of_add_le_add_left shorter)⟩

theorem eq_nil_of_text (empty : text ps = []) : ps = [] := by
  cases ps with
  | nil => rfl
  | cons p ps => cases p <;> cases empty

/-- A part of a format has only one split. -/
theorem Begins.unique {xs ys : List Char} (left : Begins cs ps xs) (right : Begins cs qs ys)
    (same : (text ps).length = (text qs).length) : ps = qs ∧ xs = ys := by
  have split : text ps ++ xs = text qs ++ ys := left.split.symm.trans right.split
  obtain ⟨more, rfl⟩ := isPrefix_of_text left.valid right.valid split (Nat.le_of_eq same.symm)
  have none : more = [] := by
    rw [text_append, List.length_append] at same
    exact eq_nil_of_text (List.eq_nil_of_length_eq_zero (Nat.left_eq_add.1 same.symm))
  rw [none, List.append_nil] at split ⊢
  exact ⟨rfl, List.append_cancel_left split⟩

/-! ## Success -/

/-- A format that splits into pieces whose placeholders fit stands for the text that fills them
in. -/
theorem expansion_of_fill (valid : ∀ p ∈ pieces, p.Valid)
    (fit : holes pieces = args.map CodeArg.marker) :
    Expansion write (text pieces) args (fill write pieces args) := by
  induction pieces generalizing args with
  | nil =>
    obtain rfl := List.map_eq_nil_iff.1 fit.symm
    exact .nil
  | cons p pieces ih =>
    obtain ⟨head, tail⟩ := List.forall_mem_cons.1 valid
    cases p with
    | plain c => exact .char head (ih tail fit)
    | dollar => exact .dollar (ih tail fit)
    | placeholder letter =>
      cases args with
      | nil => cases fit
      | cons a args =>
        rw [holes_placeholder, List.map_cons] at fit
        obtain ⟨rfl, rest⟩ := List.cons.inj fit
        exact .arg a (ih tail rest)

theorem exists_of_expansion {text' : List Char} (expansion : Expansion write cs args text') :
    ∃ pieces, Begins cs pieces [] ∧ holes pieces = args.map CodeArg.marker ∧
      text' = fill write pieces args := by
  induction expansion with
  | nil => exact ⟨[], .nil [], rfl, rfl⟩
  | @char c _ _ _ plain _ ih =>
    obtain ⟨pieces, begins, fit, rfl⟩ := ih
    have valid : (Piece.plain c).Valid := plain
    exact ⟨.plain c :: pieces, begins.cons valid, fit, rfl⟩
  | dollar _ ih =>
    obtain ⟨pieces, begins, fit, rfl⟩ := ih
    exact ⟨.dollar :: pieces, begins.cons valid_dollar, fit, rfl⟩
  | arg a _ ih =>
    obtain ⟨pieces, begins, fit, rfl⟩ := ih
    have valid : (Piece.placeholder a.marker).Valid := marker_mem_letters a
    exact ⟨.placeholder a.marker :: pieces, begins.cons valid, congrArg _ fit, rfl⟩

end Piece

theorem expand_eq_ok_iff_fill {t : String} :
    block.expand write = .ok t ↔
      ∃ pieces, Begins block.format.toList pieces [] ∧
        holes pieces = block.args.map CodeArg.marker ∧ t.toList = fill write pieces block.args := by
  rw [expand_eq_ok_iff]
  constructor
  · exact exists_of_expansion
  · rintro ⟨pieces, ⟨valid, split⟩, fit, filled⟩
    rw [split, List.append_nil, filled]
    exact expansion_of_fill valid fit

/-! ## Failure -/

/-- Where expanding fails, some pieces have been filled in, and behind them there is a fault, or
nothing but arguments. -/
theorem exists_stop (failed : expandFrom write format position cs args = .error fault) :
    ∃ pieces rest taken left, Begins cs pieces rest ∧ args = taken ++ left ∧
      holes pieces = taken.map CodeArg.marker ∧
      (FaultAt format (position + taken.length) left.head? rest fault ∨
        rest = [] ∧ left ≠ [] ∧ fault = .unusedArguments left.length format) := by
  fun_induction expandFrom write format position cs args with
  | case1 => cases failed
  | case2 position arg args =>
    cases failed
    exact ⟨[], [], [], arg :: args, .nil _, rfl, rfl, .inr ⟨rfl, List.cons_ne_nil _ _, rfl⟩⟩
  | case3 position args =>
    cases failed
    exact ⟨[], _, [], args, .nil _, rfl, rfl, .inl .dangling⟩
  | case4 position rest args ih =>
    obtain ⟨pieces, rest, taken, left, begins, rfl, fit, stop⟩ :=
      ih (Outcome.map_eq_error_iff.1 failed)
    exact ⟨.dollar :: pieces, rest, taken, left, begins.cons valid_dollar, rfl, fit, stop⟩
  | case5 position marker rest _ letter =>
    cases failed
    exact ⟨[], _, [], [], .nil _, rfl, rfl, .inl (.missing (isMarker_iff.1 letter) rfl)⟩
  | case6 position rest a args _ letter ih =>
    obtain ⟨pieces, rest, taken, left, begins, rfl, fit, stop⟩ :=
      ih (Outcome.map_eq_error_iff.1 failed)
    have valid : (Piece.placeholder a.marker).Valid := marker_mem_letters a
    refine ⟨.placeholder a.marker :: pieces, rest, a :: taken, left, begins.cons valid, rfl,
      congrArg _ fit, ?_⟩
    rw [List.length_cons, Nat.add_comm taken.length, ← Nat.add_assoc]
    exact stop
  | case7 position marker rest _ letter a args other =>
    cases failed
    exact ⟨[], _, [], a :: args, .nil _, rfl, rfl, .inl (.wrong (isMarker_iff.1 letter) rfl other)⟩
  | case8 position marker rest args notDollar letter =>
    cases failed
    exact ⟨[], _, [], args, .nil _, rfl, rfl,
      .inl (.unknown notDollar fun known => letter (isMarker_iff.2 known))⟩
  | case9 position c rest args last inner ih =>
    obtain ⟨pieces, rest', taken, left, begins, rfl, fit, stop⟩ :=
      ih (Outcome.map_eq_error_iff.1 failed)
    have valid : (Piece.plain c).Valid := by
      intro same
      cases rest with
      | nil => exact last same rfl
      | cons marker rest => exact inner marker rest same rfl
    exact ⟨.plain c :: pieces, rest', taken, left, begins.cons valid, rfl, fit, stop⟩

/-- The fault behind some pieces is not one that is behind more of them, if those fit. -/
theorem not_faultAt_of_fit {p : Piece} {more : List Piece} {count : Nat} (valid : p.Valid)
    (fit : holes (ps ++ p :: more) = taken.map CodeArg.marker)
    (number : (holes ps).length = count) :
    ¬ FaultAt format count (taken ++ left)[count]? (p.chars ++ rest) fault := by
  intro faulty
  cases p with
  | plain c => cases faulty <;> exact valid rfl
  | dollar =>
    cases faulty with
    | unknown other => exact other rfl
    | missing letter | wrong letter => exact absurd letter (by decide)
  | placeholder letter =>
    -- the argument with the number of this placeholder
    have found : (taken.map CodeArg.marker)[count]? = some letter := by
      rw [← fit, holes_append, ← number, List.getElem?_append_right (Nat.le_refl _), Nat.sub_self]
      rfl
    rw [List.getElem?_map] at found
    obtain ⟨a, here, marked⟩ := Option.map_eq_some_iff.1 found
    have next : (taken ++ left)[count]? = some a := by
      rw [List.getElem?_append_left (List.getElem?_eq_some_iff.1 here).1, here]
    cases faulty with
    | unknown _ unknown => exact unknown valid
    | missing _ none => cases next.symm.trans none
    | wrong _ same other =>
      cases next.symm.trans same
      exact other marked

/-- In front of pieces that fit there is no fault. -/
theorem le_of_faulty (begins : Begins block.format.toList pieces rest)
    (split : block.args = taken ++ left) (fit : holes pieces = taken.map CodeArg.marker)
    (faulty : block.Faulty position fault) : (text pieces).length ≤ position := by
  obtain ⟨front, rest', begins', rfl, faulty⟩ := faulty
  by_contra shorter
  have same : text pieces ++ rest = text front ++ rest' :=
    begins.split.symm.trans begins'.split
  obtain ⟨more, rfl⟩ := isPrefix_of_text begins.valid begins'.valid same (Nat.le_of_not_le shorter)
  cases more with
  | nil =>
    rw [List.append_nil] at shorter
    exact shorter (Nat.le_refl _)
  | cons p more =>
    have valid : p.Valid := begins.valid p (List.mem_append_right _ List.mem_cons_self)
    rw [text_append, List.append_assoc] at same
    rw [← List.append_cancel_left same, split, text_cons, List.append_assoc] at faulty
    exact not_faultAt_of_fit valid fit rfl faulty

/-- A format has no fault if it splits into pieces that fit. -/
theorem not_faulty (begins : Begins block.format.toList pieces [])
    (split : block.args = taken ++ left) (fit : holes pieces = taken.map CodeArg.marker) :
    ¬ block.Faulty position fault := by
  intro faulty
  have behind := le_of_faulty begins split fit faulty
  obtain ⟨front, rest, begins', rfl, faulty⟩ := faulty
  have whole := congrArg List.length (begins.split.symm.trans begins'.split)
  rw [List.append_nil, List.length_append] at whole
  have more : 0 < rest.length := by cases faulty <;> exact Nat.succ_pos _
  omega

theorem reported_of_expand (failed : block.expand write = .error fault) : block.Reported fault := by
  rw [expand, Outcome.map_eq_error_iff] at failed
  obtain ⟨pieces, rest, taken, left, begins, split, fit, stop⟩ := exists_stop failed
  have number : (holes pieces).length = taken.length := by rw [fit, List.length_map]
  rcases stop with faulty | ⟨rfl, more, rfl⟩
  · refine .leftmost ⟨pieces, rest, begins, rfl, ?_⟩
      fun position fault => le_of_faulty begins split fit
    rw [number, split, List.getElem?_append_right (Nat.le_refl _), Nat.sub_self,
      ← List.head?_eq_getElem?]
    rwa [Nat.zero_add] at faulty
  · have count : left.length = block.args.length - (holes pieces).length := by
      rw [split, List.length_append, number, Nat.add_sub_cancel_left]
    rw [count]
    refine .unused (fun position fault => not_faulty begins split fit) begins ?_
    rw [split, List.length_append, number]
    exact Nat.lt_add_of_pos_right (List.length_pos_of_ne_nil more)

theorem FaultAt.unique {count : Nat} {next : Option CodeArg} {fault' : CodeFault}
    (left : FaultAt format count next rest fault) (right : FaultAt format count next rest fault') :
    fault = fault' := by
  cases left <;> cases right <;> simp_all

theorem Reported.unique {fault' : CodeFault} (left : block.Reported fault)
    (right : block.Reported fault') : fault = fault' := by
  cases left with
  | leftmost faulty first =>
    cases right with
    | leftmost faulty' first' =>
      have le := first _ _ faulty'
      have ge := first' _ _ faulty
      obtain ⟨ps, rest, begins, rfl, faulty⟩ := faulty
      obtain ⟨qs, rest', begins', rfl, faulty'⟩ := faulty'
      obtain ⟨rfl, rfl⟩ := begins.unique begins' (Nat.le_antisymm le ge)
      exact faulty.unique faulty'
    | unused none => exact absurd faulty (none _ _)
  | unused none begins =>
    cases right with
    | leftmost faulty => exact absurd faulty (none _ _)
    | unused _ begins' =>
      have same := congrArg List.length (begins.split.symm.trans begins'.split)
      rw [List.append_nil, List.append_nil] at same
      rw [(begins.unique begins' same).1]

theorem expand_eq_error_iff_reported :
    block.expand write = .error fault ↔ block.Reported fault := by
  refine ⟨reported_of_expand, fun reported => ?_⟩
  rcases Outcome.ok_or_error (block.expand write) with ⟨text, expanded⟩ | ⟨fault', failed⟩
  · obtain ⟨pieces, begins, fit, -⟩ := expand_eq_ok_iff_fill.1 expanded
    have whole : block.args = block.args ++ [] := (List.append_nil _).symm
    cases reported with
    | leftmost faulty => exact absurd faulty (not_faulty begins whole fit)
    | unused _ begins' more =>
      have same := congrArg List.length (begins.split.symm.trans begins'.split)
      rw [List.append_nil, List.append_nil] at same
      rw [← (begins.unique begins' same).1, fit, List.length_map] at more
      exact absurd more (Nat.lt_irrefl _)
  · rw [failed, reported.unique (reported_of_expand failed)]

/-- A block is expanded iff its format splits into pieces whose placeholders are for its arguments,
one for each and in their order, and its text fills the arguments in as they are written. Otherwise
the leftmost fault of the format is reported, or the number of the arguments that are left if it
has none. How arguments are written makes no difference to that, and checking finds the same. -/
theorem expand_meaning (block : CodeBlock) (write : CodeArg → String) :
    (∀ t, block.expand write = .ok t ↔
      ∃ pieces, Begins block.format.toList pieces [] ∧
        holes pieces = block.args.map CodeArg.marker ∧ t.toList = fill write pieces block.args) ∧
    (∀ fault, block.expand write = .error fault ↔ block.Reported fault) ∧
    (block.check = .ok () ↔ ∃ t, block.expand write = .ok t) ∧
    ∀ fault, block.check = .error fault ↔ block.expand write = .error fault :=
  ⟨fun _ => expand_eq_ok_iff_fill, fun _ => expand_eq_error_iff_reported,
    exists_expand_eq_ok_iff.symm, fun _ => expand_eq_error_iff.symm⟩

end CrudForge.CodeBlock
