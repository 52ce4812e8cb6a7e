import CrudForge.Proofs.Code.Derivation

/-!
# The blocks of a body

`Block.At` says where a block stands in a body. No two blocks begin at one place
(`Block.eq_of_fragments_append`), and a block that begins in a derivable body ends in it
(`Block.At.of_append`). Whatever opens a block, goes on with one or closes one in a derivable body
does so for a block of that body (`Derivable.bounds`).
-/

namespace CrudForge

namespace Block

/-- The bodies of a block are derivable. -/
structure WellFormed (b : Block) : Prop where
  inner : Derivable b.inner
  arms : ∀ arm ∈ b.arms, Derivable arm.2

/-- A block stands in a body from the `i`-th fragment on. -/
structure At (b : Block) (body : List Fragment) (i : Nat) : Prop where
  wellFormed : b.WellFormed
  split : ∃ front back, body = front ++ (b.fragments ++ back) ∧ front.length = i

/-- For each fragment of the bodies that continue a block, whether it stands inside of it. -/
def continuedInside (arms : List (CodeBlock × List Fragment)) : List Bool :=
  arms.flatMap fun arm => false :: arm.2.map fun _ => true

/-- For each fragment of a block, whether it stands inside of it. The fragments that open the
block, go on with it and close it do not. -/
def inside (b : Block) : List Bool :=
  false :: (b.inner.map (fun _ => true) ++ (continuedInside b.arms ++ [false]))

theorem continuedInside_cons (arm : CodeBlock × List Fragment)
    (arms : List (CodeBlock × List Fragment)) (flags : List Bool) :
    continuedInside (arm :: arms) ++ flags =
      false :: (arm.2.map (fun _ => true) ++ (continuedInside arms ++ flags)) := by
  rw [← List.append_assoc]
  rfl

theorem length_continuedInside (arms : List (CodeBlock × List Fragment)) :
    (continuedInside arms).length = (continued arms).length := by
  simp [continuedInside, continued, List.length_flatMap]

theorem length_inside (b : Block) : b.inside.length = b.fragments.length := by
  simp [inside, fragments, length_continuedInside]

end Block

variable {body front rest t : List Fragment} {i k : Nat}

theorem Block.WellFormed.derivable {b : Block} (sound : b.WellFormed) : Derivable b.fragments := by
  have alone := Derivable.block sound.inner sound.arms .empty
  rw [List.append_nil] at alone
  exact alone

/-! ## A place has one block -/

/-- A derivable body does not go on with a fragment that has no place behind it. -/
theorem Derivable.not_append_cons {f : Fragment} (derivable : Derivable body)
    (stop : f.openAfter 0 = none) : ¬ Derivable (body ++ f :: rest) := by
  intro whole
  have through := whole.openBehind 0
  rw [openBehind_append (derivable.openBehind 0)] at through
  rcases openBehind_cons_eq_some_iff.1 through with ⟨_, goesOn, -⟩
  cases stop.symm.trans goesOn

theorem Derivable.cut {body' rest' : List Fragment} {f f' : Fragment} (derivable : Derivable body)
    (derivable' : Derivable body') (stop : f.openAfter 0 = none) (stop' : f'.openAfter 0 = none)
    (same : body ++ f :: rest = body' ++ f' :: rest') :
    body = body' ∧ f :: rest = f' :: rest' := by
  rcases List.append_eq_append_iff.1 same with ⟨more, longer, same⟩ | ⟨more, longer, same⟩
  · cases more with
    | nil => exact ⟨by rw [longer, List.append_nil], same⟩
    | cons m more =>
      cases (List.cons.inj same).1
      exact absurd (longer ▸ derivable') (derivable.not_append_cons stop)
  · cases more with
    | nil => exact ⟨by rw [longer, List.append_nil], same.symm⟩
    | cons m more =>
      cases (List.cons.inj same).1
      exact absurd (longer ▸ derivable) (derivable'.not_append_cons stop')

namespace Block

theorem exists_stop (arms : List (CodeBlock × List Fragment)) (semicolon : Bool)
    (rest : List Fragment) :
    ∃ f more, continued arms ++ .endBlock semicolon :: rest = f :: more ∧
      f.openAfter 0 = none := by
  cases arms with
  | nil => exact ⟨_, _, rfl, rfl⟩
  | cons arm arms => exact ⟨_, _, rfl, rfl⟩

theorem continued_inj {arms arms' : List (CodeBlock × List Fragment)} {semicolon semicolon' : Bool}
    {rest' : List Fragment} (each : ∀ arm ∈ arms, Derivable arm.2)
    (each' : ∀ arm ∈ arms', Derivable arm.2)
    (same : continued arms ++ .endBlock semicolon :: rest =
      continued arms' ++ .endBlock semicolon' :: rest') :
    arms = arms' ∧ semicolon = semicolon' ∧ rest = rest' := by
  induction arms generalizing arms' with
  | nil =>
    cases arms' with
    | nil =>
      cases same
      exact ⟨rfl, rfl, rfl⟩
    | cons arm' arms' => cases (List.cons.inj same).1
  | cons arm arms ih =>
    cases arms' with
    | nil => cases (List.cons.inj same).1
    | cons arm' arms' =>
      rcases arm with ⟨code, inner⟩
      rcases arm' with ⟨code', inner'⟩
      obtain ⟨first, others⟩ := List.forall_mem_cons.1 each
      obtain ⟨first', others'⟩ := List.forall_mem_cons.1 each'
      rw [continued_cons, continued_cons, List.cons_append, List.cons_append, List.append_assoc,
        List.append_assoc] at same
      obtain ⟨opening, same⟩ := List.cons.inj same
      obtain ⟨f, more, next, stop⟩ := exists_stop arms semicolon rest
      obtain ⟨f', more', next', stop'⟩ := exists_stop arms' semicolon' rest'
      rw [next, next'] at same
      obtain ⟨rfl, behind⟩ := first.cut first' stop stop' same
      rw [← next, ← next'] at behind
      obtain ⟨rfl, last⟩ := ih others others' behind
      cases opening
      exact ⟨rfl, last⟩

/-- The grammar reads a list of fragments in one way only: at most one block begins it. -/
theorem eq_of_fragments_append {b b' : Block} {rest' : List Fragment} (sound : b.WellFormed)
    (sound' : b'.WellFormed) (same : b.fragments ++ rest = b'.fragments ++ rest') :
    b = b' ∧ rest = rest' := by
  rcases b with ⟨opening, inner, arms, semicolon⟩
  rcases b' with ⟨opening', inner', arms', semicolon'⟩
  rw [fragments_append, fragments_append] at same
  obtain ⟨first, same⟩ := List.cons.inj same
  obtain ⟨f, more, next, stop⟩ := exists_stop arms semicolon rest
  obtain ⟨f', more', next', stop'⟩ := exists_stop arms' semicolon' rest'
  rw [next, next'] at same
  obtain ⟨rfl, behind⟩ := sound.inner.cut sound'.inner stop stop' same
  rw [← next, ← next'] at behind
  obtain ⟨rfl, rfl, last⟩ := continued_inj sound.arms sound'.arms behind
  cases first
  exact ⟨rfl, last⟩

end Block

/-- Where a derivable body opens a block, it also holds the rest of it. -/
theorem Derivable.exists_block {code : CodeBlock}
    (derivable : Derivable (front ++ .beginBlock code :: rest)) :
    ∃ (b : Block) (back : List Fragment), b.WellFormed ∧
      .beginBlock code :: rest = b.fragments ++ back := by
  rcases openBehind_append_eq_some_iff.1 (derivable_iff.1 derivable) with ⟨depth, -, closed⟩
  rw [openBehind_cons rfl] at closed
  cases closing_of_openBehind closed with
  | @block _ inner back arms semicolon first each =>
    exact ⟨⟨code, inner, arms, semicolon⟩, back, ⟨first, each⟩,
      (Block.fragments_append ⟨code, inner, arms, semicolon⟩ back).symm⟩

/-- A block that begins in a derivable body ends in it. -/
theorem Block.At.of_append {b : Block} (stands : b.At (body ++ t) i) (derivable : Derivable body)
    (first : i < body.length) : b.At body i := by
  rcases stands with ⟨sound, front, back, same, rfl⟩
  have begins : front <+: body :=
    List.prefix_of_prefix_length_le ⟨_, same.symm⟩ ⟨t, rfl⟩ (Nat.le_of_lt first)
  obtain ⟨tail, rfl⟩ := begins
  rw [List.append_assoc] at same
  have behind := List.append_cancel_left same
  cases tail with
  | nil =>
    rw [List.append_nil] at first
    exact absurd first (Nat.lt_irrefl _)
  | cons f rest =>
    have opened := behind
    rw [Block.fragments_append] at opened
    obtain ⟨rfl, -⟩ := List.cons.inj opened
    obtain ⟨b', back', sound', own⟩ := derivable.exists_block
    rw [own, List.append_assoc] at behind
    obtain ⟨rfl, -⟩ := Block.eq_of_fragments_append sound' sound behind
    exact ⟨sound, front, back', by rw [own], rfl⟩

theorem Block.At.le_length {b : Block} (stands : b.At body i) :
    i + b.fragments.length ≤ body.length := by
  rcases stands with ⟨-, front, back, rfl, rfl⟩
  simp only [List.length_append]
  omega

theorem Block.at_append_iff {b : Block} :
    b.At (front ++ t) (front.length + i) ↔ b.At t i := by
  constructor
  · rintro ⟨sound, front', back, same, place⟩
    refine ⟨sound, front'.drop front.length, back, ?_, by rw [List.length_drop]; omega⟩
    have dropped := congrArg (List.drop front.length) same
    rw [List.drop_left, List.drop_append_of_le_length (by omega)] at dropped
    exact dropped
  · rintro ⟨sound, front', back, rfl, rfl⟩
    exact ⟨sound, front ++ front', back, (List.append_assoc ..).symm, List.length_append⟩

/-! ## Every brace belongs to a block -/

/-- Whether a fragment opens a block, goes on with one or closes one. -/
def Fragment.isBound : Fragment → Bool
  | statement _ | expr _ => false
  | beginBlock _ | nextBlock _ | endBlock _ => true

/-- The `k`-th fragment of a body opens a block of it, goes on with it or closes it. -/
def Bounds (body : List Fragment) (k : Nat) : Prop :=
  ∃ (b : Block) (i : Nat), b.At body i ∧ i ≤ k ∧ b.inside[k - i]? = some false

theorem Bounds.extend (bounds : Bounds body k) (front back : List Fragment) :
    Bounds (front ++ (body ++ back)) (front.length + k) := by
  rcases bounds with ⟨b, i, ⟨sound, front', back', rfl, rfl⟩, first, outside⟩
  refine ⟨b, front.length + front'.length, ⟨sound, front ++ front', back' ++ back, ?_, ?_⟩, ?_, ?_⟩
  · simp only [List.append_assoc]
  · exact List.length_append
  · omega
  · rw [Nat.add_sub_add_left]
    exact outside

/-- What goes on with a block or closes it is a bound of that block, or of one in a body of it. -/
theorem bounds_continued {arms : List (CodeBlock × List Fragment)} {f : Fragment} {semicolon : Bool}
    (each : ∀ arm ∈ arms, ∀ k f, arm.2[k]? = some f → f.isBound → Bounds arm.2 k)
    (here : (Block.continued arms ++ [.endBlock semicolon])[k]? = some f) (bound : f.isBound) :
    (Block.continuedInside arms ++ [false])[k]? = some false ∨
      Bounds (Block.continued arms ++ [.endBlock semicolon]) k := by
  induction arms generalizing k with
  | nil =>
    cases k with
    | zero => exact .inl rfl
    | succ k => cases here
  | cons arm arms ih =>
    obtain ⟨first, others⟩ := List.forall_mem_cons.1 each
    rw [Block.continuedInside_cons]
    rw [Block.continued_cons, List.cons_append, List.append_assoc] at here ⊢
    cases k with
    | zero => exact .inl rfl
    | succ k =>
      rw [List.getElem?_cons_succ] at here ⊢
      rcases Nat.lt_or_ge k arm.2.length with within | behind
      · rw [List.getElem?_append_left within] at here
        have bounds := (first k f here bound).extend [.nextBlock arm.1]
          (Block.continued arms ++ [.endBlock semicolon])
        rw [Nat.add_comm k]
        exact .inr bounds
      · obtain ⟨j, rfl⟩ := Nat.exists_eq_add_of_le behind
        rw [List.getElem?_append_right (by simp), List.length_map, Nat.add_sub_cancel_left]
        rw [List.getElem?_append_right (by simp), Nat.add_sub_cancel_left] at here
        rcases ih others here with own | bounds
        · exact .inl own
        · have moved := bounds.extend (.nextBlock arm.1 :: arm.2) []
          rw [List.append_nil, List.length_cons] at moved
          rw [Nat.add_right_comm]
          exact .inr moved

theorem Block.WellFormed.bounds {b : Block} (sound : b.WellFormed) {f : Fragment}
    (inner : ∀ k f, b.inner[k]? = some f → f.isBound → Bounds b.inner k)
    (arms : ∀ arm ∈ b.arms, ∀ k f, arm.2[k]? = some f → f.isBound → Bounds arm.2 k)
    (here : b.fragments[k]? = some f) (bound : f.isBound) : Bounds b.fragments k := by
  have own (outside : b.inside[k]? = some false) : Bounds b.fragments k :=
    ⟨b, 0, ⟨sound, [], [], by simp, rfl⟩, Nat.zero_le k, outside⟩
  cases k with
  | zero => exact own rfl
  | succ k =>
    unfold fragments at here
    rw [List.getElem?_cons_succ] at here
    unfold inside at own
    rw [List.getElem?_cons_succ] at own
    rcases Nat.lt_or_ge k b.inner.length with within | behind
    · rw [List.getElem?_append_left within] at here
      have bounds := (inner k f here bound).extend [.beginBlock b.opening]
          (continued b.arms ++ [.endBlock b.semicolon])
      rw [Nat.add_comm k]
      exact bounds
    · obtain ⟨j, rfl⟩ := Nat.exists_eq_add_of_le behind
      rw [List.getElem?_append_right (by simp), List.length_map, Nat.add_sub_cancel_left] at own
      rw [List.getElem?_append_right (by simp), Nat.add_sub_cancel_left] at here
      rcases bounds_continued arms here bound with outside | bounds
      · exact own outside
      · have moved := bounds.extend (.beginBlock b.opening :: b.inner) []
        rw [List.append_nil, List.length_cons, Nat.add_right_comm] at moved
        exact moved

theorem bounds_cons {f f' : Fragment} (plain : f.isBound = false)
    (each : ∀ k f', rest[k]? = some f' → f'.isBound → Bounds rest k)
    (here : (f :: rest)[k]? = some f') (bound : f'.isBound) : Bounds (f :: rest) k := by
  cases k with
  | zero =>
    cases here
    rw [plain] at bound
    cases bound
  | succ k =>
    have moved := (each k f' here bound).extend [f] []
    rw [List.append_nil, Nat.add_comm] at moved
    exact moved

/-- In a derivable body, every fragment but statements and expressions bounds a block. -/
theorem Derivable.bounds (derivable : Derivable body) {f : Fragment} (here : body[k]? = some f)
    (bound : f.isBound) : Bounds body k := by
  induction derivable generalizing k f with
  | empty => cases here
  | statement _ ih => exact bounds_cons rfl (fun _ _ => ih) here bound
  | expr _ ih => exact bounds_cons rfl (fun _ _ => ih) here bound
  | @block b rest inner each _ ihInner ihEach ih =>
    have sound : b.WellFormed := ⟨inner, each⟩
    rcases Nat.lt_or_ge k b.fragments.length with within | behind
    · rw [List.getElem?_append_left within] at here
      have bounds :=
        sound.bounds (fun _ _ => ihInner) (fun arm mem _ _ => ihEach arm mem) here bound
      have moved := bounds.extend [] rest
      rw [List.length_nil, Nat.zero_add] at moved
      exact moved
    · obtain ⟨j, rfl⟩ := Nat.exists_eq_add_of_le behind
      rw [List.getElem?_append_right (by simp), Nat.add_sub_cancel_left] at here
      have moved := (ih here bound).extend b.fragments []
      rw [List.append_nil] at moved
      exact moved

end CrudForge
