import CrudForge.Grammar.Token

/-!
# Lexemes of token trees

Token trees are found again in their lexemes: `nest?` turns back what `flatAll` spreads out.
-/

namespace CrudForge.Grammar.Token

mutual

/-- The lexemes of a token tree. -/
def flat : Token → List Lexeme
  | .group d content => .opening d :: (flatAll content ++ [.closing d])
  | .ident text => [.token (.ident text)]
  | .mark c joint => [.token (.mark c joint)]
  | .literal kind text => [.token (.literal kind text)]

/-- The lexemes of token trees, one after the other. -/
def flatAll : List Token → List Lexeme
  | [] => []
  | t :: ts => t.flat ++ flatAll ts

end

@[simp] theorem flatAll_nil : flatAll [] = [] := rfl

@[simp] theorem flatAll_cons (t : Token) (ts : List Token) :
    flatAll (t :: ts) = t.flat ++ flatAll ts := rfl

@[simp] theorem flatAll_append (ts us : List Token) :
    flatAll (ts ++ us) = flatAll ts ++ flatAll us := by
  induction ts with
  | nil => rfl
  | cons t ts ih => rw [List.cons_append, flatAll_cons, ih, flatAll_cons, List.append_assoc]

mutual

theorem nestFrom_flat (outer : List (Delimiter × List Token)) (trees : List Token)
    (rest : List Lexeme) : (t : Token) →
    nestFrom outer trees (t.flat ++ rest) = nestFrom outer (t :: trees) rest
  | .ident _ | .mark _ _ | .literal _ _ => by
    cases outer <;> rfl
  | .group d content => by
    have inner := nestFrom_flatAll ((d, trees) :: outer) [] (.closing d :: rest) content
    have opened : nestFrom outer trees ((Token.group d content).flat ++ rest) =
        nestFrom ((d, trees) :: outer) [] (flatAll content ++ .closing d :: rest) := by
      rw [flat, List.cons_append, List.append_assoc]
      cases outer <;> rfl
    rw [opened, inner, List.append_nil, nestFrom, if_pos rfl, List.reverse_reverse]

theorem nestFrom_flatAll (outer : List (Delimiter × List Token)) (trees : List Token)
    (rest : List Lexeme) : (ts : List Token) →
    nestFrom outer trees (flatAll ts ++ rest) = nestFrom outer (ts.reverse ++ trees) rest
  | [] => rfl
  | t :: ts => by
    rw [flatAll_cons, List.append_assoc, nestFrom_flat outer trees _ t,
      nestFrom_flatAll outer (t :: trees) rest ts, List.reverse_cons, List.append_assoc]
    rfl

end

theorem nest?_flatAll (ts : List Token) : nest? (flatAll ts) = some ts := by
  have whole := nestFrom_flatAll [] [] [] ts
  rw [List.append_nil, List.append_nil] at whole
  rw [nest?, whole, nestFrom, List.reverse_reverse]

end CrudForge.Grammar.Token
