import CrudForge.Serving.Products
import CrudForge.Serving.Users

/-!
# Reading bodies back

The body of an answer is read back as the value that it was written for: words, users, products
whose price is finite, and pages of anything that is read back itself.
-/

namespace CrudForge

namespace Json

theorem asWord?_word (w : UInt64) : asWord? (word w) = some w := by
  have bounds : (0 ≤ (w.toNat : Int) && (w.toNat : Int) ≤ ((Nat.pow 2 64 : Nat) : Int) - 1) = true := by
    have below := w.toNat_lt
    simp only [Bool.and_eq_true, decide_eq_true_eq, Nat.pow_eq]
    omega
  rw [asWord?, word, nat, asInt?]
  rw [if_pos bounds]
  show some (w.toNat : Int).toNat.toUInt64 = some w
  rw [Int.toNat_natCast]
  exact congrArg some UInt64.ofNat_toNat

theorem asInt64?_toInt (i : Int64) : asInt64? (.int i.toInt) = some i.toInt := by
  have bounds : (-((Nat.pow 2 63 : Nat) : Int) ≤ i.toInt &&
      i.toInt ≤ ((Nat.pow 2 63 : Nat) : Int) - 1) = true := by
    have low := i.le_toInt
    have high := i.toInt_lt
    simp only [Bool.and_eq_true, decide_eq_true_eq, Nat.pow_eq]
    omega
  rw [asInt64?, asInt?, if_pos bounds]

theorem asFloat?_ofFloat {x : Float} (finite : x.isFinite = true) :
    asFloat? (ofFloat x) = some x := by
  rw [ofFloat, if_pos finite]
  rfl

/-- A list is read back if its elements are. -/
theorem asList?_map {α : Type} {encode : α → Json} {decode : Json → Option α} {as : List α}
    (back : ∀ a ∈ as, decode (encode a) = some a) :
    asList? decode (.arr (as.map encode)) = some as := by
  rw [asList?]
  induction as with
  | nil => rfl
  | cons a as ih =>
    obtain ⟨first, rest⟩ := List.forall_mem_cons.1 back
    rw [List.map_cons, List.mapM_cons, first, ih rest]
    rfl

end Json

open Json

theorem User.ofJson?_toJson (u : User) : User.ofJson? u.toJson = some u := by
  have members : asRecord? ["id", "email", "name"] u.toJson =
      some [some (.word u.id), some (.str u.email), some (.str u.name)] := rfl
  rw [User.ofJson?, members]
  show (do
    let id ← asWord? (.word u.id)
    some (User.mk id u.email u.name)) = some u
  rw [asWord?_word]
  rfl

theorem Product.ofJson?_toJson {p : Product} (finite : p.unitPrice.isFinite = true) :
    Product.ofJson? p.toJson = some p := by
  have members : asRecord? ["id", "category", "type", "unit_price"] p.toJson =
      some [some (.int p.id.toInt), some (.str p.category), some (.str p.type),
        some (.ofFloat p.unitPrice)] := rfl
  rw [Product.ofJson?, members]
  show (do
    let id ← asInt64? (.int p.id.toInt)
    let price ← asFloat? (.ofFloat p.unitPrice)
    some (Product.mk (Int64.ofInt id) p.category p.type price)) = some p
  rw [asInt64?_toInt, asFloat?_ofFloat finite]
  show some (Product.mk (Int64.ofInt p.id.toInt) p.category p.type p.unitPrice) = some p
  rw [Int64.ofInt_toInt]

theorem Page.ofJson?_toJson {α : Type} {encode : α → Json} {decode : Json → Option α}
    {p : Page α} (back : ∀ a ∈ p.content, decode (encode a) = some a) :
    Page.ofJson? decode (p.toJson encode) = some p := by
  have members : asRecord? ["content", "page", "size", "total_elements", "total_pages"]
      (p.toJson encode) =
      some [some (.arr (p.content.map encode)), some (.word p.page), some (.word p.size),
        some (.word p.totalElements), some (.word p.totalPages)] := rfl
  rw [Page.ofJson?, members]
  show (do
    let content ← asList? decode (.arr (p.content.map encode))
    let page ← asWord? (.word p.page)
    let size ← asWord? (.word p.size)
    let totalElements ← asWord? (.word p.totalElements)
    let totalPages ← asWord? (.word p.totalPages)
    some (Page.mk content page size totalElements totalPages)) = some p
  rw [asList?_map back, asWord?_word, asWord?_word, asWord?_word, asWord?_word]
  rfl

end CrudForge
