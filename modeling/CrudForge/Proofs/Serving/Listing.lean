import Mathlib.Data.List.Nodup
import CrudForge.Proofs.Serving.History
import CrudForge.Proofs.Serving.Pages

/-!
# Listings in pages

Behind any history, a service lists what it keeps in the order of the identifiers. Each window
shows the rows at its places, and the pages of one size list every row once (`paged_history`).
-/

namespace CrudForge

variable {ID T : Type}

/-- The entities of a map that are asked for, in the order of their identifiers. -/
structure Live [LT ID] (idOf : T → ID) (m : ID → Option T) (asked : T → Prop)
    (rows : List T) : Prop where
  ascending : rows.Pairwise fun a b => idOf a < idOf b
  mem_iff : ∀ e, e ∈ rows ↔ m (idOf e) = some e ∧ asked e

/-- A call answers with a page. -/
def AnswersPage (encode : T → Json) (p : Page T) (r : ServiceResult) : Prop :=
  r = .ok { status := .ok, body := some (p.toJson encode) }

/-- A listing shows some rows in pages. -/
structure Paged (encode : T → Json) (decode : Json → Option T) (rows : List T)
    (listing : Option UInt64 → Option UInt64 → ServiceResult) : Prop where
  window : ∀ page size, ∃ p : Page T, AnswersPage encode p (listing (some page) (some size)) ∧
    p.Shows ⟨page, size⟩ rows
  whole : ∃ p : Page T, AnswersPage encode p (listing none none) ∧
    p.content = rows.take 2147483647 ∧ p.page = 0 ∧ p.size = 2147483647 ∧
    p.totalElements.toNat = rows.length ∧ p.totalPages.toNat = rows.length ⌈/⌉ (2147483647 : Nat)
  withoutPage : ∀ size, listing none size = listing none none
  withoutSize : ∀ page, listing page none = listing none none
  inTurn : ∀ size : UInt64, 0 < size → ∃ p : Nat → Page T,
    (∀ n < rows.length ⌈/⌉ size.toNat,
      AnswersPage encode (p n) (listing (some n.toUInt64) (some size))) ∧
    (List.range (rows.length ⌈/⌉ size.toNat)).flatMap (fun n => (p n).content) = rows
  readBack : (∀ e ∈ rows, decode (encode e) = some e) → ∀ page size, ∃ p : Page T,
    Answers (Page.ofJson? decode) p (listing page size) ∧ p.Shows (.ofOptions page size) rows

/-! ## Rows -/

theorem Live.nodup [LT ID] [Std.Irrefl (α := ID) (· < ·)] {idOf : T → ID}
    {m : ID → Option T} {asked : T → Prop} {rows : List T} (live : Live idOf m asked rows) :
    rows.Nodup := by
  refine live.ascending.imp fun less same => ?_
  rw [same] at less
  exact Std.Irrefl.irrefl _ less

/-- A table lists the entities of the map that it keeps. -/
theorem Store.Keeps.live [LT ID] {key : ID → Int} {idOf : T → ID} {s : Store T}
    {m : ID → Option T} (keeps : s.Keeps key m)
    (ordered : ∀ a b, key a < key b → a < b) (placed : ∀ id e, m id = some e → idOf e = id)
    (asked : T → Prop) [DecidablePred asked] :
    Live idOf m asked (s.table.toList.filter asked) where
  ascending := by
    refine List.Pairwise.filter _ (List.pairwise_map.2 (s.table.sorted.imp_of_mem ?_))
    intro a b here there less
    obtain ⟨id, same, found⟩ := (keeps.rows a.1 a.2).1 here
    obtain ⟨id', same', found'⟩ := (keeps.rows b.1 b.2).1 there
    rw [placed id a.2 found, placed id' b.2 found']
    refine ordered id id' ?_
    rw [same, same']
    exact less
  mem_iff e := by
    rw [List.mem_filter, decide_eq_true_iff]
    refine and_congr_left fun _ => ?_
    rw [Table.toList, List.mem_map]
    constructor
    · rintro ⟨row, here, rfl⟩
      obtain ⟨id, -, found⟩ := (keeps.rows row.1 row.2).1 here
      rw [placed id row.2 found]
      exact found
    · intro found
      exact ⟨(key (idOf e), e), (keeps.rows _ e).2 ⟨idOf e, rfl, found⟩, rfl⟩

/-- Every row has been saved, and so there are no more rows than actions. -/
theorem Live.length_le [LT ID] [Std.Irrefl (α := ID) (· < ·)] [DecidableEq ID] {R : Type}
    {idOf : T → ID} {history : List (Service.Action ID T R)} {asked : T → Prop} {rows : List T}
    (live : Live idOf (Store.lastWritten (Service.Action.writes idOf) history) asked rows) :
    rows.length ≤ history.length := by
  let save (e : T) : Service.Action ID T R := .save e
  have once : (rows.map save).Nodup :=
    live.nodup.map fun _ _ same => Service.Action.save.inj same
  have saved : rows.map save ⊆ history := by
    intro a written
    obtain ⟨e, here, rfl⟩ := List.mem_map.1 written
    exact (Service.mem_of_lastWritten ((live.mem_iff e).1 here).1).1
  have fits := (List.subperm_of_subset once saved).length_le
  rw [List.length_map] at fits
  exact fits

/-! ## Pages -/

section

variable {encode : T → Json} {decode : Json → Option T} {rows : List T}
  {listing : Option UInt64 → Option UInt64 → ServiceResult}

/-- A listing that cuts its pages out of some rows shows them in pages. -/
theorem paged_of_slice (short : rows.length < 2 ^ 64)
    (cut : ∀ page size,
      AnswersPage encode (Page.slice rows (.ofOptions page size)) (listing page size)) :
    Paged encode decode rows listing where
  window page size := ⟨_, cut (some page) (some size), Page.shows_slice short ⟨page, size⟩⟩
  whole := by
    have shows := Page.shows_slice short .unrestricted
    exact ⟨_, cut none none, rfl, rfl, rfl, shows.totalElements, shows.totalPages⟩
  withoutPage size := by
    rw [cut none size, cut none none]
    rfl
  withoutSize page := by
    rw [cut page none, cut none none]
    cases page <;> rfl
  inTurn size positive :=
    ⟨_, fun n _ => cut (some n.toUInt64) (some size), Page.flatMap_slice short positive⟩
  readBack back page size := by
    refine ⟨_, ?_, Page.shows_slice short (.ofOptions page size)⟩
    rw [cut page size]
    refine answers_of_body (Page.ofJson?_toJson fun e here => back e ?_)
    exact List.mem_of_mem_drop (List.mem_of_mem_take here)

end

namespace UserService

/-- The users behind a history, in the order in which they are listed. -/
def rows (history : List Action) : List User :=
  (state history).table.toList

theorem live_rows (history : List Action) :
    Live User.id (kept history) (fun _ => True) (rows history) := by
  have live := (keeps_state history).live (fun _ _ less => UInt64.lt_iff_toNat_lt.2
    (Int.ofNat_lt.1 less)) (fun _ _ found => (Service.mem_of_lastWritten found).2) fun _ => True
  rw [decide_true, List.filter_true] at live
  exact live

theorem answers_all (history : List Action) (page size : Option UInt64) :
    AnswersPage User.toJson (Page.slice (rows history) (.ofOptions page size))
      (Service.outcome (UserService.all page size) (state history)) := by
  have cut : service.repository.findAllPaged (.ofOptions page size) (state history) =
      .ok (Page.slice (rows history) (.ofOptions page size)) := by
    show Store.guard _ _ = _
    rw [Store.guard, (keeps_state history).inOrder]
    rfl
  rw [AnswersPage, Service.outcome, UserService.all, Service.all, Service.listing_eq _ cut]
  rfl

end UserService

namespace ProductService

variable (history : List Action) (category kind : String)

/-- The products of a category and a type behind a history, in the order in which they are
listed. -/
def rows : List Product :=
  (state history).table.toList.filter fun p => p.category = category ∧ p.type = kind

theorem live_rows :
    Live Product.id (kept history) (fun p => p.category = category ∧ p.type = kind)
      (rows history category kind) :=
  (keeps_state history).live (fun _ _ less => Int64.lt_iff_toInt_lt.2 less)
    (fun _ _ found => (Service.mem_of_lastWritten found).2) _

theorem answers_allByFilter (page size : Option UInt64) :
    AnswersPage Product.toJson (Page.slice (rows history category kind) (.ofOptions page size))
      (Service.outcome (ProductService.allByFilter category kind page size) (state history)) := by
  have cut : allByFilterPage category kind (.ofOptions page size) (state history) =
      .ok (Page.slice (rows history category kind) (.ofOptions page size)) := by
    simp only [allByFilterPage, rows, Store.guard, (keeps_state history).inOrder,
      Bool.decide_and]
  rw [AnswersPage, Service.outcome, ProductService.allByFilter, Service.listing_eq _ cut]
  rfl

end ProductService

/-! ## Any history -/

/-- Behind any history, the services list the entities that they keep, and the products those of
a category and a type, in the order of their identifiers and in pages. The length of a listing is
a word. -/
theorem paged_history :
    (∀ history : List UserService.Action, ∃ rows,
      Live User.id (UserService.kept history) (fun _ => True) rows ∧
      rows.length ≤ history.length ∧
      (rows.length < 2 ^ 64 → Paged User.toJson User.ofJson? rows fun page size =>
        Service.outcome (UserService.all page size) (UserService.state history))) ∧
    ∀ (history : List ProductService.Action) (category kind : String), ∃ rows,
      Live Product.id (ProductService.kept history)
        (fun p => p.category = category ∧ p.type = kind) rows ∧
      rows.length ≤ history.length ∧
      (rows.length < 2 ^ 64 → Paged Product.toJson Product.ofJson? rows fun page size =>
        Service.outcome (ProductService.allByFilter category kind page size)
          (ProductService.state history)) := by
  constructor
  · intro history
    have live := UserService.live_rows history
    refine ⟨_, live, live.length_le, fun short => ?_⟩
    exact paged_of_slice short (UserService.answers_all history)
  · intro history category kind
    have live := ProductService.live_rows history category kind
    refine ⟨_, live, live.length_le, fun short => ?_⟩
    exact paged_of_slice short (ProductService.answers_allByFilter history category kind)

/-- The desk lamps behind a history of five actions are shown in pages. -/
theorem paged_history_lamps :
    let history : List ProductService.Action :=
      [.save ⟨7, "lamp", "desk", 12.5⟩, .save ⟨-3, "chair", "desk", 80.25⟩,
        .save ⟨-5, "lamp", "desk", 9⟩, .save ⟨7, "lamp", "desk", 14⟩, .delete 2]
    ∃ rows, Live Product.id (ProductService.kept history)
        (fun p => p.category = "lamp" ∧ p.type = "desk") rows ∧
      rows.length < 2 ^ 64 ∧
      Paged Product.toJson Product.ofJson? rows fun page size =>
        Service.outcome (ProductService.allByFilter "lamp" "desk" page size)
          (ProductService.state history) := by
  intro history
  obtain ⟨rows, live, few, paged⟩ := paged_history.2 history "lamp" "desk"
  have short : rows.length < 2 ^ 64 := Nat.lt_of_le_of_lt few (by decide)
  exact ⟨rows, live, short, paged short⟩

end CrudForge
