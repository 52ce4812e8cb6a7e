import Mathlib.Data.List.Induction
import Mathlib.Logic.Function.Defs
import CrudForge.Proofs.Serving.Table
import CrudForge.Serving.Service

/-!
# What a store keeps

A store in order keeps a map from identifiers to entities (`Store.Keeps`), and its calls speak of
that map alone: saving and deleting change it at one identifier, and all other calls only read it.
A history of actions keeps under each identifier what the last action that wrote there left
(`lastWritten`), and so does the store in which they were run (`keeps_runActions`).
-/

namespace CrudForge

variable {σ ID T A α : Type}

/-! ## Calls -/

namespace Service

/-- What a call yields. -/
def outcome (call : ServiceCall σ α) (s : σ) : Except ServiceError α :=
  (call s).map (·.1)

/-- What is kept behind a call. A call that fails changes nothing. -/
def after (call : ServiceCall σ α) (s : σ) : σ :=
  match call s with
  | .ok (_, s') => s'
  | .error _ => s

/-- What is kept behind the calls of a history of actions. -/
def runActions (call : A → ServiceCall σ α) (history : List A) (s : σ) : σ :=
  history.foldl (fun s a => after (call a) s) s

/-- The entities of a service are kept in a table, under the keys of their identifiers. -/
structure InTable (svc : Service (Store T) ID T) (key : ID → Int) (idOf : T → ID) : Prop where
  repository : svc.repository = Store.repository (fun e => key (idOf e)) key
  injective : Function.Injective key

namespace InTable

variable {svc : Service (Store T) ID T} {key : ID → Int} {idOf : T → ID} {s : Store T}

theorem save_eq (kept : svc.InTable key idOf) (inOrder : s.fault = none) (e : T) :
    svc.save e s = .ok ({ status := .ok, body := some (svc.encode e) },
      { s with table := s.table.put (key (idOf e)) e }) := by
  have saved : svc.repository.save e s =
      .ok (e, { s with table := s.table.put (key (idOf e)) e }) := by
    rw [kept.repository]
    simp only [Store.repository, Store.guard, inOrder]
  show Except.bind (Service.order (svc.repository.save e) s) _ = _
  rw [Service.order, saved]
  rfl

theorem delete_eq (kept : svc.InTable key idOf) (inOrder : s.fault = none) (id : ID) :
    svc.delete id s = .ok (ServiceResponse.noContent,
      { s with table := s.table.erase (key id) }) := by
  have deleted : svc.repository.deleteById id s =
      .ok ((s.table.get? (key id)).isSome, { s with table := s.table.erase (key id) }) := by
    rw [kept.repository]
    simp only [Store.repository, Store.guard, inOrder]
  show Except.bind (Service.order (svc.repository.deleteById id) s) _ = _
  rw [Service.order, deleted]
  rfl

theorem member_eq (kept : svc.InTable key idOf) (inOrder : s.fault = none) (id : ID)
    (tell : T → Json) :
    svc.member id tell s =
      match s.table.get? (key id) with
      | some e => .ok ({ status := .ok, body := some (tell e) }, s)
      | none => .error (.notFound svc.entity (svc.idText id)) := by
  have found : svc.repository.findById id s = .ok (s.table.get? (key id)) := by
    rw [kept.repository]
    simp only [Store.repository, Store.guard, inOrder]
  show Except.bind (Service.ask (svc.repository.findById id) s) _ = _
  rw [Service.ask, found]
  cases s.table.get? (key id) <;> rfl

end InTable

theorem listing_eq (svc : Service σ ID T) {page : σ → Except DataError (Page T)} {s : σ}
    {p : Page T} (found : page s = .ok p) :
    svc.listing page s = .ok ({ status := .ok, body := some (p.toJson svc.encode) }, s) := by
  show Except.bind (Service.ask page s) _ = _
  rw [Service.ask, found]
  rfl

end Service

/-! ## Maps -/

namespace Store

variable {key : ID → Int} {s : Store T} {m : ID → Option T}

/-- A store is in order, and its rows are the entities of a map under the keys of their
identifiers. -/
structure Keeps (key : ID → Int) (s : Store T) (m : ID → Option T) : Prop where
  inOrder : s.fault = none
  rows : ∀ k e, (k, e) ∈ s.table.rows ↔ ∃ id, key id = k ∧ m id = some e

theorem keeps_iff (injective : Function.Injective key) :
    Keeps key s m ↔ s.fault = none ∧ (∀ id, s.table.get? (key id) = m id) ∧
      ∀ k, (∀ id, key id ≠ k) → s.table.get? k = none := by
  constructor
  · rintro ⟨inOrder, rows⟩
    refine ⟨inOrder, fun id => ?_, fun k unused => ?_⟩
    · ext e
      rw [← Table.mem_rows_iff, rows]
      constructor
      · rintro ⟨id', same, held⟩
        rw [← injective same]
        exact held
      · intro held
        exact ⟨id, rfl, held⟩
    · rw [Option.eq_none_iff_forall_ne_some]
      intro e found
      obtain ⟨id, same, -⟩ := (rows k e).1 (s.table.mem_rows_iff.2 found)
      exact unused id same
  · rintro ⟨inOrder, held, unused⟩
    refine ⟨inOrder, fun k e => ?_⟩
    rw [Table.mem_rows_iff]
    constructor
    · intro found
      by_contra none
      have absent : ∀ id, key id ≠ k := by
        intro id same
        refine none ⟨id, same, ?_⟩
        rw [← held id, same]
        exact found
      rw [unused k absent] at found
      cases found
    · rintro ⟨id, rfl, found⟩
      rw [held id]
      exact found

theorem Keeps.get?_eq (injective : Function.Injective key) (keeps : Keeps key s m) (id : ID) :
    s.table.get? (key id) = m id :=
  ((keeps_iff injective).1 keeps).2.1 id

theorem keeps_empty : Keeps key (Store.empty : Store T) fun _ => none :=
  ⟨rfl, by simp [Store.empty, Table.empty]⟩

variable [DecidableEq ID]

/-- A map after something has been written under an identifier: an entity, or that there is
none. -/
def overwrite (m : ID → Option T) : Option (ID × Option T) → ID → Option T
  | some (id, left), id' => if id' = id then left else m id'
  | none, id' => m id'

theorem Keeps.put (injective : Function.Injective key) (keeps : Keeps key s m) (id : ID) (e : T) :
    Keeps key { s with table := s.table.put (key id) e } (overwrite m (some (id, some e))) := by
  obtain ⟨inOrder, held, unused⟩ := (keeps_iff injective).1 keeps
  refine (keeps_iff injective).2 ⟨inOrder, fun id' => ?_, fun k absent => ?_⟩
  · rw [Table.get?_put, held, overwrite]
    simp only [injective.eq_iff]
  · rw [Table.get?_put, if_neg fun here => absent id here.symm]
    exact unused k absent

theorem Keeps.erase (injective : Function.Injective key) (keeps : Keeps key s m) (id : ID) :
    Keeps key { s with table := s.table.erase (key id) } (overwrite m (some (id, none))) := by
  obtain ⟨inOrder, held, unused⟩ := (keeps_iff injective).1 keeps
  refine (keeps_iff injective).2 ⟨inOrder, fun id' => ?_, fun k absent => ?_⟩
  · rw [Table.get?_erase, held, overwrite]
    simp only [injective.eq_iff]
  · rw [Table.get?_erase, if_neg fun here => absent id here.symm]
    exact unused k absent

/-! ## Histories -/

/-- What a history leaves under an identifier, where `writes` tells what an action writes: that
which the last action that wrote there left, or nothing if there is none. -/
def lastWritten (writes : A → Option (ID × Option T)) (history : List A) (id : ID) : Option T :=
  (history.reverse.findSome? fun a =>
    (writes a).bind fun w => if w.1 = id then some w.2 else none).join

theorem lastWritten_concat (writes : A → Option (ID × Option T)) (history : List A) (a : A) :
    lastWritten writes (history ++ [a]) = overwrite (lastWritten writes history) (writes a) := by
  funext id
  rw [lastWritten, List.reverse_concat, List.findSome?_cons]
  cases written : writes a with
  | none => rfl
  | some w =>
    rw [Option.bind_some, overwrite]
    by_cases here : w.1 = id
    · rw [if_pos here, if_pos here.symm]
      rfl
    · rw [if_neg here, if_neg fun same => here same.symm]
      rfl

/-- If each call writes what its action does, the store keeps what the history leaves. -/
theorem keeps_runActions {call : A → ServiceCall (Store T) α}
    {writes : A → Option (ID × Option T)}
    (step : ∀ a s m, Keeps key s m → Keeps key (Service.after (call a) s)
      (overwrite m (writes a))) (history : List A) :
    Keeps key (Service.runActions call history Store.empty) (lastWritten writes history) := by
  -- The last action is run in the store that the others leave.
  induction history using List.reverseRecOn with
  | nil => exact keeps_empty
  | append_singleton history a ih =>
    rw [Service.runActions, List.foldl_concat, lastWritten_concat]
    exact step a _ _ ih

end Store
end CrudForge
