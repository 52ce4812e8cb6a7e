import CrudForge.Proofs.Serving.Decoding
import CrudForge.Proofs.Serving.Kept

/-!
# Services as maps

A service that keeps its entities in a table is run through a history of actions: entities are
saved, identifiers are deleted, and anything else only reads. The services of users and of
products, run from an empty store through any history, are maps from identifiers to entities: the
last entity saved under an identifier is kept there until it is deleted, and all calls answer from
what is kept (`serves_history`).
-/

namespace CrudForge

variable {σ ID T R α : Type}

/-- A call answers with a value, which is read back from the body. -/
def Answers (decode : Json → Option α) (a : α) (r : ServiceResult) : Prop :=
  ∃ answer : ServiceResponse, r = .ok answer ∧ answer.status = .ok ∧
    answer.bodyAs? decode = .ok (some a)

/-- A call answers with something about an entity if it is there, and otherwise fails since there
is none with the identifier. -/
def AnswersFrom (entity id : String) (found : Option T) (decode : Json → Option α) (tell : T → α)
    (r : ServiceResult) : Prop :=
  match found with
  | some e => Answers decode (tell e) r
  | none => r = .error (.notFound entity id)

theorem answers_of_body {decode : Json → Option α} {a : α} {body : Json}
    (back : decode body = some a) :
    Answers decode a (.ok { status := .ok, body := some body }) := by
  refine ⟨_, rfl, rfl, ?_⟩
  simp only [ServiceResponse.bodyAs?, back]

/-! ## One call -/

namespace Service.InTable

variable {svc : Service (Store T) ID T} {key : ID → Int} {idOf : T → ID} {s : Store T}
  {m : ID → Option T}

theorem answers_save (kept : svc.InTable key idOf) (keeps : s.Keeps key m)
    {decode : Json → Option T} {e : T} (back : decode (svc.encode e) = some e) :
    Answers decode e (outcome (svc.save e) s) := by
  rw [outcome, kept.save_eq keeps.inOrder]
  exact answers_of_body back

theorem outcome_delete (kept : svc.InTable key idOf) (keeps : s.Keeps key m) (id : ID) :
    outcome (svc.delete id) s = .ok .noContent := by
  rw [outcome, kept.delete_eq keeps.inOrder]
  rfl

theorem answers_member (kept : svc.InTable key idOf) (keeps : s.Keeps key m) {id : ID}
    {write : T → Json} {decode : Json → Option α} {tell : T → α}
    (back : ∀ e, m id = some e → decode (write e) = some (tell e)) :
    AnswersFrom svc.entity (svc.idText id) (m id) decode tell
      (outcome (svc.member id write) s) := by
  rw [outcome, kept.member_eq keeps.inOrder, keeps.get?_eq kept.injective]
  cases found : m id with
  | none => rfl
  | some e => exact answers_of_body (back e found)

variable [DecidableEq ID]

theorem keeps_save (kept : svc.InTable key idOf) (keeps : s.Keeps key m) (e : T) :
    (after (svc.save e) s).Keeps key (Store.overwrite m (some (idOf e, some e))) := by
  rw [after, kept.save_eq keeps.inOrder]
  exact keeps.put kept.injective (idOf e) e

theorem keeps_delete (kept : svc.InTable key idOf) (keeps : s.Keeps key m) (id : ID) :
    (after (svc.delete id) s).Keeps key (Store.overwrite m (some (id, none))) := by
  rw [after, kept.delete_eq keeps.inOrder]
  exact keeps.erase kept.injective id

end Service.InTable

namespace Service

/-- Telling something about an entity changes nothing, whether or not it is there. -/
theorem after_member (svc : Service σ ID T) (id : ID) (write : T → Json) (s : σ) :
    after (svc.member id write) s = s := by
  have asked : svc.member id write s = Except.bind (ask (svc.repository.findById id) s) _ := rfl
  rw [after, asked, ask]
  cases svc.repository.findById id s with
  | error e => rfl
  | ok found => cases found <;> rfl

/-- A listing changes nothing, whatever it answers. -/
theorem after_listing (svc : Service σ ID T) (page : σ → Except DataError (Page T)) (s : σ) :
    after (svc.listing page) s = s := by
  have asked : svc.listing page s = Except.bind (ask page s) _ := rfl
  rw [after, asked, ask]
  cases page s <;> rfl

/-! ## Histories of one service -/

/-- An action on a service, of which `R` are those that only read. -/
inductive Action (ID T R : Type)
  | save (e : T)
  | delete (id : ID)
  | read (r : R)

/-- The call of an action. -/
def Action.call (svc : Service σ ID T) (reading : R → ServiceCall σ ServiceResponse) :
    Action ID T R → ServiceCall σ ServiceResponse
  | save e => svc.save e
  | delete id => svc.delete id
  | read r => reading r

/-- The identifier under which an action writes, and what it leaves there. -/
def Action.writes (idOf : T → ID) : Action ID T R → Option (ID × Option T)
  | save e => some (idOf e, some e)
  | delete id => some (id, none)
  | read _ => none

/-- Each action leaves what it writes, and so a history leaves what was written last. -/
theorem InTable.keeps_history [DecidableEq ID] {svc : Service (Store T) ID T} {key : ID → Int}
    {idOf : T → ID} {reading : R → ServiceCall (Store T) ServiceResponse}
    (kept : svc.InTable key idOf) (unchanged : ∀ r s, after (reading r) s = s)
    (history : List (Action ID T R)) :
    (runActions (Action.call svc reading) history Store.empty).Keeps key
      (Store.lastWritten (Action.writes idOf) history) := by
  refine Store.keeps_runActions (fun a s m keeps => ?_) history
  cases a with
  | save e => exact kept.keeps_save keeps e
  | delete id => exact kept.keeps_delete keeps id
  | read r =>
    rw [Action.call, unchanged]
    exact keeps

/-- What is kept has been saved. -/
theorem mem_of_lastWritten [DecidableEq ID] {idOf : T → ID} {history : List (Action ID T R)}
    {id : ID} {e : T} (found : Store.lastWritten (Action.writes idOf) history id = some e) :
    .save e ∈ history ∧ idOf e = id := by
  induction history using List.reverseRecOn with
  | nil => cases found
  | append_singleton history a ih =>
    rw [Store.lastWritten_concat] at found
    -- If the last action wrote elsewhere, or nothing, an earlier one is what counts.
    have before (found : Store.lastWritten (Action.writes idOf) history id = some e) :
        .save e ∈ history ++ [a] ∧ idOf e = id :=
      ⟨List.mem_append_left _ (ih found).1, (ih found).2⟩
    cases a with
    | read r => exact before found
    | save e' =>
      rw [Action.writes, Store.overwrite] at found
      split at found
      · rename_i here
        cases found
        exact ⟨List.mem_append_right _ List.mem_cons_self, here.symm⟩
      · exact before found
    | delete id' =>
      rw [Action.writes, Store.overwrite] at found
      split at found
      · cases found
      · exact before found

end Service

/-! ## Users -/

namespace UserService

/-- A call that only reads, with its arguments. -/
inductive Reading
  | one (id : UInt64)
  | all (page pageSize : Option UInt64)
  | email (id : UInt64)
  | greeting (id : UInt64) (salutation : String)

/-- The call of a reading. -/
def Reading.call : Reading → Call
  | one id => UserService.one id
  | all page pageSize => UserService.all page pageSize
  | email id => UserService.email id
  | greeting id salutation => UserService.greeting id salutation

/-- A call of the service of users with its arguments. -/
abbrev Action := Service.Action UInt64 User Reading

/-- The key of an identifier. -/
def key (id : UInt64) : Int := id.toNat

/-- The store behind a history that begins with an empty one. -/
def state (history : List Action) : Store User :=
  Service.runActions (Service.Action.call service Reading.call) history Store.empty

/-- The users that a history keeps. -/
def kept (history : List Action) : UInt64 → Option User :=
  Store.lastWritten (Service.Action.writes User.id) history

/-- A store has the users of a map, and its service answers from them. -/
structure Serves (m : UInt64 → Option User) (s : Store User) : Prop where
  keeps : s.Keeps key m
  save : ∀ u, Answers User.ofJson? u (Service.outcome (UserService.save u) s)
  one : ∀ id, AnswersFrom "User" id.toNat.repr (m id) User.ofJson? (fun u => u)
    (Service.outcome (UserService.one id) s)
  email : ∀ id, AnswersFrom "User" id.toNat.repr (m id) Json.asString? (fun u => u.email)
    (Service.outcome (UserService.email id) s)
  greeting : ∀ id salutation, AnswersFrom "User" id.toNat.repr (m id) Json.asString?
    (fun u => u.greeting salutation) (Service.outcome (UserService.greeting id salutation) s)
  delete : ∀ id, Service.outcome (UserService.delete id) s =
    .ok { status := .noContent, body := none }
  unchanged : ∀ r : Reading, Service.after r.call s = s

theorem inTable : service.InTable key User.id := by
  refine ⟨rfl, fun a b same => ?_⟩
  exact UInt64.toNat.inj (Int.ofNat.inj same)

theorem after_reading (r : Reading) (s : Store User) : Service.after r.call s = s := by
  cases r with
  | one id => exact service.after_member id _ s
  | email id => exact service.after_member id _ s
  | greeting id salutation => exact service.after_member id _ s
  | all page pageSize => exact service.after_listing _ s

theorem keeps_state (history : List Action) : (state history).Keeps key (kept history) :=
  inTable.keeps_history after_reading history

theorem serves_of_keeps {m : UInt64 → Option User} {s : Store User} (keeps : s.Keeps key m) :
    Serves m s where
  keeps := keeps
  save u := inTable.answers_save keeps (User.ofJson?_toJson u)
  one _ := inTable.answers_member keeps fun u _ => User.ofJson?_toJson u
  email _ := inTable.answers_member keeps fun _ _ => rfl
  greeting _ _ := inTable.answers_member keeps fun _ _ => rfl
  delete id := inTable.outcome_delete keeps id
  unchanged r := after_reading r s

end UserService

/-! ## Products -/

namespace ProductService

/-- A call that only reads, with its arguments. -/
inductive Reading
  | one (id : Int64)
  | allByFilter (category kind : String) (page pageSize : Option UInt64)
  | unitPrice (id : Int64)
  | type (id : Int64)

/-- The call of a reading. -/
def Reading.call : Reading → Call
  | one id => ProductService.one id
  | allByFilter category kind page pageSize =>
    ProductService.allByFilter category kind page pageSize
  | unitPrice id => ProductService.unitPrice id
  | type id => ProductService.type id

/-- A call of the service of products with its arguments. -/
abbrev Action := Service.Action Int64 Product Reading

/-- The key of an identifier. -/
def key (id : Int64) : Int := id.toInt

/-- The store behind a history that begins with an empty one. -/
def state (history : List Action) : Store Product :=
  Service.runActions (Service.Action.call service Reading.call) history Store.empty

/-- The products that a history keeps. -/
def kept (history : List Action) : Int64 → Option Product :=
  Store.lastWritten (Service.Action.writes Product.id) history

/-- A store has the products of a map, and its service answers from them. -/
structure Serves (m : Int64 → Option Product) (s : Store Product) : Prop where
  keeps : s.Keeps key m
  save : ∀ p, p.unitPrice.isFinite = true →
    Answers Product.ofJson? p (Service.outcome (ProductService.save p) s)
  one : ∀ id, AnswersFrom "Product" id.toInt.repr (m id) Product.ofJson? (fun p => p)
    (Service.outcome (ProductService.one id) s)
  unitPrice : ∀ id, AnswersFrom "Product" id.toInt.repr (m id) Json.asFloat?
    (fun p => p.unitPrice) (Service.outcome (ProductService.unitPrice id) s)
  type : ∀ id, AnswersFrom "Product" id.toInt.repr (m id) Json.asString? (fun p => p.type)
    (Service.outcome (ProductService.type id) s)
  delete : ∀ id, Service.outcome (ProductService.delete id) s =
    .ok { status := .noContent, body := none }
  unchanged : ∀ r : Reading, Service.after r.call s = s

theorem inTable : service.InTable key Product.id :=
  ⟨rfl, fun _ _ same => Int64.toInt_inj.1 same⟩

theorem after_reading (r : Reading) (s : Store Product) : Service.after r.call s = s := by
  cases r with
  | one id => exact service.after_member id _ s
  | unitPrice id => exact service.after_member id _ s
  | type id => exact service.after_member id _ s
  | allByFilter category kind page pageSize => exact service.after_listing _ s

theorem keeps_state (history : List Action) : (state history).Keeps key (kept history) :=
  inTable.keeps_history after_reading history

theorem serves_of_keeps {m : Int64 → Option Product} {s : Store Product} (keeps : s.Keeps key m)
    (finite : ∀ id p, m id = some p → p.unitPrice.isFinite = true) : Serves m s where
  keeps := keeps
  save _ price := inTable.answers_save keeps (Product.ofJson?_toJson price)
  one id := inTable.answers_member keeps fun p found => Product.ofJson?_toJson (finite id p found)
  unitPrice id := inTable.answers_member keeps fun p found =>
    Json.asFloat?_ofFloat (finite id p found)
  type _ := inTable.answers_member keeps fun _ _ => rfl
  delete id := inTable.outcome_delete keeps id
  unchanged r := after_reading r s

end ProductService

/-! ## Any history -/

/-- Behind any history, both services are maps that keep what was saved last under each identifier
and has not been deleted since. Prices are finite. -/
theorem serves_history :
    (∀ history : List UserService.Action,
      UserService.Serves (UserService.kept history) (UserService.state history)) ∧
    ∀ history : List ProductService.Action,
      (∀ p, .save p ∈ history → p.unitPrice.isFinite = true) →
      ProductService.Serves (ProductService.kept history) (ProductService.state history) := by
  constructor
  · intro history
    exact UserService.serves_of_keeps (UserService.keeps_state history)
  · intro history finite
    refine ProductService.serves_of_keeps (ProductService.keeps_state history) fun id p found => ?_
    exact finite p (Service.mem_of_lastWritten found).1

/-- A product saved again under its identifier is what is kept there, and one that was deleted is
gone. -/
theorem serves_history_again :
    let old : Product := ⟨7, "lamp", "desk", 12.5⟩
    let new : Product := ⟨7, "lamp", "floor", 30⟩
    let gone : Product := ⟨-3, "chair", "office", 80.25⟩
    let history : List ProductService.Action :=
      [.save old, .save gone, .read (.one 7), .save new, .delete (-3), .delete 4]
    (∀ p, .save p ∈ history → p.unitPrice.isFinite = true) ∧
    ProductService.Serves (ProductService.kept history) (ProductService.state history) ∧
    ProductService.kept history 7 = some new ∧ ProductService.kept history (-3) = none := by
  intro old new gone history
  have finite : ∀ p, .save p ∈ history → p.unitPrice.isFinite = true := by
    intro p saved
    simp only [history, List.mem_cons, Service.Action.save.injEq, List.not_mem_nil, reduceCtorEq,
      false_or, or_false] at saved
    rcases saved with rfl | rfl | rfl <;> decide
  exact ⟨finite, serves_history.2 history finite, rfl, rfl⟩

end CrudForge
