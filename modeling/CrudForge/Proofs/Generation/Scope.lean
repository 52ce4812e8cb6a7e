import CrudForge.Proofs.Generation.Signatures
import CrudForge.Proofs.Rendering.PlainBodies

/-!
# Names in generated bodies

Every name in a body is a parameter of its method or a variable that an earlier fragment has
introduced; only the name of a field that is read from an entity comes from elsewhere
(`scoped_of_generate`). The arguments of the calls that bodies end with are the parameters in
order, and no variable is written as a parameter is.
-/

namespace CrudForge

/-- The name that an argument is. -/
def CodeArg.name? : CodeArg → Option String
  | name value => some value
  | _ => none

/-- The text that an argument is. -/
def CodeArg.str? : CodeArg → Option String
  | str value => some value
  | _ => none

/-- The names among the arguments of some code. -/
def CodeBlock.names (code : CodeBlock) : List String :=
  code.args.filterMap CodeArg.name?

/-- The texts among the arguments of some code. -/
def CodeBlock.strs (code : CodeBlock) : List String :=
  code.args.filterMap CodeArg.str?

namespace Fragment

/-- The variable that a fragment introduces: the value of the block that it begins is given to
it. -/
def local? : Fragment → Option String
  | beginBlock ⟨format, .name name :: _⟩ =>
    if "let $N".toList.isPrefixOf format.toList then some name else none
  | _ => none

/-- The names that a fragment uses. A variable is not used where it is introduced. -/
def uses (f : Fragment) : List String :=
  ((f.code?.map CodeBlock.names).getD []).drop f.local?.toList.length

end Fragment

/-- Every name that a body uses is in scope, or has been introduced before. -/
def Closed (scope : List String) : List Fragment → Prop
  | [] => True
  | f :: rest => (∀ name ∈ f.uses, name ∈ scope) ∧ Closed (f.local?.toList ++ scope) rest

/-- The variables that a method introduces. -/
def Method.locals (m : Method) : List String :=
  m.body.filterMap Fragment.local?

namespace Generation

open Rendering (identifier identifier_window)

variable {naming : NamingConfig} {e : EntityMetadata} {c : ServiceClass} {code : CodeBlock}
  {scope : List String}

/-! ## Closed bodies -/

theorem closed_expr (used : ∀ name ∈ code.names, name ∈ scope) : Closed scope [.expr code] :=
  ⟨used, trivial⟩

/-- A window may be cut, and the code behind it may use it. -/
theorem closed_window {pagination : Bool} {window : String}
    (pages : ∀ name ∈ pageNames pagination, name ∈ scope)
    (used : ∀ name ∈ code.names, name ∈ (if pagination then [window] else []) ++ scope) :
    Closed scope (windowBody pagination window ++ [.expr code]) := by
  cases pagination with
  | false => exact closed_expr used
  | true =>
    have both : ∀ name ∈ [Parameter.pageName, Parameter.pageSizeName], name ∈ scope := pages
    have condition : ∀ name ∈ [Parameter.pageName, Parameter.pageSizeName, Parameter.pageName,
        Parameter.pageSizeName], name ∈ scope := List.forall_mem_append.2 ⟨both, both⟩
    have value : ∀ name ∈ [Parameter.pageName, Parameter.pageSizeName], name ∈ window :: scope :=
      fun name mem => List.mem_cons_of_mem _ (both name mem)
    have none : ∀ name ∈ ([] : List String), name ∈ window :: scope := by simp
    exact ⟨condition, value, none, none, none, used, trivial⟩

theorem filterMap_lookup (f : CodeArg → Option String) (owner : String) (tail : CodeBlock) :
    (lookup owner tail).args.filterMap f =
      [.name Parameter.idName, .str owner, .name Parameter.idName].filterMap f ++
        tail.args.filterMap f :=
  List.filterMap_append

theorem names_lookup (owner : String) (tail : CodeBlock) :
    (lookup owner tail).names = Parameter.idName :: Parameter.idName :: tail.names :=
  filterMap_lookup CodeArg.name? owner tail

theorem strs_lookup (owner : String) (tail : CodeBlock) :
    (lookup owner tail).strs = owner :: tail.strs :=
  filterMap_lookup CodeArg.str? owner tail

theorem names_params (params : List Parameter) :
    (params.map fun p => CodeArg.name p.name).filterMap CodeArg.name? = params.map (·.name) := by
  rw [List.filterMap_map, ← List.filterMap_eq_map]
  rfl

theorem names_memberCall (name : String) (params : List Parameter) :
    (memberCall name params).names = params.map (·.name) := by
  rw [CodeBlock.names, memberCall, List.filterMap_cons_none rfl, names_params]

theorem strs_memberCall (name : String) (params : List Parameter) :
    (memberCall name params).strs = [] := by
  rw [CodeBlock.strs, memberCall, List.filterMap_cons_none rfl, List.filterMap_map]
  exact List.filterMap_eq_nil_iff.2 fun p _ => rfl

theorem names_filterCall (pagination : Bool) (filters : List Parameter) :
    (filterCall pagination filters).names =
      filters.map (·.name) ++ if pagination then [localName windowName filters] else [] := by
  have args : (filterCall pagination filters).args = (filters.map fun p => .name p.name) ++
      if pagination then [.name (localName windowName filters)] else [] := rfl
  rw [CodeBlock.names, args, List.filterMap_append, names_params]
  cases pagination <;> rfl

theorem closed_builtListing (pagination : Bool) :
    Closed (builtListing pagination).paramNames (builtListing pagination).body := by
  have params : (builtListing pagination).paramNames = pageNames pagination :=
    paramNames_pageParams pagination
  rw [params]
  refine closed_window (fun name mem => mem) ?_
  cases pagination with
  | false => exact fun name none => absurd none List.not_mem_nil
  | true => exact List.forall_mem_singleton.2 List.mem_cons_self

theorem closed_builtAllByFilter (pagination : Bool) (filters : List Parameter) :
    Closed (builtAllByFilter pagination filters).paramNames
      (builtAllByFilter pagination filters).body := by
  have params : (builtAllByFilter pagination filters).paramNames =
      filters.map (·.name) ++ pageNames pagination := by
    rw [← paramNames_pageParams, ← List.map_append]
    rfl
  rw [params]
  refine closed_window (fun name mem => List.mem_append_right _ mem) ?_
  rw [names_filterCall]
  refine List.forall_mem_append.2 ⟨fun name filter => ?_, fun name window => ?_⟩
  · exact List.mem_append_right _ (List.mem_append_left _ filter)
  · exact List.mem_append_left _ window

theorem closed_builtList (e : EntityMetadata) :
    Closed (builtList e).paramNames (builtList e).body := by
  rw [builtList]
  split
  · exact closed_builtListing _
  · exact closed_builtAllByFilter _ _

/-! ## Variables -/

theorem locals_window (pagination : Bool) (window : String) (code : CodeBlock) :
    (windowBody pagination window ++ [Fragment.expr code]).filterMap Fragment.local? =
      if pagination then [window] else [] := by
  have introduced (args : List CodeArg) : Fragment.local?
      (.beginBlock ⟨"let $N = if let (Some($N), Some($N)) = ($N, $N)", .name window :: args⟩) =
      some window := by
    rw [Fragment.local?]
    exact if_pos (by decide)
  cases pagination with
  | false => rfl
  | true =>
    rw [windowBody, if_pos rfl, List.cons_append, List.filterMap_cons_some (introduced _)]
    rfl

/-- A name of the window and a parameter that has another name in snake case are written in
different ways, though a parameter may be written in its raw form. -/
theorem identifier_window_ne {count : Nat} {name : String}
    (differ : Naming.snakeCase name ≠ underscored windowName count) :
    identifier .standard (underscored windowName count) ≠ identifier .standard name := by
  rw [identifier_window, identifier]
  split
  · exact differ.symm
  · -- A raw form begins with another letter than the window.
    intro same
    have letters := congrArg (·.toList.head?) same
    simp [underscored, windowName] at letters

theorem window_ne_page (count : Nat) : ∀ name ∈ [Parameter.pageName, Parameter.pageSizeName],
    identifier .standard (underscored windowName count) ≠ identifier .standard name := by
  have heads : ∀ name ∈ [Parameter.pageName, Parameter.pageSizeName],
      (Naming.snakeCase name).toList.head? = some 'p' := by
    decide +kernel
  intro name mem
  refine identifier_window_ne fun same => ?_
  have head := heads name mem
  rw [same] at head
  simp [underscored, windowName] at head

/-- No variable of a method is written as one of its parameters. -/
def LocalsApart (m : Method) : Prop :=
  ∀ window ∈ m.locals, ∀ p ∈ m.params,
    identifier .standard window ≠ identifier .standard p.name

theorem localsApart_of_none {m : Method} (none : m.locals = []) : LocalsApart m := by
  intro window introduced
  rw [none] at introduced
  cases introduced

theorem forall_pageParams {pagination : Bool} {P : Parameter → Prop}
    (pages : ∀ name ∈ [Parameter.pageName, Parameter.pageSizeName], ∀ ty, P ⟨name, ty⟩) :
    ∀ p ∈ pageParams pagination, P p := by
  obtain ⟨page, size⟩ := List.forall_mem_cons.1 pages
  cases pagination with
  | false => exact fun p none => absurd none List.not_mem_nil
  | true =>
    exact List.forall_mem_cons.2 ⟨page _, List.forall_mem_singleton.2
      (List.forall_mem_singleton.1 size _)⟩

theorem localsApart_of_window {m : Method} {pagination : Bool} {count : Nat}
    {filters : List Parameter} (params : m.params = filters ++ pageParams pagination)
    (body : m.body = windowBody pagination (underscored windowName count) ++ [.expr code])
    (free : ∀ p ∈ filters, Naming.snakeCase p.name ≠ underscored windowName count) :
    LocalsApart m := by
  have locals : m.locals = if pagination then [underscored windowName count] else [] := by
    rw [Method.locals, body, locals_window]
  intro window introduced
  rw [locals] at introduced
  obtain rfl : window = underscored windowName count := by
    split at introduced
    · exact List.mem_singleton.1 introduced
    · cases introduced
  rw [params]
  exact List.forall_mem_append.2 ⟨fun p mem => identifier_window_ne (free p mem),
    forall_pageParams fun name page _ => window_ne_page count name page⟩

theorem localsApart_builtList (e : EntityMetadata) : LocalsApart (builtList e) := by
  rw [builtList]
  split
  · exact localsApart_of_window (List.nil_append _).symm (Rendering.body_builtListing _)
      fun p none => absurd none List.not_mem_nil
  · obtain ⟨count, body, free⟩ := Rendering.exists_body_builtAllByFilter e.crud.pagination
      (filterParams e)
    exact localsApart_of_window rfl body free

/-! ## The calls at the end -/

/-- The listing ends with a call that hands over the filters in order, and behind them the window
if the listing comes in pages. -/
def HandsOverFilters (e : EntityMetadata) (m : Method) : Prop :=
  ∃ filters call, ResolvedFilters e filters ∧
    m.params = filters ++ pageParams e.crud.pagination ∧ m.body.getLast? = some (.expr call) ∧
    m.locals.length = (if e.crud.pagination then 1 else 0) ∧
    call.args = (filters.map fun p => .name p.name) ++ m.locals.map .name ∧
    ∀ write, call.expand write = .ok (filterText
      ((filters.map fun p => write (.name p.name)) ++ m.locals.map fun w => "&" ++ write (.name w)))

/-- The method of a field reads it from the entity, and uses no other names but parameters. The
method of a callable member names its owner and calls it with its parameters in order. -/
def CallsMember (style : AccessorStyle) (member : Endpoint) (m : Method) : Prop :=
  match member with
  | .field name _ =>
    (∃ head, m.body = [.expr (closing head (style.accessor name))] ∧
      Closed m.paramNames [.expr head]) ∧
    (style = .bean → Closed m.paramNames m.body)
  | .callable name owner params =>
    Closed m.paramNames m.body ∧
    ∃ call, m.body.getLast? = some (.expr call) ∧ call.strs = [owner] ∧
      ∀ write, call.expand write = .ok (lookupText write owner
        ("." ++ write (.literal name) ++ "(" ++
          ", ".intercalate (params.map fun p => write (.name p.name)) ++ ")"))

theorem handsOverFilters (known : ∀ field ∈ filterNames e, Known e field) :
    HandsOverFilters e (builtAllByFilter e.crud.pagination (filterParams e)) := by
  have locals : (builtAllByFilter e.crud.pagination (filterParams e)).locals =
      if e.crud.pagination then [localName windowName (filterParams e)] else [] :=
    locals_window _ _ _
  have args : (filterCall e.crud.pagination (filterParams e)).args =
      ((filterParams e).map fun p => .name p.name) ++
        if e.crud.pagination then [.name (localName windowName (filterParams e))] else [] := rfl
  refine ⟨filterParams e, filterCall e.crud.pagination (filterParams e), resolvedFilters known,
    rfl, List.getLast?_concat .., ?_, ?_, fun write => ?_⟩
  · rw [locals]
    cases e.crud.pagination <;> rfl
  · rw [locals, args]
    cases e.crud.pagination <;> rfl
  · rw [locals, expand_filterCall, filterArgs]
    cases e.crud.pagination <;> rfl

theorem callsMember (idType : String) (style : AccessorStyle) (member : Endpoint) :
    CallsMember style member (builtEndpoint idType style member) := by
  cases member with
  | field name owner =>
    have used : ∀ name ∈ [Parameter.idName, Parameter.idName], name ∈ [Parameter.idName] := by simp
    refine ⟨⟨lookupHead owner, rfl, closed_expr used⟩, ?_⟩
    rintro rfl
    refine closed_expr ?_
    rw [names_lookup]
    exact used
  | callable name owner params =>
    have forwarded : (memberParams (.callable name owner params)).map (·.name) =
        params.map (·.name) := List.map_map
    refine ⟨closed_expr ?_, _, rfl, ?_, fun write => ?_⟩
    · rw [paramNames_builtEndpoint, endpointNames, ← forwarded]
      show ∀ name' ∈ (lookup owner (memberCall name _)).names, _
      rw [names_lookup, names_memberCall]
      exact List.forall_mem_cons.2 ⟨List.mem_cons_self, fun _ mem => mem⟩
    · show (lookup owner (memberCall name _)).strs = [owner]
      rw [strs_lookup, strs_memberCall]
    · have expanded := @expand_lookup write _ owner _
        (expand_memberCall name (memberParams (.callable name owner params)))
      rw [memberText, memberParams, List.map_map] at expanded
      exact expanded

/-- Every name in a service that is generated has its place. Names are parameters or variables
that have been introduced before, but for the fields that endpoints read; calls have their
arguments in order, and variables are not written as parameters are. -/
theorem scoped_of_generate (generated : generate naming e = .ok c) :
    (∀ m ∈ c.methods, LocalsApart m) ∧
    ∃ save one list delete members, c.methods = save :: one :: list :: delete :: members ∧
      (∀ m ∈ [save, one, list, delete], Closed m.paramNames m.body) ∧
      (e.crud.filter ≠ .unfiltered → list.name = "allByFilter" ∧ HandsOverFilters e list) ∧
      List.Forall₂ (CallsMember naming.accessorStyle) e.endpoints members := by
  obtain ⟨generable, rfl⟩ := generate_eq_ok_iff.1 generated
  have one : Closed (builtOne e.name e.idType).paramNames (builtOne e.name e.idType).body := by
    have used : ∀ name ∈ [Parameter.idName, Parameter.idName], name ∈ [Parameter.idName] := by simp
    refine closed_expr ?_
    rw [names_lookup]
    exact used
  refine ⟨?_, builtSave e.name, builtOne e.name e.idType, builtList e, builtDelete e.idType,
    _, rfl, ?_, fun filtered => ?_, ?_⟩
  · refine List.forall_mem_cons.2 ⟨localsApart_of_none rfl, List.forall_mem_cons.2
      ⟨localsApart_of_none rfl, List.forall_mem_cons.2 ⟨localsApart_builtList e,
        List.forall_mem_cons.2 ⟨localsApart_of_none rfl, fun m mem => ?_⟩⟩⟩⟩
    obtain ⟨member, -, rfl⟩ := List.mem_map.1 mem
    exact localsApart_of_none rfl
  · refine List.forall_mem_cons.2 ⟨closed_expr fun name mem => mem, List.forall_mem_cons.2
      ⟨one, List.forall_mem_cons.2 ⟨closed_builtList e, List.forall_mem_singleton.2 ?_⟩⟩⟩
    exact ⟨fun name mem => mem, fun name none => absurd none List.not_mem_nil, trivial⟩
  · have built : builtList e = builtAllByFilter e.crud.pagination (filterParams e) := by
      rw [builtList, if_neg fun unfiltered => filtered ?_]
      cases filter : e.crud.filter <;> simp [filter, FilterSpec.isUnfiltered] at *
    rw [built]
    exact ⟨rfl, handsOverFilters generable.known⟩
  · rw [List.forall₂_map_right_iff, List.forall₂_same]
    exact fun member _ => callsMember _ _ member

theorem scoped_of_generate_orderEntity :
    ∃ c, generate {} orderEntity.metadata = .ok c ∧ (∀ m ∈ c.methods, LocalsApart m) ∧
      (c.methods.map Method.locals) = [[], [], ["window_"], [], [], []] := by
  have generated : generate {} orderEntity.metadata = .ok _ :=
    generate_eq_ok_iff.2 ⟨generable_orderEntity, rfl⟩
  exact ⟨_, generated, (scoped_of_generate generated).1, by decide +kernel⟩

end Generation
end CrudForge
