import ContentQuery.Proofs.Catalog.Definitions
import ContentQuery.Proofs.Catalog.File
import ContentQuery.Proofs.Execution.SingleType

/-!
# Queries over derived types

A type derives from those that its chain of parents leads to, as far as 63 generations up.
`subtypes_follow_parents` says what this relation is like in a catalog that registrations have
built, and that a query on one type which includes its subtypes is a query on the objects of all
types that are that near. In a chain of types the bound is felt where
`isSubtypeOf_generation_iff` says; `generations_break_off` shows it.
-/

set_option autoImplicit false

namespace ContentQuery

open Binding

variable {c : Catalog}

/-- The stored objects of the types that an ancestor has within 63 generations. -/
def Repository.descendants (r : Repository) (c : Catalog) (ancestor : String) :
    List ContentObject :=
  r.objects.values.filter fun o => c.IsWithin 63 o.typeId ancestor

open Catalog

theorem Repository.objectsOfType_subtypes (r : Repository) (c : Catalog) (typeId : String) :
    r.objectsOfType c typeId true = r.descendants c typeId := by
  unfold objectsOfType descendants
  refine List.filter_congr fun o _ => ?_
  rw [Bool.eq_iff_iff, Bool.true_and, Bool.or_eq_true, beq_iff_eq, isSubtypeOf_iff,
    decide_eq_true_eq]
  constructor
  · rintro (rfl | h)
    · exact ⟨0, Nat.zero_le _, rfl⟩
    · exact h
  · exact .inr

/-! ## Queries on one type -/

namespace Execution

variable {bound : BoundStatement} {source : Source}

/-- The joined rows of a query that includes subtypes. -/
theorem rows_of_single (hc : c.Grounded) (h : Bound c bound.statement bound.bindings)
    (hsources : bound.statement.sources = [source]) (repository : Repository) {config : Config}
    (hconfig : config.includeSubtypes = true) :
    Join.rows bound (candidates c repository config bound) =
      .ok ((repository.descendants c source.typeId).map (Row.single bound)) := by
  rw [rows_of_source hc h hsources, hconfig, Repository.objectsOfType_subtypes]

/-- **Subtypes are found along the chain of parents, as far as 63 generations up.** In every
catalog that registrations have built, a type is a subtype of another one exactly if at most 63
parents lead there. Each type is a subtype of itself, two types that are subtypes of each other are
the same, and a subtype of a subtype is one exactly if both ways together are not longer than that.
A query on one type which includes subtypes runs over the objects of all types so near, each in a
row of its own, and without a WHERE tree it finds all of them. -/
theorem subtypes_follow_parents (h : c.Reachable) :
    (∀ t a, c.isSubtypeOf t a = true ↔ ∃ n ≤ 63, c.above n t = some a) ∧
    (∀ t, c.isSubtypeOf t t = true) ∧
    (∀ t a, c.isSubtypeOf t a = true → c.isSubtypeOf a t = true → t = a) ∧
    (∀ t b a n k, c.above n t = some b → c.above k b = some a →
      (c.isSubtypeOf t a = true ↔ n + k ≤ 63)) ∧
    ∀ (repository : Repository) (index : Option (TextIndex Id)) (config : Config) (text : String)
      (s : Statement) (bound : BoundStatement) (source : Source),
      config.includeSubtypes = true → Statement.parse text = .ok s → s.bind c = .ok bound →
      s.sources = [source] → ∃ e columns inOrder result,
        Evaluator.prepare bound repository.folders index config.caseSensitiveText = .ok e ∧
        Column.ofStatement bound = .ok columns ∧
        (execute c repository index config bound).run.run = .ok result ∧
        Accounts e config columns
          ((repository.descendants c source.typeId).map (Row.single bound)) inOrder result ∧
        (s.filter = none →
          inOrder.Perm ((repository.descendants c source.typeId).map (Row.single bound))) := by
  have hc := h.grounded
  refine ⟨fun t a => isSubtypeOf_iff, isSubtypeOf_refl, fun t a => hc.isSubtypeOf_antisymm,
    fun t b a n k => hc.isSubtypeOf_iff_add_le, ?_⟩
  intro repository index config text s bound source hconfig hparse hbind hsources
  obtain ⟨-, ⟨e, hprepare⟩, ⟨columns, hcolumns⟩, -⟩ :=
    hasResult_of_bind hparse hbind repository index config
  obtain ⟨rfl, hbound⟩ := bind_ok (Statement.selectors_ids_nodup hparse) hbind
  have hrows := rows_of_single hc hbound hsources repository hconfig
  obtain rfl := bound_of_prepare hprepare
  have hrun := run_execute c repository index config e.bound
  rw [hrows, hprepare, hcolumns] at hrun
  refine ⟨e, columns, found e _, _, hprepare, hcolumns, hrun, accounts_resultOf ..,
    fun hfilter => ?_⟩
  refine (found_perm e _).trans (List.Perm.of_eq (List.filter_eq_self.2 fun row _ => ?_))
  exact isFound_of_no_filter hbound hfilter row

/-- Books, and novels as a kind of them. -/
def bookTypes : List TypeDefinition := [.bare "Book" BaseType.document.id, .bare "Novel" "Book"]

/-- An object of a type, without properties of its own. -/
def bareObject (id typeId : String) : ContentObject :=
  ContentObject.withSystemProperties ⟨id, typeId, none, .empty, none⟩

/-- A document, a book and a novel. -/
def shelf : Repository where
  objects := .ofList [("d", bareObject "d" "cmis:document"), ("b", bareObject "b" "Book"),
    ("n", bareObject "n" "Novel")]
  matcher := ⟨false⟩

/-- A query on books finds the book and the novel, but not the document. -/
theorem subtypes_follow_parents_novel : ∃ catalog s bound,
    Catalog.base.registerAll bookTypes = .ok catalog ∧ catalog.Reachable ∧
    catalog.isSubtypeOf "Novel" "cmis:document" = true ∧
    Statement.parse "SELECT cmis:objectId FROM Book" = .ok s ∧ s.bind catalog = .ok bound ∧
    ∃ result, (execute (m := Id) catalog shelf none {} bound).run.run = .ok result ∧
      result.numItems = 2 := by
  have hcheck : ((Catalog.base.registerAll bookTypes).toOption.any fun catalog =>
      (Statement.parse "SELECT cmis:objectId FROM Book").toOption.any fun s =>
        (s.bind catalog).toOption.any fun _ =>
          decide (catalog.above 1 "Novel" = some "Book" ∧
            catalog.above 1 "Book" = some "cmis:document" ∧ s.filter.isNone ∧
            s.sources = [⟨"Book", none, none⟩] ∧ (shelf.descendants catalog "Book").length = 2)) =
      true := by
    rw [Statement.parse_ofList]
    decide +kernel
  obtain ⟨catalog, hcatalog, hcheck⟩ := exists_of_any_toOption hcheck
  obtain ⟨s, hs, hcheck⟩ := exists_of_any_toOption hcheck
  obtain ⟨bound, hbound, hcheck⟩ := exists_of_any_toOption hcheck
  obtain ⟨hnovel, hbook, hfilter, hsources, hlength⟩ := of_decide_eq_true hcheck
  have hreachable := Reachable.base.registerAll hcatalog
  obtain ⟨-, -, -, htrans, hquery⟩ := subtypes_follow_parents hreachable
  obtain ⟨e, columns, inOrder, result, -, -, hrun, haccounts, hall⟩ :=
    hquery shelf none {} _ s bound _ rfl hs hbound hsources
  refine ⟨catalog, s, bound, hcatalog, hreachable, (htrans _ _ _ 1 1 hnovel hbook).2 (by decide),
    hs, hbound, result, hrun, ?_⟩
  rw [haccounts.numItems, (hall (Option.isNone_iff_eq_none.1 hfilter)).length_eq, List.length_map,
    hlength]

/-- A chain of types below the documents, each named by its generation. -/
def generations (n : Nat) : List TypeDefinition :=
  (List.range n).map fun i => .bare (toString (i + 1))
    (if i = 0 then BaseType.document.id else toString i)

/-- The name of a generation; they are counted from the documents. -/
def generation (i : Nat) : String := if i = 0 then BaseType.document.id else toString i

/-- The type that follows a generation. -/
def follower (i : Nat) : TypeDefinition := .bare (generation (i + 1)) (generation i)

theorem generations_eq (n : Nat) : generations n = (List.range n).map follower := by
  refine List.map_congr_left fun i _ => ?_
  cases i <;> rfl

theorem follower_mem_generations {i n : Nat} (h : i < n) : follower i ∈ generations n := by
  rw [generations_eq]
  exact List.mem_map_of_mem (List.mem_range.2 h)

theorem toList_generation_succ (i : Nat) :
    (generation (i + 1)).toList = Nat.toDigits 10 (i + 1) := by
  rw [generation, if_neg (Nat.succ_ne_zero i)]
  exact Nat.toList_repr

theorem generation_succ_inj {i k : Nat} (h : generation (i + 1) = generation (k + 1)) : i = k := by
  rw [← String.toList_inj, toList_generation_succ, toList_generation_succ] at h
  have hvalue := congrArg (Nat.ofDigitChars 10 · 0) h
  simpa [Nat.ofDigitChars_ten_toDigits] using hvalue

/-- No base type is named by a number. -/
theorem generation_succ_notMem (i : Nat) : generation (i + 1) ∉ Catalog.base.typeIds := by
  have hletter : ∀ id ∈ Catalog.base.typeIds, 'c' ∈ id.toList := by decide
  intro hmem
  have hdigit := hletter _ hmem
  rw [toList_generation_succ] at hdigit
  exact absurd (Nat.isDigit_of_mem_toDigits (by decide) (by decide) hdigit) (by decide)

/-- The generations can be registered one after another. -/
theorem exists_generations (n : Nat) : ∃ catalog, Catalog.base.registerAll (generations n) =
    .ok catalog ∧ catalog.BuiltFrom (BaseType.all.map (·.definition) ++ generations n) := by
  induction n with
  | zero => exact ⟨.base, rfl, .base⟩
  | succ n ih =>
    obtain ⟨catalog, hrun, hbuilt⟩ := ih
    have hids : catalog.typeIds =
        Catalog.base.typeIds ++ (List.range n).map fun i => generation (i + 1) := by
      rw [hbuilt.typeIds_eq, List.map_append, ← BuiltFrom.base.typeIds_eq, generations_eq,
        List.map_map]
      rfl
    have hnew : generation (n + 1) ∉ catalog.typeIds := by
      rw [hids, List.mem_append, List.mem_map]
      rintro (hbase | ⟨i, hi, hsame⟩)
      · exact generation_succ_notMem n hbase
      · exact absurd (generation_succ_inj hsame) (Nat.ne_of_lt (List.mem_range.1 hi))
    have hparent : generation n ∈ catalog.typeIds := by
      rw [hids, List.mem_append]
      cases n with
      | zero => exact .inl (by decide)
      | succ n => exact .inr (List.mem_map_of_mem (List.mem_range.2 (Nat.lt_succ_self n)))
    obtain ⟨⟨next, stored⟩, hreg⟩ := (exists_register_eq_ok_iff (t := follower n)).2
      ⟨hnew, fun _ hp => Option.some.inj hp ▸ hparent⟩
    have hbase : (BaseType.ofId? (follower n).id).isSome = false :=
      Bool.eq_false_iff.2 fun h => generation_succ_notMem n (Reachable.base.mem_typeIds_of_base h)
    have hlist : generations (n + 1) = generations n ++ [follower n] := by
      rw [generations_eq, generations_eq, List.range_succ, List.map_append, List.map_singleton]
    refine ⟨next, ?_, ?_⟩
    · rw [hlist, registerAll_append, hrun]
      show catalog.registerAll [follower n] = _
      rw [registerAll_cons hbase, hreg]
      rfl
    · rw [hlist, ← List.append_assoc]
      exact hbuilt.register hreg

section
variable {n : Nat} {catalog : Catalog}
  (h : catalog.BuiltFrom (BaseType.all.map (·.definition) ++ generations n))
include h

theorem above_generation {i k : Nat} (hle : k + i ≤ n) :
    catalog.above i (generation (k + i)) = some (generation k) := by
  induction i with
  | zero => rfl
  | succ i ih =>
    have hparent := h.parent?_eq (List.mem_append_right _ (follower_mem_generations hle))
    exact above_succ.2 ⟨generation (k + i), hparent, ih (Nat.le_of_succ_le hle)⟩

/-- A generation is a subtype of those that are at most 63 before it. -/
theorem isSubtypeOf_generation_iff {i k : Nat} (hle : k + i ≤ n) :
    catalog.isSubtypeOf (generation (k + i)) (generation k) = true ↔ i ≤ 63 :=
  h.reachable.grounded.isSubtypeOf_iff_add_le (above_generation h hle) above_zero

end

/-- **The bound is felt in the 64th generation.** The documents are 64 parents above it, and it is
not a subtype of them, although it is one of the first generation, which is. -/
theorem generations_break_off : ∃ catalog : Catalog,
    Catalog.base.registerAll (generations 64) = .ok catalog ∧ catalog.Reachable ∧
    "64" ∈ catalog.typeIds ∧ "cmis:document" ∈ catalog.typeIds ∧
    catalog.above 64 "64" = some "cmis:document" ∧
    catalog.isSubtypeOf "64" "cmis:document" = false ∧
    catalog.isSubtypeOf "64" "1" = true ∧ catalog.isSubtypeOf "1" "cmis:document" = true := by
  obtain ⟨catalog, hcatalog, hbuilt⟩ := exists_generations 64
  have hsubtype {i k : Nat} (hle : k + i ≤ 64) := isSubtypeOf_generation_iff hbuilt hle
  have habove : catalog.above 64 "64" = some "cmis:document" :=
    above_generation hbuilt (k := 0) (Nat.le_refl 64)
  have hlast : "64" ∈ catalog.typeIds := by
    obtain ⟨p, hparent, -⟩ := above_succ.1 habove
    obtain ⟨d, hd, -⟩ := Option.bind_eq_some_iff.1 hparent
    exact mem_typeIds_iff.2 ⟨d, hd⟩
  refine ⟨catalog, hcatalog, hbuilt.reachable, hlast,
    hbuilt.reachable.mem_typeIds_of_base (by decide), habove, ?_, ?_, ?_⟩
  · have hfar := hsubtype (i := 64) (k := 0) (by decide)
    exact Bool.eq_false_iff.2 fun hnear => absurd (hfar.1 hnear) (by decide)
  · exact (hsubtype (i := 63) (k := 1) (Nat.le_refl 64)).2 (Nat.le_refl 63)
  · exact (hsubtype (i := 1) (k := 0) (by decide)).2 (by decide)

end Execution

end ContentQuery
