import ContentQuery.Proofs.Execution.OwnIndex
import ContentQuery.Proofs.Renaming.Execution
import Mathlib.Logic.Equiv.Basic

/-!
# Ids and aliases are only names

`sameRuns_renumber`: other ids for the references of a statement change nothing.
`alike_renameAliases`: other aliases in the FROM list change nothing but the names in messages and
headings, and an alias that a type has anyway changes nothing at all.
-/

set_option autoImplicit false

namespace ContentQuery

variable {ρ : Renaming}

/-! ## Names that stay -/

section
variable (hname : ∀ name, ρ.name name = name)
include hname

theorem ColumnRef.toText_rename (c : ColumnRef) : (c.rename ρ).toText = c.toText := by
  obtain ⟨i, q, property⟩ := c
  cases q with
  | none => rfl
  | some q => simp only [rename, toText, Option.map_some, hname]

theorem Selector.toText_rename (sel : Selector) : (sel.rename ρ).toText = sel.toText := by
  cases sel with
  | column c => exact c.toText_rename hname
  | function f => rfl

theorem BindError.RenamedTo.eq {e e' : BindError} (h : e.RenamedTo ρ e') : e = e' := by
  cases h with
  | same => rfl
  | duplicateAlias name => rw [hname]
  | unknownType name => rw [hname]
  | ambiguousProperty property aliases => rw [funext hname, List.map_id']
  | _ => rw [ColumnRef.toText_rename hname]

theorem QueryError.RenamedTo.eq {e e' : QueryError} (h : e.RenamedTo ρ e') : e = e' := by
  cases h with
  | same => rfl
  | unboundJoinColumn c => rw [c.toText_rename hname]
  | unboundSelector sel => rw [sel.toText_rename hname]
  | typeNotFound name => rw [hname]

theorem QueryResult.RenamedTo.eq {result result' : QueryResult} (h : result.RenamedTo ρ result') :
    result = result' := by
  have hheading : ∀ heading heading', HeadingRenamed ρ heading heading' → heading = heading' := by
    intro heading heading' hh
    cases hh with
    | same => rfl
    | qualified aliasName property => rw [hname]
  obtain ⟨columns, rows, stats, hasMoreItems, numItems⟩ := result
  obtain ⟨columns', rows', stats', hasMoreItems', numItems'⟩ := result'
  obtain ⟨hcolumns, hrows, hstats, hmore, hitems⟩ := h
  have hcolumns := hcolumns.imp hheading
  rw [List.forall₂_eq_eq_eq] at hcolumns
  dsimp only at hcolumns hrows hstats hmore hitems
  rw [hcolumns, hrows, hstats, hmore, hitems]

end

/-- Two bound statements run in the same way over every repository, with every index and under
every configuration. -/
def BoundStatement.SameRuns (catalog : Catalog) (bound bound' : BoundStatement) : Prop :=
  ∀ (m : Type → Type) [Monad m] [LawfulMonad m] (repository : Repository)
    (index : Option (TextIndex m)) (config : Config),
    Execution.execute catalog repository index config bound' =
      Execution.execute catalog repository index config bound

/-- Two bound statements run in the same way, but for the names that messages and headings tell. -/
def BoundStatement.RunsAlike (ρ : Renaming) (catalog : Catalog) (bound bound' : BoundStatement) :
    Prop :=
  ∀ (m : Type → Type) [Monad m] [LawfulMonad m] (repository : Repository)
    (index : Option (TextIndex m)) (config : Config),
    CoupledT (QueryError.RenamedTo ρ) (QueryResult.RenamedTo ρ)
      (Execution.execute catalog repository index config bound)
      (Execution.execute catalog repository index config bound')

/-- A renaming that leaves the names as they are. -/
theorem Statement.RenamedTo.sameRuns (hρ : ρ.Injective) (hname : ∀ name, ρ.name name = name)
    {s s' : Statement} (h : s.RenamedTo ρ s') (catalog : Catalog) :
    Alike Eq (BoundStatement.SameRuns catalog) (s.bind catalog) (s'.bind catalog) := by
  refine (Statement.bind_renamedTo hρ h catalog).mono (fun _ _ he => he.eq hname) ?_
  intro bound bound' hbound m _ _ repository index config
  have hrun := Execution.execute_renamedTo hρ hbound catalog repository index config
  refine (Coupled.eq (hrun.mono fun o o' ho => ?_)).symm
  exact (ho.mono (fun _ _ he => he.eq hname) fun _ _ hresult => hresult.eq hname).eq

/-! ## Ids -/

/-- The statement with other ids. -/
def Statement.renumber (f : SelectorId → SelectorId) (s : Statement) : Statement :=
  s.rename { id := f, name := id } s.text

/-- **Ids are only names.** If different ids of a statement stay different, then it binds with other
ids as it does with its own, or fails with the same error; and every run of it leads to the same
result, or to the same error. References of one id need not be told apart for this. -/
theorem sameRuns_renumber {s : Statement} {f : SelectorId → SelectorId}
    (hf : Set.InjOn f {id | id ∈ s.selectors.map Selector.id}) (catalog : Catalog) :
    Alike Eq (BoundStatement.SameRuns catalog) (s.bind catalog) ((s.renumber f).bind catalog) := by
  obtain ⟨g, hg, hsame⟩ := exists_injective_of_injOn (List.finite_toSet _) hf
  have hid : ∀ sel ∈ s.selectors, f sel.id = g sel.id :=
    fun sel hsel => (hsame _ (List.mem_map_of_mem hsel)).symm
  have hrename : s.renumber f = s.rename { id := g, name := id } s.text :=
    Statement.rename_congr s.text hid fun _ _ => rfl
  have hrenamed : s.RenamedTo { id := g, name := id } (s.renumber f) := by
    rw [hrename]
    exact Statement.renamedTo_rename s.text fun _ _ _ => rfl
  exact hrenamed.sameRuns ⟨hg, Function.injective_id⟩ (fun _ => rfl) catalog

/-- A join that is filtered and ordered by a SELECT alias, with its ids in reverse. -/
theorem sameRuns_renumber_join : ∃ s bound,
    Statement.parse ("SELECT d.cmis:name AS n, SCORE() FROM cmis:document d JOIN cmis:folder f " ++
      "ON d.cmis:createdBy = f.cmis:objectId WHERE n = 'a' ORDER BY n DESC") = .ok s ∧
    s.bind .base = .ok bound ∧ bound.bindings.resolved.keys = [0, 1, 2, 3, 4, 5] ∧
    ∃ bound', (s.renumber (9 - ·)).bind .base = .ok bound' ∧
      bound'.bindings.resolved.keys = [9, 8, 7, 6, 5, 4] ∧
      BoundStatement.SameRuns .base bound bound' := by
  refine exists_bound (fun s bound => decide (s.selectors.map Selector.id = [0, 1, 2, 3, 4, 5] ∧
    bound.bindings.resolved.keys = [0, 1, 2, 3, 4, 5] ∧
    ((s.renumber (9 - ·)).bind .base).toOption.map (·.bindings.resolved.keys) =
      some [9, 8, 7, 6, 5, 4])) ?_ ?_
  · rw [← String.ofList_append, Statement.parse_ofList]
    decide +kernel
  intro s bound _ hbound hcheck
  obtain ⟨hids, hkeys, hrenumbered⟩ := of_decide_eq_true hcheck
  have hinj : Set.InjOn (fun id => 9 - id) {id | id ∈ s.selectors.map Selector.id} := by
    have hreverse : ∀ a b : Nat, a < 6 → b < 6 → 9 - a = 9 - b → a = b := by omega
    rw [hids]
    exact fun a ha b hb => hreverse a b (List.mem_range.1 ha) (List.mem_range.1 hb)
  have hruns := sameRuns_renumber hinj .base
  rw [hbound] at hruns
  cases hbound' : (s.renumber (9 - ·)).bind .base with
  | error e =>
    rw [hbound'] at hruns
    cases hruns
  | ok bound' =>
    rw [hbound'] at hruns hrenumbered
    cases hruns with
    | ok hsame => exact ⟨hkeys, bound', rfl, Option.some.inj hrenumbered, hsame⟩

/-! ## Aliases -/

/-- The statement with other aliases in its FROM list and other qualifiers. -/
def Statement.renameAliases (f : String → String) (text : String) (s : Statement) : Statement :=
  s.rename { id := id, name := f } text

/-- An alias that a type has anyway may be written or not. -/
def Source.SameName (source source' : Source) : Prop :=
  source' = source ∨ source.aliasName = none ∧
    source' = { source with aliasName := some source.typeId }

theorem Source.SameName.renamedTo {source source' : Source} (h : source.SameName source') :
    source.RenamedTo .identity source' := by
  have hjoin : JoinSpec.rename .identity = id := funext fun join => by simp [JoinSpec.rename]
  rcases h with rfl | ⟨hnone, rfl⟩
  · exact ⟨rfl, rfl, by rw [hjoin, Option.map_id, id]⟩
  · refine ⟨rfl, ?_, by rw [hjoin, Option.map_id, id]⟩
    rw [bindingName, bindingName, hnone]
    rfl

theorem BindError.RenamedTo.ctorIdx_eq {e e' : BindError} (h : e.RenamedTo ρ e') :
    e'.ctorIdx = e.ctorIdx := by
  cases h <;> rfl

/-- **Aliases are bound variables.** If all types of a FROM list have aliases, and these and all
qualifiers get other names that are kept apart, then the statement binds as before or fails with an
error of the same kind; and a run leads to the same rows, counts and statistics, or to the same
error, where headings and messages name the new aliases in place of the old ones. To write the id
of a type as its alias changes nothing. -/
theorem alike_renameAliases (s : Statement) (text : String) (catalog : Catalog) :
    (∀ f : String → String, Set.InjOn f {name | name ∈ s.names} →
      (∀ source ∈ s.sources, source.aliasName.isSome = true) →
      ∃ ρ : Renaming, (∀ name ∈ s.names, ρ.name name = f name) ∧
        Alike (fun e e' => e'.ctorIdx = e.ctorIdx ∧ e.RenamedTo ρ e')
          (BoundStatement.RunsAlike ρ catalog) (s.bind catalog)
          ((s.renameAliases f text).bind catalog)) ∧
    ∀ sources, List.Forall₂ Source.SameName s.sources sources →
      Alike Eq (BoundStatement.SameRuns catalog) (s.bind catalog)
        (Statement.bind { s with text, sources } catalog) := by
  constructor
  · intro f hf halias
    obtain ⟨g, hg, hsame⟩ := exists_injective_of_injOn (List.finite_toSet _) hf
    have hρ : Renaming.Injective { id := id, name := g } := ⟨Function.injective_id, hg⟩
    have hrename : s.renameAliases f text = s.rename { id := id, name := g } text :=
      Statement.rename_congr text (fun _ _ => rfl) fun name hname => (hsame name hname).symm
    have hrenamed : s.RenamedTo { id := id, name := g } (s.renameAliases f text) := by
      rw [hrename]
      refine Statement.renamedTo_rename text fun source hsource hnone => ?_
      have hsome := halias source hsource
      rw [hnone] at hsome
      cases hsome
    refine ⟨{ id := id, name := g }, hsame, ?_⟩
    have hbind := Statement.bind_renamedTo hρ hrenamed catalog
    refine hbind.mono (fun _ _ he => ⟨he.ctorIdx_eq, he⟩) ?_
    intro bound bound' hbound m _ _ repository index config
    exact Execution.execute_renamedTo hρ hbound catalog repository index config
  · intro sources hsources
    have hsame := hsources.imp fun _ _ h => h.renamedTo
    exact (s.renamedTo_identity text hsame).sameRuns Renaming.injective_identity (fun _ => rfl)
      catalog

/-- Two aliases of one type that change places, and one that is the id of its type. -/
theorem alike_renameAliases_swapped :
    (∃ s bound,
      Statement.parse ("SELECT d.cmis:name, e.cmis:name FROM cmis:document d " ++
        "JOIN cmis:document e ON d.cmis:createdBy = e.cmis:objectId " ++
        "WHERE CONTAINS(e, 'b')") = .ok s ∧
      s.bind .base = .ok bound ∧
      ∃ bound', (s.renameAliases (Equiv.swap "d" "e") "").bind .base = .ok bound' ∧
        ∃ result result',
          (Execution.execute (m := Id) .base Execution.createdInTurn none {} bound).run.run
            = .ok result ∧
          (Execution.execute (m := Id) .base Execution.createdInTurn none {} bound').run.run
            = .ok result' ∧
          result.columns = ["d.cmis:name", "e.cmis:name"] ∧
          result'.columns = ["e.cmis:name", "d.cmis:name"] ∧
          result'.rows = result.rows ∧ result.numItems = 1) ∧
    ∃ s bound, Statement.parse "SELECT cmis:name FROM cmis:document" = .ok s ∧
      s.bind .base = .ok bound ∧
      ∃ bound', Statement.bind { s with
          sources := [⟨"cmis:document", some "cmis:document", none⟩] } .base = .ok bound' ∧
        BoundStatement.SameRuns .base bound bound' := by
  constructor
  · refine exists_bound (fun s bound => s.sources.all (·.aliasName.isSome) &&
      ((s.renameAliases (Equiv.swap "d" "e") "").bind .base).toOption.any fun bound' =>
        (Execution.execute (m := Id) .base Execution.createdInTurn none {}
          bound).run.run.toOption.any fun result =>
            (Execution.execute (m := Id) .base Execution.createdInTurn none {}
              bound').run.run.toOption.any fun result' => decide (
                result.columns = ["d.cmis:name", "e.cmis:name"] ∧
                result'.columns = ["e.cmis:name", "d.cmis:name"] ∧ result.numItems = 1)) ?_ ?_
    · rw [← String.ofList_append, ← String.ofList_append, Statement.parse_ofList]
      decide +kernel
    intro s bound _ hbound hcheck
    obtain ⟨haliases, hcheck⟩ := Bool.and_eq_true_iff.1 hcheck
    obtain ⟨bound', hbound', hcheck⟩ := exists_of_any_toOption hcheck
    obtain ⟨result, hresult, hcheck⟩ := exists_of_any_toOption hcheck
    obtain ⟨result', hresult', hcheck⟩ := exists_of_any_toOption hcheck
    obtain ⟨hcolumns, hcolumns', hitems⟩ := of_decide_eq_true hcheck
    obtain ⟨ρ, -, halike⟩ := (alike_renameAliases s "" .base).1 _
      (Equiv.swap "d" "e").injective.injOn (List.all_eq_true.1 haliases)
    rw [hbound, hbound'] at halike
    cases halike with
    | ok hruns =>
      have hresults := (hruns Id Execution.createdInTurn none {}).results
      rw [hresult, hresult'] at hresults
      cases hresults with
      | ok h =>
        exact ⟨bound', hbound', result, result', hresult, hresult', hcolumns, hcolumns', h.rows,
          hitems⟩
  · refine exists_bound (fun s _ => decide (s.sources = [⟨"cmis:document", none, none⟩]) &&
      (Statement.bind { s with sources := [⟨"cmis:document", some "cmis:document", none⟩] }
        .base).toOption.any fun _ => true) (by rw [Statement.parse_ofList]; decide +kernel) ?_
    intro s bound _ hbound hcheck
    obtain ⟨hsources, hcheck⟩ := Bool.and_eq_true_iff.1 hcheck
    obtain ⟨bound', hbound', -⟩ := exists_of_any_toOption hcheck
    have hsame : List.Forall₂ Source.SameName s.sources
        [⟨"cmis:document", some "cmis:document", none⟩] := by
      rw [of_decide_eq_true hsources]
      exact .cons (.inr ⟨rfl, rfl⟩) .nil
    have halike := (alike_renameAliases s s.text .base).2 _ hsame
    rw [hbound, hbound'] at halike
    cases halike with
    | ok hruns => exact ⟨bound', hbound', hruns⟩

end ContentQuery
