import ContentQuery.Proofs.Execution.Outcome

/-!
# Pages of results

A page is cut out of a table that does not depend on its size or on where it starts
(`Execution.results`, `Execution.run_execute_results`). `pages_cover` draws the conclusions for a full-text
index whose answers are a function of its arguments: what each page holds, when there are more
rows, and that the pages of a client who goes on while there are more hold all rows once
(`Execution.Browses`).
-/

set_option autoImplicit false

namespace ContentQuery

namespace Execution

/-! ## The table behind the pages -/

/-- The headings of a bound statement and all rows of its results. -/
def results (catalog : Catalog) (repository : Repository) (index : Option (TextIndex Id))
    (config : Config) (bound : BoundStatement) :
    Except QueryError (List String × List (List (Option PropertyValue))) := do
  let rows ← Join.rows bound (candidates catalog repository config bound)
  let e ← Evaluator.prepare bound repository.folders index config.caseSensitiveText
  let matching : List Row := (filterRows e rows).run.1
  let inOrder : List Row :=
    if bound.statement.orderBy.isEmpty then matching else (sortRows e matching).run.1
  let columns ← Column.ofStatement bound
  return (columns.map (·.heading),
    inOrder.map fun row => columns.map fun column => (cell e row column).run.1)

variable {catalog : Catalog} {repository : Repository} {index : Option (TextIndex Id)}
  {config : Config} {bound : BoundStatement}

variable (catalog repository index config bound) in
/-- A page is a part of the table. -/
theorem run_execute_results : ∃ stats, (execute catalog repository index config bound).run.run =
    (results catalog repository index config bound).map fun r =>
      { columns := r.1
        rows := (r.2.drop config.skipCount.toNat).take (pageLimit config)
        stats
        hasMoreItems := hasMore config r.2.length
        numItems := r.2.length } := by
  rw [run_execute, results]
  generalize total ((candidates catalog repository config bound).map (·.2.length)) = scanned
  cases Join.rows bound (candidates catalog repository config bound) with
  | error fault => exact ⟨⟨0, 0, 0, 0⟩, rfl⟩
  | ok rows =>
  cases hprepare : Evaluator.prepare bound repository.folders index config.caseSensitiveText with
  | error fault => exact ⟨⟨0, 0, 0, 0⟩, rfl⟩
  | ok e =>
  cases Column.ofStatement bound with
  | error fault => exact ⟨⟨0, 0, 0, 0⟩, rfl⟩
  | ok columns =>
    have hfound : (if bound.statement.orderBy.isEmpty then (filterRows e rows).run.1
        else (sortRows e (filterRows e rows).run.1).run.1) = found e rows := by
      rw [← bound_of_prepare hprepare]
      rfl
    simp only [ok_bind, hfound, Evaluator.cell_eq]
    refine ⟨(resultOf e config columns scanned rows).stats, congrArg Except.ok ?_⟩
    simp only [resultOf, page, List.map_take, List.map_drop, List.length_map]

/-! ## Pages -/

/-- The page of at most `maxItems` rows, or of all if that is zero, from `skipCount` on. -/
def pageOf (catalog : Catalog) (repository : Repository) (index : Option (TextIndex Id))
    (config : Config) (bound : BoundStatement) (maxItems skipCount : UInt64) :
    Except QueryError QueryResult :=
  (execute catalog repository index { config with maxItems, skipCount } bound).run.run

/-- A result that has a page of the rows of another one, and says whether there are more. -/
structure IsPage (whole page : QueryResult) (maxItems skipCount : UInt64) : Prop where
  columns : page.columns = whole.columns
  rows : page.rows = if maxItems = 0 then whole.rows.drop skipCount.toNat
    else (whole.rows.drop skipCount.toNat).take maxItems.toNat
  numItems : page.numItems = whole.numItems
  hasMore : page.hasMoreItems = true ↔ skipCount.toNat + page.rows.length < whole.numItems

/-- The pages of a client who starts at some position and goes on while there are more rows. -/
inductive Browses (run : UInt64 → UInt64 → Except QueryError QueryResult) (maxItems : UInt64) :
    UInt64 → List QueryResult → Prop
  | last {position : UInt64} {page : QueryResult} :
      run maxItems position = .ok page → page.hasMoreItems = false →
      Browses run maxItems position [page]
  | next {position : UInt64} {page : QueryResult} {pages : List QueryResult} :
      run maxItems position = .ok page → page.hasMoreItems = true →
      Browses run maxItems (position + maxItems) pages →
      Browses run maxItems position (page :: pages)

variable (catalog repository index config bound) in
theorem pageOf_eq (maxItems skipCount : UInt64) : ∃ stats,
    pageOf catalog repository index config bound maxItems skipCount =
      (results catalog repository index config bound).map fun r =>
        { columns := r.1
          rows := (r.2.drop skipCount.toNat).take
            (if maxItems = 0 then maxUInt64 else maxItems.toNat)
          stats
          hasMoreItems := decide (min (skipCount.toNat +
            if maxItems = 0 then maxUInt64 else maxItems.toNat) maxUInt64 < r.2.length)
          numItems := r.2.length } := by
  obtain ⟨stats, h⟩ :=
    run_execute_results catalog repository index { config with maxItems, skipCount } bound
  exact ⟨stats, h⟩

/-- Every page is a page of the whole. -/
theorem isPage_pageOf {whole : QueryResult}
    (hwhole : pageOf catalog repository index config bound 0 0 = .ok whole)
    (hcount : whole.numItems ≤ maxUInt64) :
    whole.rows.length = whole.numItems ∧ ∀ maxItems skipCount, ∃ page,
      pageOf catalog repository index config bound maxItems skipCount = .ok page ∧
        IsPage whole page maxItems skipCount := by
  obtain ⟨_, hall⟩ := pageOf_eq catalog repository index config bound 0 0
  rw [hwhole] at hall
  cases hresults : results catalog repository index config bound with
  | error fault =>
    rw [hresults] at hall
    cases hall
  | ok r =>
  rw [hresults] at hall
  have hall := Except.ok.inj hall
  have hcolumns : whole.columns = r.1 := by rw [hall]
  have hnum : whole.numItems = r.2.length := by rw [hall]
  rw [hnum] at hcount ⊢
  have hrows : whole.rows = r.2 := by
    rw [hall]
    exact List.take_of_length_le hcount
  refine ⟨congrArg List.length hrows, fun maxItems skipCount => ?_⟩
  obtain ⟨stats, hpage⟩ := pageOf_eq catalog repository index config bound maxItems skipCount
  rw [hresults] at hpage
  refine ⟨_, hpage, hcolumns.symm, ?_, hnum.symm, ?_⟩
  · rw [hrows]
    by_cases hzero : maxItems = 0
    · simp only [if_pos hzero]
      refine List.take_of_length_le ?_
      rw [List.length_drop]
      omega
    · simp only [if_neg hzero]
  · rw [hnum, decide_eq_true_eq, List.length_take, List.length_drop]
    split <;> omega

/-! ## Going through the pages -/

section
variable {run : UInt64 → UInt64 → Except QueryError QueryResult} {whole : QueryResult}
  {maxItems : UInt64}

/-- Behind a page that is not the last one, the next position is that of the next row. -/
theorem IsPage.toNat_next {page : QueryResult} {position : UInt64}
    (h : IsPage whole page maxItems position) (hlength : whole.rows.length = whole.numItems)
    (hcount : whole.numItems ≤ maxUInt64) (hmore : page.hasMoreItems = true) :
    maxItems ≠ 0 ∧ (position + maxItems).toNat = position.toNat + maxItems.toNat ∧
      position.toNat + maxItems.toNat < whole.numItems := by
  have hlt := h.hasMore.1 hmore
  rw [h.rows] at hlt
  by_cases hzero : maxItems = 0
  · rw [if_pos hzero, List.length_drop] at hlt
    omega
  · rw [if_neg hzero, List.length_take, List.length_drop] at hlt
    refine ⟨hzero, ?_, by omega⟩
    have hsmall : position.toNat + maxItems.toNat < 2 ^ 64 := by
      unfold maxUInt64 at hcount
      omega
    rw [UInt64.toNat_add, Nat.mod_eq_of_lt hsmall]

theorem IsPage.rows_of_last {page : QueryResult} {position : UInt64}
    (h : IsPage whole page maxItems position) (hlength : whole.rows.length = whole.numItems)
    (hlast : page.hasMoreItems = false) : page.rows = whole.rows.drop position.toNat := by
  have hge : ¬position.toNat + page.rows.length < whole.numItems := by
    rw [← h.hasMore, hlast]
    exact Bool.false_ne_true
  rw [h.rows] at hge ⊢
  by_cases hzero : maxItems = 0
  · rw [if_pos hzero]
  · rw [if_neg hzero, List.length_take, List.length_drop] at hge
    rw [if_neg hzero]
    refine List.take_of_length_le ?_
    rw [List.length_drop]
    omega

variable (hlength : whole.rows.length = whole.numItems) (hcount : whole.numItems ≤ maxUInt64)
  (hpages : ∀ m k, ∃ page, run m k = .ok page ∧ IsPage whole page m k)

include hlength hcount hpages

/-- The pages from a position on hold the rows from there on. -/
theorem Browses.flatMap_rows {position : UInt64} {pages : List QueryResult}
    (h : Browses run maxItems position pages) :
    pages.flatMap (·.rows) = whole.rows.drop position.toNat := by
  induction h with
  | @last position page hrun hlast =>
    obtain ⟨_, hpage, hpart⟩ := hpages maxItems position
    rw [hrun] at hpage
    cases hpage
    rw [List.flatMap_singleton, hpart.rows_of_last hlength hlast]
  | @next position page pages hrun hmore _ ih =>
    obtain ⟨_, hpage, hpart⟩ := hpages maxItems position
    rw [hrun] at hpage
    cases hpage
    obtain ⟨hzero, hnext, -⟩ := hpart.toNat_next hlength hcount hmore
    rw [List.flatMap_cons, ih, hpart.rows, if_neg hzero, hnext, ← List.drop_drop,
      List.take_append_drop]

/-- A client comes to the last page. -/
theorem exists_browses (position : UInt64) : ∃ pages, Browses run maxItems position pages := by
  -- What is left gets less with every page that is not the last one.
  induction hleft : whole.numItems - position.toNat using Nat.strongRecOn
    generalizing position with
  | ind left ih =>
    obtain ⟨page, hrun, hpart⟩ := hpages maxItems position
    cases hmore : page.hasMoreItems with
    | false => exact ⟨[page], .last hrun hmore⟩
    | true =>
      obtain ⟨hzero, hnext, hlt⟩ := hpart.toNat_next hlength hcount hmore
      have hpos : 0 < maxItems.toNat := by
        rw [Nat.pos_iff_ne_zero]
        exact fun h => hzero (UInt64.toNat_inj.1 h)
      obtain ⟨pages, hbrowses⟩ := ih (whole.numItems - (position + maxItems).toNat) (by omega)
        (position + maxItems) rfl
      exact ⟨page :: pages, .next hrun hmore hbrowses⟩

end

/-- **Paging loses and repeats nothing.** A bound statement fails in the same way on every page, or
it has a result without limit, in which there is a row for each item. Every page is then a part of
this result, whatever its size and its start are, and the pages of a client who starts at the first
row and goes on while there are more hold its rows once and in order. The rows of a result are no
more than a counter can count. A statement that is parsed and bound has a result. -/
theorem pages_cover (catalog : Catalog) (repository : Repository) (index : Option (TextIndex Id))
    (config : Config) (bound : BoundStatement) :
    (∀ fault, pageOf catalog repository index config bound 0 0 = .error fault →
      ∀ m k, pageOf catalog repository index config bound m k = .error fault) ∧
    (∀ whole, pageOf catalog repository index config bound 0 0 = .ok whole →
      whole.numItems ≤ maxUInt64 →
      whole.rows.length = whole.numItems ∧
      (∀ m k, ∃ page, pageOf catalog repository index config bound m k = .ok page ∧
        IsPage whole page m k) ∧
      ∀ m, (∃ pages, Browses (pageOf catalog repository index config bound) m 0 pages) ∧
        ∀ pages, Browses (pageOf catalog repository index config bound) m 0 pages →
          pages.flatMap (·.rows) = whole.rows) ∧
    ∀ text s, Statement.parse text = .ok s → s.bind catalog = .ok bound →
      ∃ whole, pageOf catalog repository index config bound 0 0 = .ok whole := by
  refine ⟨fun fault hfault m k => ?_, fun whole hwhole hcount => ?_, fun text s hparse hbind => ?_⟩
  · obtain ⟨_, hall⟩ := pageOf_eq catalog repository index config bound 0 0
    obtain ⟨_, hpage⟩ := pageOf_eq catalog repository index config bound m k
    rw [hfault] at hall
    cases hresults : results catalog repository index config bound with
    | error fault' =>
      rw [hresults] at hall hpage
      cases hall
      exact hpage
    | ok r =>
      rw [hresults] at hall
      cases hall
  · obtain ⟨hlength, hpages⟩ := isPage_pageOf hwhole hcount
    refine ⟨hlength, hpages, fun m => ?_⟩
    refine ⟨exists_browses hlength hcount hpages 0, fun pages hbrowses => ?_⟩
    exact hbrowses.flatMap_rows hlength hcount hpages
  · obtain ⟨hcond, -⟩ := Statement.parse_ok hparse
    obtain ⟨rfl, hbound⟩ := bind_ok (Statement.selectors_ids_nodup hparse) hbind
    obtain ⟨_, hall⟩ := pageOf_eq catalog repository index config bound 0 0
    obtain ⟨rows, hrows⟩ := Join.rows_ok hbound.joins (candidates catalog repository config bound)
    obtain ⟨columns, hcolumns⟩ := Column.ofStatement_ok hbound
    obtain ⟨e, hprepare, -⟩ := Evaluator.prepare_ok (m := Id) hcond hbound.filter
      repository.folders index config.caseSensitiveText
    have hresults : ∃ r, results catalog repository index config bound = .ok r := by
      unfold results
      rw [hrows, hprepare, hcolumns]
      exact ⟨_, rfl⟩
    obtain ⟨r, hresults⟩ := hresults
    rw [hresults] at hall
    exact ⟨_, hall⟩

/-- Three documents. -/
def threeDocuments : Repository where
  objects := .ofList [("1", namedDocument "1" "a" "x"), ("2", namedDocument "2" "b" "x"),
    ("3", namedDocument "3" "c" "x")]
  matcher := ⟨false⟩

/-- Three rows, two to a page. -/
theorem pages_cover_three : ∃ s bound,
    Statement.parse "SELECT cmis:name FROM cmis:document" = .ok s ∧
    s.bind .base = .ok bound ∧ ∃ pages,
      Browses (pageOf .base threeDocuments none {} bound) 2 0 pages ∧
      pages.flatMap (·.rows) = [[some (.single (.string "a"))], [some (.single (.string "b"))],
        [some (.single (.string "c"))]] := by
  refine exists_bound (fun _ bound =>
    (pageOf .base threeDocuments none {} bound 0 0).toOption.any fun whole =>
      decide (whole.numItems = 3 ∧ whole.rows = [[some (.single (.string "a"))],
        [some (.single (.string "b"))], [some (.single (.string "c"))]]))
    (by rw [Statement.parse_ofList]; decide +kernel) ?_
  intro s bound _ _ hcheck
  obtain ⟨whole, hwhole, hcheck⟩ := exists_of_any_toOption hcheck
  obtain ⟨hcount, hrows⟩ := of_decide_eq_true hcheck
  obtain ⟨-, hcover, -⟩ := pages_cover .base threeDocuments none {} bound
  obtain ⟨-, -, hbrowse⟩ := hcover whole hwhole (by rw [hcount]; decide)
  obtain ⟨⟨pages, hpages⟩, hall⟩ := hbrowse 2
  exact ⟨pages, hpages, (hall pages hpages).trans hrows⟩

end Execution

end ContentQuery
