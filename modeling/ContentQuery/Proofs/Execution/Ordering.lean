import ContentQuery.Proofs.Evaluation.KeyOrder
import ContentQuery.Proofs.Execution.Failures
import ContentQuery.Proofs.Execution.Results

/-!
# The order of results

The rows that a query finds come in the order of their sort keys, and rows with equal keys in the
order in which they were joined (`found_in_order`). Keys are in an order only where their values
can be compared, so what is known of sorting is first restated for orders that are total and
transitive among the members of a list (`pairwise_mergeSort_of_members`,
`filter_mergeSort_of_members`).
-/

set_option autoImplicit false

namespace ContentQuery

/-! ## Sorting -/

section
variable {α : Type} {le : α → α → Bool} {xs : List α}

/-- An order among the members of a list. -/
structure OrdersMembers (le : α → α → Bool) (xs : List α) : Prop where
  trans : ∀ a ∈ xs, ∀ b ∈ xs, ∀ c ∈ xs, le a b = true → le b c = true → le a c = true
  total : ∀ a ∈ xs, ∀ b ∈ xs, (le a b || le b a) = true

/-- Sorting sees no more than the members of a list. -/
theorem map_val_mergeSort_attach (le : α → α → Bool) (xs : List α) :
    (xs.attach.mergeSort fun a b => le a.1 b.1).map (·.1) = xs.mergeSort le := by
  rw [List.map_mergeSort (s := le) (fun a _ b _ => rfl), List.attach_map_subtype_val]

theorem pairwise_mergeSort_of_members (h : OrdersMembers le xs) :
    (xs.mergeSort le).Pairwise fun a b => le a b = true := by
  rw [← map_val_mergeSort_attach, List.pairwise_map]
  refine List.pairwise_mergeSort (fun (a b c : {x // x ∈ xs}) => ?_)
    (fun (a b : {x // x ∈ xs}) => ?_) _
  · exact h.trans a a.2 b b.2 c c.2
  · exact h.total a a.2 b b.2

theorem sublist_mergeSort_of_members (h : OrdersMembers le xs) {ys : List α}
    (hys : ys.Pairwise fun a b => le a b = true) (hsub : ys.Sublist xs) :
    ys.Sublist (xs.mergeSort le) := by
  rw [← map_val_mergeSort_attach]
  rw [← List.attach_map_subtype_val xs] at hsub
  obtain ⟨zs, hzs, rfl⟩ := List.sublist_map_iff.1 hsub
  refine List.Sublist.map _ (List.sublist_mergeSort (fun (a b c : {x // x ∈ xs}) => ?_)
    (fun (a b : {x // x ∈ xs}) => ?_) (List.pairwise_map.1 hys) hzs)
  · exact h.trans a a.2 b b.2 c c.2
  · exact h.total a a.2 b b.2

/-- Sorting is stable: members that are all equal keep their places among each other. -/
theorem filter_mergeSort_of_members (h : OrdersMembers le xs) {p : α → Bool}
    (hp : ∀ a ∈ xs, ∀ b ∈ xs, p a = true → p b = true → le a b = true) :
    (xs.mergeSort le).filter p = xs.filter p := by
  have hequal : (xs.filter p).Pairwise fun a b => le a b = true := by
    refine List.pairwise_of_forall_mem_list fun a ha b hb => ?_
    obtain ⟨hax, hpa⟩ := List.mem_filter.1 ha
    obtain ⟨hbx, hpb⟩ := List.mem_filter.1 hb
    exact hp a hax b hbx hpa hpb
  have hsub := (sublist_mergeSort_of_members h hequal List.filter_sublist).filter p
  rw [List.filter_filter] at hsub
  simp only [Bool.and_self] at hsub
  have hlength : ((xs.mergeSort le).filter p).length = (xs.filter p).length :=
    ((List.mergeSort_perm xs le).filter p).length_eq
  exact (hsub.eq_of_length hlength.symm).symm

end

namespace Execution

/-! ## Rows with their keys -/

variable {e : Evaluator Id} {rows : List Row}

theorem mem_keyed {rows : List Row} {pair : Row × SortKey} (h : pair ∈ keyed e rows) :
    pair.1 ∈ rows ∧ e.key pair.1 = .ok pair.2 := by
  obtain ⟨row, hrow, hpair⟩ := List.mem_filterMap.1 h
  cases hkey : e.key row with
  | error fault => rw [hkey] at hpair; cases hpair
  | ok key =>
    rw [hkey] at hpair
    cases hpair
    exact ⟨hrow, hkey⟩

/-- A list of computations has the results of its members in order. -/
theorem forall₂_of_mapM_eq_ok {ε α β : Type} {f : α → ExceptT ε Id β} {xs : List α} {ys : List β}
    (h : (xs.mapM f).run.run = .ok ys) : List.Forall₂ (fun x y => (f x).run.run = .ok y) xs ys := by
  have hbind {α β : Type} (x : ExceptT ε Id α) (f : α → ExceptT ε Id β) :
      (x >>= f).run.run = x.run.run >>= fun a => (f a).run.run := by
    rw [ExceptT.run_bind, Id.run_bind]
    cases x.run.run <;> rfl
  induction xs generalizing ys with
  | nil =>
    cases h
    exact .nil
  | cons x xs ih =>
    rw [List.mapM_cons, hbind] at h
    obtain ⟨y, hy, h⟩ := exists_of_bind_eq_ok h
    rw [hbind] at h
    obtain ⟨ys', hys, h⟩ := exists_of_bind_eq_ok h
    cases h
    exact .cons hy (ih hys)

/-- What a sort key holds in the position of a reference: the value that the row has for it, if it
has exactly one. -/
def IsKeyValue (e : Evaluator Id) (row : Row) (id : SelectorId) (value : Option Value) : Prop :=
  ∃ stored, (e.selectorValue id row).run.run = .ok stored ∧
    ∀ v, value = some v ↔ ∃ p, stored = some p ∧ p.values = [v]

/-- The values of a sort key stand in the order of the ORDER BY list. -/
theorem values_of_key {row : Row} {key : SortKey} (h : e.key row = .ok key) :
    List.Forall₂ (fun spec value => IsKeyValue e row spec.selector.id value)
      e.bound.statement.orderBy key := by
  refine (forall₂_of_mapM_eq_ok h).imp fun spec value hvalue => ?_
  cases hstored : (e.selectorValue spec.selector.id row).run.run with
  | error fault =>
    rw [ExceptT.run_bind, Id.run_bind, hstored] at hvalue
    cases hvalue
  | ok stored =>
    rw [ExceptT.run_bind, Id.run_bind, hstored] at hvalue
    cases hvalue
    refine ⟨stored, hstored, fun v => ?_⟩
    simp only [Option.bind_eq_some_iff, PropertyValue.single?_eq_some_iff]

theorem length_of_key {row : Row} {key : SortKey} (h : e.key row = .ok key) :
    key.length = (directions e.bound.statement.orderBy).length := by
  rw [directions, List.length_map]
  exact (values_of_key h).length_eq.symm

/-! ## The order of rows -/

/-- The sort keys of the rows that satisfy the WHERE tree can be compared in every position. -/
def KeysComparable (e : Evaluator Id) (rows : List Row) : Prop :=
  ∀ a ∈ rows.filter e.satisfied, ∀ b ∈ rows.filter e.satisfied, ∀ ka kb,
    e.key a = .ok ka → e.key b = .ok kb → SortKey.Comparable ka kb

/-- Whether a row has a key equal to this one. -/
def hasKey (e : Evaluator Id) (key : SortKey) (row : Row) : Bool :=
  (e.key row).toOption.any fun other =>
    SortKey.compare (directions e.bound.statement.orderBy) key other == .eq

theorem ordersMembers_keyLe (hrows : KeysComparable e rows) :
    OrdersMembers (keyLe e) (keyed e (rows.filter e.satisfied)) := by
  have hisLE : ∀ a b, keyLe e a b =
      (SortKey.compare (directions e.bound.statement.orderBy) a.2 b.2).isLE := by
    intro a b
    unfold keyLe
    cases SortKey.compare (directions e.bound.statement.orderBy) a.2 b.2 <;> rfl
  constructor
  · intro a ha b hb c hc hab hbc
    rw [hisLE] at hab hbc ⊢
    obtain ⟨harow, hakey⟩ := mem_keyed ha
    obtain ⟨hbrow, hbkey⟩ := mem_keyed hb
    obtain ⟨hcrow, hckey⟩ := mem_keyed hc
    exact SortKey.isLE_compare_trans (length_of_key hakey) (length_of_key hbkey)
      (length_of_key hckey) (hrows _ harow _ hbrow _ _ hakey hbkey)
      (hrows _ hbrow _ hcrow _ _ hbkey hckey) hab hbc
  · intro a ha b hb
    rw [hisLE, hisLE, SortKey.compare_swap _ a.2 b.2]
    cases SortKey.compare (directions e.bound.statement.orderBy) a.2 b.2 <;> rfl

/-- The rows in the order of their keys. -/
theorem pairwise_found (hrows : KeysComparable e rows) :
    (found e rows).Pairwise fun a b => ∀ ka kb, e.key a = .ok ka → e.key b = .ok kb →
      SortKey.compare (directions e.bound.statement.orderBy) ka kb ≠ .gt := by
  rw [found_eq, List.pairwise_map]
  refine List.Pairwise.imp_of_mem ?_ (pairwise_mergeSort_of_members (ordersMembers_keyLe hrows))
  intro a b ha hb hle ka kb hka hkb
  obtain ⟨-, hakey⟩ := mem_keyed (List.mem_mergeSort.1 ha)
  obtain ⟨-, hbkey⟩ := mem_keyed (List.mem_mergeSort.1 hb)
  obtain rfl : a.2 = ka := Except.ok.inj (hakey.symm.trans hka)
  obtain rfl : b.2 = kb := Except.ok.inj (hbkey.symm.trans hkb)
  simpa [keyLe] using hle

/-- Rows with equal keys keep their order. -/
theorem filter_found (hrows : KeysComparable e rows) {row : Row}
    (hrow : row ∈ rows.filter e.satisfied) {key : SortKey} (hkey : e.key row = .ok key) :
    (found e rows).filter (hasKey e key) = (rows.filter e.isFound).filter (hasKey e key) := by
  have horders := ordersMembers_keyLe hrows
  have hmember : (row, key) ∈ keyed e (rows.filter e.satisfied) :=
    List.mem_filterMap.2 ⟨row, hrow, by rw [hkey]; rfl⟩
  -- Two keys that are equal to this one are in order on either side of it.
  have hequal : ∀ a ∈ keyed e (rows.filter e.satisfied), hasKey e key a.1 = true →
      keyLe e a (row, key) = true ∧ keyLe e (row, key) a = true := by
    intro a ha hsame
    obtain ⟨-, hakey⟩ := mem_keyed ha
    rw [hasKey, hakey, toOption_ok, Option.any_some, beq_iff_eq] at hsame
    have hback := SortKey.compare_swap (directions e.bound.statement.orderBy) key a.2
    rw [hsame] at hback
    constructor
    · rw [keyLe, hback]
      rfl
    · rw [keyLe, hsame]
      rfl
  have hsorted := filter_mergeSort_of_members horders (p := fun a => hasKey e key a.1)
    fun a ha b hb hpa hpb =>
      horders.trans a ha _ hmember b hb (hequal a ha hpa).1 (hequal b hb hpb).2
  have hfound : rows.filter e.isFound = (keyed e (rows.filter e.satisfied)).map (·.1) := by
    rw [map_fst_keyed, List.filter_filter]
    refine congrArg (fun p => rows.filter p) (funext fun row => ?_)
    rw [Evaluator.isFound, Bool.and_comm]
  rw [found_eq, hfound, List.filter_map, List.filter_map]
  exact congrArg (List.map (·.1)) hsorted

/-- Rows in a stable order of their sort keys. -/
structure SortedStably (e : Evaluator Id) (rows inOrder : List Row) : Prop where
  /-- No row is lost and none is repeated. -/
  perm : inOrder.Perm rows
  /-- Every row has a key, which holds what the row has for each ORDER BY item. -/
  keys : ∀ row ∈ inOrder, ∃ key, e.key row = .ok key ∧
    List.Forall₂ (fun spec value => IsKeyValue e row spec.selector.id value)
      e.bound.statement.orderBy key
  /-- No row stands behind one whose key comes later. -/
  sorted : inOrder.Pairwise fun a b => ∀ ka kb, e.key a = .ok ka → e.key b = .ok kb →
    SortKey.compare (directions e.bound.statement.orderBy) ka kb ≠ .gt ∧
    ¬SortKey.Before (directions e.bound.statement.orderBy) kb ka
  /-- Rows with equal keys keep their order. -/
  stable : ∀ row ∈ rows, ∀ key, e.key row = .ok key →
    inOrder.filter (hasKey e key) = rows.filter (hasKey e key)

theorem sortedStably_found (hrows : KeysComparable e rows) :
    SortedStably e (rows.filter e.isFound) (found e rows) := by
  refine ⟨found_perm e rows, fun row hrow => ?_, ?_, fun row hrow key hkey => ?_⟩
  · have hmem := List.mem_filter.1 ((found_perm e rows).mem_iff.1 hrow)
    cases hkey : e.key row with
    | error fault => simp [Evaluator.isFound, hkey] at hmem
    | ok key => exact ⟨key, rfl, values_of_key hkey⟩
  · refine (pairwise_found hrows).imp fun h ka kb hka hkb => ?_
    have hle := h ka kb hka hkb
    refine ⟨hle, fun hbefore => hle ?_⟩
    rw [SortKey.compare_swap _ kb ka, SortKey.compare_eq_lt_iff.2 hbefore]
    rfl
  · have hmem := List.mem_filter.1 hrow
    have hsatisfied : e.satisfied row = true := by
      have hfound := hmem.2
      rw [Evaluator.isFound, Bool.and_eq_true] at hfound
      exact hfound.1
    exact filter_found hrows (List.mem_filter.2 ⟨hmem.1, hsatisfied⟩) hkey

/-! ## Results -/

/-- **Results come in the order of their sort keys.** The rows of a result are those of a page of
the rows found, and of all of them where the page has no limits. If the keys of the joined rows that
satisfy the WHERE tree can be compared, the rows found are those of them that have a key, sorted by
`SortKey.compare` and stable, whatever the directions are. A statement that is parsed and bound has
a result. -/
theorem found_in_order (catalog : Catalog) (repository : Repository)
    (index : Option (TextIndex Id)) (config : Config) (bound : BoundStatement) :
    (∀ result, (execute catalog repository index config bound).run.run = .ok result →
      ∃ rows e columns inOrder,
        Join.rows bound (candidates catalog repository config bound) = .ok rows ∧
        Evaluator.prepare bound repository.folders index config.caseSensitiveText = .ok e ∧
        Column.ofStatement bound = .ok columns ∧
        result.numItems = inOrder.length ∧
        result.rows = (page config inOrder).map (fun row => columns.map (e.shown row)) ∧
        (config.maxItems = 0 → config.skipCount = 0 → inOrder.length ≤ maxUInt64 →
          page config inOrder = inOrder) ∧
        (KeysComparable e rows →
          SortedStably e (rows.filter fun row => e.satisfied row && !fails (e.key row)) inOrder)) ∧
    ∀ text s, Statement.parse text = .ok s → s.bind catalog = .ok bound →
      ∃ result, (execute catalog repository index config bound).run.run = .ok result := by
  refine ⟨fun result hresult => ?_, fun text s hparse hbind => ?_⟩
  · obtain ⟨rows, e, columns, hrows, hprepare, hcolumns, rfl⟩ := execute_eq_ok hresult
    refine ⟨rows, e, columns, found e rows, hrows, hprepare, hcolumns, rfl, rfl,
      fun hmax hskip hlength => ?_, fun hcomparable => sortedStably_found hcomparable⟩
    have hnone : config.skipCount.toNat = 0 := by rw [hskip]; rfl
    rw [page, pageLimit, if_pos hmax, hnone, List.drop_zero, List.take_of_length_le hlength]
  · obtain ⟨-, -, -, run, hrun⟩ := hasResult_of_bind hparse hbind repository index config
    rw [hrun]
    exact ⟨run.run, rfl⟩

/-- Keys of texts can be compared. -/
theorem keysComparable_of_text {rows : List Row} (h : ∀ row ∈ rows, ∀ key, e.key row = .ok key →
    ∀ value ∈ key, ∀ v ∈ value, v.text?.isSome = true) : KeysComparable e rows := by
  intro a ha b hb ka kb hka hkb i v w hv hw
  have hvtext := h a (List.mem_filter.1 ha).1 ka hka _ (List.mem_of_getElem? hv) v rfl
  have hwtext := h b (List.mem_filter.1 hb).1 kb hkb _ (List.mem_of_getElem? hw) w rfl
  obtain ⟨s, hs⟩ := Option.isSome_iff_exists.1 hvtext
  obtain ⟨t, ht⟩ := Option.isSome_iff_exists.1 hwtext
  rw [Value.compare?_eq_some_iff.2 (.text hs ht)]
  rfl

/-- Three documents of one author in the order of their names, from the last one to the first. -/
theorem found_in_order_three : ∃ s bound,
    Statement.parse "SELECT cmis:name FROM cmis:document ORDER BY cmis:createdBy, cmis:name DESC" =
      .ok s ∧ s.bind .base = .ok bound ∧ ∃ result,
    (execute (m := Id) .base threeDocuments none {} bound).run.run = .ok result ∧
      result.numItems = 3 ∧
    ∃ rows e inOrder, KeysComparable e rows ∧
      SortedStably e (rows.filter fun row => e.satisfied row && !fails (e.key row)) inOrder := by
  refine exists_bound (fun _ bound =>
    (Join.rows bound (candidates .base threeDocuments {} bound)).toOption.any fun rows =>
      (Evaluator.prepare bound threeDocuments.folders none false).toOption.any fun e =>
        decide (rows.countP e.isFound = 3) && rows.all fun row =>
          (e.key row).toOption.all fun key =>
            key.all fun value => value.all fun v => v.text?.isSome)
    (by rw [Statement.parse_ofList]; decide +kernel) ?_
  intro s bound hs hbound hcheck
  obtain ⟨joined, hjoined, hcheck⟩ := exists_of_any_toOption hcheck
  obtain ⟨evaluator, hevaluator, hcheck⟩ := exists_of_any_toOption hcheck
  rw [Bool.and_eq_true, decide_eq_true_eq] at hcheck
  obtain ⟨hcount, htexts⟩ := hcheck
  obtain ⟨hresults, hexists⟩ := found_in_order .base threeDocuments none {} bound
  obtain ⟨result, hresult⟩ := hexists _ s hs hbound
  obtain ⟨rows, e, columns, inOrder, hrows, hprepare, -, hnum, -, -, hsorted⟩ :=
    hresults result hresult
  obtain rfl : joined = rows := Except.ok.inj (hjoined.symm.trans hrows)
  obtain rfl : evaluator = e := Except.ok.inj (hevaluator.symm.trans hprepare)
  have hcomparable : KeysComparable evaluator joined := by
    refine keysComparable_of_text fun row hrow key hkey value hvalue v hv => ?_
    have hrow := List.all_eq_true.1 htexts row hrow
    rw [hkey, toOption_ok, Option.all_some] at hrow
    have hvalue := List.all_eq_true.1 hrow value hvalue
    rw [Option.mem_def.1 hv, Option.all_some] at hvalue
    exact hvalue
  refine ⟨result, hresult, ?_, joined, evaluator, inOrder, hcomparable, hsorted hcomparable⟩
  rw [hnum, (hsorted hcomparable).perm.length_eq, ← List.countP_eq_length_filter]
  exact hcount

end Execution

end ContentQuery
