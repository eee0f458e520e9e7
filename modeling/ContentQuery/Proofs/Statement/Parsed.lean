import ContentQuery.Proofs.FullText.Shape
import ContentQuery.Proofs.Statement.Outcomes
import ContentQuery.Proofs.Statement.Shape

/-!
# Parsed statements

What follows for a statement from the way in which the parser has read it (`Statement.IsWritten`):
the WHERE tree is a condition (`Predicate.IsWritten.isCondition`), every full-text search has the
shape of one (`Predicate.IsWritten.isSearch`), all types of the FROM list but the first have a join
(`IsFromList`), and the ids of the references are consecutive (`Consecutive`), which goes up from
single references to the lists of a statement by `Chain.consecutive`. `parse_issues` collects what
the binder relies on; in particular no two references share an id (`selectors_ids_nodup`).
-/

set_option autoImplicit false

namespace ContentQuery

/-! ## Consecutive ids -/

/-- `ids` are the numbers from `first` up to `next`, which is not among them. -/
def Consecutive (first : SelectorId) (ids : List SelectorId) (next : SelectorId) : Prop :=
  ids = List.range' first ids.length ∧ next = first + ids.length

namespace Consecutive

theorem nil (first : SelectorId) : Consecutive first [] first := ⟨rfl, rfl⟩

theorem one (first : SelectorId) : Consecutive first [first] (first + 1) := ⟨rfl, rfl⟩

theorem append {first mid next : SelectorId} {ids ids' : List SelectorId}
    (h : Consecutive first ids mid) (h' : Consecutive mid ids' next) :
    Consecutive first (ids ++ ids') next := by
  obtain ⟨hi, rfl⟩ := h
  obtain ⟨hi', rfl⟩ := h'
  refine ⟨?_, by rw [List.length_append, Nat.add_assoc]⟩
  rw [List.length_append, ← List.range'_append_1, ← hi, ← hi']

end Consecutive

/-- Parts with consecutive ids have consecutive ids together. -/
theorem Chain.consecutive {α : Type} {R : SelectorId → α → SelectorId → Prop}
    {ids : α → List SelectorId} (hR : ∀ n x m, R n x m → Consecutive n (ids x) m)
    {first next : SelectorId} {xs : List α} (h : Chain R first xs next) :
    Consecutive first (xs.flatMap ids) next := by
  induction h with
  | nil s => exact .nil s
  | cons hx _ ih => exact (hR _ _ _ hx).append ih

/-! ## References -/

theorem Selector.IsWritten.consecutive {first next : SelectorId} {sel : Selector}
    (h : sel.IsWritten first next) : Consecutive first [sel.id] next := by
  cases h with
  | column hc =>
    rw [Selector.id_column, hc.id]
    exact .one first
  | function hf =>
    rw [Selector.id_function, hf.id]
    exact .one first

theorem SelectItem.IsWritten.consecutive {first next : SelectorId} {item : SelectItem}
    (h : item.IsWritten first next) : Consecutive first [item.selector.id] next := by
  cases h with
  | all _ => exact .one first
  | one hsel _ => exact hsel.consecutive

/-- The columns of the join condition of a type. -/
def Source.selectors (s : Source) : List Selector := s.join.toList.flatMap JoinSpec.selectors

theorem Source.IsWritten.consecutive {first next : SelectorId} {s : Source}
    (h : s.IsWritten first next) : Consecutive first (s.selectors.map Selector.id) next := by
  cases h with
  | single _ _ => exact .nil first
  | @joined typeId aliasName join _ _ hleft hright =>
    have hids : (Source.selectors ⟨typeId, aliasName, some join⟩).map Selector.id =
        [join.left.id] ++ [join.right.id] := rfl
    rw [hids, hleft.id, hright.id]
    exact (Consecutive.one first).append (.one (first + 1))

/-! ## WHERE -/

theorem Literal.IsWritten.isToken {raw : String} (h : Literal.IsWritten raw) :
    Literal.IsToken raw := by
  cases h with
  | quoted hraw =>
    obtain ⟨token, htoken, hcloses⟩ := hraw
    exact ⟨_, token, htoken, rfl, fun _ => hcloses.getLast?⟩
  | @timestamp raw hraw =>
    exact ⟨'T', "IMESTAMP ".toList ++ raw.toList, String.toList_append, rfl, nofun⟩
  | true => exact ⟨'T', "RUE".toList, rfl, rfl, nofun⟩
  | false => exact ⟨'F', "ALSE".toList, rfl, rfl, nofun⟩
  | number hraw =>
    obtain ⟨c, cs, hcs, hc⟩ := hraw.head
    obtain ⟨hblank, hquote⟩ := Statement.number_head_plain hc
    exact ⟨c, cs, hcs, hblank, fun h => absurd h hquote⟩

namespace Predicate

section
variable {first next : SelectorId} {p : Predicate}

theorem IsWrittenOperand.isOperand (h : p.IsWrittenOperand first next) : p.IsOperand := by
  cases h with
  | column _ _ => exact .column _
  | score _ _ => exact .score _
  | literal _ _ => exact .literal _

theorem IsWrittenOperand.consecutive (h : p.IsWrittenOperand first next) :
    Consecutive first (p.selectors.map Selector.id) next := by
  cases h with
  | column hc _ => exact Selector.IsWritten.consecutive (.column hc)
  | score hf _ => exact Selector.IsWritten.consecutive (.function hf)
  | literal _ _ => exact .nil first

theorem IsWrittenList.exists_literals (h : p.IsWrittenList) :
    ∃ items, p = .literalList items ∧ items ≠ [] ∧ ∀ i ∈ items, i.IsLiteral := by
  obtain ⟨hne, -⟩ := h
  refine ⟨_, rfl, by simpa using hne, fun i hi => ?_⟩
  obtain ⟨raw, -, rfl⟩ := List.mem_map.1 hi
  exact ⟨raw, rfl⟩

/-- A WHERE tree that has been read says something true or false of a row. -/
theorem IsWritten.isCondition (h : p.IsWritten first next) : p.IsCondition := by
  induction h with
  | compare op hl hr _ => exact .compare op hl.operand.isOperand hr.isOperand
  | isIn negated hl hitems =>
    obtain ⟨items, rfl, hne, hall⟩ := hitems.exists_literals
    exact .isIn negated hl.operand.isOperand hne hall
  | anyIn negated hc hitems =>
    obtain ⟨items, rfl, hne, hall⟩ := hitems.exists_literals
    exact .anyIn negated _ hne hall
  | equalsAny hl _ => exact .equalsAny _ hl.operand.isOperand
  | like negated hl hraw => exact .like negated hl.operand.isOperand hraw.isToken
  | isNull negated hl => exact .isNull negated hl.operand.isOperand
  | contains first _ _ => exact .contains _ _
  | inFolder first scope _ => exact .inFolder scope _
  | inFolderOf first scope _ _ => exact .inFolderOf scope _ _ _
  | and _ _ ihl ihr => exact .and ihl ihr
  | or _ _ ihl ihr => exact .or ihl ihr
  | not _ ih => exact .not ih

theorem IsWritten.consecutive (h : p.IsWritten first next) :
    Consecutive first (p.selectors.map Selector.id) next := by
  induction h with
  | compare op hl hr _ =>
    rw [selectors_relation, List.map_append]
    exact hl.operand.consecutive.append hr.consecutive
  | isIn negated hl hitems =>
    obtain ⟨items, rfl, -, hall⟩ := hitems.exists_literals
    rw [selectors_relation, selectors_literalList hall, List.append_nil]
    exact hl.operand.consecutive
  | anyIn negated hc hitems =>
    obtain ⟨items, rfl, -, hall⟩ := hitems.exists_literals
    rw [selectors_relation, selectors_literalList hall, List.append_nil]
    exact Selector.IsWritten.consecutive (.column hc)
  | equalsAny hl hc =>
    rw [selectors_relation, List.map_append]
    exact hl.operand.consecutive.append (Selector.IsWritten.consecutive (.column hc))
  | like negated hl _ =>
    rw [selectors_relation, selectors_literal, List.append_nil]
    exact hl.operand.consecutive
  | isNull negated hl =>
    rw [selectors_isNull]
    exact hl.operand.consecutive
  | contains first _ _ => exact .nil first
  | inFolder first scope _ => exact .nil first
  | inFolderOf first scope _ _ => exact .one first
  | and _ _ ihl ihr =>
    rw [selectors_and, List.map_append]
    exact ihl.append ihr
  | or _ _ ihl ihr =>
    rw [selectors_or, List.map_append]
    exact ihl.append ihr
  | not _ ih =>
    rw [selectors_not]
    exact ih

/-- The searches of a WHERE tree that has been read are searches that have been read. -/
theorem IsWritten.isSearch (h : p.IsWritten first next) {qualifier : Option String}
    {search : FullText.Tree} (hnode : .contains qualifier search ∈ p.nodes) : search.IsSearch := by
  have hrelation {r : Relation} {left right : Predicate} (hc : (relation r left right).IsCondition)
      (hmem : .contains qualifier search ∈ (relation r left right).nodes) : search.IsSearch :=
    nomatch hc.eq_of_mem_relation hmem nofun nofun
  induction h with
  | compare op hl hr hany => exact hrelation (IsWritten.compare op hl hr hany).isCondition hnode
  | isIn negated hl hitems => exact hrelation (IsWritten.isIn negated hl hitems).isCondition hnode
  | anyIn negated hc hitems => exact hrelation (IsWritten.anyIn negated hc hitems).isCondition hnode
  | equalsAny hl hc => exact hrelation (IsWritten.equalsAny hl hc).isCondition hnode
  | like negated hl hraw => exact hrelation (IsWritten.like negated hl hraw).isCondition hnode
  | isNull negated hl =>
    rw [nodes, hl.operand.isOperand.nodes_eq] at hnode
    obtain hnode | hnode := List.mem_cons.1 hnode
    · cases hnode
    · obtain rfl := List.mem_singleton.1 hnode
      exact nomatch hl.operand.isOperand
  | contains first _ hsearch =>
    cases List.mem_singleton.1 hnode
    exact FullText.parse_isSearch hsearch
  | inFolder first scope _ => simp [nodes] at hnode
  | inFolderOf first scope _ _ => simp [nodes] at hnode
  | and _ _ ihl ihr | or _ _ ihl ihr =>
    rw [nodes, List.mem_cons, List.mem_append] at hnode
    rcases hnode with hnode | hnode | hnode
    · cases hnode
    · exact ihl hnode
    · exact ihr hnode
  | not _ ih =>
    rw [nodes, List.mem_cons] at hnode
    rcases hnode with hnode | hnode
    · cases hnode
    · exact ih hnode

end

end Predicate

/-! ## Statements -/

namespace Statement

/-- A FROM list starts with a type without a join, and all other types have one. -/
def IsFromList (ss : List Source) : Prop :=
  ∃ first others, ss = first :: others ∧ first.join = none ∧
    ∀ s ∈ others, s.join.isSome = true

section
variable {first next : SelectorId}

theorem IsWrittenFrom.isFromList {ss : List Source} (h : IsWrittenFrom first ss next) :
    IsFromList ss := by
  obtain ⟨hfirst, -, hothers, -⟩ := h
  exact ⟨_, _, rfl, hfirst, fun s hs => Option.isSome_iff_ne_none.2 (hothers s hs)⟩

theorem IsWrittenFrom.consecutive {ss : List Source} (h : IsWrittenFrom first ss next) :
    Consecutive first ((ss.flatMap Source.selectors).map Selector.id) next := by
  obtain ⟨-, hsource, -, hothers⟩ := h
  rw [List.flatMap_cons, List.map_append, List.map_flatMap]
  exact hsource.consecutive.append (hothers.consecutive fun _ _ _ hs => hs.consecutive)

theorem IsWrittenFilter.isCondition {filter : Option Predicate}
    (h : IsWrittenFilter first filter next) : ∀ p ∈ filter, p.IsCondition := by
  cases h with
  | none => exact nofun
  | some hp =>
    rintro _ ⟨⟩
    exact hp.isCondition

theorem IsWrittenFilter.consecutive {filter : Option Predicate}
    (h : IsWrittenFilter first filter next) :
    Consecutive first ((filterSelectors filter).map Selector.id) next := by
  cases h with
  | none => exact .nil first
  | some hp => exact hp.consecutive

end

theorem flatMap_selectors_sources (s : Statement) :
    s.sources.flatMap Source.selectors = s.joins.flatMap JoinSpec.selectors := by
  unfold joins
  induction s.sources with
  | nil => rfl
  | cons source sources ih => cases hs : source.join <;> simp [Source.selectors, hs, ih]

/-- The references of a statement that has been read are numbered in the order of its text. -/
theorem IsWritten.ids_eq {s : Statement} (h : s.IsWritten) :
    s.selectors.map Selector.id = List.range s.selectors.length := by
  obtain ⟨-, hselect, hfrom, hfilter, horder⟩ := h
  have hselect := hselect.consecutive fun _ _ _ hitem => hitem.consecutive
  have horder := horder.consecutive fun _ _ _ hspec => Selector.IsWritten.consecutive hspec
  have hall := ((hselect.append hfrom.consecutive).append hfilter.consecutive).append horder
  rw [← List.map_eq_flatMap, ← List.map_eq_flatMap, flatMap_selectors_sources] at hall
  obtain ⟨hids, -⟩ := hall
  simp only [selectors, List.map_append, List.map_map, List.length_append, List.length_map,
    Function.comp_def] at hids ⊢
  rw [hids, List.range_eq_range']

/-- **What the parser promises**: the WHERE tree is a condition, the FROM list has its joins where
they belong, and the references have the ids `0, 1, 2, …` in the order of the text. -/
theorem parse_issues {text : String} {s : Statement} (h : Statement.parse text = .ok s) :
    (∀ p ∈ s.filter, p.IsCondition) ∧ IsFromList s.sources ∧
      s.selectors.map Selector.id = List.range s.selectors.length := by
  obtain ⟨hwritten, -⟩ := (parse_outcome text).1 s h
  have hids := hwritten.ids_eq
  obtain ⟨-, -, hfrom, hfilter, -⟩ := hwritten
  exact ⟨hfilter.isCondition, hfrom.isFromList, hids⟩

theorem parse_ok {text : String} {s : Statement} (h : Statement.parse text = .ok s) :
    (∀ p ∈ s.filter, p.IsCondition) ∧
      s.selectors.map Selector.id = List.range s.selectors.length :=
  ⟨(parse_issues h).1, (parse_issues h).2.2⟩

theorem isFromList_sources {text : String} {s : Statement} (h : Statement.parse text = .ok s) :
    IsFromList s.sources :=
  (parse_issues h).2.1

/-- No two references of a parsed statement share an id. -/
theorem selectors_ids_nodup {text : String} {s : Statement} (h : Statement.parse text = .ok s) :
    (s.selectors.map Selector.id).Nodup := by
  rw [(parse_ok h).2]
  exact List.nodup_range

end Statement

end ContentQuery
