import ContentQuery.Proofs.Execution.Outcome
import ContentQuery.Proofs.Repository.Ancestors

/-!
# Children and descendants

A test for the children of a folder looks at the parent of an object, and one for its descendants
at the ancestors, which leave out the object itself. In one row and about one alias the two answer
alike for a child, unless the folder is its own parent: then it is one of its children, but not
below itself (`children_in_tree`, `own_parent_not_in_tree`).
-/

set_option autoImplicit false

namespace ContentQuery

/-- A folder test, without a qualifier or with one. -/
def Predicate.folderTest (scope : FolderScope) (qualifier : Option Predicate)
    (folder : Predicate) : Predicate :=
  match qualifier with
  | none => .inFolder scope folder
  | some qualifier => .inFolderOf scope qualifier folder

namespace Evaluator

variable {m : Type → Type}

/-- The evaluator that asks whether a row satisfies a WHERE tree, given what the references stand
for. -/
def asking (e : Evaluator m) (p : Predicate) : Evaluator m :=
  { e with bound := { e.bound with statement := { e.bound.statement with filter := some p } } }

theorem folders_of_prepare {bound : BoundStatement} {folders : FolderHierarchy}
    {index : Option (TextIndex m)} {caseSensitiveText : Bool} {e : Evaluator m}
    (h : prepare bound folders index caseSensitiveText = .ok e) : e.folders = folders := by
  unfold prepare at h
  split at h
  · cases h
    rfl
  · cases h

/-- The visits before a folder test. -/
def qualifierTrace (qualifier : Option Predicate) :
    List (Except LiteralError Predicate.Visit) :=
  qualifier.elim [] Predicate.trace

section
variable {scope : FolderScope} {qualifier : Option Predicate} {folder : Predicate}

theorem trace_folderTest : (Predicate.folderTest scope qualifier folder).trace =
    qualifierTrace qualifier ++
      ([Except.ok (Predicate.Visit.on (.folderTest scope qualifier folder))] ++ folder.trace) := by
  cases qualifier <;> rfl

variable [Monad m] {e : Evaluator m} {row : Row}

theorem testVisit_folderTest :
    e.testVisit row (.on (.folderTest scope qualifier folder)) =
      e.testFolder row scope qualifier folder >>= push := by
  cases qualifier <;> rfl

/-- After the visits to its qualifier, a folder test asks for the object under the alias. -/
theorem evaluateRow_folderTest [LawfulMonad m] {raw folderId : String}
    (hraw : Literal.value? raw = .ok (.string folderId)) :
    (e.asking (.folderTest scope qualifier (.literal raw))).evaluateRow row = (do
      let _ ← (e.testTrace row (qualifierTrace qualifier)).run ⟨[], none⟩
      pure ((row.get? (e.folderAlias qualifier)).any fun o =>
        e.isWithin folderId o.id scope)) := by
  have hfolder : (Predicate.literal raw).literalValue? = .ok (.string folderId) := hraw
  have hidle : Idle e row (Predicate.literal raw).trace := idle_of_literalValue? hfolder
  have hvisits : (e.asking (.folderTest scope qualifier (.literal raw))).testTrace row =
      e.testTrace row := rfl
  unfold evaluateRow
  rw [hvisits]
  dsimp only [asking]
  rw [trace_folderTest, testTrace_append, bind_assoc]
  refine bind_congr fun visited => ?_
  rw [testTrace_append, testTrace_single, testVisit_folderTest,
    testFolder_eq scope qualifier hfolder, pure_bind, run_push, pure_bind, hidle, pure_bind]

end

/-! ## Children in a tree -/

section
variable {r : Repository} {e : Evaluator Id} {row : Row} {qualifier : Option Predicate}
  {raw folderId : String}

theorem verdict_folderTest {scope : FolderScope}
    (hraw : Literal.value? raw = .ok (.string folderId)) :
    (e.asking (.folderTest scope qualifier (.literal raw))).verdict row =
      ((e.testTrace row (qualifierTrace qualifier)).run ⟨[], none⟩).run.run.map fun _ =>
        (row.get? (e.folderAlias qualifier)).any fun o => e.isWithin folderId o.id scope := by
  rw [verdict, evaluateRow_folderTest hraw]
  generalize (e.testTrace row (qualifierTrace qualifier)).run ⟨[], none⟩ = visited
  cases visited <;> rfl

/-- The visits to a qualifier end if it is a column, as in every statement that is read from a
text. -/
theorem exists_run_qualifierTrace (hcolumn : ∀ q ∈ qualifier, ∃ column, q = .column column) :
    ∃ visited, ((e.testTrace row (qualifierTrace qualifier)).run ⟨[], none⟩).run.run =
      .ok visited := by
  cases qualifier with
  | none => exact ⟨_, rfl⟩
  | some q =>
    obtain ⟨column, rfl⟩ := hcolumn q rfl
    have hidle : Idle e row (Predicate.column column).trace := idle_single rfl
    rw [qualifierTrace, Option.elim_some, hidle]
    exact ⟨_, rfl⟩

/-- **The children of a folder are in its tree, but for the folder itself.** In every row in which
the object under an alias is found to be a child of a folder, it is found among its descendants
exactly if it is not the folder. The second test may name the alias in another way. -/
theorem children_in_tree (hfolders : e.folders = r.folders)
    (hraw : Literal.value? raw = .ok (.string folderId))
    (hchild : (e.asking (.folderTest .children qualifier (.literal raw))).verdict row = .ok true) :
    ∃ o, row.get? (e.folderAlias qualifier) = some o ∧ r.parent? o.id = some folderId ∧
      ∀ qualifier', e.folderAlias qualifier' = e.folderAlias qualifier →
        (qualifier' = qualifier ∨ ∀ q ∈ qualifier', ∃ column, q = .column column) →
        (e.asking (.folderTest .descendants qualifier' (.literal raw))).verdict row =
          .ok (o.id != folderId) := by
  rw [verdict_folderTest hraw] at hchild
  cases hvisited : ((e.testTrace row (qualifierTrace qualifier)).run ⟨[], none⟩).run.run with
  | error fault =>
    rw [hvisited] at hchild
    cases hchild
  | ok visited =>
    rw [hvisited] at hchild
    obtain ⟨o, ho, hwithin⟩ := (Option.any_eq_true ..).1 (Except.ok.inj hchild)
    have hparent : r.parent? o.id = some folderId := by
      rw [isWithin, hfolders] at hwithin
      exact beq_iff_eq.1 hwithin
    refine ⟨o, ho, hparent, fun qualifier' halias hqualifier' => ?_⟩
    have hvisits : ∃ visited, ((e.testTrace row (qualifierTrace qualifier')).run
        ⟨[], none⟩).run.run = .ok visited := by
      rcases hqualifier' with rfl | hcolumn
      · exact ⟨visited, hvisited⟩
      · exact exists_run_qualifierTrace hcolumn
    obtain ⟨visited', hvisited'⟩ := hvisits
    have hancestor : e.isWithin folderId o.id .descendants = (o.id != folderId) := by
      rw [isWithin, hfolders, Bool.eq_iff_iff, List.contains_iff_mem, bne_iff_ne, ne_comm]
      exact Repository.parent_mem_ancestors_iff hparent
    rw [verdict_folderTest hraw, hvisited', halias, ho, Except.map, Option.any_some, hancestor]

end

/-- Whether the folder `id` is found by a folder test of one statement, in a row of its own. -/
def isFiled (bound : BoundStatement) (scope : FolderScope) (raw id : String) : Bool :=
  (prepare (m := Id) bound Repository.tangled.folders none false).toOption.any fun e =>
    (Repository.tangled.get? id).any fun o =>
      (e.asking (.folderTest scope none (.literal raw))).satisfied (.single bound o)

/-- Of two folders that are in each other, one is a child of the other and in its tree. -/
theorem children_in_tree_tangled : ∃ s bound,
    Statement.parse "SELECT * FROM cmis:folder WHERE IN_FOLDER('b')" = .ok s ∧
    s.bind .base = .ok bound ∧ isFiled bound .children "'b'" "a" = true ∧
    isFiled bound .descendants "'b'" "a" = true := by
  refine exists_bound (fun _ bound => isFiled bound .children "'b'" "a")
    (by rw [Statement.parse_ofList]; decide +kernel) fun s bound hs hbound hchild => ⟨hchild, ?_⟩
  unfold isFiled at hchild ⊢
  obtain ⟨e, he, hchild⟩ := exists_of_any_toOption hchild
  obtain ⟨o, ho, hchild⟩ := (Option.any_eq_true ..).1 hchild
  obtain ⟨o', -, hparent, htree⟩ := children_in_tree (folders_of_prepare he)
    (show Literal.value? "'b'" = .ok (.string "b") by rfl) (satisfied_iff.1 hchild)
  have hne : (o'.id != "b") = true := by
    rw [bne_iff_ne]
    intro hid
    rw [hid] at hparent
    exact absurd hparent (by decide)
  have hverdict := htree none rfl (.inl rfl)
  rw [hne] at hverdict
  rw [he, toOption_ok, Option.any_some, ho, Option.any_some]
  exact satisfied_iff.2 hverdict

/-- **A folder that is its own parent is a child that is not in the tree.** Both tests look at the
same object in the same row, and the queries that consist of them find one folder and none. -/
theorem own_parent_not_in_tree : Repository.tangled.parent? "c" = some "c" ∧
    (∃ s bound, Statement.parse "SELECT * FROM cmis:folder WHERE IN_FOLDER('c')" = .ok s ∧
      s.bind .base = .ok bound ∧ isFiled bound .children "'c'" "c" = true ∧
      isFiled bound .descendants "'c'" "c" = false) ∧
    ["SELECT * FROM cmis:folder WHERE IN_FOLDER('c')",
      "SELECT * FROM cmis:folder WHERE IN_TREE('c')"].map (fun text =>
        (Execution.query (m := Id) .base Repository.tangled none {} text).run.run.toOption.map
          (·.numItems)) = [some 1, some 0] := by
  refine ⟨by decide, ?_, ?_⟩
  · refine exists_bound (fun _ bound => isFiled bound .children "'c'" "c" &&
      !isFiled bound .descendants "'c'" "c")
      (by rw [Statement.parse_ofList]; decide +kernel) fun s bound _ _ hfiled => ?_
    rw [Bool.and_eq_true, Bool.not_eq_true'] at hfiled
    exact hfiled
  · rw [List.map_cons, List.map_singleton, Execution.query_shows, Execution.query_shows]
    · rw [Statement.parse_ofList]
      decide +kernel
    · rw [Statement.parse_ofList]
      decide +kernel

end Evaluator

end ContentQuery
