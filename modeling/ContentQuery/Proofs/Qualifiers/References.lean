import ContentQuery.Proofs.Qualifiers.Tokens

/-!
# References at the end of a name

An identifier may reach the end of a text that ends in a name. What is read behind it then stands at
what follows the text: there the rest of a column reference or of a function is read, which is where
the parser asks what stands behind the name (`columnRef_sound`, `selector_sound`, `operand_sound`).
-/

set_option autoImplicit false

namespace ContentQuery.Statement

section
variable {α : Type} {bound : Nat} {asks : Bool}

/-! ## Characters -/

section
variable {rest r : List Char} {total : Nat} {n : SelectorId} {d : Char}

theorem tryChar_run_here (h : afterBlanks rest = d :: r) :
    (tryChar d).run ⟨rest, total, n⟩ = .ok (true, ⟨r, total, n⟩) := by
  rw [tryChar, run_skipBlanks, run_get, h]
  simp only [beq_self_eq_true, if_true]
  rfl

theorem tryChar_run_not (h : (afterBlanks rest).head? ≠ some d) :
    (tryChar d).run ⟨rest, total, n⟩ = .ok (false, ⟨afterBlanks rest, total, n⟩) := by
  rw [tryChar, run_skipBlanks, run_get]
  cases hrest : afterBlanks rest with
  | nil => rfl
  | cons c r =>
    have hne : (c == d) = false := by
      rw [beq_eq_false_iff_ne]
      rintro rfl
      exact h (by rw [hrest]; rfl)
    simp only [hne]
    rfl

end

/-! ## Identifiers -/

/-- The identifier at the start of a text. -/
def nameAt (rest : List Char) : Option (String × List Char) :=
  if (wordAt rest).isEmpty then none
  else some (String.ofList (wordAt rest), rest.drop (wordAt rest).length)

/-- Takes an identifier where the cursor stands. -/
def nameHere : Parser String := do
  let c ← get
  let word := wordAt c.rest
  if word.isEmpty then throw (.expectedIdentifier c.position)
  setRest (c.rest.drop word.length)
  return String.ofList word

theorem identifier_eq : identifier = skipBlanks >>= fun _ => nameHere := rfl

theorem nameHere_run (c : Cursor) : nameHere.run c =
    (nameAt c.rest).elim (.error (.expectedIdentifier c.position))
      fun found => .ok (found.1, { c with rest := found.2 }) := by
  rw [nameHere, run_get, nameAt]
  by_cases hempty : (wordAt c.rest).isEmpty = true
  · simp only [hempty, if_true]
    rfl
  · simp only [hempty]
    rfl

/-- At the end of a name, an identifier is read as it is with something behind it. -/
theorem nameAt_append {v k : List Char} (hv : v ≠ []) (hk : EndsWord k) :
    nameAt (v ++ k) = (nameAt v).map fun found => (found.1, found.2 ++ k) := by
  rw [nameAt, nameAt, wordAt_append_of_ne_nil hv hk, drop_append_of_prefix (wordAt_isPrefixOf v)]
  split <;> rfl

theorem nameAt_suffix {v rest : List Char} {name : String} (h : nameAt v = some (name, rest)) :
    rest <:+ v := by
  rw [nameAt] at h
  split at h
  · cases h
  · cases h
    exact List.drop_suffix _ v

theorem nameHere_sound : Sound bound asks nameHere := by
  refine .of_token nameAt (fun c => .expectedIdentifier c.position) nameHere_run ?_ ?_ ?_ ?_
  · intro c position h
    exact (ParseError.expectedIdentifier.inj h).symm
  · intro rest x rest' h
    exact (nameAt_suffix h).length_le
  · nofun
  · intro v hv
    cases hname : nameAt v with
    | none =>
      refine .inr (.inl ?_)
      rw [nameAt_append hv.ne_nil (behind_points 0).endsWord, hname]
      rfl
    | some found =>
      refine .inl ⟨found.1, found.2, nameAt_suffix hname, fun k hk => ?_⟩
      rw [nameAt_append hv.ne_nil hk, hname]
      rfl

theorem identifier_sound : Sound bound asks identifier :=
  skipBlanks_sound.bind fun _ => nameHere_sound

/-- What is read behind an identifier, at the end of a name or behind it. -/
theorem Sound.of_identifier {f : String → Parser α} (hshrinks : ∀ name, Shrinks (f name))
    (hunplaced : ∀ name, Unplaced (f name))
    (hfate : ∀ name v n, v = [] ∨ EndsInName v → Fate bound asks (f name) v n) :
    Sound bound asks (identifier >>= f) := by
  rw [identifier_eq, bind_assoc]
  have hname : Sound bound asks nameHere := nameHere_sound
  refine skipBlanks_sound.bind fun _ =>
    { shrinks := hname.shrinks.bind hshrinks, unplaced := hname.unplaced.bind hunplaced,
      quiet := fun rest hrest total n htotal => ?_, fate := fun v n hv => ?_ }
  · -- no name stands at two points, or at the end of the text
    have hfails : nameAt rest = none := by
      simp only [List.mem_cons, List.not_mem_nil, or_false] at hrest
      rcases hrest with rfl | rfl <;> rfl
    have hrun := nameHere_run ⟨rest, total, n⟩
    rw [hfails] at hrun
    have hmisses := hname.quiet rest hrest total n htotal
    rw [run_bind_of_error hrun]
    exact misses_error (hmisses.error _ hrun)
  · cases hfound : nameAt v with
    | none =>
      refine .misses fun total htotal => ?_
      have hrun := nameHere_run ⟨v ++ points, total, n⟩
      rw [nameAt_append hv.ne_nil (behind_points bound).endsWord, hfound] at hrun
      rw [run_bind_of_error hrun]
      refine misses_error (misses_of_position ?_ htotal (.inr (List.suffix_append v points))
        fun position h => (ParseError.expectedIdentifier.inj h).symm)
      rw [byteLength_append, byteLength_points] at htotal
      omega
    | some found =>
      have hsuffix : found.2 <:+ v := nameAt_suffix hfound
      have hrest : found.2 = [] ∨ EndsInName found.2 :=
        or_iff_not_imp_left.2 fun hne => hv.of_suffix hsuffix hne
      refine (hfate found.1 found.2 n hrest).of_run hsuffix fun k total hk => run_bind_of_ok ?_
      rw [nameHere_run, nameAt_append hv.ne_nil hk.endsWord, hfound]
      rfl

/-! ## Columns -/

/-- The property of a column reference behind a point. -/
def propertyAfter (qualifier : String) : Parser ColumnRef := do
  let property ← identifier
  return ⟨← freshId, some qualifier, property⟩

theorem propertyAfter_sound (qualifier : String) : Sound bound asks (propertyAfter qualifier) :=
  identifier_sound.bind fun _ => freshId_sound.bind fun _ => .pure _

section
variable (name : String) {rest : List Char} {total : Nat} {n : SelectorId}

theorem columnAfter_wildcard : (columnAfter name).run ⟨'.' :: '*' :: rest, total, n⟩ =
    .ok (⟨n, some name, wildcard⟩, ⟨rest, total, n + 1⟩) := rfl

theorem columnAfter_point (h : rest.head? ≠ some '*') :
    (columnAfter name).run ⟨'.' :: rest, total, n⟩ = (propertyAfter name).run ⟨rest, total, n⟩ := by
  rw [columnAfter, run_get]
  split
  · rename_i heq
    obtain rfl := (List.cons.inj heq).2
    exact absurd rfl h
  · rename_i heq
    obtain rfl := (List.cons.inj heq).2
    rfl
  · rename_i hother
    exact absurd rfl (hother rest)

theorem columnAfter_none (h : rest.head? ≠ some '.') :
    (columnAfter name).run ⟨rest, total, n⟩ = .ok (⟨n, none, name⟩, ⟨rest, total, n + 1⟩) := by
  rw [columnAfter, run_get]
  split
  · rename_i heq
    obtain rfl : rest = _ := heq
    exact absurd rfl h
  · rename_i heq
    obtain rfl : rest = _ := heq
    exact absurd rfl h
  · rfl

/-- The rest of a column reference is read in one of these ways. -/
theorem columnAfter_cases (rest : List Char) :
    (∃ r, rest = '.' :: '*' :: r) ∨ (∃ r, rest = '.' :: r ∧ r.head? ≠ some '*') ∨
      rest.head? ≠ some '.' := by
  by_cases hpoint : rest.head? = some '.'
  · obtain ⟨r, rfl⟩ := List.head?_eq_some_iff.1 hpoint
    by_cases hstar : r.head? = some '*'
    · obtain ⟨r, rfl⟩ := List.head?_eq_some_iff.1 hstar
      exact .inl ⟨r, rfl⟩
    · exact .inr (.inl ⟨r, rfl, hstar⟩)
  · exact .inr (.inr hpoint)

theorem columnAfter_shrinks : Shrinks (columnAfter name) := by
  rintro ⟨rest, total, n⟩ x c' h
  rcases columnAfter_cases rest with ⟨r, rfl⟩ | ⟨r, rfl, hr⟩ | hrest
  · cases h
    exact Nat.le_trans (Nat.le_succ _) (Nat.le_succ _)
  · rw [columnAfter_point name hr] at h
    exact Nat.le_succ_of_le ((propertyAfter_sound name : Sound 0 false _).shrinks _ x c' h)
  · rw [columnAfter_none name hrest] at h
    cases h
    exact Nat.le_refl _

theorem columnAfter_unplaced : Unplaced (columnAfter name) := by
  intro rest n total total' x c h
  rcases columnAfter_cases rest with ⟨r, rfl⟩ | ⟨r, rfl, hr⟩ | hrest
  · cases h
    rfl
  · rw [columnAfter_point name hr] at h ⊢
    exact (propertyAfter_sound name : Sound 0 false _).unplaced _ n total total' x c h
  · rw [columnAfter_none name hrest] at h ⊢
    cases h
    rfl

/-- At the end of a name, the rest of a column reference does not reach it. -/
theorem columnAfter_fate {v : List Char} (hv : EndsInName v) (n : SelectorId) :
    Fate bound asks (columnAfter name) v n := by
  rcases columnAfter_cases v with ⟨r, rfl⟩ | ⟨r, rfl, hr⟩ | hrest
  · have hname := hv.of_suffix (List.suffix_cons _ _) (List.cons_ne_nil _ _)
    have hne : r ≠ [] := hname.tail_ne_nil rfl
    exact .inside _ r (n + 1) hne ⟨['.', '*'], rfl⟩ fun k total _ => columnAfter_wildcard name
  · have hne : r ≠ [] := hv.tail_ne_nil rfl
    have hsuffix : r <:+ '.' :: r := List.suffix_cons _ _
    refine ((propertyAfter_sound name).fate r n (hv.of_suffix hsuffix hne)).of_run hsuffix ?_
    intro k total _
    refine columnAfter_point name ?_
    rwa [List.append_eq, List.head?_append_of_ne_nil r hne]
  · refine .inside _ v (n + 1) hv.ne_nil v.suffix_refl fun k total _ => columnAfter_none name ?_
    rwa [List.head?_append_of_ne_nil v hv.ne_nil]

/-- A column reference: where its name ends the text, it asks what stands behind. -/
theorem columnRef_sound : Sound bound true columnRef := by
  refine .of_identifier columnAfter_shrinks columnAfter_unplaced fun name v n hv => ?_
  rcases hv with rfl | hv
  · refine .column rfl name n pure (fun c => (Sound.pure c : Sound 0 false _).unplaced)
      (fun c => .pure c) fun k total _ => ?_
    rw [bind_pure]
    rfl
  · exact columnAfter_fate name hv n

/-! ## Columns and functions -/

/-- The rest of a function behind its opening parenthesis. -/
def functionAfter (name : String) : Parser (FunctionRef ⊕ ColumnRef) := do
  expectChar ')'
  return .inl ⟨← freshId, name⟩

theorem functionAfter_sound : Sound bound asks (functionAfter name) :=
  (expectChar_sound (by decide)).bind fun _ => freshId_sound.bind fun _ => .pure _

theorem referenceAfter_eq : referenceAfter name = (do
    if ← tryChar '(' then functionAfter name else return .inr (← columnAfter name)) := rfl

theorem referenceAfter_shrinks : Shrinks (referenceAfter name) := by
  have hparenthesis : Sound 0 false (tryChar '(') := tryChar_sound (by decide)
  refine hparenthesis.shrinks.bind fun found => ?_
  cases found with
  | true => exact (functionAfter_sound name : Sound 0 false _).shrinks
  | false =>
    refine (columnAfter_shrinks name).bind fun c => ?_
    exact (Sound.pure (Sum.inr c) : Sound 0 false _).shrinks

theorem referenceAfter_unplaced : Unplaced (referenceAfter name) := by
  have hparenthesis : Sound 0 false (tryChar '(') := tryChar_sound (by decide)
  refine hparenthesis.unplaced.bind fun found => ?_
  cases found with
  | true => exact (functionAfter_sound name : Sound 0 false _).unplaced
  | false =>
    refine (columnAfter_unplaced name).bind fun c => ?_
    exact (Sound.pure (Sum.inr c) : Sound 0 false _).unplaced

/-- At the end of a name, the rest of a reference does not reach it. -/
theorem referenceAfter_fate {v : List Char} (hv : EndsInName v) (n : SelectorId) :
    Fate bound asks (referenceAfter name) v n := by
  have hne := hv.afterBlanks_ne_nil
  have hsuffix : afterBlanks v <:+ v := List.dropWhile_suffix _
  have hname := hv.of_suffix hsuffix hne
  rw [referenceAfter_eq]
  by_cases hopen : (afterBlanks v).head? = some '('
  · obtain ⟨r, hr⟩ := List.head?_eq_some_iff.1 hopen
    rw [hr] at hname hsuffix
    have hrest := (List.suffix_cons '(' r).trans hsuffix
    have hname' := hname.of_suffix (List.suffix_cons '(' r) (hname.tail_ne_nil rfl)
    refine ((functionAfter_sound name).fate r n hname').of_run hrest fun k total _ => ?_
    refine run_bind_of_ok (tryChar_run_here ?_)
    rw [hv.afterBlanks_append, hr]
    rfl
  · have hcolumn : Fate bound false (columnAfter name) (afterBlanks v) n :=
      columnAfter_fate name hname n
    have hnext : ∀ c : ColumnRef, Sound bound asks
        (pure (.inr c) : Parser (FunctionRef ⊕ ColumnRef)) := fun c => .pure _
    refine (hcolumn.bind hname hnext nofun).of_run hsuffix fun k total _ => ?_
    rw [← hv.afterBlanks_append]
    refine run_bind_of_ok (tryChar_run_not ?_)
    rwa [hv.afterBlanks_append, List.head?_append_of_ne_nil _ hne]

/-- A column reference or a function, made into what it is a part of. -/
theorem reference_sound {make : FunctionRef ⊕ ColumnRef → α} : Sound bound asks
    (identifier >>= fun name => referenceAfter name >>= fun r => pure (make r)) := by
  have hmake : ∀ r, Sound bound asks (pure (make r) : Parser α) := fun r => .pure _
  refine .of_identifier (fun name => (referenceAfter_shrinks name).bind fun r => (hmake r).shrinks)
    (fun name => (referenceAfter_unplaced name).bind fun r => (hmake r).unplaced) ?_
  intro name v n hv
  rcases hv with rfl | hv
  · exact .reference name n (fun r => pure (make r)) (fun r => (hmake r).unplaced)
      fun k total _ => rfl
  · exact (referenceAfter_fate name hv n : Fate bound false _ v n).bind hv hmake nofun

end

/-- What is made of a reference is made of a function or of a column. -/
theorem referenceAfter_bind (name : String) (make : FunctionRef ⊕ ColumnRef → α) :
    (referenceAfter name >>= fun r => pure (make r)) = (do
      if ← tryChar '(' then
        expectChar ')'
        return make (.inl ⟨← freshId, name⟩)
      else return make (.inr (← columnAfter name))) := by
  rw [referenceAfter, bind_assoc]
  congr 1
  funext found
  cases found <;> simp

theorem selector_sound : Sound bound asks selector := by
  have heq : selector = identifier >>= fun name => referenceAfter name >>= fun r =>
      pure (r.elim Selector.function Selector.column) := by
    simp only [referenceAfter_bind]
    rfl
  rw [heq]
  exact reference_sound

/-! ## Literals and operands -/

theorem literalToken_sound : Sound bound asks literalToken := by
  refine skipBlanks_sound.bind fun _ => peek_sound.bind fun got => .ite ?_ ?_
  · exact quoted_sound.bind fun raw => .pure _
  refine (tryKeyword_sound "TIMESTAMP").bind fun found => .ite ?_ ?_
  · exact skipBlanks_sound.bind fun _ => quoted_sound.bind fun raw => .pure _
  refine (tryKeyword_sound "TRUE").bind fun found => .ite (.pure _) ?_
  refine (tryKeyword_sound "FALSE").bind fun found => .ite (.pure _) ?_
  exact number_sound.bind fun raw => .pure _

theorem operand_sound : Sound bound asks operand := by
  have heq : operand = skipBlanks >>= fun _ => atLiteral >>= fun found =>
      if found then literalToken
      else identifier >>= fun name => referenceAfter name >>= fun r =>
        pure (r.elim Predicate.score Predicate.column) := by
    simp only [referenceAfter_bind]
    rfl
  rw [heq]
  exact skipBlanks_sound.bind fun _ => atLiteral_sound.bind fun found =>
    .ite literalToken_sound reference_sound

end

end ContentQuery.Statement
