import ContentQuery.Proofs.Qualifiers.References

/-!
# The grammar at the end of a name

The parts of a statement in a text that ends in a name, up to whole statements (`statement_sound`).
Behind a column reference that cannot be a function no part of the grammar takes a point or an
opening parenthesis (`Declines`, `Halts`). Where the fuel of a parser grows with the text, any fuel
that is enough will do (`Sound.of_fueled`).
-/

set_option autoImplicit false

namespace ContentQuery.Statement

/-! ## Points and parentheses -/

section
variable {α β : Type} {p : Parser α} {f : α → Parser β} {x : α} {y : β}

/-- At a point or an opening parenthesis a parser succeeds with `x` and takes nothing. -/
def Declines (p : Parser α) (x : α) : Prop :=
  ∀ d ∈ ['.', '('], ∀ c : Cursor, (afterBlanks c.rest).head? = some d →
    ∃ c', p.run c = .ok (x, c') ∧ afterBlanks c'.rest = afterBlanks c.rest

/-- At a point or an opening parenthesis a parser fails, and not because a closing parenthesis is
missing at the end of the text. -/
def Halts (p : Parser α) : Prop :=
  ∀ d ∈ ['.', '('], ∀ c : Cursor, (afterBlanks c.rest).head? = some d →
    ∃ e, p.run c = .error e ∧ e ≠ .expectedChar ')' none

theorem Declines.bind (hp : Declines p x) (hf : Declines (f x) y) : Declines (p >>= f) y := by
  intro d hd c hc
  obtain ⟨c', hrun, hrest⟩ := hp d hd c hc
  rw [run_bind_of_ok hrun, ← hrest]
  exact hf d hd c' (by rwa [hrest])

theorem Declines.pure (x : α) : Declines (Pure.pure x : Parser α) x := fun _ _ c _ => ⟨c, rfl, rfl⟩

theorem Declines.stops (hp : Declines p x) : Stops p := by
  intro d hd c hc
  obtain ⟨c', hrun, hrest⟩ := hp d hd c hc
  rw [hrun]
  refine ⟨nofun, fun y d h => ?_⟩
  cases h
  exact hrest

theorem Declines.bind_halts (hp : Declines p x) (hf : Halts (f x)) : Halts (p >>= f) := by
  intro d hd c hc
  obtain ⟨c', hrun, hrest⟩ := hp d hd c hc
  rw [run_bind_of_ok hrun]
  exact hf d hd c' (by rwa [hrest])

theorem Declines.bind_stops (hp : Declines p x) (hf : Stops (f x)) : Stops (p >>= f) := by
  intro d hd c hc
  obtain ⟨c', hrun, hrest⟩ := hp d hd c hc
  rw [run_bind_of_ok hrun, ← hrest]
  exact hf d hd c' (by rwa [hrest])

theorem Halts.bind (hp : Halts p) : Halts (p >>= f) := by
  intro d hd c hc
  obtain ⟨e, hrun, he⟩ := hp d hd c hc
  exact ⟨e, run_bind_of_error hrun, he⟩

theorem Halts.throw {e : ParseError} (h : e ≠ .expectedChar ')' none) :
    Halts (throw e : Parser α) := fun _ _ _ _ => ⟨e, rfl, h⟩

theorem Halts.stops (hp : Halts p) : Stops p := by
  intro d hd c hc
  obtain ⟨e, hrun, he⟩ := hp d hd c hc
  rw [hrun]
  refine ⟨fun e' he' => ?_, nofun⟩
  cases he'
  exact he

end

/-! ### Tokens -/

theorem tryChar_declines {d : Char} (hd : d ∉ ['.', '(']) : Declines (tryChar d) false := by
  rintro d' hd' ⟨rest, total, n⟩ hrest
  refine ⟨⟨afterBlanks rest, total, n⟩, tryChar_run_not ?_, afterBlanks_afterBlanks rest⟩
  rw [show (afterBlanks rest).head? = some d' from hrest]
  rintro ⟨⟩
  exact hd hd'

theorem expectChar_halts {d : Char} (hd : d ∉ ['.', '(']) : Halts (expectChar d) := by
  rintro d' hd' ⟨rest, total, n⟩ hrest
  have hno : (afterBlanks rest).head? ≠ some d := by
    rw [show (afterBlanks rest).head? = some d' from hrest]
    rintro ⟨⟩
    exact hd hd'
  refine ⟨.expectedChar d (some d'), ?_, nofun⟩
  rw [expectChar, run_bind_of_ok (tryChar_run_not hno)]
  show Except.error (ParseError.expectedChar d (afterBlanks rest).head?) = _
  rw [show (afterBlanks rest).head? = some d' from hrest]

theorem tryKeyword_declines (word : String) : Declines (tryKeyword word) false := by
  rintro d hd ⟨rest, total, n⟩ hrest
  refine ⟨⟨afterBlanks rest, total, n⟩, ?_, afterBlanks_afterBlanks rest⟩
  have hno : keywordAt word (afterBlanks rest) = false := by
    obtain ⟨r, hr⟩ := List.head?_eq_some_iff.1 hrest
    dsimp only at hr
    rw [hr]
    refine keywordAt_of_not_starts ?_ word r
    simp only [List.mem_cons, List.not_mem_nil, or_false] at hd
    rcases hd with rfl | rfl <;> decide
  rw [tryKeyword, run_skipBlanks, run_get]
  simp only [hno]
  rfl

theorem expectKeyword_halts (word : String) : Halts (expectKeyword word) :=
  (tryKeyword_declines word).bind_halts (.throw nofun)

/-! ### Clauses -/

theorem joinKind_declines : Declines joinKind none :=
  (tryKeyword_declines "INNER").bind ((tryKeyword_declines "LEFT").bind
    ((tryKeyword_declines "JOIN").bind (.pure none)))

theorem joinedTypes_declines (fuel : Nat) : Declines (joinedTypes fuel) [] := by
  cases fuel with
  | zero => exact .pure []
  | succ fuel => exact joinKind_declines.bind (.pure [])

theorem filterOpt_declines : Declines filterOpt none :=
  (tryKeyword_declines "WHERE").bind (.pure none)

theorem orderByOpt_declines : Declines orderByOpt [] :=
  (tryKeyword_declines "ORDER").bind (.pure [])

theorem disjunctionAfter_declines (fuel : Nat) (left : Predicate) :
    Declines (disjunctionAfter fuel left) left := by
  cases fuel with
  | zero => exact .pure left
  | succ fuel => exact (tryKeyword_declines "OR").bind (.pure left)

theorem conjunctionAfter_declines (fuel : Nat) (left : Predicate) :
    Declines (conjunctionAfter fuel left) left := by
  cases fuel with
  | zero => exact .pure left
  | succ fuel => exact (tryKeyword_declines "AND").bind (.pure left)

theorem endOfText_halts : Halts endOfText := by
  refine (tryChar_declines (by decide)).bind_halts ?_
  rintro d hd ⟨rest, total, n⟩ hrest
  obtain ⟨r, hr⟩ := List.head?_eq_some_iff.1 hrest
  dsimp only at hr
  refine ⟨.unexpectedInput (Cursor.position ⟨afterBlanks rest, total, n⟩)
    (String.ofList (afterBlanks rest)), ?_, nofun⟩
  rw [run_skipBlanks, run_get]
  simp only [hr]
  rfl

/-! ## Fuel -/

section
variable {α β : Type} {p : Parser α} {f g : α → Parser β} {bound : Nat} {asks : Bool}

theorem run_bind_congr {p' : Parser α} {c : Cursor} (hp : p.run c = p'.run c)
    (h : ∀ x c', p.run c = .ok (x, c') → (f x).run c' = (g x).run c') :
    (p >>= f).run c = (p' >>= g).run c := by
  cases hrun : p.run c with
  | error e => rw [run_bind_of_error hrun, run_bind_of_error (hp ▸ hrun)]
  | ok found =>
    obtain ⟨x, c'⟩ := found
    rw [run_bind_of_ok hrun, run_bind_of_ok (hp ▸ hrun), h x c' hrun]

theorem tryChar_takes {d : Char} {c c' : Cursor} (h : (tryChar d).run c = .ok (true, c')) :
    c'.rest.length < c.rest.length := by
  obtain ⟨rest, total, n⟩ := c
  by_cases hhead : (afterBlanks rest).head? = some d
  · obtain ⟨r, hr⟩ := List.head?_eq_some_iff.1 hhead
    rw [tryChar_run_here hr] at h
    cases h
    have hle := length_afterBlanks_le rest
    rw [hr] at hle
    exact hle
  · rw [tryChar_run_not hhead] at h
    cases h

theorem tryKeyword_takes {word : String} {c c' : Cursor}
    (h : (tryKeyword word).run c = .ok (true, c')) : c'.rest.length < c.rest.length := by
  obtain ⟨rest, total, n⟩ := c
  rw [tryKeyword, run_skipBlanks, run_get] at h
  by_cases hword : keywordAt word (afterBlanks rest) = true
  · simp only [hword, if_true] at h
    cases h
    have hne : wordAt (afterBlanks rest) ≠ [] := by
      intro hnil
      simp [keywordAt, hnil] at hword
    have hpos := List.length_pos_of_ne_nil hne
    have hle := (wordAt_isPrefixOf (afterBlanks rest)).length_le
    have hblanks := length_afterBlanks_le rest
    show ((afterBlanks rest).drop _).length < rest.length
    rw [List.length_drop]
    omega
  · simp only [hword] at h
    cases h

/-- A parser with a fuel that grows with the text runs as it does with any fuel that is enough. -/
theorem Sound.of_fueled {q : Nat → Parser α} (need : Nat → Nat)
    (hmono : ∀ {a b}, a ≤ b → need a ≤ need b)
    (hrun : ∀ c, p.run c = (q (need c.rest.length)).run c) (hq : ∀ fuel, Sound bound asks (q fuel))
    (henough : ∀ fuel c, need c.rest.length ≤ fuel →
      (q fuel).run c = (q (need c.rest.length)).run c) : Sound bound asks p where
  shrinks c x c' h := (hq _).shrinks c x c' (hrun c ▸ h)
  unplaced rest n total total' x c h := by
    rw [hrun] at h ⊢
    exact (hq _).unplaced rest n total total' x c h
  quiet rest hrest total n htotal := by
    rw [hrun]
    exact (hq _).quiet rest hrest total n htotal
  fate v n hv := by
    refine ((hq (need (v.length + (bound + 2)))).fate v n hv).of_run v.suffix_refl ?_
    intro k total hk
    rw [hrun]
    refine (henough _ ⟨v ++ k, total, n⟩ (hmono ?_)).symm
    rw [List.length_append]
    exact Nat.add_le_add_left hk.length_le _

end

/-! ## Lists -/

section
variable {α : Type} {item : Parser α} {bound : Nat}

theorem separated_sound (h : Sound bound false item) (fuel : Nat) :
    Sound bound false (separated item fuel) := by
  induction fuel with
  | zero => exact .throw nofun
  | succ fuel ih =>
    refine h.bind fun first => (tryChar_sound (by decide)).bind fun found => ?_
    exact .ite (ih.bind fun others => .pure _) (.pure _)

theorem separated_enough (h : Shrinks item) (fuel fuel' : Nat) (c : Cursor)
    (hfuel : c.rest.length < fuel) (hfuel' : c.rest.length < fuel') :
    (separated item fuel).run c = (separated item fuel').run c := by
  induction fuel generalizing fuel' c with
  | zero => exact absurd hfuel (Nat.not_lt_zero _)
  | succ fuel ih =>
    cases fuel' with
    | zero => exact absurd hfuel' (Nat.not_lt_zero _)
    | succ fuel' =>
      refine run_bind_congr rfl fun first c₁ hfirst => run_bind_congr rfl fun found c₂ hfound => ?_
      cases found with
      | false => rfl
      | true =>
        have hlength := tryChar_takes hfound
        have hlength' := h c first c₁ hfirst
        exact run_bind_congr (ih fuel' c₂ (by omega) (by omega)) fun _ _ _ => rfl

theorem commaSeparated_sound (h : Sound bound false item) :
    Sound bound false (commaSeparated item) :=
  .of_fueled (· + 1) (fun h => Nat.add_le_add_right h 1) (fun _ => rfl) (separated_sound h)
    fun fuel c hfuel => separated_enough h.shrinks fuel _ c hfuel (Nat.lt_succ_self _)

end

section
variable {bound : Nat} {asks : Bool}

/-! ## SELECT, FROM and ORDER BY -/

theorem aliasOpt_sound : Sound bound asks aliasOpt :=
  (tryKeyword_sound "AS").bind fun _ => .ite (identifier_sound.bind fun _ => .pure _) tryAlias_sound

theorem selectItem_sound : Sound bound asks selectItem := by
  refine (tryChar_sound (by decide)).bind fun found => .ite ?_ ?_
  · exact freshId_sound.bind fun _ => Sound.bind (.pure _) fun _ =>
      aliasOpt_sound.bind fun _ => .pure _
  · exact selector_sound.bind fun _ => aliasOpt_sound.bind fun _ => .pure _

theorem joinKind_sound : Sound bound asks joinKind := by
  refine (tryKeyword_sound "INNER").bind fun _ => .ite ?_ ?_
  · exact (expectKeyword_sound "JOIN").bind fun _ => .pure _
  refine (tryKeyword_sound "LEFT").bind fun _ => .ite ?_ ?_
  · exact (tryKeyword_sound "OUTER").bind fun _ =>
      (expectKeyword_sound "JOIN").bind fun _ => .pure _
  exact (tryKeyword_sound "JOIN").bind fun _ => .ite (.pure _) (.pure _)

theorem typeRef_sound (join : Option JoinSpec) : Sound bound asks (typeRef join) :=
  identifier_sound.bind fun _ => aliasOpt_sound.bind fun _ => .pure _

theorem joinedType_sound (kind : JoinKind) : Sound bound true (joinedType kind) := by
  refine (typeRef_sound none).bind fun source => (expectKeyword_sound "ON").bind fun _ => ?_
  refine columnRef_sound.bind_of_stops (fun left => ?_) fun left =>
    (expectChar_halts (by decide)).bind.stops
  refine (expectChar_sound (by decide)).bind fun _ => ?_
  exact columnRef_sound.bind_of_stops (fun right => .pure _) fun right => .pure _

theorem joinedTypes_sound (fuel : Nat) : Sound bound true (joinedTypes fuel) := by
  induction fuel with
  | zero => exact .pure []
  | succ fuel ih =>
    refine joinKind_sound.bind fun kind => ?_
    cases kind with
    | none => exact .pure []
    | some kind =>
      refine (joinedType_sound kind).bind_of_stops (fun source => ?_) fun source =>
        (joinedTypes_declines fuel).bind_stops (.pure _)
      exact ih.bind_of_stops (fun others => .pure _) fun others => .pure _

theorem tryKeyword_shrinks (word : String) : Shrinks (tryKeyword word) :=
  (tryKeyword_sound word : Sound 0 false _).shrinks

theorem expectKeyword_shrinks (word : String) : Shrinks (expectKeyword word) :=
  (expectKeyword_sound word : Sound 0 false _).shrinks

theorem joinKind_takes {kind : JoinKind} {c c' : Cursor}
    (h : joinKind.run c = .ok (some kind, c')) : c'.rest.length < c.rest.length := by
  obtain ⟨inner, c₁, hinner, h⟩ := run_bind_eq_ok.1 h
  cases inner with
  | true =>
    obtain ⟨_, c₂, hjoin, h⟩ := run_bind_eq_ok.1 h
    cases h
    exact Nat.lt_of_le_of_lt (expectKeyword_shrinks _ _ _ _ hjoin) (tryKeyword_takes hinner)
  | false =>
    refine Nat.lt_of_lt_of_le ?_ (tryKeyword_shrinks _ _ _ _ hinner)
    obtain ⟨left, c₂, hleft, h⟩ := run_bind_eq_ok.1 h
    cases left with
    | true =>
      obtain ⟨_, c₃, houter, h⟩ := run_bind_eq_ok.1 h
      obtain ⟨_, c₄, hjoin, h⟩ := run_bind_eq_ok.1 h
      cases h
      have hle := expectKeyword_shrinks _ _ _ _ hjoin
      have hle' := tryKeyword_shrinks _ _ _ _ houter
      have hlt := tryKeyword_takes hleft
      omega
    | false =>
      refine Nat.lt_of_lt_of_le ?_ (tryKeyword_shrinks _ _ _ _ hleft)
      obtain ⟨join, c₃, hjoin, h⟩ := run_bind_eq_ok.1 h
      cases join with
      | true =>
        cases h
        exact tryKeyword_takes hjoin
      | false => cases h

theorem joinedTypes_enough (fuel fuel' : Nat) (c : Cursor) (hfuel : c.rest.length < fuel)
    (hfuel' : c.rest.length < fuel') : (joinedTypes fuel).run c = (joinedTypes fuel').run c := by
  induction fuel generalizing fuel' c with
  | zero => exact absurd hfuel (Nat.not_lt_zero _)
  | succ fuel ih =>
    cases fuel' with
    | zero => exact absurd hfuel' (Nat.not_lt_zero _)
    | succ fuel' =>
      refine run_bind_congr rfl fun kind c₁ hkind => ?_
      cases kind with
      | none => rfl
      | some kind =>
        have hlength := joinKind_takes hkind
        refine run_bind_congr rfl fun source c₂ hsource => ?_
        have hlength' := (joinedType_sound kind : Sound 0 true _).shrinks c₁ source c₂ hsource
        exact run_bind_congr (ih fuel' c₂ (by omega) (by omega)) fun _ _ _ => rfl

/-- The joined types with as much fuel as there is text. -/
def allJoinedTypes : Parser (List Source) := do
  joinedTypes ((← get).rest.length + 1)

theorem allJoinedTypes_sound : Sound bound true allJoinedTypes :=
  .of_fueled (· + 1) (fun h => Nat.add_le_add_right h 1) (fun _ => rfl) joinedTypes_sound
    fun fuel c hfuel => joinedTypes_enough fuel _ c hfuel (Nat.lt_succ_self _)

theorem sourceList_eq : sourceList = typeRef none >>= fun first =>
    allJoinedTypes >>= fun others => pure (first :: others) := by
  simp only [sourceList, allJoinedTypes, bind_assoc]

theorem sourceList_sound : Sound bound true sourceList := by
  rw [sourceList_eq]
  refine (typeRef_sound none).bind fun first => ?_
  exact allJoinedTypes_sound.bind_of_stops (fun others => .pure _) fun others => .pure _

theorem sortSpec_sound : Sound bound asks sortSpec := by
  refine selector_sound.bind fun sel => (tryKeyword_sound "DESC").bind fun _ => .ite (.pure _) ?_
  exact (tryKeyword_sound "ASC").bind fun _ => .pure _

/-! ## Tests -/

theorem literalList_sound : Sound bound asks literalList := by
  refine (expectChar_sound (by decide)).bind fun _ => ?_
  refine (commaSeparated_sound literalToken_sound).bind fun items => ?_
  exact (expectChar_sound (by decide)).bind fun _ => .pure _

theorem qualifier_sound : Sound bound asks qualifier := by
  refine (expectChar_sound (by decide)).bind fun _ => skipBlanks_sound.bind fun _ => ?_
  refine peek_sound.bind fun got => .ite (.pure none) (identifier_sound.bind fun name => ?_)
  exact (expectChar_sound (by decide)).bind fun _ => .pure _

theorem containsArguments_sound : Sound bound asks containsArguments := by
  refine qualifier_sound.bind fun aliasName => skipBlanks_sound.bind fun _ => ?_
  refine quoted_sound.bind fun raw => (expectChar_sound (by decide)).bind fun _ => ?_
  split
  · exact .throw nofun
  · split
    · exact .throw nofun
    · exact .pure _

theorem folderArguments_sound (scope : FolderScope) : Sound bound asks (folderArguments scope) := by
  refine qualifier_sound.bind fun aliasName => ?_
  cases aliasName with
  | none =>
    exact literalToken_sound.bind fun folder => (expectChar_sound (by decide)).bind fun _ => .pure _
  | some aliasName =>
    refine freshId_sound.bind fun _ => literalToken_sound.bind fun folder => ?_
    exact (expectChar_sound (by decide)).bind fun _ => .pure _

theorem anyMembership_sound : Sound bound true anyMembership := by
  refine columnRef_sound.bind_of_stops (fun column => ?_) fun column =>
    ((tryKeyword_declines "NOT").bind_halts (expectKeyword_halts "IN").bind).stops
  refine (tryKeyword_sound "NOT").bind fun negated => (expectKeyword_sound "IN").bind fun _ => ?_
  exact literalList_sound.bind fun items => .pure _

theorem tryComparison_sound {ops : List (List Char × Comparison)}
    (h : ∀ op ∈ ops, op.1.any continuesIdentifier = false ∧ op.1.isPrefixOf points = false) :
    Sound bound asks (tryComparison ops) := by
  induction ops with
  | nil => exact .pure none
  | cons op ops ih =>
    obtain ⟨⟨hop, hpoints⟩, hops⟩ := List.forall_mem_cons.1 h
    have hno : ∀ c ∈ op.1, continuesIdentifier c = false := fun c hc =>
      eq_false_of_ne_true (List.any_eq_false.1 hop c hc)
    exact (tryOperator_sound hno hpoints).bind fun _ => .ite (.pure _) (ih hops)

theorem comparisonAfter_sound (left : Predicate) : Sound bound true (comparisonAfter left) := by
  refine (tryComparison_sound (by decide)).bind fun op => ?_
  split
  · exact peek_sound.bind fun got => .throw nofun
  · refine (tryKeyword_sound "ANY").bind fun _ => .ite ?_ (operand_sound.bind fun right => .pure _)
    exact columnRef_sound.bind_of_stops (fun column => .pure _) fun column => .pure _
  · exact operand_sound.bind fun right => .pure _

theorem testAfter_sound (left : Predicate) : Sound bound true (testAfter left) := by
  refine (tryKeyword_sound "IS").bind fun _ => .ite ?_ ?_
  · refine (tryKeyword_sound "NOT").bind fun negated => ?_
    exact (expectKeyword_sound "NULL").bind fun _ => .pure _
  refine (tryKeyword_sound "NOT").bind fun negated => ?_
  refine (tryKeyword_sound "IN").bind fun _ => .ite (literalList_sound.bind fun _ => .pure _) ?_
  refine (tryKeyword_sound "LIKE").bind fun _ => .ite (literalToken_sound.bind fun _ => .pure _) ?_
  exact .ite (.throw nofun) (comparisonAfter_sound left)

theorem test_sound : Sound bound true test := by
  refine (tryKeyword_sound "CONTAINS").bind fun _ => .ite containsArguments_sound ?_
  refine (tryKeyword_sound "IN_FOLDER").bind fun _ => .ite (folderArguments_sound _) ?_
  refine (tryKeyword_sound "IN_TREE").bind fun _ => .ite (folderArguments_sound _) ?_
  refine (tryKeyword_sound "ANY").bind fun _ => .ite anyMembership_sound ?_
  exact operand_sound.bind testAfter_sound

/-! ## Connectives -/

/-- The six readers of connectives together: each calls the next with less fuel. -/
theorem connectives_sound (fuel : Nat) :
    Sound bound true (disjunction fuel) ∧
    (∀ left, Sound bound true (disjunctionAfter fuel left)) ∧
    Sound bound true (conjunction fuel) ∧
    (∀ left, Sound bound true (conjunctionAfter fuel left)) ∧
    Sound bound true (negation fuel) ∧ Sound bound true (primary fuel) := by
  induction fuel with
  | zero =>
    exact ⟨.throw nofun, fun left => .pure left, .throw nofun, fun left => .pure left,
      .throw nofun, .throw nofun⟩
  | succ fuel ih =>
    obtain ⟨hdis, hdisAfter, hcon, hconAfter, hneg, hprim⟩ := ih
    refine ⟨?disjunction, fun left => ?disjunctionAfter, ?conjunction,
      fun left => ?conjunctionAfter, ?negation, ?primary⟩
    case disjunction =>
      exact hcon.bind_of_stops hdisAfter fun left => (disjunctionAfter_declines fuel left).stops
    case disjunctionAfter =>
      refine (tryKeyword_sound "OR").bind fun _ => .ite ?_ (.pure left)
      exact hcon.bind_of_stops (fun right => hdisAfter _) fun right =>
        (disjunctionAfter_declines fuel _).stops
    case conjunction =>
      exact hneg.bind_of_stops hconAfter fun left => (conjunctionAfter_declines fuel left).stops
    case conjunctionAfter =>
      refine (tryKeyword_sound "AND").bind fun _ => .ite ?_ (.pure left)
      exact hneg.bind_of_stops (fun right => hconAfter _) fun right =>
        (conjunctionAfter_declines fuel _).stops
    case negation =>
      refine (tryKeyword_sound "NOT").bind fun _ => .ite ?_ hprim
      exact hneg.bind_of_stops (fun p => .pure _) fun p => .pure _
    case primary =>
      refine (tryChar_sound (by decide)).bind fun _ => .ite ?_ test_sound
      refine hdis.bind_of_stops (fun inner => ?_) fun inner =>
        (expectChar_halts (by decide)).bind.stops
      exact (expectChar_sound (by decide)).bind fun _ => .pure _

theorem conjunction_shrinks (fuel : Nat) : Shrinks (conjunction fuel) :=
  ((connectives_sound fuel).2.2.1 : Sound 0 true _).shrinks

theorem negation_shrinks (fuel : Nat) : Shrinks (negation fuel) :=
  ((connectives_sound fuel).2.2.2.2.1 : Sound 0 true _).shrinks

/-- Two parsers with fuel run alike where both have enough of it: four for each character, and as
many as there are readers from one to the tests. -/
def Agree {α : Type} (need fuel fuel' : Nat) (p p' : Parser α) : Prop :=
  ∀ c : Cursor, 4 * c.rest.length + need ≤ fuel → 4 * c.rest.length + need ≤ fuel' →
    p.run c = p'.run c

theorem agree_zero_left {α : Type} (need fuel' : Nat) (p p' : Parser α) :
    Agree (need + 1) 0 fuel' p p' := fun _ h => absurd h (Nat.not_succ_le_zero _)

theorem agree_zero_right {α : Type} (need fuel : Nat) (p p' : Parser α) :
    Agree (need + 1) fuel 0 p p' := fun _ _ h => absurd h (Nat.not_succ_le_zero _)

/-- With fuel that is enough, it does not matter how much there is. -/
theorem connectives_agree (fuel fuel' : Nat) :
    Agree 4 fuel fuel' (disjunction fuel) (disjunction fuel') ∧
    (∀ left, Agree 1 fuel fuel' (disjunctionAfter fuel left) (disjunctionAfter fuel' left)) ∧
    Agree 3 fuel fuel' (conjunction fuel) (conjunction fuel') ∧
    (∀ left, Agree 1 fuel fuel' (conjunctionAfter fuel left) (conjunctionAfter fuel' left)) ∧
    Agree 2 fuel fuel' (negation fuel) (negation fuel') ∧
    Agree 1 fuel fuel' (primary fuel) (primary fuel') := by
  induction fuel generalizing fuel' with
  | zero =>
    exact ⟨agree_zero_left 3 _ _ _, fun left => agree_zero_left 0 _ _ _, agree_zero_left 2 _ _ _,
      fun left => agree_zero_left 0 _ _ _, agree_zero_left 1 _ _ _, agree_zero_left 0 _ _ _⟩
  | succ fuel ih =>
    cases fuel' with
    | zero =>
      exact ⟨agree_zero_right 3 _ _ _, fun left => agree_zero_right 0 _ _ _,
        agree_zero_right 2 _ _ _, fun left => agree_zero_right 0 _ _ _, agree_zero_right 1 _ _ _,
        agree_zero_right 0 _ _ _⟩
    | succ fuel' =>
      obtain ⟨hdis, hdisAfter, hcon, hconAfter, hneg, hprim⟩ := ih fuel'
      refine ⟨fun c h h' => ?disjunction, fun left c h h' => ?disjunctionAfter,
        fun c h h' => ?conjunction, fun left c h h' => ?conjunctionAfter, fun c h h' => ?negation,
        fun c h h' => ?primary⟩
      case disjunction =>
        refine run_bind_congr (hcon c (by omega) (by omega)) fun left c' hleft => ?_
        have hlength := conjunction_shrinks fuel c left c' hleft
        exact hdisAfter left c' (by omega) (by omega)
      case disjunctionAfter =>
        refine run_bind_congr rfl fun found c₁ hfound => ?_
        cases found with
        | false => rfl
        | true =>
          have htakes := tryKeyword_takes hfound
          refine run_bind_congr (hcon c₁ (by omega) (by omega)) fun right c₂ hright => ?_
          have hlength := conjunction_shrinks fuel c₁ right c₂ hright
          exact hdisAfter _ c₂ (by omega) (by omega)
      case conjunction =>
        refine run_bind_congr (hneg c (by omega) (by omega)) fun left c' hleft => ?_
        have hlength := negation_shrinks fuel c left c' hleft
        exact hconAfter left c' (by omega) (by omega)
      case conjunctionAfter =>
        refine run_bind_congr rfl fun found c₁ hfound => ?_
        cases found with
        | false => rfl
        | true =>
          have htakes := tryKeyword_takes hfound
          refine run_bind_congr (hneg c₁ (by omega) (by omega)) fun right c₂ hright => ?_
          have hlength := negation_shrinks fuel c₁ right c₂ hright
          exact hconAfter _ c₂ (by omega) (by omega)
      case negation =>
        refine run_bind_congr rfl fun found c₁ hfound => ?_
        cases found with
        | false =>
          have hlength := tryKeyword_shrinks _ _ _ _ hfound
          exact hprim c₁ (by omega) (by omega)
        | true =>
          have htakes := tryKeyword_takes hfound
          exact run_bind_congr (hneg c₁ (by omega) (by omega)) fun _ _ _ => rfl
      case primary =>
        refine run_bind_congr rfl fun found c₁ hfound => ?_
        cases found with
        | false => rfl
        | true =>
          have htakes := tryChar_takes hfound
          exact run_bind_congr (hdis c₁ (by omega) (by omega)) fun _ _ _ => rfl

theorem predicate_sound : Sound bound true predicate :=
  .of_fueled (4 * · + 4) (fun h => by omega) (fun _ => rfl) (fun fuel => (connectives_sound fuel).1)
    fun fuel c hfuel => (connectives_agree fuel _).1 c hfuel (Nat.le_refl _)

/-! ## Statements -/

theorem filterOpt_sound : Sound bound true filterOpt := by
  refine (tryKeyword_sound "WHERE").bind fun _ => .ite ?_ (.pure none)
  exact predicate_sound.bind_of_stops (fun p => .pure _) fun p => .pure _

theorem orderByOpt_sound : Sound bound asks orderByOpt := by
  refine (tryKeyword_sound "ORDER").bind fun _ => .ite ?_ (.pure [])
  exact (expectKeyword_sound "BY").bind fun _ => (commaSeparated_sound sortSpec_sound).weaken

theorem endOfText_sound : Sound bound asks endOfText := by
  refine (tryChar_sound (by decide)).bind fun _ => skipBlanks_sound.bind fun _ => ?_
  refine .of_token (fun rest => if rest = [] then some ((), rest) else none)
    (fun c => .unexpectedInput c.position (String.ofList c.rest)) ?_ ?_ ?_ ?_ ?_
  · rintro ⟨rest, total, n⟩
    cases rest <;> rfl
  · nofun
  · intro rest _ rest' h
    split at h
    · cases h
      exact Nat.le_refl _
    · cases h
  · nofun
  · intro v hv
    exact .inr (.inl (if_neg (List.append_ne_nil_of_left_ne_nil hv.ne_nil points)))

theorem statement_sound (text : String) : Sound bound true (statement text) := by
  refine (expectKeyword_sound "SELECT").bind fun _ => ?_
  refine (commaSeparated_sound selectItem_sound).bind fun select => ?_
  refine (expectKeyword_sound "FROM").bind fun _ => ?_
  refine sourceList_sound.bind_of_stops (fun sources => ?_) fun sources =>
    filterOpt_declines.bind_stops (orderByOpt_declines.bind_halts endOfText_halts.bind).stops
  refine filterOpt_sound.bind_of_stops (fun filter => ?_) fun filter =>
    (orderByOpt_declines.bind_halts endOfText_halts.bind).stops
  refine Sound.bind (orderByOpt_sound : Sound bound false _) fun orderBy => ?_
  exact endOfText_sound.bind fun _ => .pure _

end

end ContentQuery.Statement
