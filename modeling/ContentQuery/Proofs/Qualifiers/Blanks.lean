import ContentQuery.Proofs.Qualifiers.Grammar
import ContentQuery.Proofs.Statement.Rereading

/-!
# White space around the point of a qualified column

Behind the point the property is read as an identifier, which passes over white space: `q. p` is
read as `q.p` wherever a column stands. Before the point it depends on what else may stand there.
Where a function may (in SELECT, in ORDER BY and as an operand of WHERE), the parser passes over
white space in search of a parenthesis, so that `q .p` is read as `q.p` as well. Where only a column
may (in ON and behind `ANY`), the column ends before the white space, and nothing goes on with a
point (`blanks_around_point`).
-/

set_option autoImplicit false

namespace ContentQuery.Statement

/-! ## Whole statements -/

/-- The text of a statement is only reported. -/
theorem statement_eq (text : String) :
    statement text = statement "" >>= fun s => pure { s with text } := by
  simp only [statement, bind_assoc, pure_bind]

/-- A statement takes the whole text. -/
theorem statement_takes_all {text : String} {c c' : Cursor} {s : Statement}
    (h : (statement text).run c = .ok (s, c')) : c'.rest = [] := by
  obtain ⟨_, _, -, h⟩ := run_bind_eq_ok.1 h
  obtain ⟨_, _, -, h⟩ := run_bind_eq_ok.1 h
  obtain ⟨_, _, -, h⟩ := run_bind_eq_ok.1 h
  obtain ⟨_, _, -, h⟩ := run_bind_eq_ok.1 h
  obtain ⟨_, _, -, h⟩ := run_bind_eq_ok.1 h
  obtain ⟨_, _, -, h⟩ := run_bind_eq_ok.1 h
  obtain ⟨_, c₇, hend, h⟩ := run_bind_eq_ok.1 h
  cases h
  obtain ⟨_, _, -, hend⟩ := run_bind_eq_ok.1 hend
  obtain ⟨_, ⟨rest, total, n⟩, -, hend⟩ := run_bind_eq_ok.1 hend
  rw [run_get] at hend
  cases rest with
  | nil =>
    cases hend
    rfl
  | cons d rest => cases hend

/-- A text is read as a statement, whatever this reports as its own text. -/
def Gives (cs : List Char) (s : Statement) : Prop :=
  ∃ c, (statement "").run (.ofText cs) = .ok (s, c)

theorem parse_of_run_ok {cs : List Char} {s : Statement} {c : Cursor}
    (h : (statement "").run (.ofText cs) = .ok (s, c)) :
    parse (String.ofList cs) = .ok { s with text := String.ofList (Text.trim cs) } := by
  rw [parse, String.toList_ofList, statement_eq, StateT.run'_eq, run_bind_of_ok h]
  rfl

theorem parse_of_run_error {cs : List Char} {e : ParseError}
    (h : (statement "").run (.ofText cs) = .error e) : parse (String.ofList cs) = .error e := by
  rw [parse, String.toList_ofList, statement_eq, StateT.run'_eq, run_bind_of_error h]
  rfl

theorem parse_eq_ok {cs : List Char} {s : Statement} : parse (String.ofList cs) = .ok s ↔
    ∃ s', Gives cs s' ∧ { s' with text := String.ofList (Text.trim cs) } = s := by
  cases hrun : (statement "").run (.ofText cs) with
  | error e =>
    rw [parse_of_run_error hrun]
    refine ⟨nofun, ?_⟩
    rintro ⟨s', ⟨c, hgives⟩, -⟩
    rw [hrun] at hgives
    cases hgives
  | ok found =>
    rw [parse_of_run_ok hrun]
    constructor
    · intro h
      exact ⟨found.1, ⟨found.2, hrun⟩, Except.ok.inj h⟩
    · rintro ⟨s', ⟨c, hgives⟩, rfl⟩
      rw [hrun] at hgives
      cases hgives
      rfl

theorem parse_eq_error {cs : List Char} {e : ParseError} : parse (String.ofList cs) = .error e ↔
    (statement "").run (.ofText cs) = .error e := by
  refine ⟨fun h => ?_, parse_of_run_error⟩
  cases hrun : (statement "").run (.ofText cs) with
  | error e' =>
    rw [parse_of_run_error hrun] at h
    cases h
    rfl
  | ok found =>
    rw [parse_of_run_ok hrun] at h
    cases h

/-- Two texts are read as the same statement, but for the text it reports, or neither is read. -/
def ReadAlike (cs cs' : List Char) : Prop := ∀ s : Statement,
  parse (String.ofList cs) = .ok { s with text := String.ofList (Text.trim cs) } ↔
    parse (String.ofList cs') = .ok { s with text := String.ofList (Text.trim cs') }

theorem ReadAlike.of_gives {cs cs' : List Char} (h : ∀ s, Gives cs s ↔ Gives cs' s) :
    ReadAlike cs cs' := by
  intro s
  simp only [parse_eq_ok, h, Statement.mk.injEq, true_and]

/-! ## Where a column reference goes on -/

instance {ε α : Type} [DecidableEq ε] (x : Except ε α) (e : ε) : Decidable (x = .error e) :=
  match x with
  | .ok _ => isFalse nofun
  | .error e' => decidable_of_iff (e' = e) ⟨congrArg Except.error, Except.error.inj⟩

/-- The parser reads the rest of a column reference behind this text: behind the first of two points
it misses a name. -/
def AwaitsPoint (u : List Char) : Prop :=
  parse (String.ofList (u ++ points)) = .error (.expectedIdentifier (byteLength u + 1))

instance (u : List Char) : Decidable (AwaitsPoint u) :=
  inferInstanceAs (Decidable (_ = Except.error _))

/-- It may also read the rest of a function there: behind an opening parenthesis it misses the
closing one. -/
def AwaitsParenthesis (u : List Char) : Prop :=
  parse (String.ofList (u ++ ['('])) = .error (.expectedChar ')' none)

instance (u : List Char) : Decidable (AwaitsParenthesis u) :=
  inferInstanceAs (Decidable (_ = Except.error _))

section
variable {α : Type} {f : String → Parser α} {rest rest' : List Char} {total : Nat} {n : SelectorId}

theorem identifier_run_congr (h : afterBlanks rest = afterBlanks rest') :
    (identifier >>= f).run ⟨rest, total, n⟩ = (identifier >>= f).run ⟨rest', total, n⟩ := by
  rw [identifier_eq, bind_assoc, run_skipBlanks, run_skipBlanks, h]

/-- White space behind the point of a column is passed over. -/
theorem columnAfter_run_congr (name : String) (h : afterBlanks rest = afterBlanks rest')
    (hrest : rest.head? ≠ some '*') (hrest' : rest'.head? ≠ some '*') :
    (columnAfter name).run ⟨'.' :: rest, total, n⟩ =
      (columnAfter name).run ⟨'.' :: rest', total, n⟩ := by
  rw [columnAfter_point name hrest, columnAfter_point name hrest']
  exact identifier_run_congr h

/-- Where no function goes on, a column does, with the white space before it passed over. -/
theorem referenceAfter_run_column (name : String) (h : (afterBlanks rest).head? ≠ some '(') :
    (referenceAfter name).run ⟨rest, total, n⟩ =
      (columnAfter name >>= fun c => pure (.inr c)).run ⟨afterBlanks rest, total, n⟩ :=
  run_bind_of_ok (tryChar_run_not h)

end

theorem behind_parenthesis (bound : Nat) : Behind bound ['('] :=
  ⟨⟨'(', List.mem_cons_of_mem _ List.mem_cons_self, rfl⟩, by simp⟩

section
variable {u : List Char} {bound : Nat}

/-- Behind a text the reading of a statement goes on with a part of the grammar. -/
def GoesOn {α : Type} (bound : Nat) (u : List Char) (part : Parser α) : Prop :=
  ∃ (m : SelectorId) (next : α → Parser Statement), ∀ k total, Behind bound k →
    (statement "").run ⟨u ++ k, total, 0⟩ = (part >>= next).run ⟨k, total, m⟩

theorem AwaitsPoint.not_inside (h : AwaitsPoint u) {s : Statement} {v : List Char} {m : SelectorId}
    (hrun : ∀ k total, Behind bound k → (statement "").run ⟨u ++ k, total, 0⟩ =
      .ok (s, ⟨v ++ k, total, m⟩)) : False := by
  have hpoints := parse_eq_error.1 h
  rw [Cursor.ofText, hrun points _ (behind_points bound)] at hpoints
  cases hpoints

theorem AwaitsPoint.not_misses (h : AwaitsPoint u)
    (hmisses : ∀ total, byteLength (u ++ points) ≤ total →
      Misses total ((statement "").run ⟨u ++ points, total, 0⟩)) : False := by
  refine (hmisses _ (Nat.le_refl _)).error _ (parse_eq_error.1 h) ?_
  rw [byteLength_append, byteLength_points]
  rfl

/-- A part that misses a name behind the first of two points is what awaits a point. -/
theorem GoesOn.awaitsPoint {α : Type} {part : Parser α}
    (hpart : ∀ total m, part.run ⟨points, total, m⟩ = .error (.expectedIdentifier (total - 1)))
    (h : GoesOn bound u part) : AwaitsPoint u := by
  obtain ⟨m, next, hrun⟩ := h
  refine parse_eq_error.2 ?_
  rw [Cursor.ofText, hrun points _ (behind_points bound), run_bind_of_error (hpart _ _),
    byteLength_append, byteLength_points]
  rfl

/-- The two points tell where the rest of a column reference is read behind a name. -/
theorem awaitsPoint_iff (hu : EndsInName u) (bound : Nat) : AwaitsPoint u ↔
    ∃ name, GoesOn bound u (columnAfter name) ∨ GoesOn bound u (referenceAfter name) := by
  constructor
  · intro h
    cases (statement_sound "" : Sound bound true _).fate u 0 hu with
    | inside s v m _ _ hrun => exact (h.not_inside hrun).elim
    | column _ name m next _ _ hrun => exact ⟨name, .inl ⟨m, next, hrun⟩⟩
    | reference name m next _ hrun => exact ⟨name, .inr ⟨m, next, hrun⟩⟩
    | misses hmisses => exact (h.not_misses hmisses).elim
  · rintro ⟨name, hcolumn | hreference⟩
    · exact hcolumn.awaitsPoint fun _ _ => rfl
    · exact hreference.awaitsPoint fun _ _ => rfl

/-- The parenthesis tells where it may be the rest of a function. -/
theorem GoesOn.awaitsParenthesis {name : String} (h : GoesOn bound u (referenceAfter name)) :
    AwaitsParenthesis u := by
  obtain ⟨m, next, hrun⟩ := h
  refine parse_eq_error.2 ?_
  rw [Cursor.ofText, hrun _ _ (behind_parenthesis bound)]
  rfl

end

/-! ## Two texts from there -/

section
variable {u k k' : List Char} {bound : Nat}

/-- What the parser goes on with decides between two texts. -/
theorem gives_iff_of_run {q : Parser Statement} {m : SelectorId} (hq : Unplaced q)
    (hrun : ∀ k total, Behind bound k →
      (statement "").run ⟨u ++ k, total, 0⟩ = q.run ⟨k, total, m⟩)
    (hk : Behind bound k) (hk' : Behind bound k')
    (h : ∀ total, q.run ⟨k, total, m⟩ = q.run ⟨k', total, m⟩) (s : Statement) :
    Gives (u ++ k) s ↔ Gives (u ++ k') s := by
  simp only [Gives, Cursor.ofText, hrun k _ hk, hrun k' _ hk', h]
  constructor
  · rintro ⟨c, hc⟩
    exact ⟨_, hq _ _ _ _ _ _ hc⟩
  · rintro ⟨c, hc⟩
    exact ⟨_, hq _ _ _ _ _ _ hc⟩

end

/-- White space that stands on one side of a point, with neither white space nor a wild card
behind it. -/
structure Spaced (w r : List Char) : Prop where
  ne_nil : w ≠ []
  blank : ∀ c ∈ w, Text.isBlank c = true
  afterBlanks_eq : afterBlanks r = r
  not_wildcard : r.head? ≠ some '*'

theorem spaced_name {w : List Char} (hne : w ≠ []) (hw : ∀ c ∈ w, Text.isBlank c = true)
    {p : String} (hp : IsName p) (post : List Char) : Spaced w (p.toList ++ post) where
  ne_nil := hne
  blank := hw
  afterBlanks_eq := afterBlanks_name hp post
  not_wildcard hhead := by
    rw [← afterBlanks_name hp post] at hhead
    exact head_of_name hp post (by decide) '*' hhead rfl

section
variable {w r : List Char}

theorem Spaced.afterBlanks_append (h : Spaced w r) : afterBlanks (w ++ r) = r := by
  rw [afterBlanks, List.dropWhile_append_of_pos h.blank]
  exact h.afterBlanks_eq

theorem Spaced.afterBlanks_point (h : Spaced w r) : afterBlanks (w ++ '.' :: r) = '.' :: r := by
  rw [afterBlanks, List.dropWhile_append_of_pos h.blank]
  exact afterBlanks_of_not_blank (by decide) r

/-- It is white space that comes first. -/
theorem Spaced.head_ne (h : Spaced w r) {d : Char} (hd : Text.isBlank d = false) (k : List Char) :
    (w ++ k).head? ≠ some d := by
  rw [List.head?_append_of_ne_nil w h.ne_nil]
  intro hhead
  rw [h.blank d (List.mem_of_head? hhead)] at hd
  cases hd

theorem behind_point (w r : List Char) : Behind (w.length + r.length) ('.' :: r) := by
  refine ⟨⟨'.', List.mem_cons_self, rfl⟩, ?_⟩
  rw [List.length_cons]
  omega

theorem behind_point_blanks (w r : List Char) : Behind (w.length + r.length) ('.' :: (w ++ r)) := by
  refine ⟨⟨'.', List.mem_cons_self, rfl⟩, ?_⟩
  rw [List.length_cons, List.length_append]
  omega

theorem Spaced.behind (h : Spaced w r) : Behind (w.length + r.length) (w ++ '.' :: r) := by
  refine ⟨⟨'.', List.mem_cons_self, by rw [h.afterBlanks_point]; rfl⟩, ?_⟩
  rw [List.length_append, List.length_cons]
  omega

/-- White space behind the point. -/
theorem Spaced.columnAfter_run (h : Spaced w r) (name : String) (total : Nat) (n : SelectorId) :
    (columnAfter name).run ⟨'.' :: (w ++ r), total, n⟩ =
      (columnAfter name).run ⟨'.' :: r, total, n⟩ :=
  columnAfter_run_congr name (h.afterBlanks_append.trans h.afterBlanks_eq.symm)
    (h.head_ne (by decide) r) h.not_wildcard

theorem referenceAfter_run_point (name : String) (total : Nat) (n : SelectorId) {k : List Char}
    (h : afterBlanks k = '.' :: r) : (referenceAfter name).run ⟨k, total, n⟩ =
      (columnAfter name >>= fun c => pure (.inr c)).run ⟨'.' :: r, total, n⟩ := by
  have hno : (afterBlanks k).head? ≠ some '(' := by
    rw [h]
    exact fun hhead => absurd (Option.some.inj hhead) (by decide)
  rw [referenceAfter_run_column name hno, h]

/-- White space on either side of the point, where a function may stand too. -/
theorem Spaced.referenceAfter_run (h : Spaced w r) (name : String) (total : Nat) (n : SelectorId) :
    (referenceAfter name).run ⟨'.' :: (w ++ r), total, n⟩ =
        (referenceAfter name).run ⟨'.' :: r, total, n⟩ ∧
      (referenceAfter name).run ⟨w ++ '.' :: r, total, n⟩ =
        (referenceAfter name).run ⟨'.' :: r, total, n⟩ := by
  have hpoint (k : List Char) : afterBlanks ('.' :: k) = '.' :: k :=
    afterBlanks_of_not_blank (by decide) k
  rw [referenceAfter_run_point name _ _ (hpoint _), referenceAfter_run_point name _ _ (hpoint _),
    referenceAfter_run_point name _ _ h.afterBlanks_point]
  refine ⟨?_, rfl⟩
  rw [StateT.run_bind, h.columnAfter_run, StateT.run_bind]

end

/-! ## The two kinds of context -/

section
variable {u w r : List Char} {m : SelectorId}

/-- Only a column may stand here. -/
theorem column_cases {next : ColumnRef → Parser Statement} (name : String)
    (hunplaced : ∀ c, Unplaced (next c)) (hstops : ∀ c, Stops (next c))
    (hrun : ∀ k total, Behind (w.length + r.length) k → (statement "").run ⟨u ++ k, total, 0⟩ =
      (columnAfter name >>= next).run ⟨k, total, m⟩) (h : Spaced w r) :
    (∀ s, Gives (u ++ '.' :: (w ++ r)) s ↔ Gives (u ++ '.' :: r) s) ∧
      ¬AwaitsParenthesis u ∧ ∀ s, ¬Gives (u ++ (w ++ '.' :: r)) s := by
  refine ⟨?_, ?_, ?_⟩
  · refine gives_iff_of_run ((columnAfter_unplaced name).bind hunplaced) hrun
      (behind_point_blanks w r) (behind_point w r) fun total => ?_
    rw [StateT.run_bind, h.columnAfter_run, ← StateT.run_bind]
  · intro hparenthesis
    have herror := parse_eq_error.1 hparenthesis
    rw [Cursor.ofText, hrun _ _ (behind_parenthesis _),
      run_bind_of_ok (columnAfter_none name (by decide))] at herror
    exact (hstops _ '(' (by decide) _ rfl).1 _ herror rfl
  · rintro s ⟨c, hgives⟩
    have hrest := statement_takes_all hgives
    rw [Cursor.ofText, hrun _ _ h.behind,
      run_bind_of_ok (columnAfter_none name (h.head_ne (by decide) _))] at hgives
    have hhead : (afterBlanks (w ++ '.' :: r)).head? = some '.' := by
      rw [h.afterBlanks_point]
      rfl
    have hstay := (hstops _ '.' (by decide) _ hhead).2 _ _ hgives
    rw [hrest, h.afterBlanks_point] at hstay
    cases hstay

/-- A function may stand here as well. -/
theorem reference_cases {next : FunctionRef ⊕ ColumnRef → Parser Statement} (name : String)
    (hunplaced : ∀ r, Unplaced (next r))
    (hrun : ∀ k total, Behind (w.length + r.length) k → (statement "").run ⟨u ++ k, total, 0⟩ =
      (referenceAfter name >>= next).run ⟨k, total, m⟩) (h : Spaced w r) :
    (∀ s, Gives (u ++ '.' :: (w ++ r)) s ↔ Gives (u ++ '.' :: r) s) ∧
      AwaitsParenthesis u ∧ ∀ s, Gives (u ++ (w ++ '.' :: r)) s ↔ Gives (u ++ '.' :: r) s := by
  have hq := (referenceAfter_unplaced name).bind hunplaced
  refine ⟨?_, ?_, ?_⟩
  · refine gives_iff_of_run hq hrun (behind_point_blanks w r) (behind_point w r) fun total => ?_
    rw [StateT.run_bind, (h.referenceAfter_run name total m).1, ← StateT.run_bind]
  · exact GoesOn.awaitsParenthesis ⟨m, next, hrun⟩
  · refine gives_iff_of_run hq hrun h.behind (behind_point w r) fun total => ?_
    rw [StateT.run_bind, (h.referenceAfter_run name total m).2, ← StateT.run_bind]

end

/-! ## White space around the point -/

theorem endsInName_name {q : String} (h : IsName q) (before : List Char) :
    EndsInName (before ++ q.toList) := by
  obtain ⟨c, others, hname, hc, hothers⟩ := isName_iff.1 h
  have hne : c :: others ≠ [] := List.cons_ne_nil _ _
  rw [EndsInName, hname, List.getLast?_append_of_ne_nil before hne]
  refine ⟨(c :: others).getLast hne, List.getLast?_eq_some_getLast hne, ?_⟩
  rcases List.mem_cons.1 (List.getLast_mem hne) with hfirst | hother
  · rw [hfirst]
    exact continuesIdentifier_of_startsIdentifier hc
  · exact hothers _ hother

/-- What stands before and behind a column where a function may stand as well: in SELECT, as an
operand of WHERE and in ORDER BY. -/
def selectorContexts : List (String × String) :=
  [("SELECT ", " FROM T"), ("SELECT c FROM T WHERE ", " = 1"), ("SELECT c FROM T WHERE 1 = ", ""),
    ("SELECT c FROM T ORDER BY ", "")]

/-- What stands before and behind a column where only a column may stand: in ON and behind `ANY`. -/
def columnContexts : List (String × String) :=
  [("SELECT c FROM T JOIN U ON ", " = c"), ("SELECT c FROM T JOIN U ON c = ", ""),
    ("SELECT c FROM T WHERE ANY ", " IN (1)"), ("SELECT c FROM T WHERE 1 = ANY ", "")]

theorem awaits_contexts :
    (∀ c ∈ selectorContexts, AwaitsPoint (c.1.toList ++ "a".toList) ∧
      AwaitsParenthesis (c.1.toList ++ "a".toList)) ∧
    ∀ c ∈ columnContexts, AwaitsPoint (c.1.toList ++ "a".toList) ∧
      ¬AwaitsParenthesis (c.1.toList ++ "a".toList) := by
  unfold AwaitsPoint AwaitsParenthesis
  simp only [parse_ofList, selectorContexts, columnContexts, List.forall_mem_cons]
  repeat rw [String.toList_ofList]
  decide +kernel

/-- Wherever a column stands behind `before`, white space behind the point of its qualifier is
passed over. White space before the point is passed over where a function may stand as well;
elsewhere no such text is a statement. -/
theorem blanks_around_point {q p : String} (hq : IsName q) (hp : IsName p) {w : List Char}
    (hne : w ≠ []) (hw : ∀ c ∈ w, Text.isBlank c = true) (before post : List Char)
    (hawaits : AwaitsPoint (before ++ q.toList)) :
    ReadAlike (before ++ q.toList ++ '.' :: (w ++ (p.toList ++ post)))
        (before ++ q.toList ++ '.' :: (p.toList ++ post)) ∧
      (AwaitsParenthesis (before ++ q.toList) →
        ReadAlike (before ++ q.toList ++ (w ++ '.' :: (p.toList ++ post)))
          (before ++ q.toList ++ '.' :: (p.toList ++ post))) ∧
      (¬AwaitsParenthesis (before ++ q.toList) → ∀ s, parse (String.ofList
        (before ++ q.toList ++ (w ++ '.' :: (p.toList ++ post)))) ≠ .ok s) := by
  have hspaced := spaced_name hne hw hp post
  cases (statement_sound "" : Sound (w.length + (p.toList ++ post).length) true _).fate _ 0
    (endsInName_name hq before) with
  | inside s v m _ _ hrun => exact (hawaits.not_inside hrun).elim
  | misses h => exact (hawaits.not_misses h).elim
  | column _ name m next hunplaced hstops hrun =>
    obtain ⟨hbehind, hno, hnever⟩ := column_cases name hunplaced hstops hrun hspaced
    refine ⟨.of_gives hbehind, fun h => absurd h hno, fun _ s hs => ?_⟩
    obtain ⟨s', hgives, -⟩ := parse_eq_ok.1 hs
    exact hnever s' hgives
  | reference name m next hunplaced hrun =>
    obtain ⟨hbehind, hyes, hbefore⟩ := reference_cases name hunplaced hrun hspaced
    exact ⟨.of_gives hbehind, fun _ => .of_gives hbefore, fun h => absurd hyes h⟩

/-- The same statements with and without white space around the point. -/
theorem blanks_around_point_contexts :
    (∀ c ∈ selectorContexts,
      ReadAlike (c.1.toList ++ "a".toList ++ '.' :: ([' '] ++ ("b".toList ++ c.2.toList)))
        (c.1.toList ++ "a".toList ++ '.' :: ("b".toList ++ c.2.toList)) ∧
      ReadAlike (c.1.toList ++ "a".toList ++ ([' '] ++ '.' :: ("b".toList ++ c.2.toList)))
        (c.1.toList ++ "a".toList ++ '.' :: ("b".toList ++ c.2.toList))) ∧
    ∀ c ∈ columnContexts,
      ReadAlike (c.1.toList ++ "a".toList ++ '.' :: ([' '] ++ ("b".toList ++ c.2.toList)))
        (c.1.toList ++ "a".toList ++ '.' :: ("b".toList ++ c.2.toList)) ∧
      ∀ s, parse (String.ofList
        (c.1.toList ++ "a".toList ++ ([' '] ++ '.' :: ("b".toList ++ c.2.toList)))) ≠ .ok s := by
  refine ⟨fun c hc => ?_, fun c hc => ?_⟩
  · obtain ⟨hpoint, hparenthesis⟩ := awaits_contexts.1 c hc
    obtain ⟨hbehind, hbefore, -⟩ := blanks_around_point (by decide : IsName "a")
      (by decide : IsName "b") (List.cons_ne_nil ' ' []) (List.forall_mem_singleton.2 rfl)
      c.1.toList c.2.toList hpoint
    exact ⟨hbehind, hbefore hparenthesis⟩
  · obtain ⟨hpoint, hparenthesis⟩ := awaits_contexts.2 c hc
    obtain ⟨hbehind, -, hbefore⟩ := blanks_around_point (by decide : IsName "a")
      (by decide : IsName "b") (List.cons_ne_nil ' ' []) (List.forall_mem_singleton.2 rfl)
      c.1.toList c.2.toList hpoint
    exact ⟨hbehind, hbefore hparenthesis⟩

/-- White space around the point keeps no statement from being read, but for white space before it
where only a column may stand. -/
theorem blanks_around_point_accepted :
    (parse "SELECT a. b FROM T").toOption.map Statement.select =
        some [⟨.column ⟨0, some "a", "b"⟩, none⟩] ∧
      (∀ c ∈ selectorContexts ++ columnContexts,
        (parse (c.1 ++ "a. b" ++ c.2)).toOption.isSome = true) ∧
      ∀ c ∈ selectorContexts, (parse (c.1 ++ "a .b" ++ c.2)).toOption.isSome = true := by
  have hchars (c : String × String) (column : List Char) :
      parse (c.1 ++ String.ofList column ++ c.2) =
        parse (String.ofList (c.1.toList ++ column ++ c.2.toList)) := by
    rw [String.ofList_append, String.ofList_append, String.ofList_toList, String.ofList_toList]
  refine ⟨?_, fun c => ?_, fun c => ?_⟩
  · rw [parse_ofList]
    decide +kernel
  · rw [hchars c ['a', '.', ' ', 'b'], parse_ofList]
    revert c
    simp only [List.forall_mem_append, selectorContexts, columnContexts, List.forall_mem_cons]
    repeat rw [String.toList_ofList]
    decide +kernel
  · rw [hchars c ['a', ' ', '.', 'b'], parse_ofList]
    revert c
    simp only [selectorContexts, List.forall_mem_cons]
    repeat rw [String.toList_ofList]
    decide +kernel

end ContentQuery.Statement
