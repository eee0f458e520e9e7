import ContentQuery.Proofs.Qualifiers.Fates

/-!
# Tokens at the end of a name

Every token is read in a text that ends in a name as it is with anything else behind it
(`Sound.of_token`), but for an identifier that reaches the end of the text. What reads one and goes
on with the rest of a column reference is where a fate is decided (`Sound.of_identifier`).
-/

set_option autoImplicit false

namespace ContentQuery.Statement

/-! ## What ends a name -/

theorem Behind.endsWord {bound : Nat} {k : List Char} (h : Behind bound k) : EndsWord k := by
  obtain ⟨⟨d, hd, hhead⟩, -⟩ := h
  cases k with
  | nil => cases hhead
  | cons c k =>
    refine endsWord_cons ?_ k
    cases hc : Text.isBlank c with
    | true => exact continuesIdentifier_of_isBlank hc
    | false =>
      rw [afterBlanks_of_not_blank hc] at hhead
      cases hhead
      simp only [List.mem_cons, List.not_mem_nil, or_false] at hd
      rcases hd with rfl | rfl <;> decide

section
variable {v k : List Char}

theorem EndsInName.afterBlanks_ne_nil (h : EndsInName v) : afterBlanks v ≠ [] := by
  obtain ⟨c, hc, hname⟩ := h
  intro hnil
  have hblank := List.dropWhile_eq_nil_iff.1 hnil c (List.mem_of_getLast? hc)
  rw [continuesIdentifier_of_isBlank hblank] at hname
  cases hname

theorem EndsInName.afterBlanks_append (h : EndsInName v) (k : List Char) :
    afterBlanks (v ++ k) = afterBlanks v ++ k := by
  have hne : ¬((v.dropWhile Text.isBlank).isEmpty = true) := by
    simpa [afterBlanks] using h.afterBlanks_ne_nil
  rw [afterBlanks, List.dropWhile_append, if_neg hne]
  rfl

/-- A character that is in no identifier has something behind it. -/
theorem EndsInName.tail_ne_nil {c : Char} (h : EndsInName (c :: v))
    (hc : continuesIdentifier c = false) : v ≠ [] := by
  rintro rfl
  obtain ⟨d, hd, hname⟩ := h
  obtain rfl : d = c := (Option.some.inj hd).symm
  rw [hc] at hname
  cases hname

/-- An identifier ends where the text does, at the latest. -/
theorem wordAt_append_of_ne_nil (hv : v ≠ []) (hk : EndsWord k) : wordAt (v ++ k) = wordAt v := by
  have hend : k.takeWhile continuesIdentifier = [] := by
    cases k with
    | nil => rfl
    | cons d k => simp [hk d rfl]
  cases v with
  | nil => exact absurd rfl hv
  | cons c v =>
    rw [List.cons_append, wordAt, wordAt, List.takeWhile_append, hend, List.append_nil]
    split
    · split
      · rename_i hall
        rw [(List.takeWhile_prefix _).eq_of_length hall]
      · rfl
    · rfl

theorem wordAt_isPrefixOf (v : List Char) : wordAt v <+: v := by
  cases v with
  | nil => exact List.nil_prefix
  | cons c v =>
    rw [wordAt]
    split
    · exact (List.prefix_cons_inj c).2 (List.takeWhile_prefix _)
    · exact List.nil_prefix

theorem drop_append_of_prefix {u : List Char} (h : u <+: v) (k : List Char) :
    (v ++ k).drop u.length = v.drop u.length ++ k :=
  List.drop_append_of_le_length h.length_le

theorem keywordAt_append_of_ne_nil (hv : v ≠ []) (hk : EndsWord k) (word : String) :
    keywordAt word (v ++ k) = keywordAt word v := by
  rw [keywordAt, keywordAt, wordAt_append_of_ne_nil hv hk]

theorem literalAt_append_of_ne_nil (hv : v ≠ []) (hk : EndsWord k) :
    literalAt (v ++ k) = literalAt v := by
  have hwords := keywordAt_append_of_ne_nil hv hk
  cases v with
  | nil => exact absurd rfl hv
  | cons c v =>
    rw [List.cons_append] at hwords
    simp only [List.cons_append, literalAt, hwords]

/-- An operator is in no name. -/
theorem isPrefixOf_append {op : List Char} (h : EndsInName v)
    (hop : ∀ c ∈ op, continuesIdentifier c = false) : op.isPrefixOf (v ++ k) = op.isPrefixOf v := by
  rw [Bool.eq_iff_iff, List.isPrefixOf_iff_prefix, List.isPrefixOf_iff_prefix]
  refine ⟨fun hprefix => ?_, fun hprefix => hprefix.trans (List.prefix_append v k)⟩
  rcases Nat.le_total op.length v.length with hle | hle
  · exact List.prefix_of_prefix_length_le hprefix (List.prefix_append v k) hle
  · have hall := List.prefix_of_prefix_length_le (List.prefix_append v k) hprefix hle
    obtain ⟨c, hc, hname⟩ := h
    rw [hop c (hall.subset (List.mem_of_getLast? hc))] at hname
    cases hname

/-- A string literal ends within the text or not at two points. -/
theorem splitQuoted?_points (v : List Char) : splitQuoted? (v ++ points) = none ∨
    ∃ token v', v' <:+ v ∧ ∀ k, splitQuoted? (v ++ k) = some (token, v' ++ k) := by
  cases hsplit : splitQuoted? (v ++ points) with
  | none => exact .inl rfl
  | some found =>
    obtain ⟨token, rest⟩ := found
    rw [splitQuoted?_eq] at hsplit
    obtain ⟨hcloses, hv⟩ := splitClosing?_eq_some hsplit
    refine .inr ?_
    -- the closing quote is no point, and so the token is a part of the text
    rcases List.append_eq_append_iff.1 hv with ⟨more, rfl, hpoints⟩ | ⟨v', rfl, -⟩
    · have hnil : more = [] := by
        by_contra hmore
        have hlast := hcloses.getLast?
        rw [List.getLast?_append_of_ne_nil v hmore] at hlast
        have hmem : '\'' ∈ points := by
          rw [hpoints]
          exact List.mem_append_left rest (List.mem_of_getLast? hlast)
        exact absurd hmem (by decide)
      subst hnil
      rw [List.append_nil] at hcloses
      refine ⟨v, [], v.nil_suffix, fun k => ?_⟩
      rw [splitQuoted?_eq, hcloses.split (by decide), List.nil_append]
    · refine ⟨token, v', List.suffix_append token v', fun k => ?_⟩
      rw [splitQuoted?_eq, List.append_assoc, hcloses.split (by decide)]

/-- A number that goes on with what is further on in the text. -/
theorem number_points_of_tail (taken : List Char) {cs : List Char}
    {split : List Char → List Char × List Char}
    (hsplit : ∀ k, split (v ++ k) =
      (taken ++ (splitNumber (cs ++ k)).1, (splitNumber (cs ++ k)).2)) (hsuffix : cs <:+ v)
    (ih : (splitNumber (cs ++ points)).2 = [] ∨
      ∃ token v', v' <:+ cs ∧ ∀ k, splitNumber (cs ++ k) = (token, v' ++ k)) :
    (split (v ++ points)).2 = [] ∨
      ∃ token v', v' <:+ v ∧ ∀ k, split (v ++ k) = (token, v' ++ k) := by
  rcases ih with hnil | ⟨token, v', hv', htoken⟩
  · left
    rw [hsplit]
    exact hnil
  · right
    refine ⟨taken ++ token, v', hv'.trans hsuffix, fun k => ?_⟩
    rw [hsplit, htoken]

/-- A number ends within the text or takes the points behind it. -/
theorem splitNumber_points (v : List Char) : (splitNumber (v ++ points)).2 = [] ∨
    ∃ token v', v' <:+ v ∧ ∀ k, splitNumber (v ++ k) = (token, v' ++ k) := by
  induction v using splitNumber.induct with
  | case1 => exact .inl rfl
  | case2 c cs hc number rest hsplit ih =>
    refine number_points_of_tail [c] (fun k => ?_) (List.suffix_cons c cs) ih
    rw [List.cons_append, splitNumber.eq_def]
    simp only [if_pos hc]
    rfl
  | case3 c hc hmark =>
    left
    rw [splitNumber.eq_def]
    simp only [List.cons_append, if_neg hc, if_pos hmark]
    rfl
  | case4 c hc hmark s cs hs number rest hsplit ih =>
    refine number_points_of_tail [c, s] (fun k => ?_) ⟨[c, s], rfl⟩ ih
    rw [List.cons_append, List.cons_append, splitNumber.eq_def]
    simp only [if_neg hc, if_pos hmark, if_pos hs]
    rfl
  | case5 c hc hmark s cs hs number rest hsplit ih =>
    refine number_points_of_tail [c] (fun k => ?_) (List.suffix_cons c _) ih
    rw [List.cons_append, List.cons_append, splitNumber.eq_def]
    simp only [if_neg hc, if_pos hmark, if_neg hs]
    rfl
  | case6 c cs hc hmark =>
    refine .inr ⟨[], c :: cs, List.suffix_refl _, fun k => ?_⟩
    rw [List.cons_append, splitNumber.eq_def]
    simp only [if_neg hc, if_neg hmark]

theorem splitSignedNumber_points (v : List Char) : (splitSignedNumber (v ++ points)).2 = [] ∨
    ∃ token v', v' <:+ v ∧ ∀ k, splitSignedNumber (v ++ k) = (token, v' ++ k) := by
  cases v with
  | nil => exact .inl rfl
  | cons c cs =>
    by_cases hc : (c == '+' || c == '-') = true
    · refine number_points_of_tail [c] (fun k => ?_) (List.suffix_cons c cs) (splitNumber_points cs)
      rw [List.cons_append, splitSignedNumber, if_pos hc]
      rfl
    · have hsplit (k : List Char) :
          splitSignedNumber (c :: cs ++ k) = splitNumber (c :: cs ++ k) := by
        rw [List.cons_append, splitSignedNumber, if_neg hc]
      simp only [hsplit]
      exact splitNumber_points (c :: cs)

end

/-! ## Tokens -/

section
variable {α : Type} {p : Parser α} {bound : Nat} {asks : Bool}

/-- What is missing is missing where the cursor stands, and two points are two characters. -/
theorem misses_of_position {total : Nat} {rest : List Char} {n : SelectorId} {e : ParseError}
    (htotal : 2 ≤ total) (hle : byteLength rest ≤ total) (hrest : rest = [] ∨ points <:+ rest)
    (he : ∀ position, e = .expectedIdentifier position →
      position = (⟨rest, total, n⟩ : Cursor).position) : e ≠ .expectedIdentifier (total - 1) := by
  intro h
  have hposition : total - 1 = total - byteLength rest := he _ h
  rcases hrest with rfl | hpoints
  · have hzero : byteLength [] = 0 := rfl
    omega
  · have htwo := byteLength_le_of_suffix hpoints
    rw [byteLength_points] at htwo
    omega

/-- A parser that takes a token off the text, or fails where it stands. The token is found in a text
that ends in a name as it is with something behind it, or else not at two points, or it takes them
both. -/
theorem Sound.of_token (take : List Char → Option (α × List Char)) (fault : Cursor → ParseError)
    (hrun : ∀ c, p.run c =
      (take c.rest).elim (.error (fault c)) fun found => .ok (found.1, { c with rest := found.2 }))
    (hfault : ∀ c position, fault c = .expectedIdentifier position → position = c.position)
    (hshrinks : ∀ rest x rest', take rest = some (x, rest') → rest'.length ≤ rest.length)
    (hpoints : ∀ x rest, take points = some (x, rest) → rest ∈ [[], points])
    (hname : ∀ v, EndsInName v →
      (∃ x v', v' <:+ v ∧ ∀ k, EndsWord k → take (v ++ k) = some (x, v' ++ k)) ∨
      take (v ++ points) = none ∨ ∃ x, take (v ++ points) = some (x, [])) :
    Sound bound asks p where
  shrinks c x c' h := by
    rw [hrun] at h
    cases htake : take c.rest with
    | none => rw [htake] at h; cases h
    | some found =>
      rw [htake] at h
      cases h
      exact hshrinks c.rest _ _ htake
  unplaced rest n total total' x c h := by
    rw [hrun] at h ⊢
    cases htake : take rest with
    | none => rw [htake] at h; cases h
    | some found =>
      rw [htake] at h
      cases h
      rfl
  quiet rest hrest total n htotal := by
    rw [hrun]
    have hcases : rest = [] ∨ rest = points := by simpa using hrest
    cases htake : take rest with
    | none =>
      refine misses_error (misses_of_position htotal ?_ ?_ (hfault ⟨rest, total, n⟩))
      · rcases hcases with rfl | rfl
        · exact Nat.zero_le _
        · exact htotal
      · exact hcases.imp_right fun (h : rest = points) => h ▸ List.suffix_refl points
    | some found =>
      refine misses_ok (c := ⟨found.2, total, n⟩) ?_
      rcases hcases with rfl | rfl
      · have hlength := hshrinks [] _ _ htake
        exact List.mem_cons.2 (.inl (List.length_eq_zero_iff.1 (Nat.le_zero.1 hlength)))
      · exact hpoints _ _ htake
  fate v n hv := by
    rcases hname v hv with ⟨x, v', hsuffix, htake⟩ | hnone | ⟨x, hall⟩
    · by_cases hne : v' = []
      · subst hne
        refine .misses fun total _ => ?_
        rw [hrun, htake points (behind_points bound).endsWord]
        exact misses_ok (c := ⟨points, total, n⟩) (List.mem_cons_of_mem _ List.mem_cons_self)
      · refine .inside x v' n hne hsuffix fun k total hk => ?_
        rw [hrun, htake k hk.endsWord]
        rfl
    · refine .misses fun total htotal => ?_
      rw [hrun, hnone]
      refine misses_error (misses_of_position ?_ htotal (.inr (List.suffix_append v points))
        (hfault ⟨v ++ points, total, n⟩))
      rw [byteLength_append, byteLength_points] at htotal
      omega
    · refine .misses fun total _ => ?_
      rw [hrun, hall]
      exact misses_ok (c := ⟨[], total, n⟩) List.mem_cons_self

/-- A parser that takes something off the text in any case. -/
theorem Sound.of_taking (take : List Char → α × List Char)
    (hrun : ∀ c, p.run c = .ok ((take c.rest).1, { c with rest := (take c.rest).2 }))
    (hsuffix : ∀ rest, (take rest).2 <:+ rest) (hpoints : (take points).2 ∈ [[], points])
    (hname : ∀ v k, EndsInName v → EndsWord k → take (v ++ k) = ((take v).1, (take v).2 ++ k)) :
    Sound bound asks p :=
  .of_token (fun rest => some (take rest)) (fun _ => .expectedString) hrun (fun _ _ => nofun)
    (fun rest x rest' h => by
      have hrest : (take rest).2 = rest' := congrArg Prod.snd (Option.some.inj h)
      rw [← hrest]
      exact (hsuffix rest).length_le)
    (fun x rest h => by
      have hrest : (take points).2 = rest := congrArg Prod.snd (Option.some.inj h)
      rwa [← hrest])
    fun v hv => .inl ⟨(take v).1, (take v).2, hsuffix v, fun k hk => by rw [hname v k hv hk]⟩

theorem freshId_sound : Sound bound asks freshId where
  shrinks c x c' h := by
    cases h
    exact Nat.le_refl _
  unplaced rest n total total' x c h := by
    cases h
    rfl
  quiet rest hrest total n _ := misses_ok (c := ⟨rest, total, n + 1⟩) hrest
  fate v n hv := .inside n v (n + 1) hv.ne_nil v.suffix_refl fun _ _ _ => rfl

theorem skipBlanks_sound : Sound bound asks skipBlanks :=
  .of_taking (fun rest => ((), afterBlanks rest)) (fun _ => rfl)
    (fun _ => List.dropWhile_suffix _) (List.mem_cons_of_mem _ List.mem_cons_self)
    fun v k hv _ => by rw [hv.afterBlanks_append]

theorem peek_sound : Sound bound asks peek :=
  .of_taking (fun rest => (rest.head?, rest)) (fun _ => rfl) (fun _ => List.suffix_refl _)
    (List.mem_cons_of_mem _ List.mem_cons_self)
    fun v k hv _ => by rw [List.head?_append_of_ne_nil v hv.ne_nil]

theorem run_get (f : Cursor → Parser α) (c : Cursor) : (get >>= f).run c = (f c).run c := rfl

theorem run_skipBlanks (f : Unit → Parser α) (rest : List Char) (total : Nat) (n : SelectorId) :
    (skipBlanks >>= f).run ⟨rest, total, n⟩ = (f ()).run ⟨afterBlanks rest, total, n⟩ := rfl

theorem tryChar_sound {d : Char} (hd : d ≠ '.') : Sound bound asks (tryChar d) := by
  refine skipBlanks_sound.bind fun _ => ?_
  refine .of_taking (fun rest => if rest.head? = some d then (true, rest.tail) else (false, rest))
    ?_ ?_ ?_ ?_
  · rintro ⟨rest, total, n⟩
    cases rest with
    | nil => rfl
    | cons c rest =>
      by_cases hc : c = d
      · simp only [run_get, hc, beq_self_eq_true, List.head?_cons, if_true]
        rfl
      · simp only [run_get, beq_eq_false_iff_ne.2 hc, List.head?_cons, Option.some.injEq, hc,
          if_false, Bool.false_eq_true]
        rfl
  · intro rest
    split
    · exact List.tail_suffix rest
    · exact List.suffix_refl rest
  · have hno : points.head? ≠ some d := fun h => hd (Option.some.inj h).symm
    rw [if_neg hno]
    exact List.mem_cons_of_mem _ List.mem_cons_self
  · intro v k hv _
    rw [List.head?_append_of_ne_nil v hv.ne_nil, List.tail_append_of_ne_nil hv.ne_nil]
    split <;> rfl

theorem expectChar_sound {d : Char} (hd : d ≠ '.') : Sound bound asks (expectChar d) := by
  refine (tryChar_sound hd).bind fun found => .ite (.pure ()) ?_
  exact peek_sound.bind fun got => .throw nofun

/-- A parser that takes the start of a text if it passes a test. -/
theorem Sound.of_test (test : List Char → Bool) (size : List Char → Nat) (found : List Char → α)
    (other : α) (hpoints : test points = false)
    (hname : ∀ v k, EndsInName v → EndsWord k → test (v ++ k) = test v ∧
      (test v = true → size v ≤ v.length ∧ size (v ++ k) = size v ∧ found (v ++ k) = found v)) :
    Sound bound asks (do
      let rest := (← get).rest
      if test rest then setRest (rest.drop (size rest)); return found rest else return other) := by
  refine .of_taking (fun rest =>
    if test rest = true then (found rest, rest.drop (size rest)) else (other, rest)) ?_ ?_ ?_ ?_
  · rintro ⟨rest, total, n⟩
    by_cases htest : test rest = true
    · simp only [run_get, htest, if_true]
      rfl
    · simp only [run_get, htest]
      rfl
  · intro rest
    split
    · exact List.drop_suffix _ rest
    · exact List.suffix_refl rest
  · rw [hpoints]
    exact List.mem_cons_of_mem _ List.mem_cons_self
  · intro v k hv hk
    obtain ⟨htest, hsize⟩ := hname v k hv hk
    rw [htest]
    split
    · rename_i hyes
      obtain ⟨hle, hsize, hfound⟩ := hsize hyes
      rw [hsize, hfound, List.drop_append_of_le_length hle]
    · rfl

theorem tryOperator_sound {op : List Char} (hop : ∀ c ∈ op, continuesIdentifier c = false)
    (hpoints : op.isPrefixOf points = false) : Sound bound asks (tryOperator op) := by
  refine skipBlanks_sound.bind fun _ =>
    .of_test op.isPrefixOf (fun _ => op.length) (fun _ => true) false hpoints fun v k hv _ => ?_
  refine ⟨isPrefixOf_append hv hop, fun hprefix => ⟨?_, rfl, rfl⟩⟩
  exact (List.isPrefixOf_iff_prefix.1 hprefix).length_le

theorem tryKeyword_sound (word : String) : Sound bound asks (tryKeyword word) := by
  refine skipBlanks_sound.bind fun _ => .of_test (keywordAt word)
    (fun rest => (wordAt rest).length) (fun _ => true) false rfl fun v k hv hk => ?_
  refine ⟨keywordAt_append_of_ne_nil hv.ne_nil hk word, fun _ => ⟨(wordAt_isPrefixOf v).length_le, ?_⟩⟩
  rw [wordAt_append_of_ne_nil hv.ne_nil hk]
  exact ⟨rfl, rfl⟩

theorem expectKeyword_sound (word : String) : Sound bound asks (expectKeyword word) :=
  (tryKeyword_sound word).bind fun _ => .ite (.pure ()) (.throw nofun)

/-- A text starts with a name that is no reserved word. -/
def aliasAt (rest : List Char) : Bool :=
  !((wordAt rest).isEmpty || reservedWords.any (Literal.isWord · (wordAt rest)))

theorem tryAlias_eq : tryAlias = (do
    skipBlanks
    let rest := (← get).rest
    if aliasAt rest then
      setRest (rest.drop (wordAt rest).length)
      return some (String.ofList (wordAt rest))
    else return none) := by
  unfold tryAlias aliasAt
  congr 1
  funext _
  congr 1
  funext c
  cases h : ((wordAt c.rest).isEmpty || reservedWords.any (Literal.isWord · (wordAt c.rest)))
  · simp [h]
  · simp [h]

theorem tryAlias_sound : Sound bound asks tryAlias := by
  rw [tryAlias_eq]
  refine skipBlanks_sound.bind fun _ => .of_test aliasAt (fun rest => (wordAt rest).length)
    (fun rest => some (String.ofList (wordAt rest))) none rfl fun v k hv hk => ?_
  have hword := wordAt_append_of_ne_nil hv.ne_nil hk
  refine ⟨by rw [aliasAt, hword, aliasAt], fun _ => ⟨(wordAt_isPrefixOf v).length_le, ?_⟩⟩
  rw [hword]
  exact ⟨rfl, rfl⟩

/-- Whether a literal stands at the cursor. -/
def atLiteral : Parser Bool := do
  return literalAt (← get).rest

theorem atLiteral_sound : Sound bound asks atLiteral :=
  .of_taking (fun rest => (literalAt rest, rest)) (fun _ => rfl) (fun _ => List.suffix_refl _)
    (List.mem_cons_of_mem _ List.mem_cons_self)
    fun v k hv hk => by rw [literalAt_append_of_ne_nil hv.ne_nil hk]

/-- The string literal at the start of a text. -/
def quotedAt (rest : List Char) : Option (String × List Char) :=
  if rest.head? = some '\'' then
    (splitQuoted? rest.tail).map fun found => (String.ofList ('\'' :: found.1), found.2)
  else none

theorem quoted_sound : Sound bound asks quoted := by
  refine .of_token quotedAt
    (fun c => if c.rest.head? = some '\'' then .unclosedString else .expectedString) ?_ ?_ ?_ ?_ ?_
  · rintro ⟨rest, total, n⟩
    rw [quoted, run_get]
    split
    · rename_i body hbody
      obtain rfl : rest = '\'' :: body := hbody
      simp only [quotedAt, List.head?_cons, List.tail_cons, if_true]
      split
      · rename_i token rest hsplit
        rw [hsplit]
        rfl
      · rename_i hsplit
        rw [hsplit]
        rfl
    · rename_i hother
      have hno : rest.head? ≠ some '\'' := by
        intro hhead
        cases rest with
        | nil => cases hhead
        | cons c body =>
          cases hhead
          exact hother body rfl
      simp only [quotedAt, hno, if_false]
      rfl
  · intro c position h
    split at h <;> cases h
  · intro rest x rest' h
    rw [quotedAt] at h
    split at h
    · obtain ⟨found, hsplit, hfound⟩ := Option.map_eq_some_iff.1 h
      cases hfound
      rw [splitQuoted?_eq] at hsplit
      obtain ⟨-, htail⟩ := splitClosing?_eq_some hsplit
      have hlength := congrArg List.length htail
      rw [List.length_append, List.length_tail] at hlength
      omega
    · cases h
  · nofun
  · intro v hv
    simp only [quotedAt, List.head?_append_of_ne_nil v hv.ne_nil,
      List.tail_append_of_ne_nil hv.ne_nil]
    split
    · rcases splitQuoted?_points v.tail with hnone | ⟨token, v', hsuffix, htoken⟩
      · refine .inr (.inl ?_)
        rw [hnone]
        rfl
      · refine .inl ⟨String.ofList ('\'' :: token), v', hsuffix.trans (List.tail_suffix v), ?_⟩
        intro k _
        rw [htoken]
        rfl
    · exact .inr (.inl rfl)

/-- The number at the start of a text. -/
def numberAt (rest : List Char) : Option (String × List Char) :=
  if (splitSignedNumber rest).1.isEmpty = true then none
  else some (String.ofList (splitSignedNumber rest).1, (splitSignedNumber rest).2)

theorem number_sound : Sound bound asks number := by
  refine skipBlanks_sound.bind fun _ => ?_
  refine .of_token numberAt (fun c => .expectedLiteral c.rest.head?) ?_ ?_ ?_ ?_ ?_
  · intro c
    by_cases hempty : (splitSignedNumber c.rest).1.isEmpty = true
    · simp only [run_get, numberAt, hempty, if_true]
      rfl
    · simp only [run_get, numberAt, hempty]
      rfl
  · nofun
  · intro rest x rest' h
    rw [numberAt] at h
    split at h
    · cases h
    · cases h
      have hlength := congrArg List.length (splitSignedNumber_append rest)
      rw [List.length_append] at hlength
      omega
  · intro x rest h
    cases h
    exact List.mem_cons_self
  · intro v hv
    simp only [numberAt]
    rcases splitSignedNumber_points v with hall | ⟨token, v', hsuffix, htoken⟩
    · split
      · exact .inr (.inl rfl)
      · exact .inr (.inr ⟨_, by rw [hall]⟩)
    · simp only [htoken]
      split
      · exact .inr (.inl rfl)
      · exact .inl ⟨_, v', hsuffix, fun _ _ => rfl⟩

end

end ContentQuery.Statement
