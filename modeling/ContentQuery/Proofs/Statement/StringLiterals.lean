import ContentQuery.Proofs.Evaluation.TextTests

/-!
# String literals

Where a string literal ends is decided twice: by the lexer, which takes a literal off the front of a
text (`quoted_run_eq_ok_iff`), and by the decoder, which is given the whole of one
(`exists_unquote?_iff`). Both go by `IsQuoted`, and so does the quoting of a text.
`string_literals_fit` says how the three fit together.
-/

set_option autoImplicit false

namespace ContentQuery.Statement

variable {c c' : Cursor} {raw text : String}

/-! ## The lexer -/

/-- The lexer takes the string literal at the cursor, and nothing but a string literal. -/
theorem quoted_run_eq_ok_iff : quoted.run c = .ok (raw, c') ↔
    IsQuoted raw ∧ ∃ k, c.rest = raw.toList ++ k ∧ c' = { c with rest := k } := by
  constructor
  · intro h
    exact (quoted_yields (Q := fun raw c' => IsQuoted raw ∧
      ∃ k, c.rest = raw.toList ++ k ∧ c' = { c with rest := k })
      fun _ rest hraw hrest => ⟨hraw, rest, hrest, rfl⟩).1 raw c' h
  · rintro ⟨⟨token, hraw, hcloses⟩, k, hrest, rfl⟩
    have hsplit := hcloses.split (by decide) k
    rw [← splitQuoted?_eq] at hsplit
    have htoken : String.ofList ('\'' :: token) = raw := by rw [← hraw, String.ofList_toList]
    rw [hraw, List.cons_append] at hrest
    obtain ⟨rest, total, nextId⟩ := c
    dsimp only at hrest
    subst hrest
    unfold quoted
    rw [StateT.run_bind, StateT.run_get, pure_bind]
    simp only [hsplit]
    rw [htoken]
    rfl

/-! ## The decoder -/

/-- What decodes behind an opening quote is closed by a quote behind it. -/
theorem closes_of_unescapeQuoted {body cs : List Char}
    (h : Literal.unescapeQuoted body = .ok cs) : Closes '\'' (body ++ ['\'']) := by
  induction body using Literal.unescapeQuoted.induct generalizing cs with
  | case1 => exact .quote
  | case2 => cases h
  | case3 c rest ih =>
    rw [Literal.unescapeQuoted] at h
    cases hrest : Literal.unescapeQuoted rest with
    | error fault => rw [hrest] at h; cases h
    | ok out => exact .escaped c (ih hrest)
  | case4 c rest hsingle hescape hquote =>
    rw [Literal.unescapeQuoted.eq_4 _ _ hsingle hescape, if_pos hquote] at h
    cases h
  | case5 c rest hsingle hescape hquote ih =>
    rw [Literal.unescapeQuoted.eq_4 _ _ hsingle hescape, if_neg hquote] at h
    have hbackslash : c ≠ '\\' := by
      rintro rfl
      cases rest with
      | nil => exact hsingle rfl rfl
      | cons d ds => exact hescape d ds rfl rfl
    cases hrest : Literal.unescapeQuoted rest with
    | error fault => rw [hrest] at h; cases h
    | ok out => exact .plain hbackslash (by simpa using hquote) (ih hrest)

theorem eq_of_enclosed? {cs body : List Char} (h : Literal.enclosed? '\'' cs = some body) :
    cs = '\'' :: (body ++ ['\'']) := by
  cases cs with
  | nil => cases h
  | cons c rest =>
    rw [Literal.enclosed?] at h
    split at h
    · rename_i hquotes
      obtain ⟨rfl, hlast⟩ : c = '\'' ∧ rest.getLast? = some '\'' := by simpa using hquotes
      obtain ⟨front, rfl⟩ := List.getLast?_eq_some_iff.1 hlast
      cases h
      rw [List.dropLast_concat]
    · cases h

/-- **A text decodes if and only if it is one string literal.** -/
theorem exists_unquote?_iff : (∃ text, Literal.unquote? raw = .ok text) ↔ IsQuoted raw := by
  refine ⟨?_, unquote?_of_isQuoted⟩
  rintro ⟨text, h⟩
  unfold Literal.unquote? at h
  split at h
  · cases h
  · rename_i body hbody
    split at h
    · rename_i cs hcs
      exact ⟨body ++ ['\''], eq_of_enclosed? hbody, closes_of_unescapeQuoted hcs⟩
    · cases h

/-! ## Lexer, decoder and quoting -/

/-- **String literals fit together.** A text in quotes decodes to this text, has it as its value,
and is what the lexer takes, whatever stands behind it. Every token of the lexer decodes, and the
texts that decode are those that the lexer takes as a whole. -/
theorem string_literals_fit :
    (∀ text, Literal.unquote? (Literal.quote text) = .ok text ∧
      Literal.value? (Literal.quote text) = .ok (.string text) ∧
      ∀ (c : Cursor) (k : List Char),
        quoted.run { c with rest := (Literal.quote text).toList ++ k } =
          .ok (Literal.quote text, { c with rest := k })) ∧
    (∀ c raw c', quoted.run c = .ok (raw, c') → ∃ text, Literal.unquote? raw = .ok text) ∧
    ∀ raw, (∃ text, Literal.unquote? raw = .ok text) ↔
      quoted.run (.ofText raw.toList) =
        .ok (raw, { Cursor.ofText raw.toList with rest := [] }) := by
  refine ⟨fun text => ⟨unquote?_quote text, Literal.value?_quote text, fun c k => ?_⟩,
    fun c raw c' h => ?_, fun raw => ?_⟩
  · exact quoted_run_eq_ok_iff.2 ⟨isQuoted_quote text, k, rfl, rfl⟩
  · exact unquote?_of_isQuoted (quoted_run_eq_ok_iff.1 h).1
  · rw [exists_unquote?_iff, quoted_run_eq_ok_iff]
    constructor
    · intro h
      exact ⟨h, [], (List.append_nil _).symm, rfl⟩
    · exact And.left

/-- Escaped quotes and backslashes up to the closing quote, and another quote behind it. -/
theorem string_literals_fit_escapes :
    quoted.run (.ofText "'\\'\\\\\\'\\\\' AND '".toList) =
      .ok ("'\\'\\\\\\'\\\\'", { Cursor.ofText "'\\'\\\\\\'\\\\' AND '".toList with
        rest := " AND '".toList }) ∧
    ∃ text, Literal.unquote? "'\\'\\\\\\'\\\\'" = .ok text := by
  have hrun : quoted.run (.ofText "'\\'\\\\\\'\\\\' AND '".toList) =
      .ok ("'\\'\\\\\\'\\\\'", { Cursor.ofText "'\\'\\\\\\'\\\\' AND '".toList with
        rest := " AND '".toList }) := by rfl
  exact ⟨hrun, string_literals_fit.2.1 _ _ _ hrun⟩

end ContentQuery.Statement
