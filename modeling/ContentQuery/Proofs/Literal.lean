import ContentQuery.Literal

/-!
# Literal tokens

`Literal.IsToken` is what the parser promises of the text of a literal. `unquote?_of_value?`: a
token with a string value reads as this string also without the white space around it being looked
at. `unquote?_eq` says what becomes of a text that need not be such a token.
-/

set_option autoImplicit false

namespace ContentQuery.Literal

/-- A text that starts with no white space, and ends with a quote if it starts with one. -/
def IsToken (raw : String) : Prop :=
  ∃ c rest, raw.toList = c :: rest ∧ Text.isBlank c = false ∧
    (c = '\'' → rest.getLast? = some '\'')

theorem number?_ne_string {token : List Char} {text : String} :
    number? token ≠ some (.string text) := by
  unfold number?
  intro h
  split at h
  split at h
  · cases h
  · split at h
    · obtain ⟨_, _, h⟩ := Option.map_eq_some_iff.1 h
      cases h
    · dsimp only at h
      split at h <;>
      · obtain ⟨_, _, h⟩ := Option.map_eq_some_iff.1 h
        cases h

/-- Only a token in quotes has a string value. -/
theorem value?_eq_string {raw text : String} (h : value? raw = .ok (.string text)) :
    (Text.trim raw.toList).head? = some '\'' ∧
      unquote? (String.ofList (Text.trim raw.toList)) = .ok text := by
  unfold value? at h
  dsimp only at h
  split at h
  · cases h
  split at h
  · cases h
  split at h
  · cases h
  split at h
  · rename_i hq
    refine ⟨by simpa using hq, ?_⟩
    cases hu : unquote? (String.ofList (Text.trim raw.toList)) with
    | error e => rw [hu] at h; cases h
    | ok t => rw [hu] at h; cases h; rfl
  · exfalso
    split at h
    · rename_i rest _
      cases hu : unquote? (String.ofList (rest.dropWhile Text.isBlank)) with
      | error e => rw [hu] at h; cases h
      | ok body =>
        rw [hu] at h
        cases ht : Timestamp.ofText? body <;> simp [ht, bind, Except.bind, pure, Except.pure] at h
    · split at h
      · rename_i v hn
        cases h
        exact number?_ne_string hn
      · cases h

/-- Trimming leaves the first character of a token. -/
theorem head?_trim_of_isToken {raw : String} (h : IsToken raw) :
    (Text.trim raw.toList).head? = raw.toList.head? := by
  obtain ⟨c, rest, hraw, hc, -⟩ := h
  rw [hraw, Text.trim, List.dropWhile_cons_of_neg (by simp [hc]), Text.trimEnd, List.reverse_cons,
    List.dropWhile_append]
  split
  · simp [hc]
  · simp

/-- Trimming leaves a token in quotes as it is. -/
theorem trim_of_isToken {raw : String} (h : IsToken raw) (hq : raw.toList.head? = some '\'') :
    Text.trim raw.toList = raw.toList := by
  obtain ⟨c, rest, hraw, hc, hlast⟩ := h
  obtain rfl : c = '\'' := by simpa [hraw] using hq
  obtain ⟨front, rfl⟩ := List.getLast?_eq_some_iff.1 (hlast rfl)
  rw [hraw, Text.trim, List.dropWhile_cons_of_neg (by simp [hc]), Text.trimEnd]
  have hquote : Text.isBlank '\'' = false := rfl
  simp [List.dropWhile_cons_of_neg, hquote]

theorem unquote?_of_value? {raw text : String} (h : IsToken raw)
    (hv : value? raw = .ok (.string text)) : unquote? raw = .ok text := by
  obtain ⟨hhead, hu⟩ := value?_eq_string hv
  rw [head?_trim_of_isToken h] at hhead
  rwa [trim_of_isToken h hhead, String.ofList_toList] at hu

/-- What stands in quotes has no white space around it. -/
theorem trim_of_enclosed? {raw : String} {body : List Char}
    (h : enclosed? '\'' raw.toList = some body) : Text.trim raw.toList = raw.toList := by
  cases hraw : raw.toList with
  | nil => rfl
  | cons c rest =>
    rw [hraw, enclosed?] at h
    split at h
    · rename_i hquotes
      obtain ⟨rfl, hlast⟩ : c = '\'' ∧ rest.getLast? = some '\'' := by simpa using hquotes
      rw [← hraw]
      exact trim_of_isToken ⟨'\'', rest, hraw, rfl, fun _ => hlast⟩ (by rw [hraw]; rfl)
    · cases h

/-- **A string value is read off the token as it stands** unless there is white space around it,
which only the value ignores. -/
theorem unquote?_eq {raw text : String} (h : value? raw = .ok (.string text)) :
    unquote? raw = if Text.trim raw.toList = raw.toList then .ok text
      else .error ⟨raw, .notQuoted⟩ := by
  by_cases htrim : Text.trim raw.toList = raw.toList
  · rw [if_pos htrim]
    have hu := (value?_eq_string h).2
    rwa [htrim, String.ofList_toList] at hu
  · rw [if_neg htrim, unquote?]
    cases hbody : enclosed? '\'' raw.toList with
    | none => rfl
    | some body => exact absurd (trim_of_enclosed? hbody) htrim

end ContentQuery.Literal
