import ContentQuery.FullText.Matching
import Mathlib.Data.List.Infix

/-!
# Tokens of texts and terms

`Matcher.Occurs` says what it means that a term occurs among the tokens of a text, and
`contains_iff` that this is what is tested. A character that is neither a letter nor a number
separates the tokens before it from those behind it (`runs_append_cons`), so that the tokens of
lines are those of one line after the other (`tokens_lines`). Without regard to case the tokens are
the lower-case forms of those with regard to it (`tokens_anyCase`).
-/

set_option autoImplicit false

namespace ContentQuery.FullText

/-! ## Runs -/

section
variable {p : Char → Bool} {c : Char} {cs xs ys : List Char}

theorem runs_cons_of_neg (h : p c = false) : runs p (c :: cs) = runs p cs := by
  simp [runs, h]

/-- A text that starts with a character of the class has a run. -/
theorem runs_ne_nil (h : p c = true) : runs p (c :: cs) ≠ [] := by
  simp only [runs, h, if_true]
  split
  · split <;> simp
  · simp

theorem runs_singleton (h : p c = true) : runs p [c] = [[c]] := by
  simp [runs, h]

/-- A character before one that is not of the class is a run of its own. -/
theorem runs_cons_cons_of_neg {d : Char} (h : p c = true) (hd : p d = false) :
    runs p (c :: d :: cs) = [c] :: runs p (d :: cs) := by
  rw [runs.eq_def]
  cases hruns : runs p (d :: cs) <;> simp [h, hd, hruns]

/-- A character before another one of the class belongs to its run. -/
theorem runs_cons_cons {d : Char} {run : List Char} {rest : List (List Char)} (h : p c = true)
    (hd : p d = true) (hruns : runs p (d :: cs) = run :: rest) :
    runs p (c :: d :: cs) = (c :: run) :: rest := by
  rw [runs.eq_def]
  simp [h, hd, hruns]

/-- **A character outside the class separates the runs** before it from those behind it. -/
theorem runs_append_cons (hc : p c = false) (xs ys : List Char) :
    runs p (xs ++ c :: ys) = runs p xs ++ runs p ys := by
  induction xs with
  | nil => exact runs_cons_of_neg hc
  | cons x xs ih =>
    by_cases hx : p x = true
    · cases xs with
      | nil =>
        rw [List.singleton_append, runs_cons_cons_of_neg hx hc, runs_cons_of_neg hc,
          runs_singleton hx, List.singleton_append]
      | cons y xs =>
        by_cases hy : p y = true
        · have hne : runs p (y :: xs) ≠ [] := runs_ne_nil hy
          obtain ⟨run, rest, hruns⟩ := List.exists_cons_of_ne_nil hne
          rw [runs_cons_cons hx hy hruns]
          rw [hruns] at ih
          exact runs_cons_cons hx hy ih
        · have hy : p y = false := by simpa using hy
          rw [List.cons_append, List.cons_append, runs_cons_cons_of_neg hx hy,
            runs_cons_cons_of_neg hx hy, List.cons_append, ← ih, List.cons_append]
    · have hx : p x = false := by simpa using hx
      rw [List.cons_append, runs_cons_of_neg hx, runs_cons_of_neg hx, ih]

end

/-! ## Tokens -/

variable (m : Matcher)

@[simp] theorem tokens_empty : m.tokens "" = [] := rfl

/-- Tokens do not go over the end of a line. -/
theorem tokens_append_line (s t : String) :
    m.tokens (s ++ "\n" ++ t) = m.tokens s ++ m.tokens t := by
  have hline : Text.isAlphanumeric '\n' = false := by decide
  have hchars : (s ++ "\n" ++ t).toList = s.toList ++ '\n' :: t.toList := by simp
  rw [Matcher.tokens, hchars, runs_append_cons hline, List.map_append]
  rfl

/-- **The tokens of lines** are those of one line after the other. -/
theorem tokens_lines (lines : List String) :
    m.tokens ("\n".intercalate lines) = lines.flatMap m.tokens := by
  induction lines with
  | nil => rfl
  | cons line lines ih =>
    cases lines with
    | nil => simp
    | cons next lines =>
      rw [String.intercalate_cons_cons, tokens_append_line, ih, List.flatMap_cons (x := line)]

/-- **Without regard to case** there are the same tokens, each in lower case. -/
theorem tokens_anyCase (text : String) :
    Matcher.tokens ⟨false⟩ text = (Matcher.tokens ⟨true⟩ text).map Text.lowercase := by
  simp [Matcher.tokens]

/-! ## Occurrences -/

theorem occursIn_iff {needle haystack : List String} :
    occursIn needle haystack = true ↔ needle <:+: haystack := by
  induction haystack with
  | nil => simp [occursIn]
  | cons token rest ih =>
    rw [occursIn, Bool.or_eq_true, ih, List.isPrefixOf_iff_prefix, List.infix_cons_iff]

/-- A term has tokens, and they stand one after the other among those of a text. -/
def Matcher.Occurs (tokens : List String) (term : String) : Prop :=
  m.tokens term ≠ [] ∧ m.tokens term <:+: tokens

theorem contains_iff {tokens : List String} {term : String} :
    m.contains tokens term = true ↔ m.Occurs tokens term := by
  simp [Matcher.contains, Matcher.Occurs, occursIn_iff]

instance (tokens : List String) : DecidablePred (m.Occurs tokens) :=
  fun _ => decidable_of_iff _ (contains_iff m)

theorem contains_eq (tokens : List String) (term : String) :
    m.contains tokens term = decide (m.Occurs tokens term) :=
  Bool.eq_iff_iff.2 (by rw [contains_iff, decide_eq_true_eq])

/-- What occurs with regard to case also does without. -/
theorem Matcher.Occurs.anyCase {text term : String}
    (h : Matcher.Occurs ⟨true⟩ (Matcher.tokens ⟨true⟩ text) term) :
    Matcher.Occurs ⟨false⟩ (Matcher.tokens ⟨false⟩ text) term := by
  obtain ⟨hne, hinfix⟩ := h
  unfold Occurs
  rw [tokens_anyCase, tokens_anyCase]
  exact ⟨by simpa using hne, hinfix.map Text.lowercase⟩

end ContentQuery.FullText
