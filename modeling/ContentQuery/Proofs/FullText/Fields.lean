import ContentQuery.Evaluation.Basic
import ContentQuery.Proofs.FullText.Matching

/-!
# Searches in the fields of an object

The text of an object has a line for its content and for each stored string, its fields. No token
goes over the end of a field, but a term with more than one token may run on from the end of a field
into those behind it (`Matcher.RunsOn`). `occurs_fields_iff` says that a term occurs in the text if
it lies in one field or runs on, and `phrases_read_on` what this means for phrases and for the order
in which properties are stored.
-/

set_option autoImplicit false

namespace ContentQuery

/-! ## Fields -/

namespace ContentObject

/-- The texts of an object that are searched: its content and the stored strings. -/
def fields (o : ContentObject) : List String := o.content.toList ++ o.storedStrings

/-- The second object has the content of the first one, and its properties in another order. -/
structure Reordered (o o' : ContentObject) : Prop where
  content : o'.content = o.content
  properties : o'.properties.entries.Perm o.properties.entries

variable {o o' : ContentObject}

theorem fullText_of_no_fields (h : o.fields = []) : o.fullText = none := by
  unfold fullText
  rw [← fields, h]

theorem fullText_of_fields (h : o.fields ≠ []) :
    o.fullText = some ("\n".intercalate o.fields) := by
  unfold fullText
  rw [← fields]
  split
  · exact absurd ‹_› h
  · rfl

/-- Another order of the properties is another order of the fields. -/
theorem Reordered.fields (h : o.Reordered o') : o'.fields.Perm o.fields := by
  unfold ContentObject.fields storedStrings
  rw [h.content]
  exact List.Perm.append_left _ (List.Perm.flatMap_right _ (h.properties.map _))

end ContentObject

namespace FullText

variable (m : Matcher)

/-! ## Terms in fields -/

section
variable {field : String} {fields fields' : List String} {term : String}

/-- The tokens of a term stand one after the other within one field. -/
def Matcher.LiesIn (fields : List String) (term : String) : Prop :=
  ∃ field ∈ fields, m.tokens term <:+: m.tokens field

/-- A term starts at the end of a field and ends in those behind it. -/
def Matcher.RunsOn (fields : List String) (term : String) : Prop :=
  ∃ field behind front back, field :: behind <:+ fields ∧ front ≠ [] ∧ back ≠ [] ∧
    m.tokens term = front ++ back ∧ front <:+ m.tokens field ∧ back <+: behind.flatMap m.tokens

instance : Decidable (m.LiesIn fields term) :=
  inferInstanceAs (Decidable (∃ field ∈ fields, m.tokens term <:+: m.tokens field))

theorem liesIn_cons : m.LiesIn (field :: fields) term ↔
    m.tokens term <:+: m.tokens field ∨ m.LiesIn fields term := by
  simp [Matcher.LiesIn]

/-- Whether a term lies in a field does not depend on the order of the fields. -/
theorem liesIn_perm (h : fields'.Perm fields) : m.LiesIn fields' term ↔ m.LiesIn fields term :=
  exists_congr fun _ => and_congr_left fun _ => h.mem_iff

theorem not_runsOn_nil : ¬m.RunsOn [] term := by
  rintro ⟨field, behind, front, back, hfields, -⟩
  simp at hfields

/-- A term runs on from the first field or from a later one. -/
theorem runsOn_cons : m.RunsOn (field :: fields) term ↔
    (∃ front back, front ≠ [] ∧ back ≠ [] ∧ m.tokens term = front ++ back ∧
      front <:+ m.tokens field ∧ back <+: fields.flatMap m.tokens) ∨ m.RunsOn fields term := by
  constructor
  · rintro ⟨field', behind, front, back, hfields, h⟩
    rcases List.suffix_cons_iff.1 hfields with hfirst | hlater
    · obtain ⟨rfl, rfl⟩ := List.cons.inj hfirst
      exact .inl ⟨front, back, h⟩
    · exact .inr ⟨field', behind, front, back, hlater, h⟩
  · rintro (⟨front, back, h⟩ | ⟨field', behind, front, back, hfields, h⟩)
    · exact ⟨field, fields, front, back, List.suffix_refl _, h⟩
    · exact ⟨field', behind, front, back, hfields.trans (List.suffix_cons field fields), h⟩

/-- A term that runs on has at least two tokens. -/
theorem Matcher.RunsOn.two_le (h : m.RunsOn fields term) : 2 ≤ (m.tokens term).length := by
  obtain ⟨field, behind, front, back, -, hfront, hback, htokens, -⟩ := h
  have hf := List.length_pos_iff.2 hfront
  have hb := List.length_pos_iff.2 hback
  rw [htokens, List.length_append]
  omega

/-- **A term occurs in fields** if it lies in one of them or runs on. -/
theorem occurs_fields_iff : m.Occurs (fields.flatMap m.tokens) term ↔
    m.tokens term ≠ [] ∧ (m.LiesIn fields term ∨ m.RunsOn fields term) := by
  refine and_congr_right fun hne => ?_
  induction fields with
  | nil =>
    have hlies : ¬m.LiesIn [] term := by simp [Matcher.LiesIn]
    have hruns : ¬m.RunsOn [] term := not_runsOn_nil m
    simp [hlies, hruns, hne]
  | cons field fields ih =>
    -- the tokens are found in the first field, behind it or across its end
    rw [List.flatMap_cons, List.infix_append_iff_ne_nil, ih, liesIn_cons, runsOn_cons]
    grind

end

/-! ## Searches -/

section
variable {o o' : ContentObject} {search : Tree}

/-- An object without fields is a miss, whatever is searched for. -/
theorem matchObject_of_no_fields (h : o.fields = []) :
    Repository.matchObject m search o = .ok .miss := by
  rw [Repository.matchObject, ContentObject.fullText_of_no_fields h]

/-- A search in the text of an object is one in its fields. -/
theorem matchObject_of_fields (h : o.fields ≠ []) :
    Repository.matchObject m search o = search.check.map fun _ =>
      ⟨decide (search.Holds (m.Occurs (o.fields.flatMap m.tokens))),
        .ofUInt32 (.ofNat (search.hits (m.Occurs (o.fields.flatMap m.tokens))))⟩ := by
  rw [Repository.matchObject, ContentObject.fullText_of_fields h]
  show m.evaluate search ("\n".intercalate o.fields) = _
  rw [evaluate_eq, tokens_lines]

/-- A phrase that decodes has an outcome on every object. -/
theorem matchObject_phrase {raw term : String} (h : Literal.searchTerm? raw = .ok term) :
    ∃ found, Repository.matchObject m (.phrase raw) o = .ok found ∧
      (found.matched = true ↔ m.Occurs (o.fields.flatMap m.tokens) term) := by
  by_cases hfields : o.fields = []
  · refine ⟨.miss, matchObject_of_no_fields m hfields, ?_⟩
    have hnone : ¬m.Occurs (o.fields.flatMap m.tokens) term := by
      rw [hfields]
      rintro ⟨hne, hinfix⟩
      exact hne (List.infix_nil.1 hinfix)
    simp [Match.miss, hnone]
  · rw [matchObject_of_fields m hfields, Tree.check_phrase, h]
    exact ⟨_, rfl, by simp [h]⟩

/-- Searches agree on two lists of fields if one is empty as soon as the other is, and the same
terms occur in both. -/
theorem matchObject_congr (hfields : o'.fields = [] ↔ o.fields = [])
    (hterms : ∀ leaf ∈ search.leaves, ∀ term, leaf.term? = .ok term →
      (m.Occurs (o'.fields.flatMap m.tokens) term ↔ m.Occurs (o.fields.flatMap m.tokens) term)) :
    Repository.matchObject m search o' = Repository.matchObject m search o := by
  by_cases h : o.fields = []
  · rw [matchObject_of_no_fields m h, matchObject_of_no_fields m (hfields.2 h)]
  · rw [matchObject_of_fields m h, matchObject_of_fields m (mt hfields.1 h),
      Tree.hits_congr hterms]
    simp only [Tree.holds_congr search hterms]

/-- If no term runs on without lying in a field, the order of the properties does not matter. -/
theorem matchObject_reordered (h : o.Reordered o')
    (hterms : ∀ leaf ∈ search.leaves, ∀ term, leaf.term? = .ok term →
      m.RunsOn o.fields term ∨ m.RunsOn o'.fields term → m.LiesIn o.fields term) :
    Repository.matchObject m search o' = Repository.matchObject m search o := by
  refine matchObject_congr m ?_ fun leaf hleaf term hterm => ?_
  · exact ⟨fun hnil => (hnil ▸ h.fields).nil_eq.symm, fun hnil => (hnil ▸ h.fields).eq_nil⟩
  · have hlies : m.LiesIn o'.fields term ↔ m.LiesIn o.fields term := liesIn_perm m h.fields
    have hruns := hterms leaf hleaf term hterm
    rw [occurs_fields_iff, occurs_fields_iff, hlies]
    tauto

end

/-! ## Phrases and the order of properties -/

/-- **A phrase may read on from field to field.** The tokens of an object's text are those of its
fields, one field after the other. A phrase that decodes matches if it has tokens, and they lie in
one field or run on from the end of a field into those behind it, for which it takes two tokens.
Hence the order of the properties does not matter to a search unless it has a term that runs on, in
one order or the other, and lies in no field. -/
theorem phrases_read_on (o : ContentObject) :
    (∀ text, o.fullText = some text → m.tokens text = o.fields.flatMap m.tokens) ∧
    (∀ raw term, Literal.searchTerm? raw = .ok term → ∃ found,
      Repository.matchObject m (.phrase raw) o = .ok found ∧
      (found.matched = true ↔
        m.tokens term ≠ [] ∧ (m.LiesIn o.fields term ∨ m.RunsOn o.fields term)) ∧
      (m.RunsOn o.fields term → 2 ≤ (m.tokens term).length)) ∧
    ∀ (o' : ContentObject) (search : Tree), o.Reordered o' →
      (∀ leaf ∈ search.leaves, ∀ term, leaf.term? = .ok term →
        m.RunsOn o.fields term ∨ m.RunsOn o'.fields term → m.LiesIn o.fields term) →
      Repository.matchObject m search o' = Repository.matchObject m search o ∧
      ∀ {n : Type → Type} [Monad n] (e : Evaluator n) (aliasName : String) (row row' : Row),
        e.index = none → e.matcher = m → e.bound.bindings.fullText = some ⟨aliasName, search⟩ →
        row.get? aliasName = some o → row'.get? aliasName = some o' →
          e.fullTextMatch row' = e.fullTextMatch row := by
  refine ⟨fun text htext => ?_, fun raw term hterm => ?_, fun o' search horder hterms => ?_⟩
  · have hfields : o.fields ≠ [] := by
      intro hnil
      rw [ContentObject.fullText_of_no_fields hnil] at htext
      cases htext
    rw [ContentObject.fullText_of_fields hfields] at htext
    cases htext
    exact tokens_lines m o.fields
  · obtain ⟨found, hfound, hmatched⟩ := matchObject_phrase m (o := o) hterm
    exact ⟨found, hfound, hmatched.trans (occurs_fields_iff m), fun h => h.two_le⟩
  · have hsame := matchObject_reordered m horder hterms
    refine ⟨hsame, ?_⟩
    intro n _ e aliasName row row' hindex hmatcher hclause hrow hrow'
    simp only [Evaluator.fullTextMatch, hclause, hrow, hrow', hindex, hmatcher, hsame]

/-- Two objects with the same strings in another order. -/
def redFox : ContentObject where
  id := "1"
  typeId := "cmis:document"
  parentId := none
  properties := ⟨[("cmis:name", .single (.string "red")), ("cmis:createdBy", .single (.string "fox"))]⟩
  content := none

def foxRed : ContentObject := { redFox with properties := ⟨redFox.properties.entries.reverse⟩ }

theorem reordered_foxRed : redFox.Reordered foxRed :=
  ⟨rfl, List.reverse_perm _⟩

/-- A phrase matches though it lies in no field, and does not match in another order. -/
theorem phrase_across_fields :
    Repository.matchObject ⟨false⟩ (.phrase "\"red fox\"") redFox = .ok ⟨true, .ofUInt32 1⟩ ∧
    ¬Matcher.LiesIn ⟨false⟩ redFox.fields "red fox" ∧ redFox.Reordered foxRed ∧
    Repository.matchObject ⟨false⟩ (.phrase "\"red fox\"") foxRed = .ok ⟨false, .ofUInt32 0⟩ :=
  ⟨by decide, by decide, reordered_foxRed, by decide⟩

/-- The words of both fields are found in either order. -/
theorem phrases_read_on_words :
    Literal.searchTerm? "\"red fox\"" = .ok "red fox" ∧
    (∃ found, Repository.matchObject ⟨false⟩ (.phrase "\"red fox\"") redFox = .ok found ∧
      found.matched = true ∧ Matcher.RunsOn ⟨false⟩ redFox.fields "red fox") ∧
    redFox.Reordered foxRed ∧
    Repository.matchObject ⟨false⟩ (.conjunction [.word "fox", .word "red"]) foxRed =
      Repository.matchObject ⟨false⟩ (.conjunction [.word "fox", .word "red"]) redFox := by
  have hterm : Literal.searchTerm? "\"red fox\"" = .ok "red fox" := by decide
  obtain ⟨-, hphrase, horder⟩ := phrases_read_on ⟨false⟩ redFox
  obtain ⟨found, hfound, hmatched, -⟩ := hphrase _ _ hterm
  have hruns : Matcher.RunsOn ⟨false⟩ redFox.fields "red fox" :=
    ⟨"red", ["fox"], ["red"], ["fox"], List.suffix_refl _, by simp, by simp, by decide,
      by decide, by decide⟩
  refine ⟨hterm, ⟨found, hfound, hmatched.2 ⟨by decide, .inr hruns⟩, hruns⟩,
    reordered_foxRed, (horder foxRed _ reordered_foxRed ?_).1⟩
  intro leaf hleaf term hleafTerm _
  rcases List.mem_pair.1 hleaf with rfl | rfl
  · obtain rfl : "fox" = term := Except.ok.inj (Eq.trans (by decide) hleafTerm)
    decide
  · obtain rfl : "red" = term := Except.ok.inj (Eq.trans (by decide) hleafTerm)
    decide

end FullText

end ContentQuery
