import ContentQuery.Proofs.Evaluation.TextTests
import ContentQuery.Proofs.Json.Numbers
import ContentQuery.Proofs.Number.ShortestText
import ContentQuery.Proofs.Repository.Loading

/-!
# Numbers of fixtures and of queries

One spelling of a number is read in two ways: in a fixture as a JSON number, whose text is read as a
decimal, and in a query as a literal. `literal_finds_fixture_number` says when both are one number,
and `literal_misses_fixture_number` shows that they need not be.
-/

set_option autoImplicit false

namespace ContentQuery

open Decimal

/-! ## The value of a JSON number -/

namespace NumberSpelling

variable {t : NumberSpelling}

/-- The value in JSON is an integer, or the number of 64 bits that is nearest to the spelled one. -/
def ReadNearest (t : NumberSpelling) : Prop :=
  ∃ n, Json.parse? t.text = some (.number n) ∧
    ∀ x, n = .float x → x.Rounds t.magnitude

/-- The digits are a number of 53 bits, and the last one has a place from `10 ^ (-22)` up to
`10 ^ 22`. -/
def IsSmall (t : NumberSpelling) : Prop :=
  t.significand < 2 * Binary64.hiddenBit ∧ (t.shift - t.places.length).natAbs ≤ 22

theorem IsSmall.readNearest (h : t.IsSmall) (hjson : t.IsJson) (hshort : t.IsShort)
    (hshift : t.shift.natAbs ≤ maxScale) : t.ReadNearest := by
  obtain ⟨hdigits, hplace⟩ := h
  unfold ReadNearest
  rw [parse?_text hjson]
  rcases json_eq hshort hshift with ⟨i, hi, -⟩ | ⟨n, e, hfloat, hvalue, hexact⟩
  · exact ⟨.integer i, by rw [hi], fun x hx => by cases hx⟩
  · have hbits : 2 * Binary64.hiddenBit ≤ maxUInt64 := by decide
    obtain ⟨rfl, rfl⟩ := hexact (Nat.le_trans hdigits.le hbits)
    obtain ⟨x, hx, hrounds⟩ := Binary64.ofDecimal?_rounds t.negative hdigits hplace
    rw [hvalue] at hrounds
    refine ⟨.float x, by rw [hfloat, floatOf, hx], fun y hy => ?_⟩
    cases hy
    exact hrounds

/-- A short number is few digits times a power of ten. -/
theorem IsShort.exists_eq (h : t.IsShort) :
    ∃ (c : Nat) (g : Int), c < 10 ^ 15 ∧ t.magnitude = c * 10 ^ g := by
  obtain ⟨c, z, hc, hvalue⟩ := h
  refine ⟨c, z - t.places.length + t.shift, hc, ?_⟩
  rw [magnitude, baseMagnitude, hvalue, zpow_add₀ (by norm_num), zpow_sub₀ (by norm_num),
    zpow_natCast, zpow_natCast]
  push_cast
  ring

/-- The spelling of an integer by its digits alone. -/
def ofDigits (negative : Bool) (n : Nat) : NumberSpelling where
  negative := negative
  whole := Nat.toDigits 10 n
  places := []
  exponent := none
  whole_ne_nil := List.ne_nil_of_length_pos Nat.length_toDigits_pos
  whole_isDigit _ := Text.isDigit_of_mem_toDigits
  places_isDigit := by simp

theorem significand_ofDigits (negative : Bool) (n : Nat) :
    (ofDigits negative n).significand = n := by
  show Text.digitsValue (Nat.toDigits 10 n ++ []) = _
  rw [List.append_nil, Text.digitsValue_toDigits]

theorem magnitude_ofDigits (negative : Bool) (n : Nat) :
    (ofDigits negative n).magnitude = n := by
  rw [magnitude_of_none rfl, baseMagnitude, significand_ofDigits]
  show (n : ℚ) / 10 ^ 0 = _
  rw [pow_zero, div_one]

theorem text_ofDigits (i : Int) : (ofDigits (decide (i < 0)) i.natAbs).text = toString i := by
  show String.ofList ((signed (decide (i < 0)) (Nat.toDigits 10 i.natAbs ++ [])) ++ []) = _
  rw [List.append_nil, List.append_nil]
  cases i with
  | ofNat n => rfl
  | negSucc n =>
    apply String.toList_inj.1
    rw [String.toList_ofList, signed, if_pos (decide_eq_true (Int.negSucc_lt_zero n))]
    show _ = ("-" ++ String.ofList (Nat.toDigits 10 (n + 1))).toList
    rw [String.toList_append, String.toList_ofList, String.toList_ofList]
    rfl

end NumberSpelling

namespace Fixture

open NumberSpelling

variable {t : NumberSpelling}

/-- The text of an integer is a spelling of it. -/
theorem exists_ofText?_toString {i : Int} (hi : t.IsInteger i) (hshort : t.IsShort)
    (hlt : t.magnitude < coefficientLimit) :
    ∃ d, ofText? (toString i) = some d ∧ d.Rounds t.negative t.magnitude := by
  obtain ⟨c, g, hc, hvalue⟩ := hshort.exists_eq
  have hmagnitude : (ofDigits (decide (i < 0)) i.natAbs).magnitude = t.magnitude :=
    (magnitude_ofDigits _ _).trans hi.magnitude
  have hdigits : (ofDigits (decide (i < 0)) i.natAbs).IsShort := by
    have heq : (i.natAbs * 10 ^ (0 : Int) : ℚ) = c * 10 ^ g := by
      rw [zpow_zero, mul_one, hi.magnitude, hvalue]
    rw [IsShort, significand_ofDigits]
    exact Binary64.hasDigits_of_eq hc heq
  obtain ⟨d, hd, hrounds⟩ := exists_ofText? hdigits (hmagnitude.symm ▸ hlt) (.inl rfl)
  rw [text_ofDigits] at hd
  rw [hmagnitude] at hrounds
  refine ⟨d, hd, ?_⟩
  by_cases hzero : i = 0
  · have hnone : t.magnitude = 0 := by rw [← hi.magnitude, hzero]; rfl
    rw [hnone] at hrounds ⊢
    exact hrounds.of_zero _
  · have hsign : decide (i < 0) = t.negative := by
      rw [Bool.eq_iff_iff]
      exact decide_eq_true_iff.trans (hi.negative hzero)
    rw [← hsign]
    exact hrounds

/-- The text of zero is a spelling of it. -/
theorem exists_ofText?_zero {x : Binary64} (hx : x.mantissa = 0) (negative : Bool) :
    ∃ d, ofText? x.toText = some d ∧ d.Rounds negative 0 := by
  have htext : x.toText =
      String.ofList ((if x.negative then ['-'] else []) ++ ['0', '.', '0']) := by
    rw [Binary64.toText, if_pos hx]
  have hzero : Exact negative 0 ⟨false, 0, 1, by decide, by decide⟩ :=
    ⟨fun h => absurd rfl h, by simp⟩
  rw [htext]
  refine ⟨_, ?_, hzero.rounds⟩
  cases x.negative <;> decide

/-- **The decimal of a JSON number** is the rounding of the spelled number, if that is neither too
large nor too small. -/
theorem exists_decimalOfNumber? (hjson : t.IsJson) (hshort : t.IsShort)
    (hshift : t.shift.natAbs ≤ maxScale) (hread : t.ReadNearest)
    (hlow : t.magnitude = 0 ∨ 1 / 10 ^ maxScale ≤ t.magnitude)
    (hhigh : t.magnitude < coefficientLimit) :
    ∃ n d, t.json = .number n ∧ decimalOfNumber? n = some (.decimal d) ∧
      d.Rounds t.negative t.magnitude := by
  obtain ⟨n, hn, hnearest⟩ := hread
  rw [parse?_text hjson] at hn
  have hjsonNumber : t.json = .number n := Option.some.inj hn
  suffices h : ∃ d, ofText? n.toText = some d ∧ d.Rounds t.negative t.magnitude by
    obtain ⟨d, hd, hrounds⟩ := h
    exact ⟨n, d, hjsonNumber, by rw [decimalOfNumber?, hd]; rfl, hrounds⟩
  rcases json_eq hshort hshift with ⟨i, hi, hinteger⟩ | ⟨m, e, hfloat, -, -⟩
  · obtain rfl : n = .integer i := Json.number.inj (hjsonNumber.symm.trans hi)
    exact exists_ofText?_toString hinteger hshort hhigh
  · rw [hjsonNumber, floatOf] at hfloat
    split at hfloat
    · rename_i x hx
      cases hfloat
      have hrounds := hnearest x rfl
      rcases hlow with hzero | hlow
      · rw [hzero] at hrounds ⊢
        exact exists_ofText?_zero hrounds.mantissa_eq_zero _
      · obtain ⟨c, g, hc, hvalue⟩ := hshort.exists_eq
        have hnegative := Binary64.ofDecimal?_negative hx
        rw [← hnegative]
        exact Binary64.exists_ofText?_toText hrounds hc hvalue hlow hhigh
    · cases hfloat

/-! ## Fixtures with one more value -/

/-- An entry that gives one more value, in place of what it may give under the name. -/
def Entry.give (entry : Entry) (name : String) (j : Json) : Entry :=
  { entry with properties := entry.properties.insert name j }

variable {catalog : Catalog} {entry : Entry} {name : String} {given : Json}

theorem exists_objectOf_iff {catalog : Catalog} {entry : Entry} :
    (∃ o, objectOf catalog entry = .ok o) ↔ ∃ t, catalog.lookup? entry.typeId = some t ∧
      ∀ name j, (name, j) ∈ entry.properties.entries →
        ∃ value, propertyOfJson name (declaredKind? t name) j = .ok value := by
  constructor
  · rintro ⟨o, ho⟩
    obtain ⟨t, ht, hloaded⟩ := loadedAs_of_objectOf ho
    exact ⟨t, ht, hloaded.converts⟩
  · rintro ⟨t, ht, hconverts⟩
    obtain ⟨properties, hproperties⟩ : ∃ properties, entry.properties.entries.mapM
        (fun e => do pure (e.1, ← propertyOfJson e.1 (declaredKind? t e.1) e.2)) =
          Except.ok properties := by
      apply exists_mapM_eq_pure
      intro e hmem
      obtain ⟨value, hvalue⟩ := hconverts e.1 e.2 hmem
      exact ⟨(e.1, value), by rw [hvalue]; rfl⟩
    refine ⟨⟨entry.id, entry.typeId, entry.parentId, ⟨properties⟩, entry.content⟩, ?_⟩
    simp only [objectOf, ht]
    rw [hproperties]
    rfl

theorem mem_insertEntry {α : Type} {key key' : String} {value value' : α}
    {entries : List (String × α)} (h : (key', value') ∈ OrderedMap.insertEntry key value entries) :
    key' = key ∧ value' = value ∨ (key', value') ∈ entries := by
  induction entries with
  | nil => exact .inl (Prod.mk.inj (List.mem_singleton.1 h))
  | cons e rest ih =>
    rw [OrderedMap.insertEntry] at h
    split at h
    · exact (List.mem_cons.1 h).imp Prod.mk.inj (List.mem_cons_of_mem e)
    · rcases List.mem_cons.1 h with rfl | h
      · exact .inr List.mem_cons_self
      · exact (ih h).imp_right (List.mem_cons_of_mem e)

/-- One more value that can be converted does no harm. -/
theorem exists_objectOf_give {t : TypeDefinition} (h : ∃ o, objectOf catalog entry = .ok o)
    (ht : catalog.lookup? entry.typeId = some t)
    (hgiven : ∃ value, propertyOfJson name (declaredKind? t name) given = .ok value) :
    ∃ o, objectOf catalog (entry.give name given) = .ok o := by
  obtain ⟨t', ht', hconverts⟩ := exists_objectOf_iff.1 h
  obtain rfl : t = t' := Option.some.inj (ht.symm.trans ht')
  refine exists_objectOf_iff.2 ⟨t, ht, fun key j hmem => ?_⟩
  rcases mem_insertEntry hmem with ⟨rfl, rfl⟩ | hmem
  · exact hgiven
  · exact hconverts key j hmem

/-- Whether an entry is added depends on the ids that are taken, and on whether its object can be
built. -/
theorem addEntry_alike {entry' : Entry} {r r' next : Repository}
    (hkeys : r'.objects.keys = r.objects.keys) (hid : entry'.id = entry.id)
    (hobject : ∃ o, objectOf catalog entry' = .ok o) (h : addEntry catalog r entry = .ok next) :
    ∃ next', addEntry catalog r' entry' = .ok next' ∧
      next'.objects.keys = next.objects.keys := by
  obtain ⟨o, ho, h⟩ := exists_of_bind_eq_ok h
  obtain ⟨⟨r₁, stored⟩, hinsert, h⟩ := exists_of_bind_eq_ok h
  cases h
  obtain ⟨o', ho'⟩ := hobject
  obtain ⟨hnew, rfl, rfl⟩ := Repository.insert_eq_ok_iff.1 hinsert
  have hid' : o'.id = o.id := by
    obtain ⟨t, -, hloaded⟩ := loadedAs_of_objectOf ho
    obtain ⟨t', -, hloaded'⟩ := loadedAs_of_objectOf ho'
    exact (hloaded'.id.trans hid).trans hloaded.id.symm
  have hnew' : r'.objects.contains o'.id = false := by
    rw [OrderedMap.contains_eq_false_iff, hkeys, hid', ← OrderedMap.contains_eq_false_iff]
    exact hnew
  have hinsert' := Repository.insert_eq_ok_iff.2 ⟨hnew', rfl, rfl⟩
  refine ⟨_, by rw [addEntry, ho', ok_bind, hinsert', ok_bind]; rfl, ?_⟩
  rw [OrderedMap.keys_insert_of_contains_eq_false hnew,
    OrderedMap.keys_insert_of_contains_eq_false hnew', hkeys, hid']

/-- The rest of a fixture is added to a repository with the same ids as well. -/
theorem addEntries_alike {entries : List Entry} {r r' next : Repository}
    (hkeys : r'.objects.keys = r.objects.keys)
    (h : entries.foldlM (addEntry catalog) r = .ok next) :
    ∃ next', entries.foldlM (addEntry catalog) r' = .ok next' := by
  induction entries generalizing r r' with
  | nil => exact ⟨r', rfl⟩
  | cons entry entries ih =>
    rw [List.foldlM_cons] at h ⊢
    obtain ⟨mid, hstep, hrest⟩ := exists_of_bind_eq_ok h
    obtain ⟨o, ho, -⟩ := exists_of_bind_eq_ok hstep
    obtain ⟨mid', hstep', hkeys'⟩ := addEntry_alike hkeys rfl ⟨o, ho⟩ hstep
    rw [hstep']
    exact ih hkeys' hrest

/-- The fixture `j'` is the fixture `j` with one more value, which one of its entries gives. -/
def Gives (j : Json) (entry : Entry) (name : String) (given j' : Json) : Prop :=
  ∃ file before after, File.ofJson? j = some file ∧ file.entries = before ++ entry :: after ∧
    File.ofJson? j' = some { file with entries := before ++ entry.give name given :: after }

/-- **A fixture that loads, loads with one more value** that can be converted. -/
theorem loads_of_gives {caseSensitiveText : Bool} {j j' : Json} {t : TypeDefinition}
    {repository : Repository}
    (h : ofJson caseSensitiveText j = .ok (catalog, repository))
    (hgives : Gives j entry name given j')
    (ht : catalog.lookup? entry.typeId = some t)
    (hgiven : ∃ value, propertyOfJson name (declaredKind? t name) given = .ok value) :
    ∃ repository', ofJson caseSensitiveText j' = .ok (catalog, repository') := by
  obtain ⟨file, before, after, hfile, hentries, hfile'⟩ := hgives
  unfold ofJson at h ⊢
  rw [hfile] at h
  rw [hfile']
  obtain ⟨loaded, hcatalog, h⟩ := exists_of_bind_eq_ok h
  obtain ⟨r, hrun, h⟩ := exists_of_bind_eq_ok h
  cases h
  dsimp only
  rw [hcatalog]
  have hrun : file.entries.foldlM (addEntry catalog) (.empty caseSensitiveText) = .ok repository :=
    hrun
  rw [hentries, List.foldlM_append] at hrun
  obtain ⟨r, hbefore, hrun⟩ := exists_of_bind_eq_ok hrun
  rw [List.foldlM_cons] at hrun
  obtain ⟨next, hstep, hafter⟩ := exists_of_bind_eq_ok hrun
  obtain ⟨o, ho, -⟩ := exists_of_bind_eq_ok hstep
  have hid : (entry.give name given).id = entry.id := rfl
  obtain ⟨next', hstep', hkeys⟩ :=
    addEntry_alike rfl hid (exists_objectOf_give ⟨o, ho⟩ ht hgiven) hstep
  obtain ⟨repository', hafter'⟩ := addEntries_alike hkeys hafter
  have hrun' : (before ++ entry.give name given :: after).foldlM (addEntry catalog)
      (.empty caseSensitiveText) = .ok repository' := by
    rw [List.foldlM_append, hbefore, ok_bind, List.foldlM_cons, hstep', ok_bind, hafter']
  refine ⟨repository', ?_⟩
  rw [ok_bind]
  exact (congrArg (· >>= fun repository => pure (catalog, repository)) hrun')

/-- A property that insertion does not fill in is stored as it is given. -/
theorem exists_stored_of_gives {caseSensitiveText : Bool} {j j' : Json} {t : TypeDefinition}
    {repository : Repository} {value : PropertyValue}
    (h : ofJson caseSensitiveText j = .ok (catalog, repository))
    (hgives : Gives j entry name given j') (ht : catalog.lookup? entry.typeId = some t)
    (hvalue : propertyOfJson name (declaredKind? t name) given = .ok value)
    (hid : name ≠ objectIdProperty) (htype : name ≠ objectTypeIdProperty) :
    ∃ repository' o, ofJson caseSensitiveText j' = .ok (catalog, repository') ∧
      repository'.get? entry.id = some o ∧ o.property? name = some value := by
  obtain ⟨repository', hload⟩ := loads_of_gives h hgives ht ⟨value, hvalue⟩
  obtain ⟨file, before, after, -, -, hfile'⟩ := hgives
  obtain ⟨file', hfile, -, hloaded⟩ := loads_of_ofJson hload
  cases hfile'.symm.trans hfile
  obtain ⟨o, -, t', ht', hget, hstored⟩ := exists_of_forall₂ hloaded (entry.give name given)
    (List.mem_append_right _ List.mem_cons_self)
  obtain rfl : t = t' := Option.some.inj (ht.symm.trans ht')
  refine ⟨repository', o, hload, hget, ?_⟩
  have hgiven : (entry.give name given).given? t name = some value := by
    rw [Entry.given?, Entry.give, OrderedMap.get?_insert, if_pos rfl, Option.bind_some, hvalue]
    rfl
  rw [hstored.property?, Entry.stored?, if_neg hid, if_neg htype, hgiven]
  split <;> rfl

end Fixture

/-! ## Queries -/

/-- The WHERE clause compares a property of an alias with a literal. -/
def BoundStatement.ComparesEqual (bound : BoundStatement) (aliasName propertyId raw : String) :
    Prop :=
  ∃ c p, bound.statement.filter = some (.relation (.compare .eq) (.column c) (.literal raw)) ∧
    bound.property? c.id = some (aliasName, p) ∧ p.id = propertyId

/-- The comparison is true for an object that stores one value, which equals the literal. -/
theorem evaluateRow_of_comparesEqual {m : Type → Type} [Monad m] [LawfulMonad m]
    {e : Evaluator m} {aliasName propertyId raw : String} {o : ContentObject} {a v : Value}
    {row : Row} (h : e.bound.ComparesEqual aliasName propertyId raw)
    (hv : Literal.value? raw = .ok v) (hrow : row.get? aliasName = some o)
    (hstored : o.property? propertyId = some (.single a)) (hequal : a.compare? v = some .eq) :
    e.evaluateRow row = pure true := by
  obtain ⟨c, p, hfilter, hp, rfl⟩ := h
  obtain ⟨typeId, hr⟩ := BoundStatement.property?_eq_some_iff.1 hp
  have hread : e.stored? row (.column c) = some (.single a) := by
    show e.storedProperty? row c.id = _
    simp [Evaluator.storedProperty?, hp, hrow, hstored]
  have hliteral : (Predicate.literal raw).literalValue? = .ok v := hv
  apply Evaluator.evaluateRow_relation hfilter (Evaluator.idle_single rfl)
    (Evaluator.idle_of_literalValue? hliteral)
  rw [Evaluator.testRelation_eq_literal ⟨c, aliasName, typeId, rfl, hr⟩ hliteral ⟨raw, rfl⟩, hread,
    Option.bind_some, PropertyValue.single?, Option.any_some]
  exact congrArg pure (beq_iff_eq.2 hequal)

/-- **Numbers of fixtures and of queries agree.** A number is spelled as JSON has it, with at most
fifteen digits that count, and is read as a literal. Its digits either end in the last place of a
decimal or before, or have no exponent behind them and denote no less than one in the last place.
And JSON makes an integer or the nearest number of 64 bits of it, as it does of 53 bits and a power
of ten up to `10 ^ 22`. Then every fixture that loads, loads as well with this number as one more
value of a decimal property that insertion does not fill in. The decimal that is stored equals the
literal, so that the comparison of the property with the literal is true for the object. -/
theorem literal_finds_fixture_number {t : NumberSpelling} {v : Value} (hjson : t.IsJson)
    (hshort : t.IsShort) (hv : Literal.value? t.text = .ok v)
    (hplaces : t.FitsPlaces ∨ t.shift = 0 ∧ 1 / 10 ^ maxScale ≤ t.magnitude)
    (hread : t.ReadNearest ∨ t.IsSmall) :
    ∃ n d, (∀ fuel rest, NumberSpelling.EndsNumber rest →
        Json.takeValue? (fuel + 1) (t.chars ++ rest) = some (.number n, rest)) ∧
      (Value.decimal d).compare? v = some .eq ∧
      ∀ {caseSensitiveText : Bool} {j j' : Json} {catalog : Catalog} {repository : Repository}
        {entry : Fixture.Entry} {type : TypeDefinition} {name : String},
        Fixture.ofJson caseSensitiveText j = .ok (catalog, repository) →
        Fixture.Gives j entry name (.number n) j' →
        catalog.lookup? entry.typeId = some type →
        Fixture.declaredKind? type name = some .decimal →
        name ≠ objectIdProperty → name ≠ objectTypeIdProperty →
        ∃ repository' o, Fixture.ofJson caseSensitiveText j' = .ok (catalog, repository') ∧
          repository'.get? entry.id = some o ∧ o.property? name = some (.single (.decimal d)) ∧
          ∀ {m : Type → Type} [Monad m] [LawfulMonad m] {source : String} {s : Statement}
            {bound : BoundStatement} {aliasName : String},
            Statement.parse source = .ok s → s.bind catalog = .ok bound →
            bound.ComparesEqual aliasName name t.text → ∀ index : Option (TextIndex m),
            ∃ e, Evaluator.prepare bound repository'.folders index caseSensitiveText = .ok e ∧
              ∀ row, row.get? aliasName = some o → e.evaluateRow row = pure true := by
  obtain ⟨number, hnumber, hrounds, hexact, hshift⟩ :=
    NumberSpelling.exists_number? hshort (hplaces.imp_right And.left) hv
  have hlow : t.magnitude = 0 ∨ 1 / 10 ^ maxScale ≤ t.magnitude := by
    rcases hplaces with hplaces | ⟨-, hle⟩
    · exact (hexact hplaces).eq_zero_or_le
    · exact .inr hle
  have hnearest : t.ReadNearest :=
    hread.elim id fun hsmall => hsmall.readNearest hjson hshort hshift
  obtain ⟨n, d, hn, hd, hrounds'⟩ :=
    Fixture.exists_decimalOfNumber? hjson hshort hshift hnearest hlow hrounds.lt
  have hequal : (Value.decimal d).compare? v = some .eq := by
    rw [← hrounds'.compare_eq hrounds]
    exact Value.compare?_eq_some_iff.2 (.number rfl hnumber)
  refine ⟨n, d, fun fuel rest hrest => ?_, hequal, ?_⟩
  · rw [← hn]
    exact NumberSpelling.takeValue?_chars hjson hrest fuel
  · intro caseSensitiveText j j' catalog repository entry type name hload hgives htype hkind hid
      htypeId
    have hvalue : Fixture.propertyOfJson name (Fixture.declaredKind? type name) (.number n) =
        .ok (.single (.decimal d)) := by
      have hdeclared : Fixture.declaredValue? .decimal (.number n) = some (.decimal d) := hd
      simp only [Fixture.propertyOfJson, Fixture.valueOfJson, hkind, hdeclared]
      rfl
    obtain ⟨repository', o, hload', hget, hstored⟩ :=
      Fixture.exists_stored_of_gives hload hgives htype hvalue hid htypeId
    refine ⟨repository', o, hload', hget, hstored, ?_⟩
    intro m _ _ source s bound aliasName hparse hbind hcompares index
    obtain ⟨hcond, -⟩ := Statement.parse_ok hparse
    obtain ⟨rfl, hbound⟩ := bind_ok (Statement.selectors_ids_nodup hparse) hbind
    obtain ⟨e, hprepare, rfl, -⟩ := Evaluator.prepare_ok hcond hbound.filter repository'.folders
      index caseSensitiveText
    exact ⟨e, hprepare, fun row hrow =>
      evaluateRow_of_comparesEqual hcompares hv hrow hstored hequal⟩

/-- The fixture of one parcel, of a type with a decimal property. -/
def parcel (propertyId : String) (properties : List (String × Json)) : Json :=
  .object [
    ("types", .array [.object [("id", .string "Parcel"), ("parent", .string "cmis:document"),
      ("properties", .array [.object [("id", .string propertyId),
        ("property_type", .string "decimal")]])]]),
    ("objects", .array [.object [("id", .string "x"), ("type", .string "Parcel"),
      ("properties", .object properties)]])]

def parcelEntry : Fixture.Entry := ⟨"x", "Parcel", none, .empty, none⟩

/-- A weight with zeros at both ends and an exponent. -/
def spelledWeight : NumberSpelling where
  negative := true
  whole := ['0']
  places := ['0', '4', '5', '0']
  exponent := some {
    mark := 'E'
    sign := some '+'
    digits := ['3']
    mark_eq := .inr rfl
    sign_eq := by simp
    digits_ne_nil := by simp
    isDigit := by simp }
  whole_ne_nil := by simp
  whole_isDigit := by simp
  places_isDigit := by simp

/-- What JSON makes of it. -/
def readWeight : Json.Number := .float ⟨true, 6333186975989760, -47⟩

theorem literal_finds_fixture_number_weight : ∃ catalog repository o,
    Fixture.ofJson false (parcel "weight" [("weight", .number readWeight)]) =
      .ok (catalog, repository) ∧ repository.get? "x" = some o ∧ ∃ s bound,
    Statement.parse "SELECT cmis:objectId FROM Parcel WHERE weight = -0.0450E+3" = .ok s ∧
    s.bind catalog = .ok bound ∧ ∃ e : Evaluator Id,
      Evaluator.prepare bound repository.folders none false = .ok e ∧
      e.evaluateRow (.single bound o) = pure true := by
  have hv : Literal.value? spelledWeight.text =
      .ok (.decimal ⟨true, 450, 1, by decide, by decide⟩) := rfl
  obtain ⟨n, d, hread, -, hloads⟩ := literal_finds_fixture_number (t := spelledWeight)
    (fun h => rfl) (.of_lt (by decide)) hv (.inl (by decide)) (.inr ⟨by decide, by decide⟩)
  have hn : Json.takeValue? 21 (spelledWeight.chars ++ []) =
      some (.number readWeight, []) := by rfl
  cases (hread 20 [] NumberSpelling.endsNumber_nil).symm.trans hn
  obtain ⟨⟨catalog, empty⟩, hload, hcheck⟩ :
      ∃ loaded, Fixture.ofJson false (parcel "weight" []) = .ok loaded ∧
        (((loaded.1.lookup? "Parcel").any fun t =>
          decide (Fixture.declaredKind? t "weight" = some .decimal)) &&
        (Statement.parse "SELECT cmis:objectId FROM Parcel WHERE weight = -0.0450E+3").toOption.any
          fun s => (s.bind loaded.1).toOption.any fun bound =>
            hasTest s bound (.compare .eq) spelledWeight.text "Parcel" "weight" &&
              bound.aliases == ["Parcel"]) = true :=
    exists_of_any_toOption (by rw [Statement.parse_ofList]; decide +kernel)
  obtain ⟨htype, hcheck⟩ := Bool.and_eq_true_iff.1 hcheck
  obtain ⟨type, htype, hkind⟩ := (Option.any_eq_true _ _).1 htype
  have hgives : Fixture.Gives (parcel "weight" []) parcelEntry "weight" (.number readWeight)
      (parcel "weight" [("weight", .number readWeight)]) := ⟨_, [], [], rfl, rfl, rfl⟩
  obtain ⟨repository, o, hload', hget, -, hselects⟩ := hloads hload hgives htype
    (of_decide_eq_true hkind) (by decide) (by decide)
  refine ⟨catalog, repository, o, hload', hget, exists_bound _ hcheck ?_⟩
  intro s bound hs hbound hcheck
  obtain ⟨htest, haliases⟩ := Bool.and_eq_true_iff.1 hcheck
  obtain ⟨c, p, hfilter, hp, hid⟩ := exists_of_hasTest htest
  obtain ⟨rfl, -⟩ := bind_ok (Statement.selectors_ids_nodup hs) hbound
  obtain ⟨e, he, hrow⟩ := hselects (m := Id) hs hbound ⟨c, p, hfilter, hp, hid⟩ none
  refine ⟨e, he, hrow _ ?_⟩
  rw [Row.single, beq_iff_eq.1 haliases]
  rfl

/-! ## Numbers that are not found -/

/-- The fixture of a parcel to which a number is given, if this loads. -/
def loadNumber (propertyId : String) (t : NumberSpelling) : Option (Catalog × Repository) :=
  (Json.parse? t.text).bind fun number =>
    (Fixture.ofJson false (parcel propertyId [(propertyId, number)])).toOption

/-- What a query for the number finds there. -/
def foundRows (propertyId : String) (t : NumberSpelling) :
    Option (List (List (Option PropertyValue))) :=
  (loadNumber propertyId t).bind fun loaded =>
    (Execution.query (m := Id) loaded.1 loaded.2 none {} ("SELECT " ++ propertyId ++
      " FROM Parcel WHERE " ++ propertyId ++ " = " ++ t.text)).run.run.toOption.map (·.rows)

/-- A short spelling that is read as a literal. -/
def IsLiteralNumber (t : NumberSpelling) : Prop :=
  t.IsJson ∧ t.IsShort ∧ (Literal.value? t.text).toBool = true

/-- The rows that are found, as they are evaluated. -/
theorem foundRows_eq_some {propertyId : String} {t : NumberSpelling}
    {rows : List (List (Option PropertyValue))}
    (h : ((loadNumber propertyId t).any fun loaded => (Statement.parse ("SELECT " ++ propertyId ++
      " FROM Parcel WHERE " ++ propertyId ++ " = " ++ t.text)).toOption.any fun s =>
        (s.bind loaded.1).toOption.any fun bound => decide
          ((Execution.execute (m := Id) loaded.1 loaded.2 none {} bound).run.run.toOption.map
            (·.rows) = some rows)) = true) : foundRows propertyId t = some rows := by
  obtain ⟨loaded, hload, h⟩ := (Option.any_eq_true _ _).1 h
  rw [foundRows, hload, Option.bind_some]
  exact Execution.query_shows _ h

/-- An exponent without its sign. -/
def plainExponent (n : Nat) : ExponentSpelling :=
  { NumberSpelling.signedExponent n with sign := none, sign_eq := by simp }

/-- A weight that JSON does not make the nearest number of. -/
def inexactWeight : NumberSpelling :=
  ⟨false, ['3'], [], some (plainExponent 23), by simp, by simp, by simp⟩

/-- A weight that is too small for an exponent. -/
def tinyWeight : NumberSpelling :=
  ⟨false, ['0'], List.replicate 28 '0' ++ ['1'], none, by simp, by simp, by simp⟩

/-- A weight whose literal is rounded before the point moves. -/
def shiftedWeight : NumberSpelling :=
  ⟨false, ['0'], List.replicate 27 '0' ++ ['1', '5'],
    some (plainExponent 28), by simp, by simp, by simp⟩

def oneSpelling : NumberSpelling :=
  ⟨false, ['1'], [], none, by simp, by simp, by simp⟩

/-- **Numbers of fixtures and of queries need not agree.** The fixture with `3e23` loads and a query
for `3e23` finds nothing; the same is so if digits behind the 28th place come in front of an
exponent, and for a property that insertion fills in. A fixture with a number below one in the last
place does not load. -/
theorem literal_misses_fixture_number :
    (IsLiteralNumber inexactWeight ∧ inexactWeight.text = "3e23" ∧
      foundRows "weight" inexactWeight = some []) ∧
    (IsLiteralNumber tinyWeight ∧ loadNumber "weight" tinyWeight = none) ∧
    (IsLiteralNumber shiftedWeight ∧ foundRows "weight" shiftedWeight = some []) ∧
    (IsLiteralNumber oneSpelling ∧ foundRows objectIdProperty oneSpelling = some []) := by
  refine ⟨⟨⟨by decide, .of_lt (by decide), by decide⟩, by decide, ?_⟩,
    ⟨⟨by decide, .of_lt (by decide), by decide⟩, by decide +kernel⟩,
    ⟨⟨by decide, .of_lt (by decide), by decide⟩, ?_⟩,
    ⟨by decide, .of_lt (by decide), by decide⟩,
    show foundRows "cmis:objectId" oneSpelling = some [] from ?_⟩
  all_goals
    apply foundRows_eq_some
    rw [NumberSpelling.text, ← String.ofList_append, ← String.ofList_append,
      ← String.ofList_append, ← String.ofList_append, ← String.ofList_append,
      Statement.parse_ofList]
    decide +kernel

end ContentQuery
