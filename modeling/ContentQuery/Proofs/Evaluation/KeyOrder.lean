import ContentQuery.Evaluation.SortKey
import Mathlib.Algebra.Order.Field.Basic
import Mathlib.Algebra.Order.Field.Rat
import Mathlib.Order.Compare
import Mathlib.Tactic.Positivity

/-!
# The order of sort keys

`SortKey.Before` says when a key comes before another one: at the first position in which they
differ, where an absent value comes before all others and a descending position counts backwards
(`SortKey.compare_eq_lt_iff`). Values of one kind of order are compared by numbers, by texts, by
truth values or by instants (`Value.compare?_eq_some_iff`), so that keys whose values can be
compared in each position are in a linear order up to keys that are equal
(`SortKey.isLE_compare_trans`, `SortKey.compare_swap`).
-/

set_option autoImplicit false

namespace ContentQuery

/-! ## Decimals -/

/-- The number that a decimal stands for. -/
def Decimal.value (d : Decimal) : ℚ := d.numerator / powerOfTen d.scale

theorem powerOfTen_pos (n : Nat) : 0 < powerOfTen n := by
  induction n with
  | zero => decide
  | succ n ih =>
    rw [powerOfTen_succ]
    omega

/-- Decimals are in the order of their numbers. -/
theorem Decimal.compare_eq (a b : Decimal) : a.compare b = Ord.compare a.value b.value := by
  have ha : (0 : ℚ) < powerOfTen a.scale := by exact_mod_cast powerOfTen_pos a.scale
  have hb : (0 : ℚ) < powerOfTen b.scale := by exact_mod_cast powerOfTen_pos b.scale
  have hlt : a.value < b.value ↔
      a.numerator * powerOfTen b.scale < b.numerator * powerOfTen a.scale := by
    rw [value, value, div_lt_div_iff₀ ha hb]
    exact_mod_cast Iff.rfl
  have hgt : b.value < a.value ↔
      b.numerator * powerOfTen a.scale < a.numerator * powerOfTen b.scale := by
    rw [value, value, div_lt_div_iff₀ hb ha]
    exact_mod_cast Iff.rfl
  unfold Decimal.compare
  rcases lt_trichotomy a.value b.value with h | h | h
  · rw [compare_lt_iff_lt.2 h]
    exact compare_lt_iff_lt.2 (hlt.1 h)
  · rw [compare_eq_iff_eq.2 h]
    refine compare_eq_iff_eq.2 (le_antisymm ?_ ?_)
    · exact not_lt.1 fun hg => (hgt.2 hg).ne h.symm
    · exact not_lt.1 fun hl => (hlt.2 hl).ne h
  · rw [compare_gt_iff_gt.2 h]
    exact compare_gt_iff_gt.2 (hgt.1 h)

instance : Std.TransCmp Decimal.compare where
  eq_swap {a b} := by
    rw [Decimal.compare_eq a b, Decimal.compare_eq b a]
    exact Std.OrientedCmp.eq_swap
  isLE_trans {a b c} hab hbc := by
    rw [Decimal.compare_eq] at *
    exact Std.TransCmp.isLE_trans hab hbc

theorem Decimal.numerator_ofInt64 (n : Int64) : (ofInt64 n).numerator = n.toInt := by
  have hneg : n < 0 ↔ n.toInt < 0 := Int64.lt_iff_toInt_lt
  unfold numerator ofInt64
  by_cases h : n < 0
  · have h' := hneg.1 h
    simp only [h, decide_true, if_true]
    omega
  · have h' : ¬n.toInt < 0 := fun hlt => h (hneg.2 hlt)
    simp only [h, decide_false, Bool.false_eq_true, if_false]
    omega

@[simp] theorem Decimal.scale_ofInt64 (n : Int64) : (ofInt64 n).scale = 0 := rfl

theorem Decimal.compare_ofInt64 (m n : Int64) :
    (ofInt64 m).compare (ofInt64 n) = Ord.compare m.toInt n.toInt := by
  unfold Decimal.compare
  rw [numerator_ofInt64, numerator_ofInt64, scale_ofInt64, scale_ofInt64, powerOfTen_zero,
    Nat.cast_one, Int.mul_one, Int.mul_one]

theorem Decimal.value_ofInt64 (n : Int64) : (ofInt64 n).value = n.toInt := by
  rw [value, numerator_ofInt64, scale_ofInt64, powerOfTen_zero, Nat.cast_one, div_one]

instance : Std.TransCmp Timestamp.compare :=
  inferInstanceAs
    (Std.TransCmp (compareLex (compareOn Timestamp.seconds) (compareOn Timestamp.nanos)))

/-! ## Three comparisons -/

/-- What the comparisons of `a` with `b`, `b` with `c` and `a` with `c` say together: two steps
that do not go down do not go down, and stay level only if each of them does. -/
def Climbs (ab bc ac : Ordering) : Prop :=
  ab.isLE = true → bc.isLE = true → ac.isLE = true ∧ (ac = .eq → ab = .eq ∧ bc = .eq)

namespace Climbs

variable {ab bc ac ab' bc' ac' : Ordering}

theorem of_transCmp {α : Type} {cmp : α → α → Ordering} [Std.TransCmp cmp] (a b c : α) :
    Climbs (cmp a b) (cmp b c) (cmp a c) := by
  intro hab hbc
  refine ⟨Std.TransCmp.isLE_trans hab hbc, fun hac => ⟨?_, ?_⟩⟩
  · cases h : cmp a b with
    | lt => exact absurd hac (by rw [Std.TransCmp.lt_of_lt_of_isLE h hbc]; decide)
    | eq => rfl
    | gt => rw [h] at hab; cases hab
  · cases h : cmp b c with
    | lt => exact absurd hac (by rw [Std.TransCmp.lt_of_isLE_of_lt hab h]; decide)
    | eq => rfl
    | gt => rw [h] at hbc; cases hbc

theorem symm (h : Climbs ab bc ac) : Climbs bc ab ac := by
  intro hbc hab
  obtain ⟨hle, heq⟩ := h hab hbc
  exact ⟨hle, fun hac => (heq hac).symm⟩

/-- A later position decides if there is nothing to decide in the first one. -/
theorem lex (h : Climbs ab bc ac) (h' : Climbs ab' bc' ac') :
    Climbs (ab.then ab') (bc.then bc') (ac.then ac') := by
  have hfirst {o o' : Ordering} (ho : (o.then o').isLE = true) : o.isLE = true := by
    cases o <;> first | rfl | cases ho
  intro hab hbc
  obtain ⟨hle, heq⟩ := h (hfirst hab) (hfirst hbc)
  cases hac : ac with
  | lt => exact ⟨rfl, nofun⟩
  | gt => rw [hac] at hle; cases hle
  | eq =>
    obtain ⟨rfl, rfl⟩ := heq hac
    exact h' hab hbc

/-- Two steps that go the same way go this way together, or stay level together. -/
theorem trans {o : Ordering} (h : Climbs ab bc ac) (hback : Climbs bc.swap ab.swap ac.swap)
    (hab : ab = o) (hbc : bc = o) : ac = o := by
  subst hab hbc
  cases bc with
  | lt =>
    obtain ⟨hle, heq⟩ := h rfl rfl
    cases ac with
    | lt => rfl
    | eq => exact absurd (heq rfl).1 (by decide)
    | gt => cases hle
  | eq =>
    obtain ⟨hle, -⟩ := h rfl rfl
    obtain ⟨hge, -⟩ := hback rfl rfl
    cases ac with
    | eq => rfl
    | lt => cases hge
    | gt => cases hle
  | gt =>
    obtain ⟨hge, heq⟩ := hback rfl rfl
    cases ac with
    | lt => cases hge
    | eq => exact absurd (heq rfl).1 (by decide)
    | gt => rfl

end Climbs

/-! ## Values -/

namespace Value

/-- The ways in which two values compare. -/
inductive Compares : Value → Value → Ordering → Prop
  | boolean (a b : Bool) : Compares (.boolean a) (.boolean b) (Ord.compare a b)
  | datetime (a b : Timestamp) : Compares (.datetime a) (.datetime b) (a.compare b)
  | number {a b : Value} {m n : Decimal} :
      a.number? = some m → b.number? = some n → Compares a b (m.compare n)
  | text {a b : Value} {s t : String} :
      a.text? = some s → b.text? = some t → Compares a b (Ord.compare s t)

theorem compare?_eq_some_iff {a b : Value} {o : Ordering} :
    a.compare? b = some o ↔ Compares a b o := by
  constructor
  · intro h
    cases a <;> cases b <;>
      simp only [compare?, number?, text?, reduceCtorEq, Option.some.injEq] at h
    all_goals subst h
    case boolean.boolean => exact .boolean _ _
    case datetime.datetime => exact .datetime _ _
    case integer.integer m n =>
      rw [← Decimal.compare_ofInt64]
      exact .number rfl rfl
    case integer.decimal | decimal.integer | decimal.decimal => exact .number rfl rfl
    case string.string | string.id | id.string | id.id => exact .text rfl rfl
  · intro h
    cases h with
    | boolean => rfl
    | datetime => rfl
    | @number _ _ m n ha hb =>
      cases a <;> cases b <;> simp only [number?, reduceCtorEq, Option.some.injEq] at ha hb
      all_goals subst ha hb
      case integer.integer => rw [Decimal.compare_ofInt64]; rfl
      all_goals rfl
    | text ha hb =>
      cases a <;> cases b <;> simp only [text?, reduceCtorEq, Option.some.injEq] at ha hb
      all_goals subst ha hb
      all_goals rfl

theorem text?_eq_none_of_number? {a : Value} {m : Decimal} (h : a.number? = some m) :
    a.text? = none := by
  cases a <;> first | rfl | cases h

theorem Compares.swap {a b : Value} {o : Ordering} (h : Compares a b o) : Compares b a o.swap := by
  cases h with
  | boolean a b =>
    rw [← Std.OrientedCmp.eq_swap]
    exact .boolean b a
  | datetime a b =>
    have hswap : b.compare a = (a.compare b).swap := Std.OrientedCmp.eq_swap
    rw [← hswap]
    exact .datetime b a
  | @number _ _ m n ha hb =>
    have hswap : n.compare m = (m.compare n).swap := Std.OrientedCmp.eq_swap
    rw [← hswap]
    exact .number hb ha
  | text ha hb =>
    rw [← Std.OrientedCmp.eq_swap]
    exact .text hb ha

theorem compare?_swap (a b : Value) : b.compare? a = (a.compare? b).map Ordering.swap := by
  cases h : a.compare? b with
  | some o => exact compare?_eq_some_iff.2 (compare?_eq_some_iff.1 h).swap
  | none =>
    cases h' : b.compare? a with
    | none => rfl
    | some o =>
      have hab := compare?_eq_some_iff.2 (compare?_eq_some_iff.1 h').swap
      rw [h] at hab
      cases hab

/-- Values that compare with a third one are compared in one order. -/
theorem Compares.exists_order {a b c : Value} {ab bc : Ordering} (h : Compares a b ab)
    (h' : Compares b c bc) :
    ∃ (α : Type) (cmp : α → α → Ordering) (x y z : α), Std.TransCmp cmp ∧
      ab = cmp x y ∧ bc = cmp y z ∧ Compares a c (cmp x z) := by
  cases h with
  | boolean a b =>
    cases h' with
    | boolean _ c => exact ⟨_, _, a, b, c, inferInstance, rfl, rfl, .boolean a c⟩
    | number hb | text hb => cases hb
  | datetime a b =>
    cases h' with
    | datetime _ c => exact ⟨_, _, a, b, c, inferInstance, rfl, rfl, .datetime a c⟩
    | number hb | text hb => cases hb
  | @number _ _ m n ha hb =>
    cases h' with
    | boolean | datetime => cases hb
    | @number _ _ n' k hb' hc =>
      obtain rfl : n = n' := Option.some.inj (hb.symm.trans hb')
      exact ⟨_, _, m, n, k, inferInstance, rfl, rfl, .number ha hc⟩
    | text hb' => rw [text?_eq_none_of_number? hb] at hb'; cases hb'
  | @text _ _ s t ha hb =>
    cases h' with
    | boolean | datetime => cases hb
    | number hb' => rw [text?_eq_none_of_number? hb'] at hb; cases hb
    | @text _ _ t' u hb' hc =>
      obtain rfl : t = t' := Option.some.inj (hb.symm.trans hb')
      exact ⟨_, _, s, t, u, inferInstance, rfl, rfl, .text ha hc⟩

theorem Compares.trans {a b c : Value} {ab bc : Ordering} (h : Compares a b ab)
    (h' : Compares b c bc) : ∃ ac, Compares a c ac ∧ Climbs ab bc ac := by
  obtain ⟨α, cmp, x, y, z, _, rfl, rfl, hac⟩ := h.exists_order h'
  exact ⟨_, hac, .of_transCmp x y z⟩

end Value

/-! ## Positions -/

namespace SortKey

/-- The values of two keys in one position can be compared, if both are present. -/
def ComparablePosition (a b : Option Value) : Prop :=
  ∀ v w, a = some v → b = some w → (v.compare? w).isSome = true

/-- The values of two keys can be compared in each position in which both are present. -/
def Comparable (a b : SortKey) : Prop :=
  ∀ (i : Nat) v w, a[i]? = some (some v) → b[i]? = some (some w) → (v.compare? w).isSome = true

theorem comparable_cons {a b : Option Value} {as bs : SortKey} :
    Comparable (a :: as) (b :: bs) ↔ ComparablePosition a b ∧ Comparable as bs := by
  constructor
  · intro h
    exact ⟨fun v w ha hb => h 0 v w (by simp [ha]) (by simp [hb]),
      fun i v w ha hb => h (i + 1) v w (by simpa using ha) (by simpa using hb)⟩
  · rintro ⟨h, hs⟩ i v w ha hb
    cases i with
    | zero => exact h v w (by simpa using ha) (by simpa using hb)
    | succ i => exact hs i v w (by simpa using ha) (by simpa using hb)

theorem compareValues_swap (a b : Option Value) :
    compareValues b a = (compareValues a b).swap := by
  cases a with
  | none => cases b <;> rfl
  | some v =>
    cases b with
    | none => rfl
    | some w =>
      rw [compareValues, compareValues, Value.compare?_swap v w]
      cases v.compare? w <;> rfl

theorem comparePosition_swap (ascending : Bool) (a b : Option Value) :
    comparePosition ascending b a = (comparePosition ascending a b).swap := by
  cases ascending <;> simp only [comparePosition, compareValues_swap a b, if_true, if_false,
    Bool.false_eq_true]

theorem compareValues_climbs {a b c : Option Value} (hab : ComparablePosition a b)
    (hbc : ComparablePosition b c) :
    Climbs (compareValues a b) (compareValues b c) (compareValues a c) := by
  cases b with
  | none =>
    -- Only an absent value does not come after an absent one.
    intro h h'
    cases a with
    | none => cases c <;> simp [compareValues] at *
    | some v => cases h
  | some v =>
    cases a with
    | none =>
      intro _ h'
      cases c with
      | none => cases h'
      | some w => exact ⟨rfl, nofun⟩
    | some u =>
      cases c with
      | none => exact fun _ h' => nomatch h'
      | some w =>
        obtain ⟨o, ho⟩ := Option.isSome_iff_exists.1 (hab u v rfl rfl)
        obtain ⟨o', ho'⟩ := Option.isSome_iff_exists.1 (hbc v w rfl rfl)
        obtain ⟨o'', huw, hclimbs⟩ :=
          (Value.compare?_eq_some_iff.1 ho).trans (Value.compare?_eq_some_iff.1 ho')
        rw [compareValues, compareValues, compareValues, ho, ho',
          Value.compare?_eq_some_iff.2 huw]
        exact hclimbs

theorem ComparablePosition.symm {a b : Option Value} (h : ComparablePosition a b) :
    ComparablePosition b a := by
  intro v w hv hw
  rw [Value.compare?_swap w v, Option.isSome_map]
  exact h w v hw hv

theorem comparePosition_climbs (ascending : Bool) {a b c : Option Value}
    (hab : ComparablePosition a b) (hbc : ComparablePosition b c) :
    Climbs (comparePosition ascending a b) (comparePosition ascending b c)
      (comparePosition ascending a c) := by
  cases ascending with
  | true => exact compareValues_climbs hab hbc
  | false =>
    -- Down the positions from `a` to `c` is up from `c` to `a`.
    have hup := compareValues_climbs hbc.symm hab.symm
    rw [compareValues_swap b c, compareValues_swap a b, compareValues_swap a c] at hup
    exact hup.symm

/-! ## Keys -/

theorem compare_swap (directions : List Bool) (a b : SortKey) :
    compare directions b a = (compare directions a b).swap := by
  induction directions generalizing a b with
  | nil => cases a <;> cases b <;> rfl
  | cons ascending directions ih =>
    cases a with
    | nil => cases b <;> rfl
    | cons x a =>
      cases b with
      | nil => rfl
      | cons y b =>
        rw [compare, compare, comparePosition_swap ascending x y, ih a b, Ordering.swap_then]

theorem compare_self (directions : List Bool) (a : SortKey) : compare directions a a = .eq := by
  have h := compare_swap directions a a
  cases hc : compare directions a a with
  | eq => rfl
  | lt | gt => rw [hc] at h; cases h

/-- Keys that can be compared climb as their values do. -/
theorem compare_climbs {directions : List Bool} {a b c : SortKey}
    (ha : a.length = directions.length) (hb : b.length = directions.length)
    (hc : c.length = directions.length) (hab : Comparable a b) (hbc : Comparable b c) :
    Climbs (compare directions a b) (compare directions b c) (compare directions a c) := by
  induction directions generalizing a b c with
  | nil =>
    obtain rfl := List.length_eq_zero_iff.1 ha
    obtain rfl := List.length_eq_zero_iff.1 hb
    obtain rfl := List.length_eq_zero_iff.1 hc
    exact fun _ _ => ⟨rfl, fun _ => ⟨rfl, rfl⟩⟩
  | cons ascending directions ih =>
    match a, b, c, ha, hb, hc with
    | x :: a, y :: b, z :: c, ha, hb, hc =>
      obtain ⟨hxy, hab⟩ := comparable_cons.1 hab
      obtain ⟨hyz, hbc⟩ := comparable_cons.1 hbc
      exact (comparePosition_climbs ascending hxy hyz).lex
        (ih (Nat.succ.inj ha) (Nat.succ.inj hb) (Nat.succ.inj hc) hab hbc)

/-- Keys that can be compared are in an order. -/
theorem isLE_compare_trans {directions : List Bool} {a b c : SortKey}
    (ha : a.length = directions.length) (hb : b.length = directions.length)
    (hc : c.length = directions.length) (hab : Comparable a b) (hbc : Comparable b c)
    (h : (compare directions a b).isLE = true) (h' : (compare directions b c).isLE = true) :
    (compare directions a c).isLE = true :=
  (compare_climbs ha hb hc hab hbc h h').1

theorem Comparable.symm {a b : SortKey} (h : Comparable a b) : Comparable b a := by
  intro i v w hv hw
  rw [Value.compare?_swap w v, Option.isSome_map]
  exact h i w v hw hv

/-- Keys that come before, after or level with each other go on doing so. -/
theorem compare_trans {directions : List Bool} {a b c : SortKey} {o : Ordering}
    (ha : a.length = directions.length) (hb : b.length = directions.length)
    (hc : c.length = directions.length) (hab : Comparable a b) (hbc : Comparable b c)
    (h : compare directions a b = o) (h' : compare directions b c = o) :
    compare directions a c = o := by
  have hback := compare_climbs hc hb ha hbc.symm hab.symm
  rw [compare_swap directions b c, compare_swap directions a b,
    compare_swap directions a c] at hback
  exact (compare_climbs ha hb hc hab hbc).trans hback h h'

/-! ## Directions -/

theorem comparePosition_not (ascending : Bool) (a b : Option Value) :
    comparePosition (!ascending) a b = comparePosition ascending b a := by
  rw [comparePosition_swap ascending a b]
  cases ascending with
  | true => rfl
  | false => exact Ordering.swap_swap.symm

/-- The other direction in each position is the order of the exchanged keys. -/
theorem compare_map_not (directions : List Bool) (a b : SortKey) :
    compare (directions.map (!·)) a b = compare directions b a := by
  induction directions generalizing a b with
  | nil => cases a <;> cases b <;> rfl
  | cons ascending directions ih =>
    match a, b with
    | [], [] | [], _ :: _ | _ :: _, [] => rfl
    | x :: a, y :: b =>
      rw [List.map_cons, compare, compare, comparePosition_not, ih]

/-! ## What comes before what -/

/-- An absent value comes before all others, and a lesser value before a greater one. -/
inductive ValueBefore : Option Value → Option Value → Prop
  | absent (v : Value) : ValueBefore none (some v)
  | less {v w : Value} : v.compare? w = some .lt → ValueBefore (some v) (some w)

/-- A descending position counts backwards. -/
def PositionBefore (ascending : Bool) (a b : Option Value) : Prop :=
  if ascending then ValueBefore a b else ValueBefore b a

/-- A key comes before another one at the first position in which one of them does. -/
inductive Before : List Bool → SortKey → SortKey → Prop
  | here {ascending : Bool} {directions : List Bool} {x y : Option Value} {a b : SortKey} :
      PositionBefore ascending x y → Before (ascending :: directions) (x :: a) (y :: b)
  | later {ascending : Bool} {directions : List Bool} {x y : Option Value} {a b : SortKey} :
      ¬PositionBefore ascending x y → ¬PositionBefore ascending y x → Before directions a b →
      Before (ascending :: directions) (x :: a) (y :: b)

theorem compareValues_eq_lt_iff {a b : Option Value} :
    compareValues a b = .lt ↔ ValueBefore a b := by
  constructor
  · intro h
    cases a with
    | none =>
      cases b with
      | none => cases h
      | some w => exact .absent w
    | some v =>
      cases b with
      | none => cases h
      | some w =>
        cases hc : v.compare? w with
        | none => rw [compareValues, hc] at h; cases h
        | some o =>
          rw [compareValues, hc] at h
          exact .less (hc.trans (congrArg some h))
  · intro h
    cases h with
    | absent => rfl
    | less h => rw [compareValues, h]; rfl

theorem comparePosition_eq_lt_iff {ascending : Bool} {a b : Option Value} :
    comparePosition ascending a b = .lt ↔ PositionBefore ascending a b := by
  cases ascending with
  | true => exact compareValues_eq_lt_iff
  | false =>
    show (compareValues a b).swap = .lt ↔ ValueBefore b a
    rw [← compareValues_swap, compareValues_eq_lt_iff]

theorem comparePosition_eq_gt_iff {ascending : Bool} {a b : Option Value} :
    comparePosition ascending a b = .gt ↔ PositionBefore ascending b a := by
  rw [← comparePosition_eq_lt_iff, comparePosition_swap ascending a b, Ordering.swap_eq_lt]

/-- **The order of keys**: `compare` answers `lt` exactly if the first key comes before the other
one. -/
theorem compare_eq_lt_iff {directions : List Bool} {a b : SortKey} :
    compare directions a b = .lt ↔ Before directions a b := by
  induction directions generalizing a b with
  | nil =>
    constructor
    · intro h
      cases a <;> cases b <;> cases h
    · intro h
      cases h
  | cons ascending directions ih =>
    match a, b with
    | [], _ => exact ⟨nofun, nofun⟩
    | _ :: _, [] => exact ⟨nofun, nofun⟩
    | x :: a, y :: b =>
      rw [compare, Ordering.then_eq_lt, comparePosition_eq_lt_iff, ih]
      constructor
      · rintro (h | ⟨heq, h⟩)
        · exact .here h
        · refine .later (fun hlt => ?_) (fun hgt => ?_) h
          · rw [comparePosition_eq_lt_iff.2 hlt] at heq
            cases heq
          · rw [comparePosition_eq_gt_iff.2 hgt] at heq
            cases heq
      · intro h
        cases h with
        | here h => exact .inl h
        | later hlt hgt h =>
          refine .inr ⟨?_, h⟩
          cases hc : comparePosition ascending x y with
          | lt => exact absurd (comparePosition_eq_lt_iff.1 hc) hlt
          | eq => rfl
          | gt => exact absurd (comparePosition_eq_gt_iff.1 hc) hgt

end SortKey

/-! ## What sorting relies on -/

/-- The same position in the other direction. -/
def SortSpec.reverse (spec : SortSpec) : SortSpec := { spec with ascending := !spec.ascending }

theorem directions_map_reverse (specs : List SortSpec) :
    directions (specs.map SortSpec.reverse) = (directions specs).map (!·) := by
  simp only [directions, List.map_map]
  rfl

/-- **Keys are preordered, and directions mirror.** Under every ORDER BY list a key is before
another one if the first position in which they differ says so. A key is level with itself, and
exchanging two keys reverses their order. Among keys of its length whose present values can be
compared in each position, the order is transitive, and so are its strict part and being level. The
list with all directions turned around gives the order of the exchanged keys, whether or not their
values can be compared. -/
theorem keys_preordered_and_reversed (specs : List SortSpec) :
    (∀ a b, SortKey.compare (directions specs) a b = .lt ↔
      SortKey.Before (directions specs) a b) ∧
    (∀ a, SortKey.compare (directions specs) a a = .eq) ∧
    (∀ a b, SortKey.compare (directions specs) b a =
      (SortKey.compare (directions specs) a b).swap) ∧
    (∀ a b c : SortKey, a.length = specs.length → b.length = specs.length →
      c.length = specs.length → SortKey.Comparable a b → SortKey.Comparable b c →
      ((SortKey.compare (directions specs) a b).isLE = true →
        (SortKey.compare (directions specs) b c).isLE = true →
        (SortKey.compare (directions specs) a c).isLE = true) ∧
      ∀ o, SortKey.compare (directions specs) a b = o → SortKey.compare (directions specs) b c = o →
        SortKey.compare (directions specs) a c = o) ∧
    ∀ a b, SortKey.compare (directions (specs.map SortSpec.reverse)) a b =
      SortKey.compare (directions specs) b a := by
  have hlength : (directions specs).length = specs.length := List.length_map _
  refine ⟨fun _ _ => SortKey.compare_eq_lt_iff, SortKey.compare_self _, SortKey.compare_swap _,
    fun a b c ha hb hc hab hbc => ?_, fun a b => ?_⟩
  · rw [← hlength] at ha hb hc
    exact ⟨SortKey.isLE_compare_trans ha hb hc hab hbc,
      fun o => SortKey.compare_trans ha hb hc hab hbc⟩
  · rw [directions_map_reverse, SortKey.compare_map_not]

/-- Three keys of a text and a number, the last without a number. -/
theorem keys_preordered_and_reversed_mixed :
    let specs : List SortSpec :=
      [⟨.column ⟨0, none, "cmis:name"⟩, true⟩, ⟨.column ⟨1, none, "weight"⟩, false⟩]
    let a : SortKey := [some (.string "x"), some (.decimal ⟨false, 55, 1, by decide, by decide⟩)]
    let b : SortKey := [some (.id "x"), some (.integer 5)]
    let c : SortKey := [some (.id "x"), none]
    SortKey.Comparable a b ∧ SortKey.Comparable b c ∧
      SortKey.compare (directions specs) a b = .lt ∧
      SortKey.compare (directions specs) b c = .lt ∧
      SortKey.compare (directions specs) a c = .lt ∧
      SortKey.compare (directions (specs.map SortSpec.reverse)) c a = .lt := by
  intro specs a b c
  have hnil : SortKey.Comparable [] [] := fun i v w h => by simp at h
  have hab : SortKey.Comparable a b :=
    SortKey.comparable_cons.2 ⟨by rintro _ _ ⟨⟩ ⟨⟩; rfl,
      SortKey.comparable_cons.2 ⟨by rintro _ _ ⟨⟩ ⟨⟩; rfl, hnil⟩⟩
  have hbc : SortKey.Comparable b c :=
    SortKey.comparable_cons.2 ⟨by rintro _ _ ⟨⟩ ⟨⟩; rfl, SortKey.comparable_cons.2 ⟨nofun, hnil⟩⟩
  obtain ⟨-, -, -, htrans, hreverse⟩ := keys_preordered_and_reversed specs
  have hlt : SortKey.compare (directions specs) a b = .lt := by decide
  have hlt' : SortKey.compare (directions specs) b c = .lt := by decide
  have hac := (htrans a b c rfl rfl rfl hab hbc).2 .lt hlt hlt'
  exact ⟨hab, hbc, hlt, hlt', hac, (hreverse c a).trans hac⟩

end ContentQuery
