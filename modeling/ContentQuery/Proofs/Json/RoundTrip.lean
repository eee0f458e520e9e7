import ContentQuery.Json.Parser
import ContentQuery.Json.Printer
import ContentQuery.Proofs.Run
import Mathlib.Data.List.DropRight

/-!
# Writing and reading JSON

`parse?_toPrettyText`: a value without numbers is read again from its text over several lines. A
text `Spells` a value if it is read as this value whatever stands behind it, as the text of every
string does (`spells_string`). From there the argument goes up the brackets: items and members
whose texts spell them are read up to the closing bracket (`takeItems?_here`,
`takeMembers?_here`).
-/

set_option autoImplicit false

namespace ContentQuery.Json

/-! ## Strings -/

/-- A character that stands for itself in a string. -/
def IsBare (c : Char) : Prop := c ≠ '"' ∧ c ≠ '\\' ∧ 0x20 ≤ c.toNat

/-- The ways in which a string holds a character: as it is, with an escape of one letter, or with
one of four digits. -/
inductive Escapes (c : Char) : List Char → Prop
  | bare : IsBare c → Escapes c [c]
  | letter {l : Char} : simpleEscape? l = some c → l ≠ 'u' → Escapes c ['\\', l]
  | digits {a b : Char} : hex4? '0' '0' a b = some c.toNat → IsBare a → IsBare b →
      Escapes c ['\\', 'u', '0', '0', a, b]

theorem isBare_digitChar : ∀ n < 16, IsBare (Nat.digitChar n) := by
  unfold IsBare
  decide

theorem hex4?_digitChar : ∀ n < 32,
    hex4? '0' '0' (Nat.digitChar (n / 16)) (Nat.digitChar (n % 16)) = some n := by decide

theorem escapes_escapeChar (c : Char) : Escapes c (escapeChar c) := by
  unfold escapeChar
  by_cases hquote : c = '"'
  · subst hquote
    exact .letter rfl (by decide)
  by_cases hslash : c = '\\'
  · subst hslash
    exact .letter rfl (by decide)
  by_cases hbackspace : c = '\x08'
  · subst hbackspace
    exact .letter rfl (by decide)
  by_cases hfeed : c = '\x0c'
  · subst hfeed
    exact .letter rfl (by decide)
  by_cases hline : c = '\n'
  · subst hline
    exact .letter rfl (by decide)
  by_cases hreturn : c = '\r'
  · subst hreturn
    exact .letter rfl (by decide)
  by_cases htab : c = '\t'
  · subst htab
    exact .letter rfl (by decide)
  simp only [beq_iff_eq, Bool.or_eq_true, hquote, hslash, hbackspace, hfeed, hline, hreturn, htab,
    or_self, if_false]
  split
  · rename_i hcontrol
    exact .digits (hex4?_digitChar _ hcontrol) (isBare_digitChar _ (by omega))
      (isBare_digitChar _ (by omega))
  · rename_i hcontrol
    exact .bare ⟨hquote, hslash, Nat.le_of_not_lt hcontrol⟩

theorem splitString?_bare {c : Char} (h : IsBare c) (cs : List Char) :
    splitString? (c :: cs) = (splitString? cs).map fun p => (c :: p.1, p.2) := by
  obtain ⟨hquote, hslash, hshown⟩ := h
  rw [splitString?.eq_def]
  split
  · rename_i hnil
    cases hnil
  · rename_i hcons
    cases hcons
    exact absurd rfl hslash
  · rename_i hcons
    cases hcons
    rw [if_neg (by simpa using hquote), if_neg (Nat.not_lt.2 hshown)]

/-- A string goes on behind every character that is written in it. -/
theorem splitString?_escapes {c : Char} {text : List Char} (h : Escapes c text) (cs : List Char) :
    splitString? (text ++ cs) = (splitString? cs).map fun p => (text ++ p.1, p.2) := by
  cases h with
  | bare hc => exact splitString?_bare hc cs
  | letter => rfl
  | digits _ ha hb =>
    have hzero : IsBare '0' := by unfold IsBare; decide
    have hu (cs : List Char) : splitString? ('\\' :: 'u' :: cs) =
        (splitString? cs).map fun p => ('\\' :: 'u' :: p.1, p.2) := rfl
    simp only [List.cons_append, List.nil_append, hu, splitString?_bare hzero,
      splitString?_bare ha, splitString?_bare hb, Option.map_map, Function.comp_def]

theorem splitString?_text (cs rest : List Char) :
    splitString? (cs.flatMap escapeChar ++ '"' :: rest) = some (cs.flatMap escapeChar, rest) := by
  induction cs with
  | nil => rfl
  | cons c cs ih =>
    rw [List.flatMap_cons, List.append_assoc, splitString?_escapes (escapes_escapeChar c), ih]
    rfl

theorem codePoints?_escapes {c : Char} {text : List Char} (h : Escapes c text) (cs : List Char) :
    codePoints? (text ++ cs) = (codePoints? cs).map (c.toNat :: ·) := by
  cases h with
  | bare hc =>
    obtain ⟨-, hslash, -⟩ := hc
    rw [List.singleton_append, codePoints?.eq_def]
    split
    · rename_i hnil
      cases hnil
    · rename_i hcons
      cases hcons
      exact absurd rfl hslash
    · rename_i hcons
      cases hcons
      exact absurd rfl hslash
    · rename_i hcons
      cases hcons
      rw [if_neg (by simpa using hslash)]
  | letter hl hu =>
    rw [List.cons_append, List.singleton_append, codePoints?.eq_def]
    split
    · rename_i hnil
      cases hnil
    · rename_i hcons
      cases hcons
      exact absurd rfl hu
    · rename_i hcons
      cases hcons
      rw [hl]
      rfl
    · rename_i hno hcons
      cases hcons
      exact (hno _ _ rfl rfl).elim
  | digits hn =>
    have hdigits (a b : Char) : codePoints? ('\\' :: 'u' :: '0' :: '0' :: a :: b :: cs) =
        (hex4? '0' '0' a b).bind fun n => (codePoints? cs).map (n :: ·) := rfl
    simp only [List.cons_append, List.nil_append, hdigits, hn, Option.bind_some]

theorem codePoints?_text (cs : List Char) :
    codePoints? (cs.flatMap escapeChar) = some (cs.map Char.toNat) := by
  induction cs with
  | nil => rfl
  | cons c cs ih =>
    rw [List.flatMap_cons, codePoints?_escapes (escapes_escapeChar c), ih]
    rfl

/-- A character is no surrogate. -/
theorem not_surrogate (c : Char) :
    isLeadingSurrogate c.toNat = false ∧ isTrailingSurrogate c.toNat = false := by
  have hvalid : c.toNat < 0xd800 ∨ 0xdfff < c.toNat ∧ c.toNat < 0x110000 := c.valid
  simp only [isLeadingSurrogate, isTrailingSurrogate, Bool.and_eq_false_iff, decide_eq_false_iff_not]
  omega

theorem decode?_toNat (cs : List Char) : decode? (cs.map Char.toNat) = some cs := by
  induction cs with
  | nil => rfl
  | cons c cs ih =>
    obtain ⟨hleading, htrailing⟩ := not_surrogate c
    cases cs with
    | nil => simp [decode?, hleading, htrailing]
    | cons d cs =>
      rw [List.map_cons] at ih
      simp [decode?, hleading, htrailing, ih]

/-- A string is read again, whatever characters it holds. -/
theorem takeString?_text (s : String) (rest : List Char) :
    takeString? (s.toList.flatMap escapeChar ++ '"' :: rest) = some (some s, rest) := by
  unfold takeString?
  rw [splitString?_text, Option.bind_eq_bind, Option.bind_some]
  dsimp only
  rw [codePoints?_text, Option.bind_eq_bind, Option.bind_some, decode?_toNat, Option.map_some,
    String.ofList_toList]
  rfl

/-! ## Values -/

/-- A text of a value: it is read as the value, whatever stands behind it. -/
def Spells (cs : List Char) (j : Json) : Prop :=
  ∀ fuel rest, cs.length ≤ fuel → takeValue? fuel (cs ++ rest) = some (j, rest)

/-- Nothing but white space. -/
def IsMargin (cs : List Char) : Prop := ∀ c ∈ cs, isBlank c = true

section
variable {cs cs' margin : List Char} {fuel : Nat}

theorem skipBlanks_margin (h : IsMargin margin) (cs : List Char) :
    skipBlanks (margin ++ cs) = skipBlanks cs := List.dropWhile_append_of_pos h

theorem skipBlanks_blank (cs : List Char) : skipBlanks (' ' :: cs) = skipBlanks cs := rfl

theorem skipBlanks_here {c : Char} (h : isBlank c = false) (cs : List Char) :
    skipBlanks (c :: cs) = c :: cs := List.dropWhile_cons_of_neg (by simp [h])

theorem skipBlanks_skipBlanks (cs : List Char) : skipBlanks (skipBlanks cs) = skipBlanks cs :=
  List.dropWhile_idempotent _ cs

/-- White space in front of a value does not matter. -/
theorem takeValue?_congr (h : skipBlanks cs = skipBlanks cs') :
    takeValue? fuel cs = takeValue? fuel cs' := by
  cases fuel with
  | zero => rfl
  | succ fuel => simp only [takeValue?, h]

theorem takeItems?_congr (h : skipBlanks cs = skipBlanks cs') :
    takeItems? fuel cs = takeItems? fuel cs' := by
  cases fuel with
  | zero => rfl
  | succ fuel => simp only [takeItems?, takeValue?_congr h]

theorem takeMembers?_congr (h : skipBlanks cs = skipBlanks cs') :
    takeMembers? fuel cs = takeMembers? fuel cs' := by
  cases fuel with
  | zero => rfl
  | succ fuel => simp only [takeMembers?, h]

theorem takeItems?_closing (fuel : Nat) (cs : List Char) : takeItems? fuel (']' :: cs) = none := by
  cases fuel with
  | zero => rfl
  | succ fuel =>
    cases fuel with
    | zero => rfl
    | succ fuel => rfl

theorem takeMembers?_closing (fuel : Nat) (cs : List Char) :
    takeMembers? fuel ('\x7d' :: cs) = none := by
  cases fuel with
  | zero => rfl
  | succ fuel => rfl

/-- An array is read if its items are. -/
theorem takeValue?_array {items : List Json} {rest : List Char}
    (h : takeItems? fuel cs = some (items, rest)) :
    takeValue? (fuel + 1) ('[' :: cs) = some (.array items, rest) := by
  rw [← takeItems?_congr (skipBlanks_skipBlanks cs)] at h
  simp only [takeValue?, skipBlanks_here (c := '[') rfl]
  split
  · -- an array that closes at once has no items to read
    rename_i hclosing
    rw [hclosing, takeItems?_closing] at h
    cases h
  · rw [h]
    rfl

theorem ofMembers_named (members : List (String × Json)) :
    ofMembers (members.map fun m => (some m.1, m.2)) = .object members := by
  have hmap : members.mapM (fun m => some (m.1, m.2)) = some members :=
    (mapM_eq_pure fun m _ => rfl).trans (congrArg some (List.map_id members))
  simp only [ofMembers, List.mapM_map, Function.comp_def, Option.map_some, hmap]

/-- An object is read if its members and their names are. -/
theorem takeValue?_object {members : List (String × Json)} {rest : List Char}
    (h : takeMembers? fuel cs = some (members.map fun m => (some m.1, m.2), rest)) :
    takeValue? (fuel + 1) ('\x7b' :: cs) = some (.object members, rest) := by
  rw [← takeMembers?_congr (skipBlanks_skipBlanks cs)] at h
  simp only [takeValue?, skipBlanks_here (c := '\x7b') rfl]
  split
  · rename_i hclosing
    rw [hclosing, takeMembers?_closing] at h
    cases h
  · rw [h, Option.map_some]
    exact congrArg (fun j => some (j, rest)) (ofMembers_named members)

end

/-! ## Lists of values -/

/-- A member as it is written in front of others. -/
def memberText (text : Json → List Char) (m : String × Json) : List Char :=
  (quote m.1).toList ++ ':' :: ' ' :: text m.2

theorem memberText_append (text : Json → List Char) (m : String × Json) (rest : List Char) :
    memberText text m ++ rest =
      '"' :: (m.1.toList.flatMap escapeChar ++ '"' :: ':' :: ' ' :: (text m.2 ++ rest)) := by
  simp [memberText, quote]

theorem length_le_memberText (text : Json → List Char) (m : String × Json) :
    (text m.2).length ≤ (memberText text m).length := by
  simp only [memberText, List.length_append, List.length_cons]
  omega

section
variable {margin last : List Char} (hmargin : IsMargin margin) (hlast : IsMargin last)
include hmargin hlast

/-- Items are read up to the closing bracket if each of them is. -/
theorem takeItems?_here {text : Json → List Char} {items : List Json} (hne : items ≠ [])
    (h : ∀ j ∈ items, Spells (text j) j) {fuel : Nat} (rest : List Char)
    (hfuel : ((',' :: margin).intercalate (items.map text)).length < fuel) :
    takeItems? fuel (margin ++ ((',' :: margin).intercalate (items.map text) ++
      (last ++ ']' :: rest))) = some (items, rest) := by
  obtain ⟨fuel, rfl⟩ := Nat.exists_eq_succ_of_ne_zero (Nat.ne_zero_of_lt hfuel)
  rw [takeItems?_congr (skipBlanks_margin hmargin _)]
  -- the margin in front of each further item is taken off as the first one has been
  induction items generalizing fuel with
  | nil => exact absurd rfl hne
  | cons j items ih =>
    obtain ⟨hj, hitems⟩ := List.forall_mem_cons.1 h
    cases items with
    | nil =>
      rw [List.map_singleton, List.intercalate_singleton] at hfuel ⊢
      simp only [takeItems?, hj fuel _ (Nat.le_of_lt_succ hfuel), Option.bind_eq_bind,
        Option.bind_some, skipBlanks_margin hlast, skipBlanks_here (c := ']') rfl]
      rfl
    | cons j' items =>
      have hsplit : (',' :: margin).intercalate ((j :: j' :: items).map text) =
          text j ++ ',' :: (margin ++ (',' :: margin).intercalate ((j' :: items).map text)) := by
        simp [List.intercalate_cons_cons]
      rw [hsplit] at hfuel ⊢
      simp only [List.length_append, List.length_cons] at hfuel
      obtain ⟨fuel, rfl⟩ := Nat.exists_eq_succ_of_ne_zero (show fuel ≠ 0 by omega)
      have hothers := ih (List.cons_ne_nil _ _) hitems fuel (by omega)
      rw [takeItems?, List.append_assoc, hj _ _ (by omega)]
      simp only [Option.bind_eq_bind, Option.bind_some, List.cons_append,
        skipBlanks_here (c := ',') rfl, takeItems?_congr (skipBlanks_margin hmargin _),
        List.append_assoc, hothers]
      rfl

/-- Members are read up to the closing brace if the value of each of them is. -/
theorem takeMembers?_here {text : Json → List Char} {members : List (String × Json)}
    (hne : members ≠ []) (h : ∀ m ∈ members, Spells (text m.2) m.2) {fuel : Nat}
    (rest : List Char)
    (hfuel : ((',' :: margin).intercalate (members.map (memberText text))).length < fuel) :
    takeMembers? fuel (margin ++ ((',' :: margin).intercalate (members.map (memberText text)) ++
      (last ++ '\x7d' :: rest))) = some (members.map fun m => (some m.1, m.2), rest) := by
  obtain ⟨fuel, rfl⟩ := Nat.exists_eq_succ_of_ne_zero (Nat.ne_zero_of_lt hfuel)
  rw [takeMembers?_congr (skipBlanks_margin hmargin _)]
  induction members generalizing fuel with
  | nil => exact absurd rfl hne
  | cons m members ih =>
    obtain ⟨hm, hmembers⟩ := List.forall_mem_cons.1 h
    have hvalue (tail : List Char) (hle : (text m.2).length ≤ fuel) :
        takeValue? fuel (' ' :: (text m.2 ++ tail)) = some (m.2, tail) := by
      rw [takeValue?_congr (skipBlanks_blank _)]
      exact hm fuel tail hle
    cases members with
    | nil =>
      rw [List.map_singleton, List.intercalate_singleton] at hfuel ⊢
      have hle := length_le_memberText text m
      simp only [takeMembers?, memberText_append, skipBlanks_here (c := '"') rfl,
        takeString?_text, Option.bind_eq_bind, Option.bind_some, skipBlanks_here (c := ':') rfl,
        hvalue _ (by omega), skipBlanks_margin hlast, skipBlanks_here (c := '\x7d') rfl]
      rfl
    | cons m' members =>
      have hsplit : (',' :: margin).intercalate ((m :: m' :: members).map (memberText text)) =
          memberText text m ++ ',' ::
            (margin ++ (',' :: margin).intercalate ((m' :: members).map (memberText text))) := by
        simp [List.intercalate_cons_cons]
      have hle := length_le_memberText text m
      rw [hsplit] at hfuel ⊢
      simp only [List.length_append, List.length_cons] at hfuel
      obtain ⟨fuel, rfl⟩ := Nat.exists_eq_succ_of_ne_zero (show fuel ≠ 0 by omega)
      have hothers := ih (List.cons_ne_nil _ _) hmembers fuel (by omega)
      rw [takeMembers?, List.append_assoc, memberText_append]
      simp only [skipBlanks_here (c := '"') rfl, takeString?_text, Option.bind_eq_bind,
        Option.bind_some, skipBlanks_here (c := ':') rfl, hvalue _ (by omega), List.cons_append,
        skipBlanks_here (c := ',') rfl, takeMembers?_congr (skipBlanks_margin hmargin _),
        List.append_assoc, hothers]
      rfl

end

/-! ## Texts over several lines -/

/-- Values without numbers. -/
inductive IsPlain : Json → Prop
  | null : IsPlain .null
  | bool (b : Bool) : IsPlain (.bool b)
  | string (s : String) : IsPlain (.string s)
  | array {items : List Json} : (∀ j ∈ items, IsPlain j) → IsPlain (.array items)
  | object {members : List (String × Json)} : (∀ m ∈ members, IsPlain m.2) →
      IsPlain (.object members)

theorem prettyAll_eq_map (indent : Nat) (items : List Json) :
    prettyAll indent items = items.map (toPretty indent) := by
  induction items with
  | nil => rfl
  | cons j items ih => rw [prettyAll, ih, List.map_cons]

theorem toList_prettyMembers (indent : Nat) (members : List (String × Json)) :
    (prettyMembers indent members).map String.toList =
      members.map (memberText fun j => (j.toPretty indent).toList) := by
  induction members with
  | nil => rfl
  | cons m members ih =>
    rw [prettyMembers, List.map_cons, ih, List.map_cons]
    simp [memberText]

/-- A text takes up some of the fuel. -/
theorem spells_of_succ {cs : List Char} {j : Json} (hne : cs ≠ [])
    (h : ∀ fuel rest, cs.length ≤ fuel + 1 → takeValue? (fuel + 1) (cs ++ rest) = some (j, rest)) :
    Spells cs j := by
  intro fuel rest hfuel
  have hpos := List.length_pos_iff.2 hne
  obtain ⟨fuel, rfl⟩ := Nat.exists_eq_succ_of_ne_zero (show fuel ≠ 0 by omega)
  exact h fuel rest hfuel

theorem spells_null (indent : Nat) : Spells (toPretty indent .null).toList .null := by
  have htext : (toPretty indent .null).toList = ['n', 'u', 'l', 'l'] := by
    rw [toPretty]
    rfl
  rw [htext]
  exact spells_of_succ (List.cons_ne_nil _ _) fun _ _ _ => rfl

theorem spells_bool (indent : Nat) (b : Bool) :
    Spells (toPretty indent (.bool b)).toList (.bool b) := by
  cases b with
  | false =>
    have htext : (toPretty indent (.bool false)).toList = ['f', 'a', 'l', 's', 'e'] := by
      rw [toPretty]
      rfl
    rw [htext]
    exact spells_of_succ (List.cons_ne_nil _ _) fun _ _ _ => rfl
  | true =>
    have htext : (toPretty indent (.bool true)).toList = ['t', 'r', 'u', 'e'] := by
      rw [toPretty]
      rfl
    rw [htext]
    exact spells_of_succ (List.cons_ne_nil _ _) fun _ _ _ => rfl

theorem spells_string (indent : Nat) (s : String) :
    Spells (toPretty indent (.string s)).toList (.string s) := by
  rw [toPretty, quote, String.toList_ofList]
  refine spells_of_succ (List.cons_ne_nil _ _) fun fuel rest _ => ?_
  simp only [List.cons_append, List.append_assoc, List.nil_append, takeValue?,
    skipBlanks_here (c := '"') rfl, takeString?_text, Option.map_some]
  rfl

/-- Texts between brackets spell a value if it is read from them with whatever white space between
them. -/
theorem spells_block {opening closing : String} {o c : Char} (ho : opening.toList = [o])
    (hc : closing.toList = [c]) (indent : Nat) {texts : List String} {j : Json}
    (hnone : texts = [] → ∀ fuel rest, takeValue? (fuel + 1) (o :: c :: rest) = some (j, rest))
    (hsome : texts ≠ [] → ∀ margin last, IsMargin margin → IsMargin last → ∀ fuel rest,
      ((',' :: margin).intercalate (texts.map String.toList)).length < fuel →
        takeValue? (fuel + 1) (o :: (margin ++ ((',' :: margin).intercalate
          (texts.map String.toList) ++ (last ++ c :: rest)))) = some (j, rest)) :
    Spells (block opening closing indent texts).toList j := by
  have hlines (n : Nat) : IsMargin ('\n' :: List.replicate n ' ') := by
    refine List.forall_mem_cons.2 ⟨rfl, fun c hc => ?_⟩
    rw [List.eq_of_mem_replicate hc]
    rfl
  -- without texts there are no lines between the brackets
  by_cases hempty : texts = []
  · have htext : (block opening closing indent texts).toList = [o, c] := by
      simp [block, hempty, ho, hc]
    rw [htext]
    exact spells_of_succ (List.cons_ne_nil _ _) fun fuel rest _ => hnone hempty fuel rest
  · obtain ⟨margin, hmargin, last, hlast, htext⟩ : ∃ margin, IsMargin margin ∧ ∃ last,
        IsMargin last ∧ (block opening closing indent texts).toList = o :: (margin ++
          ((',' :: margin).intercalate (texts.map String.toList) ++ (last ++ [c]))) := by
      refine ⟨_, hlines (2 * (indent + 1)), _, hlines (2 * indent), ?_⟩
      simp [block, hempty, ho, hc, String.toList_intercalate]
    rw [htext]
    refine spells_of_succ (List.cons_ne_nil _ _) fun fuel rest hfuel => ?_
    simp only [List.length_cons, List.length_append, List.length_nil] at hfuel
    simpa using hsome hempty margin last hmargin hlast fuel rest (by omega)

/-- An array is spelled by the texts of its items. -/
theorem spells_array {indent : Nat} {items : List Json}
    (h : ∀ j ∈ items, Spells (j.toPretty (indent + 1)).toList j) :
    Spells (toPretty indent (.array items)).toList (.array items) := by
  rw [toPretty, prettyAll_eq_map]
  refine spells_block rfl rfl indent (fun hnone fuel rest => ?_) fun hsome margin last hmargin
    hlast fuel rest hfuel => ?_
  · obtain rfl := List.map_eq_nil_iff.1 hnone
    rfl
  · rw [List.map_map] at hfuel ⊢
    exact takeValue?_array (takeItems?_here hmargin hlast (mt List.map_eq_nil_iff.2 hsome) h rest
      hfuel)

/-- An object is spelled by its names and the texts of their values. -/
theorem spells_object {indent : Nat} {members : List (String × Json)}
    (h : ∀ m ∈ members, Spells (m.2.toPretty (indent + 1)).toList m.2) :
    Spells (toPretty indent (.object members)).toList (.object members) := by
  rw [toPretty]
  refine spells_block rfl rfl indent (fun hnone fuel rest => ?_) fun hsome margin last hmargin
    hlast fuel rest hfuel => ?_
  · cases members with
    | nil => rfl
    | cons m members => cases hnone
  · rw [toList_prettyMembers] at hfuel ⊢
    have hne : members ≠ [] := by
      rintro rfl
      exact hsome rfl
    exact takeValue?_object (takeMembers?_here hmargin hlast hne h rest hfuel)

/-- A value without numbers is spelled by its text, at whatever level it stands. -/
theorem IsPlain.spells {j : Json} (h : j.IsPlain) (indent : Nat) :
    Spells (j.toPretty indent).toList j := by
  induction h generalizing indent with
  | null => exact spells_null indent
  | bool b => exact spells_bool indent b
  | string s => exact spells_string indent s
  | array _ ih => exact spells_array fun j hj => ih j hj (indent + 1)
  | object _ ih => exact spells_object fun m hm => ih m hm (indent + 1)

/-- **A value without numbers is read again from its text.** -/
theorem parse?_toPrettyText {j : Json} (h : j.IsPlain) : parse? j.toPrettyText = some j := by
  have hread := h.spells 0 (j.toPrettyText.toList.length + 1) [] (Nat.le_succ _)
  rw [List.append_nil] at hread
  unfold parse?
  rw [toPrettyText] at hread ⊢
  dsimp only
  rw [hread]
  rfl

end ContentQuery.Json
