import WhereClause.Proofs.JsonNumber

/-!
# JSON that was written reads back

The writer puts no white space between the parts of a value, so each reader meets the part it is
meant for.  Three things are lost: a number that is not finite is written as null, a value with
more levels of arrays and objects than the reader allows is refused, and a floating point number
with many digits may be read as a neighbour of it.  Of the last nothing is said here but when it
does not happen; it is left to a hypothesis about the numbers in the value.

Main definitions:

* `Json.levels`: how deep arrays and objects are nested in a value;
* `Json.reread`: the value with null for every number that is not finite;
* `Json.ReadsBack`: the text of a floating point number is read as the number;
* `Json.Fits`: the numbers in a value are read back;
* `Json.IsScalarText`: a text is read as a scalar, whatever stands behind it.

Main results:

* `Json.readString_escape`: the contents of a string read back;
* `Json.readsBack_of_short`: so do short numbers;
* `Json.readValue_compact`: **what was written reads back, unless it is nested too deep**;
* `Json.readList_compact`: the same for a text that holds one array;
* `Json.compact_reread`: what was read is written as the same text.
-/

set_option autoImplicit false

namespace WhereClause.Json

/-! ### Strings -/

theorem readString_escaped {c : Char} {s t : Text} (h : readEscape s = .ok (c, t))
    (hlength : t.length ≤ s.length) :
    readString ('\\' :: s) = (readString t).map fun (body, rest) => (c :: body, rest) := by
  rw [readString, if_neg (by decide), if_pos rfl, h]
  dsimp only
  rw [if_pos hlength]

/-- The numeral of a control character fills four places. -/
theorem control_numeral : ∀ n < 32,
    Text.padStart '0' 4 (Text.hexNumeral n) =
        ['0', '0', Nat.digitChar (n / 16), Nat.digitChar (n % 16)] ∧
      Text.byteLength ['0', '0', Nat.digitChar (n / 16), Nat.digitChar (n % 16)] = 4 ∧
      Numeral.ofHex? ['0', '0', Nat.digitChar (n / 16), Nat.digitChar (n % 16)] = some n := by
  decide

theorem readEscape_control {n : Nat} (h : n < 32) (s : Text) :
    readEscape ('u' :: (Text.padStart '0' 4 (Text.hexNumeral n) ++ s)) =
      .ok (Char.ofNat n, s) := by
  obtain ⟨hnumeral, hlength, hvalue⟩ := control_numeral n h
  have hhex : readHex ('0' :: '0' :: Nat.digitChar (n / 16) :: Nat.digitChar (n % 16) :: s) =
      .ok (n, s) := by
    have hlong : ¬Text.byteLength
        (('0' :: '0' :: Nat.digitChar (n / 16) :: Nat.digitChar (n % 16) :: s).take 4) < 4 := by
      rw [List.take_succ_cons, List.take_succ_cons, List.take_succ_cons, List.take_succ_cons,
        List.take_zero, hlength]
      decide
    rw [readHex, if_neg hlong]
    simp only [hvalue]
  simp only [hnumeral, List.cons_append, List.nil_append]
  rw [readEscape, readCodePoint, hhex, ok_bind]
  dsimp only
  rw [if_neg (by omega), if_neg (by omega)]
  rfl

/-- One character reads back. -/
theorem readString_escapeChar (c : Char) (s : Text) :
    readString (escapeChar c ++ s) =
      (readString s).map fun (body, rest) => (c :: body, rest) := by
  unfold escapeChar
  -- the seven characters with an escape of their own, the other control characters, all else
  split_ifs with hquote hslash hback hform hline hreturn htab hcontrol
  · subst hquote
    exact readString_escaped rfl (Nat.le_succ _)
  · subst hslash
    exact readString_escaped rfl (Nat.le_succ _)
  · subst hback
    exact readString_escaped rfl (Nat.le_succ _)
  · subst hform
    exact readString_escaped rfl (Nat.le_succ _)
  · subst hline
    exact readString_escaped rfl (Nat.le_succ _)
  · subst hreturn
    exact readString_escaped rfl (Nat.le_succ _)
  · subst htab
    exact readString_escaped rfl (Nat.le_succ _)
  · have hescape := readEscape_control hcontrol s
    rw [Char.ofNat_toNat] at hescape
    refine readString_escaped hescape ?_
    change s.length ≤ ('u' :: (Text.padStart '0' 4 (Text.hexNumeral c.toNat) ++ s)).length
    rw [List.length_cons, List.length_append]
    omega
  · rw [List.cons_append, List.nil_append, readString, if_neg hquote, if_neg hslash,
      if_neg hcontrol]

/-- The contents of a string read back. -/
theorem readString_escape (s rest : Text) :
    readString (escape s ++ '"' :: rest) = .ok (s, rest) := by
  induction s with
  | nil => rw [escape, List.flatMap_nil, List.nil_append, readString, if_pos rfl]
  | cons c s ih =>
      rw [escape, List.flatMap_cons, List.append_assoc, readString_escapeChar, ← escape, ih]
      rfl

/-! ### Scalars -/

/-- Holds of the characters that a scalar begins with. -/
def opensScalar (c : Char) : Bool :=
  c == 'n' || c == 't' || c == 'f' || c == '"' || c == '-' || c.isDigit

theorem opensScalar_spec {c : Char} (h : opensScalar c = true) :
    isGap c = false ∧ c ≠ '[' ∧ c ≠ '\x7b' ∧ c ≠ ']' := by
  refine ⟨?_, ?_, ?_, ?_⟩
  · by_contra hgap
    simp only [Bool.not_eq_false, isGap, Bool.or_eq_true, beq_iff_eq] at hgap
    rcases hgap with ((rfl | rfl) | rfl) | rfl <;> exact absurd h (by decide)
  all_goals
    rintro rfl
    exact absurd h (by decide)

/-- The text is read as the scalar `j`, whatever stands behind it, if only it does not go on like a
number. -/
def IsScalarText (s : Text) (j : Json) : Prop :=
  ∃ c t, s = c :: t ∧ opensScalar c = true ∧
    ∀ rest, Stops isNumberChar rest → readScalar c (t ++ rest) = .ok (j, rest)

theorem isScalarText_null : IsScalarText "null" null :=
  ⟨'n', "ull", rfl, rfl, fun _ _ => rfl⟩

theorem isScalarText_true : IsScalarText "true" (bool true) :=
  ⟨'t', "rue", rfl, rfl, fun _ _ => rfl⟩

theorem isScalarText_false : IsScalarText "false" (bool false) :=
  ⟨'f', "alse", rfl, rfl, fun _ _ => rfl⟩

theorem isScalarText_quote (s : Text) : IsScalarText (quote s) (string s) := by
  refine ⟨'"', escape s ++ ['"'], rfl, rfl, fun rest _ => ?_⟩
  have hread := readString_escape s rest
  rw [readScalar, if_neg (by decide), if_neg (by decide), if_neg (by decide), if_pos rfl,
    List.append_assoc, List.singleton_append, hread]
  rfl

/-- A number is handed on to the reader of numbers. -/
theorem readScalar_withSign (negative : Bool) {s : Text} {d : Char} (hhead : s.head? = some d)
    (hd : d.isDigit = true) :
    ∃ c t, Binary64.withSign negative s = c :: t ∧ opensScalar c = true ∧
      ∀ rest, readScalar c (t ++ rest) = readNumber negative (s ++ rest) := by
  cases negative with
  | true =>
      refine ⟨'-', s, rfl, rfl, fun rest => ?_⟩
      rw [readScalar, if_neg (by decide), if_neg (by decide), if_neg (by decide),
        if_neg (by decide), if_pos rfl]
  | false =>
      obtain ⟨t, rfl⟩ := List.head?_eq_some_iff.1 hhead
      have hne : d ≠ 'n' ∧ d ≠ 't' ∧ d ≠ 'f' ∧ d ≠ '"' ∧ d ≠ '-' := by
        refine ⟨?_, ?_, ?_, ?_, ?_⟩ <;> (rintro rfl; exact absurd hd (by decide))
      obtain ⟨hn, ht, hf, hquote, hminus⟩ := hne
      refine ⟨d, t, rfl, by simp [opensScalar, hd], fun rest => ?_⟩
      rw [readScalar, if_neg hn, if_neg ht, if_neg hf, if_neg hquote, if_neg hminus, if_pos hd,
        List.cons_append]

theorem isScalarText_withSign {negative : Bool} {s : Text} {j : Json} {d : Char}
    (hhead : s.head? = some d) (hd : d.isDigit = true)
    (hread : ∀ rest, Stops isNumberChar rest → readNumber negative (s ++ rest) = .ok (j, rest)) :
    IsScalarText (Binary64.withSign negative s) j := by
  obtain ⟨c, t, htext, hc, hscalar⟩ := readScalar_withSign negative hhead hd
  exact ⟨c, t, htext, hc, fun rest hrest => (hscalar rest).trans (hread rest hrest)⟩

theorem head?_isDigit {s : Text} (h : IsDigits s) : ∃ d, s.head? = some d ∧ d.isDigit = true := by
  obtain ⟨d, t, rfl⟩ := List.exists_cons_of_ne_nil h.1
  exact ⟨d, rfl, h.2 d (by simp)⟩

/-! ### Floating point numbers -/

theorem skipGap_cons {c : Char} (s : Text) (h : isGap c = false) : skipGap (c :: s) = c :: s :=
  dropWhile_of_stops (by simpa using h)

/-- A value that begins with the character `c` is read by the reader for it. -/
theorem readValue_zero {c : Char} (t : Text) (hgap : isGap c = false) :
    readValue 0 (c :: t) = readScalar c t := by
  have hskip := skipGap_cons t hgap
  unfold readValue
  rw [hskip]

/-- The text that is written for the number is read as the number.  It is not for every finite
number, as reading rounds more than once. -/
def ReadsBack (x : Binary64) : Prop :=
  readValue 0 (compact (float x)) = .ok (float x, [])

section ReadingBack

variable {negative : Bool} {m : Magnitude}

theorem head?_parts (p : NumberParts) : ∃ d, p.text.head? = some d ∧ d.isDigit = true := by
  obtain ⟨d, hhead, hd⟩ := head?_isDigit p.whole_digits
  refine ⟨d, ?_, hd⟩
  rw [NumberParts.text, List.append_assoc, List.head?_append_of_ne_nil _ p.whole_digits.1, hhead]

/-- A number is read back if the parts of its text are read as its magnitude. -/
theorem readsBack_iff {p : NumberParts} (htext : p.text = (m.shortest .even).pointed (-5) ['+']) :
    ReadsBack (.finite negative m) ↔ p.magnitude? = some m := by
  obtain ⟨d, hhead, hd⟩ := head?_parts p
  obtain ⟨c, t, hsigned, hc, hscalar⟩ := readScalar_withSign negative hhead hd
  have hcompact : compact (float (.finite negative m)) = c :: t := by
    rw [← hsigned, htext]
    rfl
  have hread := hscalar []
  rw [List.append_nil, readNumber_parts negative p stops_nil] at hread
  rw [ReadsBack, hcompact, readValue_zero t (opensScalar_spec hc).1, hread]
  cases p.magnitude? with
  | none => simp [ofMagnitude, Except.map]
  | some n => simp [ofMagnitude, Except.map]

/-- A short number is read back: its digits, with one zero more than its exponent has, fit 53
bits, and its exponent is not far from zero. -/
theorem readsBack_of_short {d : Decimal} (hshortest : m.shortest .even = d)
    (hdigits : d.digits * 10 ^ (d.exponent.toNat + 1) < 9007199254740992)
    (hexponent : d.exponent.natAbs ≤ 22) : ReadsBack (.finite negative m) := by
  obtain ⟨p, htext, hdecimal⟩ := exists_parts (Magnitude.shortest_exponent .even m)
  rw [readsBack_iff htext, ← Magnitude.ofDecimal?_shortest .even m]
  rw [hshortest] at hdecimal ⊢
  rcases hdecimal with hdecimal | ⟨k, hk, hexponent', hdecimal⟩
  · rw [← hdecimal] at hdigits hexponent ⊢
    have hpow : 0 < 10 ^ (p.decimal.exponent.toNat + 1) := Nat.pow_pos (by decide)
    exact magnitude?_eq_nearest (Nat.lt_of_le_of_lt (Nat.le_mul_of_pos_right _ hpow) hdigits)
      hexponent
  · obtain ⟨n, e⟩ := d
    obtain rfl : e = (k : Int) := hexponent'
    rw [Int.toNat_natCast] at hdigits
    rw [← Magnitude.ofDecimal?_appendZeros hk, ← hdecimal]
    refine magnitude?_eq_nearest ?_ ?_
    · rw [hdecimal]
      exact hdigits
    · rw [hdecimal]
      exact (by decide : (-1 : Int).natAbs ≤ 22)

/-- The number with the text `968.0488278733529` is read as its lower neighbour: its digits take 54
bits, and they are rounded before they are divided. -/
example : ¬ReadsBack (.finite false ⟨8515047540013433, 1031, by decide, by decide, by decide⟩) := by
  let p : NumberParts :=
    ⟨"968", some "0488278733529", none, by simp [IsDigits], by simp [IsDigits], by simp, by simp⟩
  rw [readsBack_iff (p := p) (by decide +kernel)]
  decide +kernel

/-- A finite number that is read back is so in front of other text; any other number is null. -/
theorem isScalarText_float {x : Binary64} (h : x.isFinite = true → ReadsBack x) :
    IsScalarText (floatText x) (if x.isFinite then float x else null) := by
  cases x with
  | nan => exact isScalarText_null
  | infinite negative => exact isScalarText_null
  | finite negative m =>
      obtain ⟨p, htext, -⟩ := exists_parts (Magnitude.shortest_exponent .even m)
      obtain ⟨d, hhead, hd⟩ := head?_parts p
      rw [htext] at hhead
      refine isScalarText_withSign hhead hd fun rest hrest => ?_
      rw [← htext, readNumber_parts negative p hrest, (readsBack_iff htext).1 (h rfl)]
      rfl

end ReadingBack

/-- A whole number of 64 bits, with or without a sign, reads back. -/
theorem isScalarText_int {n : Int} (hmin : -9223372036854775808 ≤ n)
    (hmax : n < 18446744073709551616) : IsScalarText (Numeral.ofInt n) (int n) := by
  obtain ⟨d, hhead, hd⟩ := head?_isDigit (isDigits_ofNat n.natAbs)
  have htext : Numeral.ofInt n = Binary64.withSign (decide (n < 0)) (Numeral.ofNat n.natAbs) := by
    unfold Numeral.ofInt Binary64.withSign
    simp only [decide_eq_true_eq]
  rw [htext]
  refine isScalarText_withSign hhead hd fun rest hrest => ?_
  rw [readNumber_ofNat _ _ hrest, ofInteger, Numeral.toNat_ofNat]
  by_cases hneg : n < 0
  · have hn : -(n.natAbs : Int) = n := by omega
    rw [if_pos ⟨decide_eq_true hneg, by omega, by omega⟩, hn]
    rfl
  · have hn : (n.natAbs : Int) = n := by omega
    have hsign : ¬decide (n < 0) = true := by simpa using hneg
    rw [if_neg (fun h => hsign h.1), if_pos ⟨hsign, by omega⟩, hn]
    rfl

/-! ### Values -/

mutual

/-- How deep arrays and objects are nested in the value. -/
def levels : Json → Nat
  | null => 0
  | bool _ => 0
  | int _ => 0
  | float _ => 0
  | string _ => 0
  | array items => levelsItems items + 1
  | object members => levelsMembers members + 1

def levelsItems : List Json → Nat
  | [] => 0
  | item :: items => max (levels item) (levelsItems items)

def levelsMembers : List (Text × Json) → Nat
  | [] => 0
  | (_, value) :: members => max (levels value) (levelsMembers members)

end

mutual

/-- The value with null for every number that is not finite. -/
def reread : Json → Json
  | null => null
  | bool b => bool b
  | int n => int n
  | float x => if x.isFinite then float x else null
  | string s => string s
  | array items => array (rereadItems items)
  | object members => object (rereadMembers members)

def rereadItems : List Json → List Json
  | [] => []
  | item :: items => reread item :: rereadItems items

def rereadMembers : List (Text × Json) → List (Text × Json)
  | [] => []
  | (key, value) :: members => (key, reread value) :: rereadMembers members

end

theorem rereadItems_eq_map (items : List Json) : rereadItems items = items.map reread := by
  induction items with
  | nil => rw [rereadItems, List.map_nil]
  | cons item items ih => rw [rereadItems, List.map_cons, ih]

theorem rereadMembers_eq_map (members : List (Text × Json)) :
    rereadMembers members = members.map fun (key, value) => (key, reread value) := by
  induction members with
  | nil => rw [rereadMembers, List.map_nil]
  | cons member members ih => rw [rereadMembers, List.map_cons, ih]

/-- The whole numbers in the value fit 64 bits, with or without a sign, and its floating point
numbers are read back as far as they are finite. -/
inductive Fits : Json → Prop
  | null : Fits null
  | bool (b : Bool) : Fits (bool b)
  | int {n : Int} (hmin : -9223372036854775808 ≤ n) (hmax : n < 18446744073709551616) :
      Fits (int n)
  | float {x : Binary64} (h : x.isFinite = true → ReadsBack x) : Fits (float x)
  | string (s : Text) : Fits (string s)
  | array {items : List Json} (h : ∀ item ∈ items, Fits item) : Fits (array items)
  | object {members : List (Text × Json)} (h : ∀ member ∈ members, Fits member.2) :
      Fits (object members)

theorem compact_array (items : List Json) :
    compact (array items) = '[' :: (compactItems items ++ [']']) := rfl

theorem compact_object (members : List (Text × Json)) :
    compact (object members) = '\x7b' :: (compactMembers members ++ ['\x7d']) := rfl

theorem exists_cons_compact {j : Json} (h : Fits j) :
    ∃ c t, compact j = c :: t ∧ isGap c = false ∧ c ≠ ']' := by
  have hscalar : ∀ {s : Text} {k : Json}, IsScalarText s k →
      ∃ c t, s = c :: t ∧ isGap c = false ∧ c ≠ ']' := by
    rintro s k ⟨c, t, hs, hc, -⟩
    exact ⟨c, t, hs, (opensScalar_spec hc).1, (opensScalar_spec hc).2.2.2⟩
  cases h with
  | null => exact hscalar isScalarText_null
  | bool b =>
      cases b with
      | true => exact hscalar isScalarText_true
      | false => exact hscalar isScalarText_false
  | int hmin hmax => exact hscalar (isScalarText_int hmin hmax)
  | float h => exact hscalar (isScalarText_float h)
  | string s => exact hscalar (isScalarText_quote s)
  | array _ => exact ⟨'[', _, rfl, rfl, by decide⟩
  | object _ => exact ⟨'\x7b', _, rfl, rfl, by decide⟩

theorem readValue_succ {c : Char} (n : Nat) (t : Text) (hgap : isGap c = false) :
    readValue (n + 1) (c :: t) =
      if c = '[' then readArray (readValue n) t
      else if c = '\x7b' then readObject (readValue n) t
      else readScalar c t := by
  have hskip := skipGap_cons t hgap
  conv => lhs; unfold readValue
  rw [hskip]

theorem readValue_scalar {s : Text} {j : Json} (h : IsScalarText s j) (n : Nat) {rest : Text}
    (hrest : Stops isNumberChar rest) : readValue n (s ++ rest) = .ok (j, rest) := by
  obtain ⟨c, t, rfl, hc, hread⟩ := h
  obtain ⟨hgap, hbracket, hbrace, -⟩ := opensScalar_spec hc
  rw [List.cons_append]
  cases n with
  | zero => rw [readValue_zero _ hgap, hread rest hrest]
  | succ n => rw [readValue_succ n _ hgap, if_neg hbracket, if_neg hbrace, hread rest hrest]

theorem length_lt_append_cons (s t : Text) (c : Char) : t.length < (s ++ c :: t).length := by
  rw [List.length_append, List.length_cons]
  omega

section Items

variable {read : Text → Except Fault (Json × Text)} {n : Nat}

/-- The reader reads written values of up to `n` levels, and refuses those of more. -/
def ReadsUpTo (n : Nat) (read : Text → Except Fault (Json × Text)) (j : Json) : Prop :=
  ∀ rest, Stops isNumberChar rest → read (compact j ++ rest) =
    if levels j ≤ n then .ok (reread j, rest) else .error .malformed

theorem readItems_last {s rest : Text} {j : Json} (h : read s = .ok (j, ']' :: rest)) :
    readItems read s = ([j], .ok rest) := by
  rw [readItems, h]
  rfl

theorem readItems_next {s rest : Text} {j : Json} (h : read s = .ok (j, ',' :: rest))
    (hlength : rest.length < s.length) :
    readItems read s = (j :: (readItems read rest).1, (readItems read rest).2) := by
  rw [readItems, h]
  change (if rest.length < s.length then _ else _) = _
  rw [if_pos hlength]

theorem compactItems_cons {item : Json} {items : List Json} (h : items ≠ []) :
    compactItems (item :: items) = compact item ++ ',' :: compactItems items := by
  rw [compactItems]
  exact h

/-- The items of an array read back up to the first one that is nested too deep. -/
theorem readItems_compact {items : List Json} (hne : items ≠ [])
    (hread : ∀ item ∈ items, ReadsUpTo n read item) (rest : Text) :
    (readItems read (compactItems items ++ ']' :: rest)).2 =
        (if levelsItems items ≤ n then .ok rest else .error .malformed) ∧
      (levelsItems items ≤ n →
        (readItems read (compactItems items ++ ']' :: rest)).1 = rereadItems items) := by
  induction items with
  | nil => exact absurd rfl hne
  | cons item items ih =>
      have hitem := hread item (by simp)
      rw [levelsItems, rereadItems]
      -- the writer puts a comma only in front of a further item
      cases items with
      | nil =>
          have hlast := hitem (']' :: rest) (by simp [isNumberChar])
          rw [compactItems, levelsItems, rereadItems, Nat.max_zero]
          split
          · rename_i hle
            rw [if_pos hle] at hlast
            rw [readItems_last hlast]
            exact ⟨rfl, fun _ => rfl⟩
          · rename_i hdeep
            rw [if_neg hdeep] at hlast
            rw [readItems, hlast]
            exact ⟨rfl, fun hle => absurd hle hdeep⟩
      | cons second items =>
          obtain ⟨houtcome, hvalues⟩ := ih (by simp) fun x hx => hread x (List.mem_cons_of_mem _ hx)
          have hnext := hitem (',' :: (compactItems (second :: items) ++ ']' :: rest))
            (by simp [isNumberChar])
          rw [compactItems_cons (by simp), List.append_assoc, List.cons_append]
          by_cases hle : levels item ≤ n
          · rw [if_pos hle] at hnext
            simp only [readItems_next hnext (length_lt_append_cons _ _ _), houtcome, Nat.max_le,
              hle, true_and]
            exact fun h => by rw [hvalues h]
          · rw [if_neg hle] at hnext
            rw [readItems, hnext]
            simp only [Nat.max_le, hle, false_and, if_false, false_implies, and_self]

theorem readKey_quote (key rest : Text) : readKey (quote key ++ ':' :: rest) = .ok (key, rest) := by
  have hquote : quote key ++ ':' :: rest = '"' :: (escape key ++ '"' :: ':' :: rest) := by
    simp [quote]
  rw [hquote, readKey, skipGap_cons _ (by decide), expect, if_pos rfl, ok_bind,
    readString_escape, ok_bind]
  rfl

theorem compactMembers_cons {key : Text} {value : Json} {members : List (Text × Json)}
    (h : members ≠ []) :
    compactMembers ((key, value) :: members) =
      quote key ++ ':' :: compact value ++ ',' :: compactMembers members := by
  rw [compactMembers]
  exact h

theorem readMembers_last {key s rest : Text} {j : Json} (h : read s = .ok (j, '\x7d' :: rest)) :
    readMembers read (quote key ++ ':' :: s) = .ok ([(key, j)], rest) := by
  rw [readMembers, readKey_quote]
  dsimp only
  rw [h]
  rfl

theorem readMembers_next {key s rest : Text} {j : Json} (h : read s = .ok (j, ',' :: rest))
    (hlength : rest.length < s.length) :
    readMembers read (quote key ++ ':' :: s) =
      (readMembers read rest).map fun (members, rest) => ((key, j) :: members, rest) := by
  have hlength : rest.length < (quote key ++ ':' :: s).length :=
    Nat.lt_trans hlength (length_lt_append_cons _ _ _)
  rw [readMembers, readKey_quote]
  dsimp only
  rw [h]
  change (if rest.length < (quote key ++ ':' :: s).length then _ else _) = _
  rw [if_pos hlength]

theorem readMembers_error {key s : Text} {e : Fault} (h : read s = .error e) :
    readMembers read (quote key ++ ':' :: s) = .error e := by
  rw [readMembers, readKey_quote]
  dsimp only
  rw [h]

/-- The members of an object read back unless one of them is nested too deep. -/
theorem readMembers_compact {members : List (Text × Json)} (hne : members ≠ [])
    (hread : ∀ member ∈ members, ReadsUpTo n read member.2) (rest : Text) :
    readMembers read (compactMembers members ++ '\x7d' :: rest) =
      if levelsMembers members ≤ n then .ok (rereadMembers members, rest)
      else .error .malformed := by
  induction members with
  | nil => exact absurd rfl hne
  | cons member members ih =>
      obtain ⟨key, value⟩ := member
      have hvalue : ReadsUpTo n read value := hread (key, value) (by simp)
      rw [levelsMembers, rereadMembers]
      cases members with
      | nil =>
          have hlast := hvalue ('\x7d' :: rest) (by simp [isNumberChar])
          rw [compactMembers, levelsMembers, rereadMembers, Nat.max_zero, List.append_assoc,
            List.cons_append]
          by_cases hle : levels value ≤ n
          · rw [if_pos hle] at hlast ⊢
            rw [readMembers_last hlast]
          · rw [if_neg hle] at hlast ⊢
            rw [readMembers_error hlast]
      | cons second members =>
          have htail := ih (by simp) fun x hx => hread x (List.mem_cons_of_mem _ hx)
          have hnext := hvalue (',' :: (compactMembers (second :: members) ++ '\x7d' :: rest))
            (by simp [isNumberChar])
          rw [compactMembers_cons (by simp), List.append_assoc, List.append_assoc,
            List.cons_append, List.cons_append]
          by_cases hle : levels value ≤ n
          · rw [if_pos hle] at hnext
            rw [readMembers_next hnext (length_lt_append_cons _ _ _), htail]
            simp only [Nat.max_le, hle, true_and]
            split <;> rfl
          · rw [if_neg hle] at hnext
            rw [readMembers_error hnext, if_neg (fun h => hle (Nat.max_le.1 h).1)]

end Items

/-- The items of an array do not begin like the end of one. -/
theorem exists_cons_compactItems {items : List Json} (hne : items ≠ [])
    (h : ∀ item ∈ items, Fits item) :
    ∃ c t, compactItems items = c :: t ∧ isGap c = false ∧ c ≠ ']' := by
  obtain ⟨item, items, rfl⟩ := List.exists_cons_of_ne_nil hne
  obtain ⟨c, t, htext, hc⟩ := exists_cons_compact (h item (by simp))
  cases items with
  | nil => exact ⟨c, t, by rw [compactItems, htext], hc⟩
  | cons second items =>
      exact ⟨c, t ++ ',' :: compactItems (second :: items),
        by rw [compactItems_cons (by simp), htext, List.cons_append], hc⟩

theorem readArray_items (read : Text → Except Fault (Json × Text)) {c : Char} (t : Text)
    (hgap : isGap c = false) (hc : c ≠ ']') :
    readArray read (c :: t) =
      match readItems read (c :: t) with
      | (items, .ok rest) => .ok (array items, rest)
      | (_, .error e) => .error e := by
  unfold readArray
  rw [skipGap_cons t hgap]
  split
  · rename_i heq
    exact absurd (List.cons.inj heq).1 hc
  · rfl

theorem readArray_compact {read : Text → Except Fault (Json × Text)} {n : Nat}
    {items : List Json} (h : ∀ item ∈ items, Fits item)
    (hread : ∀ item ∈ items, ReadsUpTo n read item) (rest : Text) :
    readArray read (compactItems items ++ ']' :: rest) =
      if levelsItems items ≤ n then .ok (array (rereadItems items), rest)
      else .error .malformed := by
  rcases eq_or_ne items [] with rfl | hne
  · rw [levelsItems, if_pos (Nat.zero_le _)]
    rfl
  · obtain ⟨c, t, htext, hgap, hc⟩ := exists_cons_compactItems hne h
    obtain ⟨houtcome, hvalues⟩ := readItems_compact hne hread rest
    rw [htext, List.cons_append] at houtcome hvalues ⊢
    rw [readArray_items read _ hgap hc]
    generalize readItems read (c :: (t ++ ']' :: rest)) = found at houtcome hvalues ⊢
    obtain ⟨values, outcome⟩ := found
    simp only at houtcome hvalues
    by_cases hle : levelsItems items ≤ n
    · rw [if_pos hle] at houtcome ⊢
      rw [houtcome, hvalues hle]
    · rw [if_neg hle] at houtcome ⊢
      rw [houtcome]

theorem readObject_compact {read : Text → Except Fault (Json × Text)} {n : Nat}
    {members : List (Text × Json)} (hread : ∀ member ∈ members, ReadsUpTo n read member.2)
    (rest : Text) :
    readObject read (compactMembers members ++ '\x7d' :: rest) =
      if levelsMembers members ≤ n then .ok (object (rereadMembers members), rest)
      else .error .malformed := by
  cases members with
  | nil =>
      rw [levelsMembers, if_pos (Nat.zero_le _)]
      rfl
  | cons member members =>
      have hmembers := readMembers_compact (by simp) hread rest
      obtain ⟨t, htext⟩ : ∃ t, compactMembers (member :: members) = '"' :: t := by
        cases members with
        | nil => exact ⟨_, by rw [compactMembers, quote]; rfl⟩
        | cons second members => exact ⟨_, by rw [compactMembers_cons (by simp), quote]; rfl⟩
      rw [htext, List.cons_append] at hmembers ⊢
      unfold readObject
      rw [skipGap_cons _ (by decide)]
      split
      · rename_i heq
        exact absurd (List.cons.inj heq).1 (by decide)
      · rw [hmembers]
        split <;> rfl

theorem readsUpTo_scalar {j : Json} (n : Nat) (hlevels : levels j = 0)
    (h : IsScalarText (compact j) (reread j)) : ReadsUpTo n (readValue n) j := by
  intro rest hrest
  rw [readValue_scalar h n hrest, hlevels, if_pos (Nat.zero_le n)]

/-- What was written reads back, unless it is nested too deep. -/
theorem readValue_compact {j : Json} (h : Fits j) (n : Nat) : ReadsUpTo n (readValue n) j := by
  induction h generalizing n with
  | null =>
      refine readsUpTo_scalar n (by rw [levels]) ?_
      rw [reread]
      exact isScalarText_null
  | bool b =>
      refine readsUpTo_scalar n (by rw [levels]) ?_
      rw [reread]
      cases b with
      | true => exact isScalarText_true
      | false => exact isScalarText_false
  | int hmin hmax =>
      refine readsUpTo_scalar n (by rw [levels]) ?_
      rw [reread]
      exact isScalarText_int hmin hmax
  | float h =>
      refine readsUpTo_scalar n (by rw [levels]) ?_
      rw [reread]
      exact isScalarText_float h
  | string s =>
      refine readsUpTo_scalar n (by rw [levels]) ?_
      rw [reread]
      exact isScalarText_quote s
  | @array items hitems ih =>
      intro rest hrest
      have htext : compact (array items) ++ rest = '[' :: (compactItems items ++ ']' :: rest) := by
        simp [compact_array]
      rw [htext, levels, reread]
      -- without a level left the bracket is taken for the beginning of a scalar
      cases n with
      | zero => rw [readValue_zero _ (by decide), if_neg (by omega)]; rfl
      | succ n =>
          rw [readValue_succ n _ (by decide), if_pos rfl,
            readArray_compact hitems (fun item hitem => ih item hitem n) rest]
          simp only [Nat.add_le_add_iff_right]
  | @object members hmembers ih =>
      intro rest hrest
      have htext : compact (object members) ++ rest =
          '\x7b' :: (compactMembers members ++ '\x7d' :: rest) := by
        simp [compact_object]
      rw [htext, levels, reread]
      cases n with
      | zero => rw [readValue_zero _ (by decide), if_neg (by omega)]; rfl
      | succ n =>
          rw [readValue_succ n _ (by decide), if_neg (by decide), if_pos rfl,
            readObject_compact (fun member hmember => ih member hmember n) rest]
          simp only [Nat.add_le_add_iff_right]

/-- The text of an array reads back item by item, unless it is nested too deep. -/
theorem readList_compact {items : List Json} (h : ∀ item ∈ items, Fits item) :
    (readList (compactItems items ++ "]".toList)).2 =
        (if levelsItems items < maxDepth then .ok () else .error .malformed) ∧
      (levelsItems items < maxDepth →
        (readList (compactItems items ++ "]".toList)).1 = rereadItems items) := by
  rcases eq_or_ne items [] with rfl | hne
  · exact ⟨rfl, fun _ => rfl⟩
  · obtain ⟨c, t, htext, hgap, hc⟩ := exists_cons_compactItems hne h
    obtain ⟨houtcome, hvalues⟩ := readItems_compact hne
      (fun item hitem => readValue_compact (h item hitem) (maxDepth - 1)) []
    have hlist : readList (compactItems items ++ "]".toList) =
        match readItems (readValue (maxDepth - 1)) (compactItems items ++ [']']) with
        | (items, .ok rest) => (items, finish rest)
        | (items, .error e) => (items, .error e) := by
      change readList (compactItems items ++ [']']) = _
      unfold readList
      rw [htext, List.cons_append, skipGap_cons _ hgap]
      split
      · rename_i heq
        exact absurd (List.cons.inj heq).1 hc
      · rfl
    rw [hlist]
    generalize readItems (readValue (maxDepth - 1)) (compactItems items ++ [']']) = found
      at houtcome hvalues ⊢
    obtain ⟨values, outcome⟩ := found
    have hdepth : levelsItems items ≤ maxDepth - 1 ↔ levelsItems items < maxDepth := by
      unfold maxDepth
      omega
    simp only [hdepth] at houtcome hvalues
    by_cases hle : levelsItems items < maxDepth
    · rw [if_pos hle] at houtcome ⊢
      rw [houtcome, hvalues hle]
      exact ⟨rfl, fun _ => rfl⟩
    · rw [if_neg hle] at houtcome ⊢
      rw [houtcome]
      exact ⟨rfl, fun h => absurd h hle⟩

/-! ### Writing again -/

theorem compactItems_reread {items : List Json}
    (h : ∀ item ∈ items, compact (reread item) = compact item) :
    compactItems (rereadItems items) = compactItems items := by
  induction items with
  | nil => rw [rereadItems]
  | cons item items ih =>
      have hitems := ih fun other hother => h other (List.mem_cons_of_mem _ hother)
      cases items with
      | nil => rw [rereadItems, rereadItems, compactItems, compactItems, h item (by simp)]
      | cons second items =>
          have hne : rereadItems (second :: items) ≠ [] := by simp [rereadItems]
          rw [rereadItems, compactItems_cons hne, compactItems_cons (List.cons_ne_nil _ _), hitems,
            h item (by simp)]

theorem compactMembers_reread {members : List (Text × Json)}
    (h : ∀ member ∈ members, compact (reread member.2) = compact member.2) :
    compactMembers (rereadMembers members) = compactMembers members := by
  induction members with
  | nil => rw [rereadMembers]
  | cons member members ih =>
      obtain ⟨key, value⟩ := member
      have hvalue := h (key, value) (by simp)
      have hmembers := ih fun other hother => h other (List.mem_cons_of_mem _ hother)
      cases members with
      | nil => rw [rereadMembers, rereadMembers, compactMembers, compactMembers, hvalue]
      | cons second members =>
          have hne : rereadMembers (second :: members) ≠ [] := by simp [rereadMembers]
          rw [rereadMembers, compactMembers_cons hne, compactMembers_cons (List.cons_ne_nil _ _),
            hmembers, hvalue]

/-- Null is written for a number that is not finite in any case. -/
theorem compact_reread {j : Json} (h : Fits j) : compact (reread j) = compact j := by
  induction h with
  | @float x _ =>
      rw [reread]
      cases x with
      | finite negative m => rfl
      | _ => rfl
  | array _ ih => rw [reread, compact_array, compact_array, compactItems_reread ih]
  | object _ ih => rw [reread, compact_object, compact_object, compactMembers_reread ih]
  | _ => rw [reread]

end WhereClause.Json
