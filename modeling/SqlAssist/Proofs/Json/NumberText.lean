import SqlAssist.Json.Printer
import SqlAssist.Json.Reader
import SqlAssist.Json.Shown
import SqlAssist.Proofs.Text.Runs

/-!
# Numbers in JSON documents

A number ends before any character that cannot go on with it (`readNumber?_append`). The digits of a
whole number are therefore read back wherever they stand (`readPlain_integer`), unless there are
more of them than the reader takes. A number that is not whole is read back if its own text is
(`IsReadBack`).
-/

namespace SqlAssist

namespace Json

variable {offset : Nat} {r t digits : Text} {v : Value}

/-- A character that goes on with a number. -/
def continuesNumber (c : Char) : Bool :=
  c.isDigit || c = '.' || c = 'e' || c = 'E' || c = '+' || c = '-'

/-! ### Where a number ends -/

theorem head?_append_eq_iff {c : Char} (hc : continuesNumber c = true)
    (hr : r.head?.any continuesNumber = false) (t : Text) :
    (t ++ r).head? = some c ↔ t.head? = some c := by
  cases t with
  | cons d t => rfl
  | nil =>
    refine ⟨fun h => ?_, nofun⟩
    rw [List.nil_append] at h
    rw [h] at hr
    exact absurd hc (by simpa using hr)

theorem takeWhile_isDigit_append (hr : r.head?.any continuesNumber = false) (t : Text) :
    (t ++ r).takeWhile Char.isDigit = t.takeWhile Char.isDigit := by
  have hnil : r.takeWhile Char.isDigit = [] := by
    cases r with
    | nil => rfl
    | cons c r =>
      have hc : continuesNumber c = false := hr
      have hdigit : c.isDigit = false := by
        simp only [continuesNumber, Bool.or_eq_false_iff] at hc
        exact hc.1.1.1.1.1
      rw [List.takeWhile_cons_of_neg (by simp [hdigit])]
  rw [List.takeWhile_append]
  split_ifs with h
  · rw [hnil, List.append_nil]
    exact ((List.takeWhile_prefix _).eq_of_length h).symm
  · rfl

theorem readExponent?_append (hr : r.head?.any continuesNumber = false) (t : Text) :
    readExponent? (t ++ r) = readExponent? t := by
  cases t with
  | cons c t =>
    have hplus : (t ++ r).head? = some '+' ↔ t.head? = some '+' := head?_append_eq_iff rfl hr t
    have hminus : (t ++ r).head? = some '-' ↔ t.head? = some '-' := head?_append_eq_iff rfl hr t
    rw [List.cons_append, readExponent?, readExponent?]
    simp only [hplus, hminus]
    by_cases hsign : t.head? = some '+' ∨ t.head? = some '-'
    · obtain ⟨d, t, rfl⟩ := List.exists_cons_of_ne_nil (l := t) (by rintro rfl; simp at hsign)
      simp only [hsign, if_true, List.cons_append, List.drop_succ_cons, List.drop_zero,
        takeWhile_isDigit_append hr]
    · simp only [hsign, if_false, takeWhile_isDigit_append hr]
  | nil =>
    cases r with
    | nil => rfl
    | cons c r =>
      have hc : continuesNumber c = false := hr
      simp only [continuesNumber, Bool.or_eq_false_iff, decide_eq_false_iff_not] at hc
      rw [List.nil_append, readExponent?, if_neg (not_or.mpr ⟨hc.1.1.1.2, hc.1.1.2⟩)]
      rfl

/-- The digits before a decimal point: a zero is the only one. -/
def wholeOf (t : Text) : Text :=
  if t.head? = some '0' then ['0'] else t.takeWhile Char.isDigit

/-- The digits behind a decimal point. -/
def fractionOf : Text → Text
  | '.' :: s => s.takeWhile Char.isDigit
  | _ => []

/-- What stands behind the whole digits and the fraction of a number. -/
def afterFraction (t : Text) : Text :=
  let r := t.drop (wholeOf t).length
  if (fractionOf r).isEmpty then r else r.drop ((fractionOf r).length + 1)

/-- The number made of a sign, of digits and of an exponent, and its length. -/
def numberOf (negative : Bool) (whole fraction : Text) (exponent : Option (Int × Nat)) :
    Option (Except Limit Value × Nat) :=
  if whole.isEmpty then none
  else
    let length := whole.length + (if negative then 1 else 0)
      + (if fraction.isEmpty then 0 else fraction.length + 1)
    match exponent with
    | some (e, n) =>
      let x := Binary64.ofDecimal negative (digitsValue (whole ++ fraction)) (e - fraction.length)
      some (.ok (.real x), length + n)
    | none =>
      if fraction.isEmpty then some (wholeNumber negative whole, length)
      else
        let x := Binary64.ofDecimal negative (digitsValue (whole ++ fraction)) (-fraction.length)
        some (.ok (.real x), length)

/-- The number behind a sign. -/
def readUnsigned? (negative : Bool) (t : Text) : Option (Except Limit Value × Nat) :=
  numberOf negative (wholeOf t) (fractionOf (t.drop (wholeOf t).length))
    (readExponent? (afterFraction t))

theorem readNumber?_eq (t : Text) :
    readNumber? t =
      let negative : Bool := t.head? = some '-'
      readUnsigned? negative (if negative then t.drop 1 else t) := by
  simp only [readNumber?, readUnsigned?, numberOf, afterFraction, wholeOf, decide_eq_true_eq]
  generalize (if t.head? = some '-' then t.drop 1 else t) = body
  generalize (if body.head? = some '0' then ['0'] else body.takeWhile Char.isDigit) = whole
  generalize body.drop whole.length = r
  -- What is left are the two forms of a fraction and of an exponent.
  split
  · rfl
  · split <;> split <;> simp_all [fractionOf]

theorem wholeOf_append (hr : r.head?.any continuesNumber = false) (t : Text) :
    wholeOf (t ++ r) = wholeOf t := by
  rw [wholeOf, wholeOf, takeWhile_isDigit_append hr]
  simp only [head?_append_eq_iff (c := '0') rfl hr t]

theorem length_wholeOf_le (t : Text) : (wholeOf t).length ≤ t.length := by
  rw [wholeOf]
  split_ifs with h
  · cases t with
    | nil => cases h
    | cons c t => exact Nat.succ_le_succ (Nat.zero_le _)
  · exact (List.takeWhile_prefix _).length_le

theorem drop_wholeOf_append (t r : Text) :
    (t ++ r).drop (wholeOf t).length = t.drop (wholeOf t).length ++ r :=
  List.drop_append_of_le_length (length_wholeOf_le t)

theorem fractionOf_append (hr : r.head?.any continuesNumber = false) (t : Text) :
    fractionOf (t ++ r) = fractionOf t := by
  by_cases hdot : t.head? = some '.'
  · obtain ⟨s, rfl⟩ : ∃ s, t = '.' :: s := List.head?_eq_some_iff.mp hdot
    exact takeWhile_isDigit_append hr s
  · have hdot' : (t ++ r).head? ≠ some '.' := mt (head?_append_eq_iff rfl hr t).mp hdot
    have hnil : ∀ u : Text, u.head? ≠ some '.' → fractionOf u = [] := by
      intro u hu
      rw [fractionOf.eq_def]
      split
      · exact absurd rfl hu
      · rfl
    rw [hnil _ hdot, hnil _ hdot']

theorem afterFraction_append (hr : r.head?.any continuesNumber = false) (t : Text) :
    afterFraction (t ++ r) = afterFraction t ++ r := by
  rw [afterFraction, afterFraction]
  simp only [wholeOf_append hr, drop_wholeOf_append, fractionOf_append hr]
  generalize t.drop (wholeOf t).length = u
  split_ifs with h
  · rfl
  · refine List.drop_append_of_le_length ?_
    rw [fractionOf.eq_def] at h ⊢
    split at h
    next s => exact Nat.succ_le_succ (List.takeWhile_prefix _).length_le
    · exact absurd rfl h

/-- What follows a number and cannot go on with it makes no difference. -/
theorem readNumber?_append (hr : r.head?.any continuesNumber = false) (t : Text) :
    readNumber? (t ++ r) = readNumber? t := by
  have hunsigned (negative : Bool) (u : Text) :
      readUnsigned? negative (u ++ r) = readUnsigned? negative u := by
    rw [readUnsigned?, readUnsigned?, wholeOf_append hr, drop_wholeOf_append,
      fractionOf_append hr, afterFraction_append hr, readExponent?_append hr]
  have hsign : (t ++ r).head? = some '-' ↔ t.head? = some '-' := head?_append_eq_iff rfl hr t
  rw [readNumber?_eq, readNumber?_eq]
  simp only [hsign, decide_eq_true_eq]
  split_ifs with h
  · obtain ⟨u, rfl⟩ : ∃ u, t = '-' :: u := List.head?_eq_some_iff.mp h
    exact hunsigned _ u
  · exact hunsigned _ t

/-! ### Whole numbers -/

theorem digitsValue_toDigits (n : Nat) : digitsValue (Nat.toDigits 10 n) = n := by
  have hcomm : (fun (k : Nat) (c : Char) => k * 10 + (c.toNat - 48)) =
      fun k c => 10 * k + (c.toNat - '0'.toNat) := by
    funext k c
    rw [Nat.mul_comm]
    rfl
  rw [digitsValue, hcomm, ← Nat.ofDigitChars_eq_foldl, Nat.ofDigitChars_ten_toDigits]

/-- Only zero is written with a zero in front. -/
theorem head?_toDigits {n : Nat} (hn : n ≠ 0) : (Nat.toDigits 10 n).head? ≠ some '0' := by
  induction n using Nat.base_induction 10 (by decide) with
  | single m hm =>
    rw [Nat.toDigits_of_lt_base hm]
    have hdigits : ∀ m < 10, m ≠ 0 → [Nat.digitChar m].head? ≠ some '0' := by decide
    exact hdigits m hm hn
  | digit m k hk hm ih =>
    rw [← Nat.toDigits_append_toDigits (by decide) hm hk,
      List.head?_append_of_ne_nil _ Nat.toDigits_ne_nil]
    exact ih (Nat.pos_iff_ne_zero.mp hm)

theorem wholeOf_toDigits (n : Nat) : wholeOf (Nat.toDigits 10 n) = Nat.toDigits 10 n := by
  rw [wholeOf]
  split_ifs with h
  · obtain rfl : n = 0 := by_contra fun hn => head?_toDigits hn h
    rfl
  · exact List.takeWhile_eq_self_iff.mpr fun c hc =>
      Nat.isDigit_of_mem_toDigits (by decide) (by decide) hc

theorem readUnsigned?_toDigits (negative : Bool) {n : Nat}
    (hn : (Nat.toDigits 10 n).length ≤ maxDigits) :
    readUnsigned? negative (Nat.toDigits 10 n) =
      some (.ok (.integer (if negative then -n else n)),
        (Nat.toDigits 10 n).length + if negative then 1 else 0) := by
  have hne : (Nat.toDigits 10 n).isEmpty = false := by simp [Nat.toDigits_ne_nil]
  have hwhole : wholeNumber negative (Nat.toDigits 10 n) =
      .ok (.integer (if negative then -n else n)) := by
    rw [wholeNumber, if_neg (Nat.not_lt.mpr hn), digitsValue_toDigits]
  rw [readUnsigned?, afterFraction, wholeOf_toDigits, List.drop_length]
  simp [fractionOf, readExponent?, numberOf, hne, hwhole]

theorem head?_toDigits_ne_minus (n : Nat) : (Nat.toDigits 10 n).head? ≠ some '-' := by
  intro h
  have hdigit := Nat.isDigit_of_mem_toDigits (by decide) (by decide) (List.mem_of_mem_head? h)
  cases hdigit

/-- A whole number is read back from its digits. -/
theorem readNumber?_ofInt {n : Int} (hn : (Nat.toDigits 10 n.natAbs).length ≤ maxDigits) :
    readNumber? (Text.ofInt n) = some (.ok (.integer n), (Text.ofInt n).length) := by
  rw [readNumber?_eq, Text.ofInt, Text.ofNat]
  split_ifs with hsign
  · have hneg : (-(n.natAbs : Int)) = n := by omega
    exact (readUnsigned?_toDigits true hn).trans (by rw [if_pos rfl, hneg]; rfl)
  · have hpos : ((n.natAbs : Int)) = n := by omega
    simp only [head?_toDigits_ne_minus, decide_false, Bool.false_eq_true, if_false]
    exact (readUnsigned?_toDigits false hn).trans (by simp [hpos])

/-! ### Plain values -/

/-- The number is read back from its text, with the sign, the digits and the exponent that it is
written with. Those that are not finite are read back by their names. -/
def IsReadBack : Binary64 → Prop
  | .finite negative m e =>
    readNumber? ((Binary64.finite negative m e).toText spelling) =
      some (.ok (.real (.finite negative m e)),
        ((Binary64.finite negative m e).toText spelling).length)
  | _ => True

/-- A number starts with a digit, if need be behind a minus sign. -/
theorem exists_of_readNumber? {n : Except Limit Value × Nat} (h : readNumber? t = some n) :
    ∃ c u, (t = c :: u ∨ t = '-' :: c :: u) ∧ c.isDigit = true := by
  have hunsigned : ∀ {negative : Bool} {u : Text}, readUnsigned? negative u = some n →
      ∃ c w, u = c :: w ∧ c.isDigit = true := by
    intro negative u hu
    have hwhole : wholeOf u ≠ [] := by
      intro hnil
      rw [readUnsigned?, numberOf, hnil] at hu
      cases hu
    rw [wholeOf] at hwhole
    cases u with
    | nil => simp at hwhole
    | cons c w =>
      refine ⟨c, w, rfl, ?_⟩
      split_ifs at hwhole with hzero
      · rw [Option.some.inj hzero]
        rfl
      · by_contra hc
        rw [List.takeWhile_cons_of_neg hc] at hwhole
        exact hwhole rfl
  rw [readNumber?_eq] at h
  simp only [decide_eq_true_eq] at h
  split_ifs at h with hsign
  · obtain ⟨u, rfl⟩ : ∃ u, t = '-' :: u := List.head?_eq_some_iff.mp hsign
    obtain ⟨c, w, rfl, hc⟩ := hunsigned h
    exact ⟨c, w, Or.inr rfl, hc⟩
  · obtain ⟨c, w, rfl, hc⟩ := hunsigned h
    exact ⟨c, w, Or.inl rfl, hc⟩

/-- No name of a value starts like a number. -/
theorem find?_literals_of_readNumber? {n : Except Limit Value × Nat} (h : readNumber? t = some n) :
    literals.find? (fun l => l.1.isPrefixOf t) = none := by
  obtain ⟨c, u, ht, hc⟩ := exists_of_readNumber? h
  have hnames : ∀ l ∈ literals, 2 ≤ l.1.length ∧ l.1[0]?.any Char.isDigit = false ∧
      l.1[1]?.any Char.isDigit = false := by decide
  refine List.find?_eq_none.mpr fun l hl hprefix => ?_
  obtain ⟨hlength, hfirst, hsecond⟩ := hnames l hl
  obtain ⟨w, hw⟩ := List.isPrefixOf_iff_prefix.mp hprefix
  rcases ht with rfl | rfl
  · have hhead : (l.1 ++ w)[0]? = l.1[0]? := List.getElem?_append_left (by omega)
    rw [← hhead, hw] at hfirst
    exact absurd hc (by simpa using hfirst)
  · have hhead : (l.1 ++ w)[1]? = l.1[1]? := List.getElem?_append_left (by omega)
    rw [← hhead, hw] at hsecond
    exact absurd hc (by simpa using hsecond)

theorem readPlain_number (h : readNumber? t = some (.ok v, t.length))
    (hr : r.head?.any continuesNumber = false) :
    readPlain ⟨offset, t ++ r⟩ = .ok (v, ⟨offset + t.length, r⟩) := by
  have hnumber := (readNumber?_append hr t).trans h
  rw [readPlain]
  simp only [find?_literals_of_readNumber? hnumber, hnumber]
  simp [Place.advance]

/-- A value that is neither a string nor an array nor an object, and that the reader takes. -/
inductive IsPlain : Value → Prop
  /-- The value `null`. -/
  | null : IsPlain .null
  /-- `true` or `false`. -/
  | bool (b : Bool) : IsPlain (.bool b)
  /-- A whole number that is not too long. -/
  | integer {n : Int} (h : (Nat.toDigits 10 n.natAbs).length ≤ maxDigits) : IsPlain (.integer n)
  /-- Any other number. -/
  | real {x : Binary64} (h : IsReadBack x) : IsPlain (.real x)

/-- A plain value has one text, which does not start like a value of another kind. -/
theorem IsPlain.readPlain_renderAt (h : IsPlain v) (level : Nat)
    (hr : r.head?.any continuesNumber = false) :
    readPlain ⟨offset, v.renderAt level ++ r⟩ =
      .ok (v, ⟨offset + (v.renderAt level).length, r⟩) := by
  cases h with
  | null => rfl
  | bool b => cases b <;> rfl
  | integer h => exact readPlain_number (readNumber?_ofInt h) hr
  | real h =>
    rename_i x
    cases x with
    | finite negative m e => exact readPlain_number h hr
    | infinite negative => cases negative <;> rfl
    | nan => rfl

theorem IsPlain.exists_renderAt (h : IsPlain v) (level : Nat) :
    ∃ c u, v.renderAt level = c :: u ∧ (c.isDigit = true ∨ c ∈ "-ntfNI".toList) := by
  have hnumber : ∀ {t : Text} {n : Except Limit Value × Nat}, readNumber? t = some n →
      ∃ c u, t = c :: u ∧ (c.isDigit = true ∨ c ∈ "-ntfNI".toList) := by
    intro t n h
    obtain ⟨c, u, rfl | rfl, hc⟩ := exists_of_readNumber? h
    · exact ⟨c, u, rfl, Or.inl hc⟩
    · exact ⟨'-', c :: u, rfl, Or.inr (by decide)⟩
  cases h with
  | null => exact ⟨'n', _, rfl, Or.inr (by decide)⟩
  | bool b => cases b <;> exact ⟨_, _, rfl, Or.inr (by decide)⟩
  | integer h => exact hnumber (readNumber?_ofInt h)
  | real h =>
    rename_i x
    cases x with
    | finite negative m e => exact hnumber h
    | infinite negative => cases negative <;> exact ⟨_, _, rfl, Or.inr (by decide)⟩
    | nan => exact ⟨_, _, rfl, Or.inr (by decide)⟩

end Json

/-! ### Values in messages -/

namespace Binary64

theorem positional_ne_nil (digits : Text) (point : Int) : positional digits point ≠ [] := by
  rw [positional]
  split_ifs
  · simp
  · dsimp only
    split_ifs <;> simp

theorem scientific_ne_nil (digits : Text) (point : Int) : scientific digits point ≠ [] := by
  simp [scientific]

theorem toText_ne_nil {s : Spelling} (hinfinity : s.infinity ≠ []) (hnan : s.nan ≠ []) (x : Binary64) :
    x.toText s ≠ [] := by
  cases x with
  | nan => exact hnan
  | infinite b => exact List.append_ne_nil_of_right_ne_nil _ hinfinity
  | finite b m e =>
    rw [toText]
    refine List.append_ne_nil_of_right_ne_nil _ ?_
    split_ifs
    · simp
    · dsimp only
      split_ifs
      · exact positional_ne_nil _ _
      · exact scientific_ne_nil _ _

end Binary64

/-- A value that counts as given is shown as some text. -/
theorem Json.Value.shown_ne_nil {v : Value} (h : v.isGiven = true) : v.shown ≠ [] := by
  cases v with
  | null => cases h
  | bool b => cases b <;> simp [shown, quoted]
  | integer n =>
    rw [shown, quoted, Text.ofInt]
    split_ifs
    · exact List.cons_ne_nil _ _
    · exact Nat.toDigits_ne_nil
    · intros; contradiction
  | real x =>
    rw [shown, quoted]
    · exact Binary64.toText_ne_nil (by decide) (by decide) x
    · intros; contradiction
  | string s => simpa [isGiven, shown] using h
  | array items => cases items <;> simp [isGiven, shown, quoted] at h ⊢
  | object members => cases members <;> simp [isGiven, shown, quoted] at h ⊢

end SqlAssist
