import SqlAssist.Text.CaseMap
import Mathlib.Data.List.Basic
import Mathlib.Data.Nat.Bitwise

/-!
# Upper case is final

No character of an upper case has another upper case than itself (`upperChar_of_mem`). The tables
are finite, and that none of the codes that they map to is one that they map is checked with all
codes as the bits of one number (`not_mem_of_bits`).
-/

namespace SqlAssist.Text

/-! ### Sets of codes -/

/-- The number whose set bits are the members of the list. -/
def bits (l : List Nat) : Nat :=
  l.foldr (fun n b => 1 <<< n ||| b) 0

theorem testBit_bits (l : List Nat) (n : Nat) : (bits l).testBit n = decide (n ∈ l) := by
  induction l with
  | nil => simp [bits]
  | cons m l ih =>
    have hcons : bits (m :: l) = 1 <<< m ||| bits l := rfl
    rw [hcons, Nat.testBit_or, ih, Nat.shiftLeft_eq, Nat.one_mul, Nat.testBit_two_pow, ← Bool.decide_or]
    exact decide_eq_decide.mpr (by rw [List.mem_cons, eq_comm])

theorem not_mem_of_bits {l l' : List Nat} (h : bits l &&& bits l' = 0) {n : Nat} (hn : n ∈ l) : n ∉ l' := by
  intro hn'
  have hbit : (bits l &&& bits l').testBit n = true := by
    rw [Nat.testBit_and, testBit_bits, testBit_bits, decide_eq_true hn, decide_eq_true hn']
    rfl
  rw [h, Nat.zero_testBit] at hbit
  cases hbit

/-! ### Runs -/

namespace CaseRun

/-- The codes that the run maps. -/
def codes (r : CaseRun) : List Nat :=
  List.range' r.first ((r.last - r.first) / r.step + 1) r.step

/-- What the run maps its codes to. -/
def images (r : CaseRun) : List Nat :=
  r.codes.map fun n : Nat => ((n : Int) + r.shift).toNat

theorem mem_codes {r : CaseRun} {n : Nat} (hfirst : r.first ≤ n) (hlast : n ≤ r.last)
    (hstep : (n - r.first) % r.step = 0) : n ∈ r.codes := by
  refine List.mem_range'.mpr ⟨(n - r.first) / r.step, ?_, ?_⟩
  · exact Nat.lt_succ_of_le (Nat.div_le_div_right (Nat.sub_le_sub_right hlast _))
  · rw [Nat.mul_div_cancel' (Nat.dvd_of_mod_eq_zero hstep), Nat.add_sub_cancel' hfirst]

theorem map?_eq_none {rs : List CaseRun} {n : Nat} (h : n ∉ rs.flatMap codes) : map? rs n = none := by
  induction rs with
  | nil => rfl
  | cons r rs ih =>
    rw [List.flatMap_cons, List.mem_append, not_or] at h
    rw [map?, if_neg fun ⟨hfirst, hlast, hstep⟩ => h.1 (mem_codes hfirst hlast hstep)]
    exact ih h.2

/-- A code is mapped by a run that holds it. -/
theorem exists_of_map? {rs : List CaseRun} {n m : Nat} (h : map? rs n = some m) :
    ∃ r ∈ rs, n ∈ r.codes ∧ m ∈ r.images := by
  induction rs with
  | nil => cases h
  | cons r rs ih =>
    rw [map?] at h
    split_ifs at h with hr
    · obtain rfl := Option.some.inj h
      have hn := mem_codes hr.1 hr.2.1 hr.2.2
      exact ⟨r, List.mem_cons_self, hn, List.mem_map_of_mem hn⟩
    · obtain ⟨r', hr', hn⟩ := ih h
      exact ⟨r', List.mem_cons_of_mem _ hr', hn⟩

theorem mem_images_of_map? {rs : List CaseRun} {n m : Nat} (h : map? rs n = some m) :
    m ∈ rs.flatMap images := by
  obtain ⟨r, hr, -, hm⟩ := exists_of_map? h
  exact List.mem_flatMap.mpr ⟨r, hr, hm⟩

end CaseRun

/-! ### The tables of upper case -/

/-- The codes that upper case maps. -/
def upperCodes : List Nat :=
  List.range' 97 26 ++ upperRuns.flatMap CaseRun.codes ++ upperExpansions.map (·.1)

/-- What upper case maps them to. Zero stands for what would be no character. -/
def upperImages : List Nat :=
  0 :: List.range' 65 26 ++ upperRuns.flatMap CaseRun.images ++ upperExpansions.flatMap (·.2)

theorem bits_upperImages : bits upperImages &&& bits upperCodes = 0 := by decide +kernel

variable {c d : Char} {s t : Text}

theorem toNat_ofNat_mem {m : Nat} (h : m ∈ upperImages) : (Char.ofNat m).toNat ∈ upperImages := by
  by_cases hm : m.isValidChar
  · rw [Char.ofNat, dif_pos hm]
    exact h
  · rw [Char.ofNat, dif_neg hm]
    exact List.mem_cons_self

theorem codes_of_isLower (h : c.isLower = true) : 97 ≤ c.toNat ∧ c.toNat ≤ 122 := by
  obtain ⟨hlow, hhigh⟩ := (Bool.and_eq_true _ _).mp h
  exact ⟨of_decide_eq_true hlow, of_decide_eq_true hhigh⟩

/-- A character is mapped to itself, or to others that are in the table of images. -/
theorem upperChar_eq_or (c : Char) :
    upperChar c = [c] ∨ ∀ d ∈ upperChar c, d.toNat ∈ upperImages := by
  rw [upperChar]
  split_ifs with hascii hlower
  · have hcode := codes_of_isLower hlower
    have hcapital : c.toNat - 32 ∈ List.range' 65 26 := List.mem_range'_1.mpr (by omega)
    rw [List.forall_mem_singleton]
    exact Or.inr (toNat_ofNat_mem (List.mem_append_left _ (List.mem_append_left _
      (List.mem_cons_of_mem _ hcapital))))
  · exact Or.inl rfl
  · cases hlookup : upperExpansions.lookup c.toNat with
    | some ns =>
      obtain ⟨l, k, hl, -⟩ := List.lookup_eq_some_iff.mp hlookup
      have hmem : (c.toNat, ns) ∈ upperExpansions := hl ▸ List.mem_append_right _ List.mem_cons_self
      refine Or.inr fun d hd => ?_
      obtain ⟨m, hm, rfl⟩ := List.mem_map.mp hd
      exact toNat_ofNat_mem (List.mem_append_right _ (List.mem_flatMap.mpr ⟨_, hmem, hm⟩))
    | none =>
      cases hmap : CaseRun.map? upperRuns c.toNat with
      | none => exact Or.inl rfl
      | some m =>
        refine Or.inr (List.forall_mem_singleton.mpr ?_)
        exact toNat_ofNat_mem (List.mem_append_left _ (List.mem_append_right _
          (CaseRun.mem_images_of_map? hmap)))

theorem upperChar_of_not_mem (h : c.toNat ∉ upperCodes) : upperChar c = [c] := by
  simp only [upperCodes, List.mem_append, not_or] at h
  obtain ⟨⟨hsmall, hruns⟩, hexpansions⟩ := h
  rw [upperChar]
  split_ifs with hascii hlower
  · have hcode := codes_of_isLower hlower
    exact absurd (List.mem_range'_1.mpr ⟨hcode.1, by omega⟩) hsmall
  · rfl
  · have hlookup : upperExpansions.lookup c.toNat = none := by
      rw [List.lookup_eq_none_iff]
      intro e he
      rw [bne_iff_ne]
      exact fun heq => hexpansions (heq ▸ List.mem_map_of_mem he)
    rw [hlookup, CaseRun.map?_eq_none hruns]
    rfl

/-- The characters of an upper case are their own upper case. -/
theorem upperChar_of_mem (h : d ∈ upperChar c) : upperChar d = [d] := by
  rcases upperChar_eq_or c with hself | himages
  · rw [hself] at h
    rwa [List.mem_singleton.mp h]
  · exact upperChar_of_not_mem (not_mem_of_bits bits_upperImages (himages d h))

theorem upper_append (s t : Text) : upper (s ++ t) = upper s ++ upper t :=
  List.flatMap_append

theorem upper_cons (c : Char) (t : Text) : upper (c :: t) = upperChar c ++ upper t := rfl

/-- A text made of characters of an upper case is its own upper case. -/
theorem upper_of_forall_mem (h : ∀ d ∈ s, d ∈ t.upper) : s.upper = s := by
  have hself : ∀ d ∈ s, upperChar d = [d] := fun d hd => by
    obtain ⟨c, -, hc⟩ := List.mem_flatMap.mp (h d hd)
    exact upperChar_of_mem hc
  rw [upper, List.flatMap_congr hself, List.flatMap_singleton']

end SqlAssist.Text
