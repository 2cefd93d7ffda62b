import SqlAssist.Proofs.Json.StringText
import SqlAssist.Proofs.Text.Lines
import SqlAssist.Store.JsonFile
import Mathlib.Tactic.SplitIfs

/-!
# The characters of documents

A document is written in printable ASCII and line feeds, whatever value it holds (`all_render`). Its
bytes are the codes of its characters, and none of its line ends is changed on reading, so what a
file is decoded to is what the reader makes of the text that was written
(**`decode_encode_render`**).
-/

namespace SqlAssist

/-! ### Plain texts -/

/-- A printable ASCII character or a line feed. -/
def Text.isPlain (c : Char) : Bool :=
  c = '\n' || (32 ≤ c.toNat && c.toNat < 127)

open Text (isPlain)

variable {t : Text}

theorem Text.isPlain_of_isDigit {c : Char} (h : c.isDigit = true) : isPlain c = true := by
  simp only [Char.isDigit, Bool.and_eq_true, decide_eq_true_eq, ge_iff_le, UInt32.le_iff_toNat_le] at h
  have hzero : '0'.val.toNat = 48 := rfl
  have hnine : '9'.val.toNat = 57 := rfl
  simp only [isPlain, Bool.or_eq_true, Bool.and_eq_true, decide_eq_true_eq, Char.toNat]
  omega

theorem Text.all_toDigits (n : Nat) : (Nat.toDigits 10 n).all isPlain = true :=
  List.all_eq_true.mpr fun _ hc =>
    isPlain_of_isDigit (Nat.isDigit_of_mem_toDigits (by decide) (by decide) hc)

theorem Text.all_ofInt (n : Int) : (ofInt n).all isPlain = true := by
  rw [ofInt]
  split_ifs with h
  · rw [List.all_cons, ofNat, all_toDigits]
    rfl
  · exact all_toDigits _

theorem Text.all_hexDigits (n k : Nat) : (hexDigits n k).all isPlain = true := by
  have hdigit : ∀ d < 16, isPlain (Nat.digitChar d) = true := by decide
  induction n generalizing k with
  | zero => rfl
  | succ n ih =>
    rw [hexDigits, List.all_append, ih, List.all_cons, hdigit _ (Nat.mod_lt _ (by decide))]
    rfl

theorem Text.all_of_subset {s : Text} (h : s ⊆ t) (ht : t.all isPlain = true) : s.all isPlain = true :=
  List.all_eq_true.mpr fun c hc => List.all_eq_true.mp ht c (h hc)

theorem Text.all_dropWhileEnd {p : Char → Bool} (h : t.all isPlain = true) :
    (dropWhileEnd p t).all isPlain = true :=
  all_of_subset (fun _ hc => List.mem_reverse.mp
    ((List.dropWhile_sublist p).mem (List.mem_reverse.mp hc))) h

/-! ### Numbers -/

namespace Binary64

variable {digits : Text} {point : Int}

theorem all_replicate_zero (n : Nat) : (List.replicate n '0').all isPlain = true :=
  List.all_eq_true.mpr fun c hc => by
    rw [List.eq_of_mem_replicate hc]
    rfl

theorem all_positional (h : digits.all isPlain = true) : (positional digits point).all isPlain = true := by
  have htake (n : Nat) := Text.all_of_subset (List.take_subset n digits) h
  have hdrop (n : Nat) := Text.all_of_subset (List.drop_subset n digits) h
  rw [positional]
  split_ifs
  · simp only [List.all_append, all_replicate_zero, h]
    rfl
  · dsimp only
    split_ifs
    · simp only [List.all_append, all_replicate_zero, h]
      rfl
    · simp only [List.all_append, List.all_cons, htake, hdrop]
      rfl

theorem all_scientific (h : digits.all isPlain = true) : (scientific digits point).all isPlain = true := by
  have htake (n : Nat) := Text.all_of_subset (List.take_subset n digits) h
  have hdrop (n : Nat) := Text.all_of_subset (List.drop_subset n digits) h
  have hfraction : (if digits.length > 1 then '.' :: digits.drop 1 else []).all isPlain = true := by
    split_ifs
    · rw [List.all_cons, hdrop]
      rfl
    · rfl
  have hmark : ['e', if point - 1 < 0 then '-' else '+'].all isPlain = true := by
    split_ifs <;> rfl
  have hsize (size : Text) (hsize : size.all isPlain = true) :
      (if size.length < 2 then '0' :: size else size).all isPlain = true := by
    split_ifs
    · rw [List.all_cons, hsize]
      rfl
    · exact hsize
  simp only [scientific, List.all_append, htake, hfraction, hmark, hsize _ (Text.all_toDigits _)]
  rfl

theorem all_shortest (m : Nat) (e : Int) : (shortest m e).1.all isPlain = true :=
  Text.all_dropWhileEnd (Text.all_toDigits _)

theorem all_toText {s : Spelling} (hinfinity : s.infinity.all isPlain = true)
    (hnan : s.nan.all isPlain = true) (x : Binary64) : (x.toText s).all isPlain = true := by
  have hsign (b : Bool) : (if b then ['-'] else ([] : Text)).all isPlain = true := by cases b <;> rfl
  cases x with
  | nan => exact hnan
  | infinite b => rw [toText, List.all_append, hsign, hinfinity]; rfl
  | finite b m e =>
    rw [toText, List.all_append, hsign]
    split_ifs
    · rfl
    · dsimp only
      split_ifs
      · exact all_positional (all_shortest m e)
      · exact all_scientific (all_shortest m e)

end Binary64

/-! ### Documents -/

namespace Json

theorem all_stringChar (c : Char) : (stringChar c).all isPlain = true := by
  have hunit (n : Nat) : (unitEscape n).all isPlain = true := by
    rw [unitEscape, List.all_append, Text.all_hexDigits]
    rfl
  by_cases hshort : c ∈ shortEscaped
  · have hall : shortEscaped.all (fun c => (stringChar c).all isPlain) = true := rfl
    exact List.all_eq_true.mp hall c hshort
  rw [stringChar_of_not_mem hshort]
  split_ifs with hplain
  · rw [List.all_cons, isPlain, decide_eq_true hplain.1, decide_eq_true hplain.2]
    simp
  · rw [List.all_flatMap]
    exact List.all_eq_true.mpr fun n _ => hunit n

theorem all_string (s : Text) : (string s).all isPlain = true := by
  have hs : (s.flatMap stringChar).all isPlain = true := by
    rw [List.all_flatMap]
    exact List.all_eq_true.mpr fun c _ => all_stringChar c
  rw [string, List.all_append, List.all_cons, hs]
  rfl

theorem all_newLine (level : Nat) : (newLine level).all isPlain = true := by
  rw [newLine, List.all_cons]
  exact List.all_eq_true.mpr fun c hc => by rw [List.eq_of_mem_replicate hc]; rfl

namespace Value

mutual

theorem all_renderAt (level : Nat) : (v : Value) → (v.renderAt level).all isPlain = true
  | null => rfl
  | bool b => by cases b <;> rfl
  | integer n => Text.all_ofInt n
  | real x => Binary64.all_toText rfl rfl x
  | string s => all_string s
  | array [] => rfl
  | array (v :: vs) => by
    simp only [renderAt, List.all_append, List.all_cons, all_newLine, all_renderAt _ v,
      all_renderItems _ vs]
    rfl
  | object [] => rfl
  | object (m :: ms) => by
    simp only [renderAt, List.all_append, List.all_cons, all_newLine, all_renderMember _ m,
      all_renderMembers _ ms]
    rfl

theorem all_renderItems (level : Nat) : (vs : List Value) → (renderItems level vs).all isPlain = true
  | [] => rfl
  | v :: vs => by
    simp only [renderItems, List.all_append, List.all_cons, all_newLine, all_renderAt _ v,
      all_renderItems _ vs]
    rfl

theorem all_renderMembers (level : Nat) :
    (ms : List (Text × Value)) → (renderMembers level ms).all isPlain = true
  | [] => rfl
  | m :: ms => by
    simp only [renderMembers, List.all_append, List.all_cons, all_newLine, all_renderMember _ m,
      all_renderMembers _ ms]
    rfl

theorem all_renderMember (level : Nat) : (m : Text × Value) → (renderMember level m).all isPlain = true
  | (name, v) => by
    simp only [renderMember, List.all_append, all_string, all_renderAt _ v]
    rfl

end

/-- A document is written in printable ASCII and line feeds. -/
theorem all_render (v : Value) : v.render.all isPlain = true :=
  all_renderAt 0 v

end Value

end Json

/-! ### Files -/

theorem Utf8.decode_encode_of_lt (h : ∀ c ∈ t, c.toNat < 128) : decode (encode t) = .ok t := by
  suffices ∀ position lead start, decodeFrom position lead start 0 0 0 0 (encode t) = .ok t from
    this 0 0 0
  induction t with
  | nil => exact fun _ _ _ => rfl
  | cons c t ih =>
    intro position lead start
    obtain ⟨hc, h⟩ := List.forall_mem_cons.mp h
    have hbyte : c.toNat.toUInt8.toNat = c.toNat := by
      rw [Nat.toUInt8, UInt8.toNat_ofNat']
      omega
    have hshape : shape? c.toNat.toUInt8 = some (0, 0, 0) := by
      have hsmall : c.toNat.toUInt8 < 0x80 := by
        rw [UInt8.lt_iff_toNat_lt, hbyte]
        exact hc
      rw [shape?, if_pos hsmall]
    have hchar : encode (c :: t) = c.toNat.toUInt8 :: encode t := by
      rw [encode, List.flatMap_cons, encodeChar]
      simp only [if_pos hc]
      rfl
    rw [hchar, decodeFrom]
    simp only [hshape, ih h, hbyte, Char.ofNat_toNat]
    rfl

/-- Whatever a document holds, its bytes are decoded to what the reader makes of its text. -/
theorem JsonFile.decode_encode_render (v : Json.Value) :
    decode (Utf8.encode v.render) = (Json.read v.render).mapError (.json v.render) := by
  have hplain := List.all_eq_true.mp v.all_render
  have hascii : ∀ c ∈ v.render, c.toNat < 128 := fun c hc => by
    have := hplain c hc
    simp only [isPlain, Bool.or_eq_true, Bool.and_eq_true, decide_eq_true_eq] at this
    rcases this with rfl | ⟨-, h⟩
    · decide
    · omega
  have hreturn : '\r' ∉ v.render := fun h => absurd (hplain _ h) (by decide)
  simp only [decode, Utf8.decode_encode_of_lt hascii, Text.unifyBreaks_of_not_mem hreturn]

end SqlAssist
