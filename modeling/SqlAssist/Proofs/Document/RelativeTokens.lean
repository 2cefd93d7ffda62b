import SqlAssist.Proofs.Document.TokenPlaces
import Mathlib.Logic.Function.Basic

/-!
# Tokens as relative numbers

The numbers of tokens are read back by the rule that editors follow (`SemanticToken.decode?`): a
token stands so many lines below the one before it, and its start counts from that one's start only
if both are in the same line. Reading gives the tokens back whatever their order is
(**`SemanticToken.encode_lossless`**), so different tokens have different numbers.

Only tokens in order have numbers as editors expect them, none negative and each token behind the end
of the one before it (`SemanticToken.IsForward`). A scan finds its tokens in order. This needs more
than the order of their starts: two tokens of one line must not overlap.
-/

namespace SqlAssist

/-- The type of a number. -/
def TokenType.ofCode? : Int → Option TokenType
  | 0 => some .schema
  | 1 => some .table
  | 2 => some .column
  | _ => none

theorem TokenType.ofCode?_code (k : TokenType) : ofCode? k.code = some k := by
  cases k <;> rfl

namespace SemanticToken

/-! ### Reading -/

/-- Reads the numbers of tokens behind a token at the given line and start. There are five for each
token, of which the last one says nothing. -/
def decodeFrom? (line start : Int) : List Int → Option (List SemanticToken)
  | [] => some []
  | down :: right :: length :: code :: _ :: data => do
    let type ← TokenType.ofCode? code
    let tokenLine := line + down
    let tokenStart := if down = 0 then start + right else right
    let tokens ← decodeFrom? tokenLine tokenStart data
    pure (⟨tokenLine, tokenStart, length, type⟩ :: tokens)
  | _ => none

/-- Reads the numbers of tokens. -/
def decode? (data : List Int) : Option (List SemanticToken) :=
  decodeFrom? 0 0 data

theorem decodeFrom?_encodeFrom (line start : Int) (ts : List SemanticToken) :
    decodeFrom? line start (encodeFrom line start ts) = some ts := by
  induction ts generalizing line start with
  | nil => rfl
  | cons t ts ih =>
    -- The reader is at the token's own place again, whichever way its start was written.
    have hline : line + (t.line - line) = t.line := by omega
    have hstart : (if t.line - line = 0 then
        start + (if t.line = line then t.start - start else t.start)
        else if t.line = line then t.start - start else t.start) = t.start := by
      split_ifs <;> omega
    simp only [encodeFrom, List.cons_append, List.nil_append, decodeFrom?, hline, hstart, ih,
      TokenType.ofCode?_code]
    rfl

theorem decode?_encode (ts : List SemanticToken) : decode? (encode ts) = some ts :=
  decodeFrom?_encodeFrom 0 0 ts

theorem encode_injective : Function.Injective encode := by
  intro ts ts' h
  have hread : some ts = some ts' := by rw [← decode?_encode ts, ← decode?_encode ts', h]
  exact Option.some.inj hread

/-! ### Tokens in order -/

/-- Numbers of tokens that only lead forward. -/
structure IsForward (data : List Int) : Prop where
  /-- No number is negative. -/
  nonneg : ∀ n ∈ data, 0 ≤ n
  /-- Each token but the first stands in a lower line than the token before it, or starts where that
  one ends or behind it. -/
  advances : ∀ k, (h : 5 * k + 9 < data.length) →
    0 < data[5 * k + 5] ∨ data[5 * k + 2] ≤ data[5 * k + 6]

/-- The place and the length of the token are no negative numbers. -/
def IsNonneg (t : SemanticToken) : Prop :=
  0 ≤ t.line ∧ 0 ≤ t.start ∧ 0 ≤ t.length

variable {ts : List SemanticToken} {t u : SemanticToken} {line start : Int}

theorem nonneg_encodeFrom (horder : ts.Pairwise Precedes) (hts : ∀ t ∈ ts, IsNonneg t)
    (hfirst : ∀ t ∈ ts.head?, line < t.line ∨ line = t.line ∧ start ≤ t.start) :
    ∀ n ∈ encodeFrom line start ts, 0 ≤ n := by
  induction ts generalizing line start with
  | nil => exact fun n hn => absurd hn List.not_mem_nil
  | cons t ts ih =>
    obtain ⟨hbehind, horder⟩ := List.pairwise_cons.mp horder
    obtain ⟨⟨-, hstart, hlength⟩, hts⟩ := List.forall_mem_cons.mp hts
    have hplace := hfirst t rfl
    have hnext : ∀ u ∈ ts.head?, t.line < u.line ∨ t.line = u.line ∧ t.start ≤ u.start := by
      intro u hu
      rcases hbehind u (List.mem_of_mem_head? hu) with h | ⟨hline, hlt, -⟩
      · exact Or.inl h
      · exact Or.inr ⟨hline, Int.le_of_lt hlt⟩
    intro n hn
    rcases List.mem_append.mp hn with hn | hn
    · have hdown : 0 ≤ t.line - line := by omega
      have hright : 0 ≤ if t.line = line then t.start - start else t.start := by
        split_ifs <;> omega
      have hcode : (0 : Int) ≤ t.type.code := Int.natCast_nonneg _
      simp only [List.mem_cons, List.not_mem_nil, or_false] at hn
      rcases hn with rfl | rfl | rfl | rfl | rfl
      · exact hdown
      · exact hright
      · exact hlength
      · exact hcode
      · exact Int.le_refl 0
    · exact ih horder hts hnext n hn

theorem Precedes.advances (h : Precedes t u) :
    0 < u.line - t.line ∨ t.length ≤ if u.line = t.line then u.start - t.start else u.start := by
  rcases h with h | ⟨hline, -, hend⟩
  · exact Or.inl (by omega)
  · rw [if_pos hline.symm]
    exact Or.inr (by omega)

theorem advances_encodeFrom (horder : ts.Pairwise Precedes) (line start : Int) (k : Nat)
    (h : 5 * k + 9 < (encodeFrom line start ts).length) :
    0 < (encodeFrom line start ts)[5 * k + 5] ∨
      (encodeFrom line start ts)[5 * k + 2] ≤ (encodeFrom line start ts)[5 * k + 6] := by
  induction ts generalizing line start k with
  | nil => exact absurd h (Nat.not_lt_zero _)
  | cons t ts ih =>
    obtain ⟨hbehind, horder⟩ := List.pairwise_cons.mp horder
    cases k with
    | zero =>
      cases ts with
      | nil => exact absurd h (by simp [encodeFrom])
      | cons u ts => exact (hbehind u List.mem_cons_self).advances
    | succ k =>
      -- The numbers of one token are five, and the others follow them.
      have hrest : 5 * k + 9 < (encodeFrom t.line t.start ts).length := by
        have hlength : (encodeFrom line start (t :: ts)).length =
          (encodeFrom t.line t.start ts).length + 5 := rfl
        omega
      exact ih horder t.line t.start k hrest

theorem isForward_encode (horder : ts.Pairwise Precedes) (hts : ∀ t ∈ ts, IsNonneg t) :
    IsForward (encode ts) where
  nonneg := by
    refine nonneg_encodeFrom horder hts fun t ht => ?_
    obtain ⟨hline, hstart, -⟩ := hts t (List.mem_of_mem_head? ht)
    omega
  advances := advances_encodeFrom horder 0 0

/-! ### Tokens of a scan -/

theorem isNonneg_of_mem_findIn {i : CatalogIndex} {masked : List Text}
    (ht : t ∈ Document.findIn (inLine i) masked) : IsNonneg t := by
  obtain ⟨n, m, -, ht⟩ := Document.mem_findIn_iff.mp ht
  obtain ⟨start, w, k, -, -, rfl⟩ := mem_inLine_iff.mp ht
  exact ⟨Int.natCast_nonneg _, Int.natCast_nonneg _, Int.natCast_nonneg _⟩

theorem isForward_encode_findIn (i : CatalogIndex) (masked : List Text) :
    IsForward (encode (Document.findIn (inLine i) masked)) :=
  isForward_encode (pairwise_findIn_inLine i masked) fun _ ht => isNonneg_of_mem_findIn ht

/-- **The relative numbers of tokens lose nothing**, whatever the tokens are, and those of a scan only
lead forward, also with any other lexer whose lexemes make up the text. -/
theorem encode_lossless :
    (∀ ts, decode? (encode ts) = some ts) ∧ Function.Injective encode ∧
      (∀ i lines, IsForward (encode (scan i lines))) ∧
      ∀ (x : Document.Lexer) (i : CatalogIndex) (lines : List Text),
        IsForward (encode (Document.findIn (inLine i) (x.maskedLines lines))) :=
  ⟨decode?_encode, encode_injective,
    fun i lines => isForward_encode_findIn i (Document.maskedLines lines),
    fun x i lines => isForward_encode_findIn i (x.maskedLines lines)⟩

/-- Tokens out of order lead back. -/
example : decode? [1, 4, 2, 1, 0, 0, -4, 2, 0, 0] =
    some [⟨1, 4, 2, .table⟩, ⟨1, 0, 2, .schema⟩] := rfl

end SemanticToken

end SqlAssist
