import SqlAssist.Text.CaseMap
import SqlAssist.Text.Emoji
import SqlAssist.Text.Space

/-!
# Markup

Console text is marked up: a tag in brackets sets the style of what follows. On a plain page tags
leave no trace. A backslash in front of a tag shields it, so that it is printed, and two backslashes
there print one; text from outside is escaped in this way. Tags part the text into pieces.

Within one piece the name of an emoji between two colons stands for the emoji, whatever the case of
its letters. The name can end in a variant, which asks for the emoji as a letter or as a picture.
What looks like a code and names no emoji stands for itself, its second colon included.
-/

namespace SqlAssist.Layout

/-! ### Emoji codes -/

/-- The variants with the characters that ask for them. -/
def emojiVariants : List (Text × Char) :=
  [("-emoji".toList, '\ufe0f'), ("-text".toList, '\ufe0e')]

/-- What stands for the text between two colons, if it names an emoji. -/
def emojiOfCode? (code : Text) : Option Text :=
  match emojiVariants.find? fun v => v.1.isSuffixOf code with
  | some v => (Text.emoji? (Text.lower (code.take (code.length - v.1.length)))).map (· ++ [v.2])
  | none => Text.emoji? (Text.lower code)

/-- What a code begins with: the text up to the next colon, if no space is before it. -/
def codeBody? (t : Text) : Option Text :=
  let body := t.takeWhile fun c => c ≠ ':' && !Text.isSpace c
  if t[body.length]? = some ':' then some body else none

/-- The text with emoji in place of their codes; its first `inCode` characters belong to a code that
has been dealt with. -/
def replaceCodesFrom : (inCode : Nat) → Text → Text
  | _, [] => []
  | inCode + 1, _ :: r => replaceCodesFrom inCode r
  | 0, c :: r =>
    match if c = ':' then codeBody? r else none with
    | some body =>
      (emojiOfCode? body).getD (':' :: body ++ [':']) ++ replaceCodesFrom (body.length + 1) r
    | none => c :: replaceCodesFrom 0 r

/-- The text with emoji in place of their codes. -/
def replaceCodes (t : Text) : Text :=
  replaceCodesFrom 0 t

/-! ### Tags -/

namespace Markup

/-- A character that a tag can begin with. -/
def isTagStart (c : Char) : Bool :=
  ('a' ≤ c && c ≤ 'z') || c = '#' || c = '/' || c = '@'

/-- The length of the tag that a text begins with: a bracket, its closing bracket and no further
bracket opened between them. -/
def tagLength? : Text → Option Nat
  | '[' :: c :: r =>
    let body := r.takeWhile fun d => d ≠ '[' && d ≠ ']'
    if isTagStart c ∧ r[body.length]? = some ']' then some (body.length + 3) else none
  | _ => none

/-! ### Escaping -/

/-- The text with every tag shielded, the `shields` backslashes read last included; its first
`inTag` characters belong to a tag. -/
def escapeFrom : (inTag shields : Nat) → Text → Text
  | _, shields, [] => List.replicate shields '\\'
  | inTag + 1, _, c :: r => c :: escapeFrom inTag 0 r
  | 0, shields, c :: r =>
    if c = '\\' then escapeFrom 0 (shields + 1) r
    else match tagLength? (c :: r) with
      | some n => List.replicate (2 * shields + 1) '\\' ++ c :: escapeFrom (n - 1) 0 r
      | none => List.replicate shields '\\' ++ c :: escapeFrom 0 0 r

/-- The text with every tag shielded. A single backslash at its end is doubled, since a tag may
follow. -/
def escape (t : Text) : Text :=
  let escaped := escapeFrom 0 0 t
  if (t.takeWhileEnd (· = '\\')).length = 1 then escaped ++ ['\\'] else escaped

/-! ### Printing -/

/-- The pieces of a text: the rest of a piece with the `shields` backslashes read last, and the
pieces behind it. The first `inTag` characters belong to a tag that has been dealt with. -/
def piecesFrom : (inTag shields : Nat) → Text → List Text
  | _, shields, [] => [List.replicate shields '\\']
  | inTag + 1, _, _ :: r => piecesFrom inTag 0 r
  | 0, shields, c :: r =>
    if c = '\\' then piecesFrom 0 (shields + 1) r
    else match tagLength? (c :: r) with
      | some n =>
        let printed := if shields % 2 = 1 then [(c :: r).take n] else []
        [] :: List.replicate (shields / 2) '\\' :: printed ++ piecesFrom (n - 1) 0 r
      | none =>
        match piecesFrom 0 0 r with
        | [] => [List.replicate shields '\\' ++ [c]]
        | p :: ps => (List.replicate shields '\\' ++ c :: p) :: ps

/-- A piece without the backslashes right before brackets. -/
def unshield : Text → Text
  | '\\' :: '[' :: r => '[' :: unshield r
  | c :: r => c :: unshield r
  | [] => []

/-- The plain text that a marked up text prints. -/
def plain (t : Text) : Text :=
  (piecesFrom 0 0 t).flatMap fun p => replaceCodes (unshield p)

/-- Text from outside, as it is printed on its own. -/
def literal (t : Text) : Text :=
  plain (escape t)

/-- Text from outside in a style. -/
def styled (style : String) (t : Text) : Text :=
  '[' :: style.toList ++ ']' :: escape t ++ "[/]".toList

end Markup

end SqlAssist.Layout
