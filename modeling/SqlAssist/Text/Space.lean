import SqlAssist.Text.Basic

/-!
# White space

White space is what Unicode calls so, together with the four ASCII separators U+001C to U+001F.
-/

namespace SqlAssist.Text

/-- The white space characters. -/
def spaceRanges : Ranges :=
  [(0x09, 0x0d), (0x1c, 0x20), (0x85, 0x85), (0xa0, 0xa0), (0x1680, 0x1680), (0x2000, 0x200a),
    (0x2028, 0x2029), (0x202f, 0x202f), (0x205f, 0x205f), (0x3000, 0x3000)]

/-- A white space character. -/
def isSpace (c : Char) : Bool :=
  spaceRanges.covers c

/-- The text without the white space at its start. -/
def trimStart (t : Text) : Text :=
  t.dropWhile isSpace

/-- The text without the white space at its end. -/
def trimEnd (t : Text) : Text :=
  t.dropWhileEnd isSpace

/-- The text without the white space at both ends. -/
def trim (t : Text) : Text :=
  trimEnd (trimStart t)

/-- Each run of white space becomes one space; `inRun` says that the character before was one. -/
def collapseFrom (inRun : Bool) : Text → Text
  | [] => []
  | c :: r =>
    if isSpace c then (if inRun then collapseFrom true r else ' ' :: collapseFrom true r)
    else c :: collapseFrom false r

/-- The text with each run of white space replaced by one space. -/
def collapseSpace (t : Text) : Text :=
  collapseFrom false t

end SqlAssist.Text
