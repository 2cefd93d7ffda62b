import SqlAssist.Text.Space

/-!
# Paths

A path is written with slashes between its parts. Empty parts and single dots mean nothing and are
left out; double dots stay, as what they lead to depends on the directories there are.
-/

namespace SqlAssist

/-- A path of a file or a directory. -/
structure Path where
  /-- The slashes that an absolute path starts with. -/
  root : Text := []
  /-- The names on the way. -/
  parts : List Text := []
  deriving DecidableEq, Repr

namespace Path

/-- The root that a written path starts with: two slashes are kept, any other number counts as one.
-/
def rootOf (t : Text) : Text :=
  match (t.takeWhile (· = '/')).length with
  | 0 => []
  | 2 => ['/', '/']
  | _ => ['/']

/-- Reads a path. -/
def ofText (t : Text) : Path :=
  ⟨rootOf t, (t.split '/').filter fun p => !p.isEmpty && p ≠ ['.']⟩

/-- Writes a path; the one without parts is a dot. -/
def toText (p : Path) : Text :=
  if p.root.isEmpty ∧ p.parts.isEmpty then ['.'] else p.root ++ Text.join ['/'] p.parts

/-- The path without its last part. -/
def parent (p : Path) : Path :=
  { p with parts := p.parts.dropLast }

/-- The path of a name within a directory. -/
def child (p : Path) (name : Text) : Path :=
  { p with parts := p.parts ++ [name] }

/-- The home directory, as the environment names it, without slashes at its end. -/
def homePath (home : Text) : Path :=
  let t := home.dropWhileEnd (· = '/')
  ofText (if t.isEmpty then ['/'] else t)

/-- A path whose first part is a tilde leads from the home directory. One whose first part only
starts with a tilde asks for somebody else's home, which is not known. -/
def expandHome? (home : Text) (p : Path) : Option Path :=
  match p.root, p.parts with
  | [], ['~'] :: rest => some { homePath home with parts := (homePath home).parts ++ rest }
  | [], ('~' :: _) :: _ => none
  | _, _ => some p

end Path

end SqlAssist
