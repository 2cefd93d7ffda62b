import SqlAssist.Catalog.Configuration
import SqlAssist.Catalog.Index
import SqlAssist.Completion.Suggestion
import SqlAssist.Text.Word

/-!
# Hovering

The word under the cursor is described if it names a function of the database or a schema, in this
order and whatever its case.
-/

namespace SqlAssist

/-- The description of a word. -/
structure Hover where
  /-- The name that the word stands for. -/
  title : Text
  /-- The lines of the description. -/
  contents : List Text := []
  deriving DecidableEq, Repr

namespace Hover

/-- The whole word that a cursor touches. -/
def wordAt (before after : Text) : Text :=
  before.lastName ++ after.takeWhile Text.isNameChar

/-- The description of a function. -/
def ofBuiltin (b : Builtin) : Hover where
  title := b.name
  contents :=
    (if b.description.isEmpty then [] else [b.description])
      ++ (if b.sample.isEmpty then [] else ["Example: ".toList ++ b.sample])

/-- The description of a schema. -/
def ofSchema (s : Schema) : Hover where
  title := s.name
  contents := [Suggestion.counted s.tables.length "tables"]

/-- The description of a word, if it names something. -/
def find? (i : CatalogIndex) (c : Configuration) (word : Text) : Option Hover :=
  if word.isEmpty then none
  else match c.builtins.find? fun b => b.name.upper = word.upper with
    | some b => some (ofBuiltin b)
    | none => (i.findSchema word).map ofSchema

end Hover

end SqlAssist
