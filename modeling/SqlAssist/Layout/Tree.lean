import SqlAssist.Layout.Printed

/-!
# Trees

A tree is printed one node below the other. Guides lead from a node to its children; a label of
several lines goes on behind the guide of its node. The deeper a node, the narrower its page.
-/

namespace SqlAssist.Layout

/-- A node with its label and its children. -/
inductive Tree where
  /-- The node. -/
  | node (label : Text) (children : List Tree)

namespace Tree

/-- The guides of a child: in front of its first line and in front of all others. -/
def guides (isLast : Bool) : Text × Text :=
  if isLast then ("└── ".toList, "    ".toList) else ("├── ".toList, "│   ".toList)

/-- The width of a guide. -/
def guideWidth : Nat := 4

/-- Lines behind the guides of a child. -/
def behind (isLast : Bool) : List Text → List Text
  | [] => []
  | l :: ls => ((guides isLast).1 ++ l) :: ls.map ((guides isLast).2 ++ ·)

mutual

/-- The lines of a tree on a page of a width. -/
def linesWithin (width : Nat) : Tree → List Text
  | node label children =>
    printedWithin width .folded label ++ childLines (width - guideWidth) children
termination_by structural t => t

/-- The lines of the children of a node, which have a page of a width behind the guides. -/
def childLines (width : Nat) : List Tree → List Text
  | [] => []
  | t :: ts => behind ts.isEmpty (linesWithin width t) ++ childLines width ts
termination_by structural ts => ts

end

/-- The lines of a tree. -/
def lines (t : Tree) : List Text :=
  linesWithin pageWidth t

end Tree

end SqlAssist.Layout
