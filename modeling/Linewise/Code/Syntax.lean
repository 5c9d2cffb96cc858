import Linewise.Code.Block
/-! Syntax trees as a structural parser gives them, and the blocks read off them. A walk pops
nodes off a stack and pushes their children; each function or class definition it meets becomes
a block from the definition's first row to the row of its last token that is not a comment. -/
namespace Linewise.Code

/-- A place in a text: a row and a byte column, both from zero. -/
structure Point where
  row : Nat
  column : Nat
  deriving DecidableEq, Repr, Inhabited

def Point.before (p q : Point) : Bool :=
  p.row < q.row || (p.row == q.row && p.column < q.column)

/-- A node of a concrete syntax tree: its kind, where it starts and ends, whether the parser put
it in for a missing token, and its children in order. -/
structure Node where
  kind : String
  start : Point
  stop : Point
  missing : Bool
  children : List Node
  deriving Repr, Inhabited

namespace Node

mutual
def nodes : Node → List Node
  | n@⟨_, _, _, _, cs⟩ => n :: nodesOf cs
def nodesOf : List Node → List Node
  | [] => []
  | c :: cs => c.nodes ++ nodesOf cs
end

theorem nodes_eq (n : Node) : n.nodes = n :: nodesOf n.children := by
  cases n
  rfl

@[simp] theorem nodesOf_nil : nodesOf [] = [] := rfl

@[simp] theorem nodesOf_cons (c : Node) (cs : List Node) :
    nodesOf (c :: cs) = c.nodes ++ nodesOf cs := rfl

@[simp] theorem nodesOf_append (l₁ l₂ : List Node) :
    nodesOf (l₁ ++ l₂) = nodesOf l₁ ++ nodesOf l₂ := by
  induction l₁ with
  | nil => rfl
  | cons c cs ih => rw [List.cons_append, nodesOf_cons, nodesOf_cons, ih, List.append_assoc]

theorem length_nodesOf_reverse (l : List Node) : (nodesOf l.reverse).length = (nodesOf l).length := by
  induction l with
  | nil => rfl
  | cons c cs ih =>
    rw [List.reverse_cons, nodesOf_append, nodesOf_cons, nodesOf_cons, nodesOf_nil, List.append_nil,
      List.length_append, List.length_append, ih, Nat.add_comm]

theorem length_nodesOf_push (n : Node) (stack : List Node) :
    (nodesOf (n.children.reverse ++ stack)).length < (nodesOf (n :: stack)).length := by
  rw [nodesOf_append, nodesOf_cons, nodes_eq, List.length_append, List.length_append,
    length_nodesOf_reverse, List.length_cons]
  omega

theorem length_nodesOf_lt_cons (n : Node) (stack : List Node) :
    (nodesOf stack).length < (nodesOf (n :: stack)).length := by
  rw [nodesOf_cons, List.length_append, nodes_eq, List.length_cons]
  omega

/-- Whether a tree has a syntax error: an error node, or a node put in for a missing token. -/
def hasError (n : Node) : Bool := n.nodes.any fun m => m.kind == "ERROR" || m.missing

/-- The end of the last token under the nodes of a stack, comments and what lies under them left
out, or `last` when none ends after it. The walk pops a node, skips a comment, keeps the end of a
token that ends later, and pushes the children of any other node, so the last child comes next. -/
def codeEndFrom : List Node → Point → Point
  | [], last => last
  | n :: stack, last =>
    if n.kind == "comment" then codeEndFrom stack last
    else if n.children.isEmpty then codeEndFrom stack (if last.before n.stop then n.stop else last)
    else codeEndFrom (n.children.reverse ++ stack) last
termination_by stack => (nodesOf stack).length
decreasing_by
  · exact length_nodesOf_lt_cons n stack
  · exact length_nodesOf_lt_cons n stack
  · simp only [List.unattach_reverse, List.unattach_attach]
    exact length_nodesOf_push n stack

def codeEnd (n : Node) : Point := codeEndFrom [n] n.start

def blockKind? (kind : String) : Option BlockKind :=
  if kind == "function_definition" then some .function
  else if kind == "class_definition" then some .classDef
  else none

/-- The block a definition node opens: from its first row to the row its code ends on, or the row
before when the code ends at the start of a later row. -/
def block? (n : Node) : Option Block :=
  (blockKind? n.kind).map fun k =>
    let e := n.codeEnd
    ⟨k, n.start.row, if e.column == 0 && e.row > n.start.row then e.row - 1 else e.row⟩

end Node

/-- The blocks of the definitions a walk meets, in the order it pops them: it pops a node off the
stack and pushes its children in order, so the last child comes next. -/
def collectBlocks : List Node → List Block
  | [] => []
  | n :: stack =>
    match n.block? with
    | some b => b :: collectBlocks (n.children.reverse ++ stack)
    | none => collectBlocks (n.children.reverse ++ stack)
termination_by stack => (Node.nodesOf stack).length
decreasing_by
  all_goals simp only [List.unattach_reverse, List.unattach_attach]
  all_goals exact Node.length_nodesOf_push n stack

def blockBefore (a b : Block) : Bool :=
  a.startLine < b.startLine || (a.startLine == b.startLine && a.endLine ≤ b.endLine)

/-- The blocks a structural parser gives: none when it gives no tree or the tree has a syntax
error, else the blocks of the tree's definitions in order of first line, then last line. -/
def structureBlocks (parse : String → Option Node) (text : String) : Option (List Block) :=
  match parse text with
  | some root => if root.hasError then none else some ((collectBlocks [root]).mergeSort blockBefore)
  | none => none

def structureBlocksLog (parse : String → Option Node) (text : String) : List LogEntry :=
  match parse text with
  | some root =>
    if root.hasError then [LogEntry.debug "    Structural parse reported syntax errors."] else []
  | none => []

def structureSource (parse : String → Option Node) : BlockSource :=
  ⟨structureBlocks parse, structureBlocksLog parse⟩

end Linewise.Code
