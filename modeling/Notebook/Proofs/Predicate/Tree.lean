import Mathlib.Logic.Function.Basic
import Notebook.Predicate

/-!
# Predicates as trees

A predicate is a chain that grows at its end. Seen from its root it is a tree: a comparison with
its children in order, each with the conjunction that joins it. One pass over the tree writes the
text and collects the values behind what there is already, another one collects the columns. Both
give what the predicate has for its text, values and columns (`walked`), so joining an operand
adds to what the pass over the chain gives, and changes nothing of it (`continues_join`).
-/

namespace Notebook.Predicate

/-- A comparison with its children, in order. -/
inductive Tree where
  | node (root : Comparison) (children : List (Conjunction × Tree))

/-- What a pass has written and collected. -/
structure Output where
  text : String
  values : List Value

/-- Writes a text behind what is written. -/
def Output.write (output : Output) (text : String) : Output :=
  { output with text := output.text ++ text }

/-- Writes a comparison and collects its value. -/
def Output.compare (output : Output) (comparison : Comparison) : Output where
  text := output.text ++ comparison.fragment
  values := output.values ++ [comparison.value]

namespace Tree

/-- The comparison of a tree. -/
def root : Tree → Comparison
  | .node root _ => root

/-- The children of a tree. -/
def children : Tree → List (Conjunction × Tree)
  | .node _ children => children

/-- A tree is compound if it has children. -/
def isCompound (tree : Tree) : Bool :=
  !tree.children.isEmpty

/-- The tree with one more child behind the others. -/
def push (tree : Tree) (conjunction : Conjunction) (child : Tree) : Tree :=
  .node tree.root (tree.children ++ [(conjunction, child)])

mutual

/-- Writes the comparison of a tree, then its children. -/
def compileInto : Tree → Output → Output
  | .node root children, output => compileChildren children (output.compare root)

/-- Writes children one after the other, compound ones in parentheses. -/
def compileChildren : List (Conjunction × Tree) → Output → Output
  | [], output => output
  | (conjunction, child) :: later, output =>
      let joined := output.write (" " ++ conjunction.sql ++ " ")
      if child.isCompound then
        compileChildren later ((child.compileInto (joined.write "(")).write ")")
      else compileChildren later (child.compileInto joined)

end

mutual

/-- Collects the column of a tree, then those of its children. -/
def collectColumns : Tree → List String → List String
  | .node root children, names => collectChildren children (names ++ [root.column])

/-- Collects the columns of children one after the other. -/
def collectChildren : List (Conjunction × Tree) → List String → List String
  | [], names => names
  | (_, child) :: later, names => collectChildren later (child.collectColumns names)

end

mutual

/-- The comparisons of a tree in pre-order. -/
def preorder : Tree → List Comparison
  | .node root children => root :: preorderChildren children

/-- The comparisons of children in pre-order. -/
def preorderChildren : List (Conjunction × Tree) → List Comparison
  | [] => []
  | (_, child) :: later => child.preorder ++ preorderChildren later

end

end Tree

/-- The tree of a predicate. -/
def tree : Predicate → Tree
  | .leaf comparison => .node comparison []
  | .join base conjunction operand => base.tree.push conjunction operand.tree

namespace Tree

mutual

/-- The predicate with this tree. -/
def predicate : Tree → Predicate
  | .node root children => joined (.leaf root) children

/-- A chain with children joined to it. -/
def joined (base : Predicate) : List (Conjunction × Tree) → Predicate
  | [] => base
  | (conjunction, child) :: later => joined (.join base conjunction child.predicate) later

end

/-! ### One more child -/

variable {tree child : Tree} {conjunction : Conjunction}

@[simp]
theorem root_push : (tree.push conjunction child).root = tree.root := rfl

@[simp]
theorem children_push :
    (tree.push conjunction child).children = tree.children ++ [(conjunction, child)] := rfl

/-- Children are written where the ones in front of them end. -/
theorem compileChildren_append (first second : List (Conjunction × Tree)) (output : Output) :
    compileChildren (first ++ second) output =
      compileChildren second (compileChildren first output) := by
  induction first generalizing output with
  | nil => rfl
  | cons entry later inductionHypothesis =>
      simp only [List.cons_append, compileChildren, inductionHypothesis]
      split <;> rfl

/-- The pass over a tree with one more child goes on behind the pass over the tree. -/
theorem compileInto_push (output : Output) :
    (tree.push conjunction child).compileInto output =
      compileChildren [(conjunction, child)] (tree.compileInto output) := by
  cases tree with
  | node root children => exact compileChildren_append children [(conjunction, child)] _

/-- The columns of children are collected where those of the ones in front of them end. -/
theorem collectChildren_append (first second : List (Conjunction × Tree)) (names : List String) :
    collectChildren (first ++ second) names =
      collectChildren second (collectChildren first names) := by
  induction first generalizing names with
  | nil => rfl
  | cons entry later inductionHypothesis =>
      simp only [List.cons_append, collectChildren, inductionHypothesis]

/-- The columns of one more child are collected behind those of the tree. -/
theorem collectColumns_push (names : List String) :
    (tree.push conjunction child).collectColumns names =
      child.collectColumns (tree.collectColumns names) := by
  cases tree with
  | node root children => exact collectChildren_append children [(conjunction, child)] _

/-- Children are behind the ones in front of them in pre-order. -/
theorem preorderChildren_append (first second : List (Conjunction × Tree)) :
    preorderChildren (first ++ second) = preorderChildren first ++ preorderChildren second := by
  induction first with
  | nil => rfl
  | cons entry later inductionHypothesis =>
      simp only [List.cons_append, preorderChildren, inductionHypothesis, List.append_assoc]

/-- One more child is last in pre-order. -/
theorem preorder_push :
    (tree.push conjunction child).preorder = tree.preorder ++ child.preorder := by
  cases tree with
  | node root children =>
      have joined := preorderChildren_append children [(conjunction, child)]
      rw [preorderChildren, preorderChildren, List.append_nil] at joined
      rw [push, preorder, preorder, Tree.children, joined, List.cons_append]
      rfl

/-! ### Trees of predicates -/

end Tree

variable {predicate : Predicate}

/-- The tree of a predicate has its root. -/
theorem root_tree (predicate : Predicate) : predicate.tree.root = predicate.root := by
  induction predicate with
  | leaf comparison => rfl
  | join base conjunction operand baseHypothesis _ => exact baseHypothesis

/-- The children of the tree of a predicate are the trees of its children. -/
theorem children_tree (predicate : Predicate) :
    predicate.tree.children =
      predicate.children.map fun (conjunction, child) => (conjunction, child.tree) := by
  induction predicate with
  | leaf comparison => rfl
  | join base conjunction operand baseHypothesis _ =>
      rw [tree, Tree.children_push, baseHypothesis, children, List.map_append]
      rfl

/-- The tree of a predicate is compound exactly if the predicate is. -/
theorem isCompound_tree (predicate : Predicate) :
    predicate.tree.isCompound = predicate.isCompound := by
  rw [Tree.isCompound, children_tree, isCompound_eq, List.isEmpty_map]

/-- The pass over the tree of a predicate writes its text and collects its values. -/
theorem compileInto_tree (predicate : Predicate) (output : Output) :
    predicate.tree.compileInto output =
      ⟨output.text ++ predicate.fragment, output.values ++ predicate.params⟩ := by
  induction predicate generalizing output with
  | leaf comparison => rfl
  | join base conjunction operand baseHypothesis operandHypothesis =>
      have values : (join base conjunction operand).params = base.params ++ operand.params := by
        simp [params, comparisons]
      rw [tree, Tree.compileInto_push, baseHypothesis, Tree.compileChildren, isCompound_tree]
      simp only [operandHypothesis, Tree.compileChildren, Output.write, values, fragment]
      cases operand.isCompound <;>
        simp only [grouped, Bool.false_eq_true, if_false, if_true, String.append_assoc,
          List.append_assoc]

/-- The pass over the tree of a predicate collects its columns. -/
theorem collectColumns_tree (predicate : Predicate) (names : List String) :
    predicate.tree.collectColumns names = names ++ predicate.columns := by
  induction predicate generalizing names with
  | leaf comparison => rfl
  | join base conjunction operand baseHypothesis operandHypothesis =>
      rw [tree, Tree.collectColumns_push, baseHypothesis, operandHypothesis]
      simp [columns, comparisons]

/-- The tree of a predicate has its comparisons in pre-order. -/
theorem preorder_tree (predicate : Predicate) :
    predicate.tree.preorder = predicate.comparisons := by
  induction predicate with
  | leaf comparison => rfl
  | join base conjunction operand baseHypothesis operandHypothesis =>
      rw [tree, Tree.preorder_push, baseHypothesis, operandHypothesis, comparisons]

/-! ### Predicates of trees -/

namespace Tree

/-- Children are joined to a chain one after the other. -/
theorem joined_append (base : Predicate) (first second : List (Conjunction × Tree)) :
    joined base (first ++ second) = joined (joined base first) second := by
  induction first generalizing base with
  | nil => rfl
  | cons entry later inductionHypothesis =>
      simp only [List.cons_append, joined, inductionHypothesis]

mutual

/-- A tree is that of its predicate. -/
theorem tree_predicate : (tree : Tree) → tree.predicate.tree = tree
  | .node root children => by
      rw [predicate, tree_joined]
      rfl

/-- A chain with children joined to it has these children behind its own. -/
theorem tree_joined : (base : Predicate) → (children : List (Conjunction × Tree)) →
    (joined base children).tree = .node base.tree.root (base.tree.children ++ children)
  | base, [] => by
      rw [joined, List.append_nil]
      cases base.tree
      rfl
  | base, (conjunction, child) :: later => by
      rw [joined, tree_joined, tree, tree_predicate child, root_push, children_push,
        List.append_assoc, List.singleton_append]

end

/-- One more child is joined to the predicate. -/
theorem predicate_push (tree child : Tree) (conjunction : Conjunction) :
    (tree.push conjunction child).predicate = .join tree.predicate conjunction child.predicate := by
  cases tree with
  | node root children => exact joined_append (.leaf root) children [(conjunction, child)]

end Tree

/-- A predicate is that of its tree. -/
theorem predicate_tree (predicate : Predicate) : predicate.tree.predicate = predicate := by
  induction predicate with
  | leaf comparison => rfl
  | join base conjunction operand baseHypothesis operandHypothesis =>
      rw [tree, Tree.predicate_push, baseHypothesis, operandHypothesis]

/-- Predicates and trees are the same in two ways to look at them. -/
theorem tree_bijective : Function.Bijective tree :=
  Function.bijective_iff_has_inverse.mpr ⟨Tree.predicate, predicate_tree, Tree.tree_predicate⟩

/-! ### Joining -/

/-- What walking over the tree of a predicate finds. -/
structure Walked (predicate : Predicate) : Prop where
  root : predicate.tree.root = predicate.root
  children : predicate.tree.children =
    predicate.children.map fun (conjunction, child) => (conjunction, child.tree)
  compiled : ∀ output, predicate.tree.compileInto output =
    ⟨output.text ++ predicate.fragment, output.values ++ predicate.params⟩
  collected : ∀ names, predicate.tree.collectColumns names = names ++ predicate.columns
  columns : predicate.columns = predicate.tree.preorder.map Comparison.column
  params : predicate.params = predicate.tree.preorder.map Comparison.value

/-- The whole is the base with one more operand. -/
structure Extends (base : Predicate) (conjunction : Conjunction) (operand whole : Predicate) :
    Prop where
  fragment : whole.fragment = base.fragment ++ " " ++ conjunction.sql ++ " " ++
    if operand.children = [] then operand.fragment else "(" ++ operand.fragment ++ ")"
  params : whole.params = base.params ++ operand.params
  columns : whole.columns = base.columns ++ operand.columns
  root : whole.root = base.root
  children : whole.children = base.children ++ [(conjunction, operand)]

/-- The tree of every predicate is walked like this. -/
theorem walked (predicate : Predicate) : Walked predicate where
  root := root_tree predicate
  children := children_tree predicate
  compiled := compileInto_tree predicate
  collected := collectColumns_tree predicate
  columns := by rw [preorder_tree, Predicate.columns]
  params := by rw [preorder_tree, Predicate.params]

/-- Joining an operand extends a predicate. -/
theorem extends_join (base : Predicate) (conjunction : Conjunction) (operand : Predicate) :
    Extends base conjunction operand (.join base conjunction operand) where
  fragment := by
    rw [Predicate.fragment, isCompound_eq]
    cases operand.children <;> rfl
  params := by simp [Predicate.params, comparisons]
  columns := by simp [Predicate.columns, comparisons]
  root := rfl
  children := rfl

/-- Joining many operands adds them to the children in order. -/
theorem children_andAll (base : Predicate) (operands : List Predicate) :
    (base.andAll operands).children = base.children ++ operands.map (Conjunction.and, ·) := by
  induction operands generalizing base with
  | nil => simp [andAll]
  | cons operand later inductionHypothesis =>
      have step : base.andAll (operand :: later) = (base.and operand).andAll later := rfl
      rw [step, inductionHypothesis, Predicate.and, children]
      simp

/-- Predicates are trees, and what they have for text, values and columns is what one pass over
the tree writes and collects behind whatever there is, leaf by leaf in pre-order. Joining an
operand leaves the root and the children there are as they are, and adds to text, values and
columns behind those of the chain, with parentheses exactly around an operand that has children.
Joining many operands is joining them one after the other. -/
theorem combinators_extend :
    Function.Bijective tree ∧
      (∀ predicate : Predicate, Walked predicate) ∧
      (∀ base operand : Predicate, Extends base .and operand (base.and operand) ∧
        Extends base .or operand (base.or operand)) ∧
      ∀ (base : Predicate) (first second : List Predicate),
        base.andAll (first ++ second) = (base.andAll first).andAll second ∧
        base.andAll [] = base ∧
        (base.andAll first).children = base.children ++ first.map (Conjunction.and, ·) := by
  refine ⟨tree_bijective, walked, ?_, ?_⟩
  · exact fun base operand => ⟨extends_join base .and operand, extends_join base .or operand⟩
  · exact fun base first second =>
      ⟨andAll_append base first second, rfl, children_andAll base first⟩

end Notebook.Predicate
