import ShallowCpp.Outline.Source

/-!
# Changing the parts of an outline

An outline is changed by one map for its functions and one for its declarations, and its include
directives stay. The functions and the declarations of the outline are then those of the outline
before, changed (`functions_map`, `declarations_map`). The outlines of two sources are related in
this way as soon as the three passes over the sources are (`ofSource_eq_map`).
-/

set_option autoImplicit false

namespace ShallowCpp

/-- The node, changed according to what it is. -/
def Node.map (onFunction : FunctionDecl → FunctionDecl)
    (onDeclaration : VariableDecl → VariableDecl) : Node → Node
  | .inclusion directive => .inclusion directive
  | .function decl => .function (onFunction decl)
  | .declaration decl => .declaration (onDeclaration decl)

namespace Program

variable (onFunction : FunctionDecl → FunctionDecl) (onDeclaration : VariableDecl → VariableDecl)

/-- The outline with its functions and declarations changed. -/
def map (program : Program) : Program :=
  ⟨program.nodes.map (Node.map onFunction onDeclaration)⟩

theorem functions_map (program : Program) :
    (program.map onFunction onDeclaration).functions = program.functions.map onFunction := by
  rw [functions, functions, map, List.filterMap_map, List.map_filterMap]
  congr 1
  funext node
  cases node with
  | inclusion _ => rfl
  | function _ => rfl
  | declaration _ => rfl

theorem declarations_map (program : Program) :
    (program.map onFunction onDeclaration).declarations =
      program.declarations.map onDeclaration := by
  rw [declarations, declarations, map, List.filterMap_map, List.map_filterMap]
  congr 1
  funext node
  cases node with
  | inclusion _ => rfl
  | function _ => rfl
  | declaration _ => rfl

variable {onFunction onDeclaration}

theorem ofSource_eq_map {source other : Text}
    (inclusions : inclusionsIn other = inclusionsIn source)
    (functions : functionsIn other = (functionsIn source).map onFunction)
    (declarations : declarationsIn other = (declarationsIn source).map onDeclaration) :
    ofSource other = (ofSource source).map onFunction onDeclaration := by
  simp only [ofSource, map, inclusions, functions, declarations, List.map_append, List.map_map]
  rfl

end Program

end ShallowCpp
