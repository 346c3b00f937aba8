import TypedQuery.Source.Grammar.Item

/-!
The grammar as a whole. A construct that stands inside another one is read by the grammar one level
below, and no text nests more deeply than it has tokens.
-/

namespace TypedQuery

namespace Grammar

/-- The grammar that reads nothing. -/
def none : Grammar where
  type _ := Parser.fail (.construct "type")
  argument := Parser.fail (.construct "type")
  expression _ := Parser.fail (.construct "expression")
  letValue := Parser.fail (.construct "expression")
  earlyExpression := Parser.fail (.construct "expression")
  pattern := Parser.fail (.construct "pattern")
  statements := Parser.fail (.construct "statement")
  item := Parser.fail (.construct "item")

/-- The grammar whose constructs hold those of `g`. -/
def above (g : Grammar) : Grammar where
  type := g.typeExpr
  argument := g.genericArgument
  expression := g.expressionTokens
  letValue := g.letOperand
  earlyExpression := g.earlyOperand
  pattern := g.patternFragment
  statements := g.statementList
  item := return (← g.parsedItem).fragment

def ofDepth : Nat → Grammar
  | 0 => none
  | depth + 1 => above (ofDepth depth)

end Grammar

namespace Parser

/-- Read a construct by a grammar that is deep enough for all tokens ahead. A level that reads no
token of its own is always followed by one that does within a few steps. -/
def nested {α : Type} (p : Grammar → Parser α) : Parser α := do
  p (Grammar.ofDepth (4 * Token.sizeList (← rest) + 4))

def type : Parser TypeExpr := nested fun g => g.typeExpr true

def path : Parser PathExpr := nested fun g => g.unanchoredPath false

def structItem : Parser StructItem := do
  let attributes ← attributes
  let visibility ← visibility
  nested fun g => g.structItem attributes visibility

def method : Parser Method := do
  let attributes ← attributes
  nested fun g => g.method attributes

def item : Parser Item := nested Grammar.parsedItem

end Parser

end TypedQuery
