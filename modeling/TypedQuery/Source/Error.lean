import TypedQuery.Token.Basic

namespace TypedQuery

/-- What a parser may look for at a place. -/
inductive Wanted where
  | word (spelling : String)
  | operator (spelling : String)
  | identifier
  | lifetime
  | literal
  | stringLiteral
  | group (delimiter : Delimiter)
  /-- A construct that no single token starts. -/
  | construct (name : String)
  deriving DecidableEq, Repr

namespace Wanted

def describe : Wanted → String
  | word spelling | operator spelling => "`" ++ spelling ++ "`"
  | identifier => "identifier"
  | lifetime => "lifetime"
  | literal => "literal"
  | stringLiteral => "string literal"
  | group .parenthesis => "parentheses"
  | group .brace => "curly braces"
  | group .bracket => "square brackets"
  | construct name => name

/-- Alternatives as one phrase. -/
def describeAll : List Wanted → String
  | [] => ""
  | [a] => a.describe
  | [a, b] => a.describe ++ " or " ++ b.describe
  | all => "one of: " ++ ", ".intercalate (all.map describe)

end Wanted

inductive SourceError where
  /-- The text has no tokens, or its delimiters do not match. -/
  | unreadable
  /-- Tokens follow a complete construct. -/
  | unexpectedToken
  /-- A form that is neither read nor reported: there is no message for it. -/
  | unreported
  /-- None of the alternatives was found; there may be none to name. `ended` says that nothing at
  all was left there. -/
  | expected (wanted : List Wanted) (ended : Bool)
  | objectTypeWithoutTrait
  | implWithoutTrait
  /-- A cast goes on as only an operand without one can. -/
  | continuedCast (continuation : String)
  /-- A position in a tuple is a plain number. -/
  | suffixedPosition
  | negativePosition
  | positionTooLarge
  | misplacedReceiver
  | repeatedReceiver
  /-- An attribute inside what it belongs to is written with an exclamation mark. -/
  | missingArguments (mapping : String) (isInner : Bool)
  | ungroupedArguments (mapping : String) (isInner : Bool)
  | trailingArguments
  | unknownOption
  | unknownQueryKey
  | emptyQuery
  | unknownRelationKey
  | missingParent
  | missingEntity
  | unknownJunctionKey
  | incompleteJunction (part : String)
  | tableWithoutFields
  | relationWithColumn
  | missingQueryAttribute
  | queryWithBody
  | genericQuery
  | queryWithReceiver
  | unnamedArgument
  | reservedArgument
  | missingReturnType
  | typeArgumentCount
  | mapKeyWithRelations
  | relationType
  | relationTarget
  | relationTable
  | nestedRelations
  deriving DecidableEq, Repr

namespace SourceError

/-- How an attribute with arguments is written. -/
def attributeForm (mapping : String) (isInner : Bool) : String :=
  (if isInner then "#![" else "#[") ++ mapping ++ "(...)]"

def message : SourceError → String
  | unreadable => "lex error"
  | unexpectedToken => "unexpected token"
  | unreported => ""
  | expected [] ended => if ended then "unexpected end of input" else "unexpected token"
  | expected wanted ended =>
    (if ended then "unexpected end of input, " else "") ++ "expected " ++ Wanted.describeAll wanted
  | objectTypeWithoutTrait => "at least one trait is required for an object type"
  | implWithoutTrait => "at least one trait must be specified"
  | continuedCast continuation => "casts cannot be followed by " ++ continuation
  | suffixedPosition => "expected unsuffixed integer"
  | negativePosition => "invalid digit found in string"
  | positionTooLarge => "number too large to fit in target type"
  | misplacedReceiver => "unexpected method receiver"
  | repeatedReceiver => "unexpected second method receiver"
  | missingArguments mapping isInner =>
    "expected attribute arguments in parentheses: " ++ attributeForm mapping isInner
  | ungroupedArguments mapping isInner => "expected parentheses: " ++ attributeForm mapping isInner
  | trailingArguments => "unexpected token in attribute arguments"
  | unknownOption => "Unrecognized option"
  | unknownQueryKey => "Expected `key` or `value`"
  | emptyQuery => "Query must not be empty"
  | unknownRelationKey => "Expected `parent`, `entity` or `junction`"
  | missingParent => "Missing `parent = \"column\"`"
  | missingEntity => "Missing `entity = \"column\"`"
  | unknownJunctionKey => "Expected `table`, `parent` or `entity`"
  | incompleteJunction part => "Junction is missing `" ++ part ++ "`"
  | tableWithoutFields => "A table struct must have named fields"
  | relationWithColumn => "A relation field is not read from a column"
  | missingQueryAttribute => "Expected a #[query(\"..\")] attribute"
  | queryWithBody => "A query declaration has no body"
  | genericQuery => "A query declaration cannot be generic"
  | queryWithReceiver => "A query declaration takes no receiver"
  | unnamedArgument => "Expected an argument name"
  | reservedArgument => "`db` is reserved for the connection argument"
  | missingReturnType => "Expected return type"
  | typeArgumentCount => "Unexpected number of type arguments"
  | mapKeyWithRelations => "A map key cannot have relation fields"
  | relationType => "Expected Vec<T> or Option<T> for a relation field"
  | relationTarget => "Expected a struct declared in this module"
  | relationTable => "The related struct needs a #[table(\"name\")] attribute"
  | nestedRelations => "Nested relations are not supported"

end SourceError

end TypedQuery
