/-
**Why a text is not one YAML document.**
-/

namespace PageAttributes.Yaml

/-- Why a text is not one YAML document that can be written as a document. -/
inductive Problem where
  | controlCharacter
  | unexpectedCharacter
  | tabInIndentation
  | misplacedEntry
  | misplacedKey
  | misplacedValue
  | missingColon
  | colonInBrackets
  | openQuote
  | badEscape
  | badBlockHeader
  | badAnchor
  | badTag
  | badDirective
  | missingNode
  | missingEntry
  | openBracket
  | secondDocument
  | unknownAlias
  | tooManyAliases
  | tooDeep
  | ownTag
  | badTaggedScalar
  | bigInteger
  | collectionAsKey
deriving DecidableEq, Repr

/-- The wording of a problem. -/
def Problem.message : Problem → String
  | .controlCharacter => "control characters are not allowed"
  | .unexpectedCharacter => "found character that cannot start any token"
  | .tabInIndentation => "found a tab character in the indentation"
  | .misplacedEntry => "block sequence entries are not allowed in this context"
  | .misplacedKey => "mapping keys are not allowed in this context"
  | .misplacedValue => "mapping values are not allowed in this context"
  | .missingColon => "could not find expected ':'"
  | .colonInBrackets => "found unexpected ':'"
  | .openQuote => "found unexpected end of a quoted scalar"
  | .badEscape => "found unknown escape character"
  | .badBlockHeader => "did not find expected comment or line break"
  | .badAnchor => "did not find expected alphabetic or numeric character"
  | .badTag => "did not find a valid tag"
  | .badDirective => "did not find a valid directive"
  | .missingNode => "did not find expected node content"
  | .missingEntry => "did not find expected entry"
  | .openBracket => "did not find expected ',' or closing bracket"
  | .secondDocument => "more than one document is not supported"
  | .unknownAlias => "unknown anchor"
  | .tooManyAliases => "repetition limit exceeded"
  | .tooDeep => "recursion limit exceeded"
  | .ownTag => "unexpected tag"
  | .badTaggedScalar => "the scalar does not fit its tag"
  | .bigInteger => "integer does not fit 64 bits"
  | .collectionAsKey => "expected a string key"

end PageAttributes.Yaml
