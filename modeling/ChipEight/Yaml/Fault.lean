/-!
# Faults in the text of a document

What can be wrong with a text that should be a document, before anything is
known about the data in it.
-/

namespace ChipEight
namespace Yaml

/-- Why a text is not a document. -/
inductive SyntaxFault where
  | notText
  /-- A character that no document may contain. -/
  | controlCharacter
  /-- A character that starts nothing. -/
  | strayCharacter
  | tabIndentation
  | missingColon
  | misplacedEntry
  | misplacedKey
  | misplacedValue
  /-- A colon at the end of a word inside brackets. -/
  | unexpectedColon
  | unclosedQuote
  | quotedDocumentMark
  /-- A backslash followed by something unknown. -/
  | badEscape
  /-- The first line of a block text. -/
  | badBlockHeader
  /-- A name after `&` or `*`. -/
  | badAnchor
  | badTag
  /-- A line that starts with a percent sign. -/
  | badDirective
  | undefinedHandle
  | unknownAlias
  | expectedNode
  | expectedEntry
  | expectedKey
  | expectedSeparator
  | expectedDocument
  | severalDocuments
deriving DecidableEq

namespace SyntaxFault

/-- The fault in words. -/
def message : SyntaxFault → String
  | notText => "invalid UTF-8"
  | controlCharacter => "control characters are not allowed"
  | strayCharacter => "found character that cannot start any token"
  | tabIndentation => "found a tab character where an indentation space is expected"
  | missingColon => "could not find expected ':'"
  | misplacedEntry => "block sequence entries are not allowed in this context"
  | misplacedKey => "mapping keys are not allowed in this context"
  | misplacedValue => "mapping values are not allowed in this context"
  | unexpectedColon => "found unexpected ':'"
  | unclosedQuote => "found unexpected end of stream"
  | quotedDocumentMark => "found unexpected document indicator"
  | badEscape => "found unknown escape character"
  | badBlockHeader => "did not find expected comment or line break"
  | badAnchor => "did not find expected alphabetic or numeric character"
  | badTag => "did not find expected tag"
  | badDirective => "found unknown directive"
  | undefinedHandle => "found undefined tag handle"
  | unknownAlias => "unknown anchor"
  | expectedNode => "did not find expected node content"
  | expectedEntry => "did not find expected '-' indicator"
  | expectedKey => "did not find expected key"
  | expectedSeparator => "did not find expected ',' or closing bracket"
  | expectedDocument => "did not find expected <document start>"
  | severalDocuments =>
    "deserializing from YAML containing more than one document is not supported"

end SyntaxFault
end Yaml
end ChipEight
