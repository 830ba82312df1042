namespace Federation.Yaml

/-- A place in a text, counted from nought: in lines and, within its line, in characters. -/
structure Mark where
  index : Nat
  line : Nat
  column : Nat
  deriving DecidableEq, Repr

def Mark.start : Mark := ⟨0, 0, 0⟩

def Mark.text (m : Mark) : String :=
  "line " ++ toString (m.line + 1) ++ " column " ++ toString (m.column + 1)

def Mark.isPastStart (m : Mark) : Bool := m.line != 0 || m.column != 0

inductive Problem
  | noToken
  | noColon
  | entryNotAllowed
  | keyNotAllowed
  | valueNotAllowed
  | unknownDirective
  | noCommentOrBreak
  | noDirectiveName
  | badDirectiveName
  | noVersionPoint
  | longVersionNumber
  | noVersionNumber
  | noSpaceInDirective
  | noSpaceOrBreak
  | noName
  | noClosingAngle
  | noExclamationMark
  | noUri
  | noEscapedOctet
  | badLeadingOctet
  | badTrailingOctet
  | zeroIndent
  | tabInIndent
  | documentMarkInQuotes
  | endInQuotes
  | unknownEscape
  | noHexDigit
  | badCodePoint
  | colonInPlain
  | tabBeforeIndent
  | noDocumentStart
  | unknownTagHandle
  | noContent
  | noDash
  | noKey
  | noCommaOrBracket
  | noCommaOrBrace
  | repeatedVersion
  | otherVersion
  | repeatedTagDirective
  deriving DecidableEq, Repr

def Problem.message : Problem → String
  | .noToken => "found character that cannot start any token"
  | .noColon => "could not find expected ':'"
  | .entryNotAllowed => "block sequence entries are not allowed in this context"
  | .keyNotAllowed => "mapping keys are not allowed in this context"
  | .valueNotAllowed => "mapping values are not allowed in this context"
  | .unknownDirective => "found unknown directive name"
  | .noCommentOrBreak => "did not find expected comment or line break"
  | .noDirectiveName => "could not find expected directive name"
  | .badDirectiveName => "found unexpected non-alphabetical character"
  | .noVersionPoint => "did not find expected digit or '.' character"
  | .longVersionNumber => "found extremely long version number"
  | .noVersionNumber => "did not find expected version number"
  | .noSpaceInDirective => "did not find expected whitespace"
  | .noSpaceOrBreak => "did not find expected whitespace or line break"
  | .noName => "did not find expected alphabetic or numeric character"
  | .noClosingAngle => "did not find the expected '>'"
  | .noExclamationMark => "did not find expected '!'"
  | .noUri => "did not find expected tag URI"
  | .noEscapedOctet => "did not find URI escaped octet"
  | .badLeadingOctet => "found an incorrect leading UTF-8 octet"
  | .badTrailingOctet => "found an incorrect trailing UTF-8 octet"
  | .zeroIndent => "found an indentation indicator equal to 0"
  | .tabInIndent => "found a tab character where an indentation space is expected"
  | .documentMarkInQuotes => "found unexpected document indicator"
  | .endInQuotes => "found unexpected end of stream"
  | .unknownEscape => "found unknown escape character"
  | .noHexDigit => "did not find expected hexadecimal number"
  | .badCodePoint => "found invalid Unicode character escape code"
  | .colonInPlain => "found unexpected ':'"
  | .tabBeforeIndent => "found a tab character that violates indentation"
  | .noDocumentStart => "did not find expected <document start>"
  | .unknownTagHandle => "found undefined tag handle"
  | .noContent => "did not find expected node content"
  | .noDash => "did not find expected '-' indicator"
  | .noKey => "did not find expected key"
  | .noCommaOrBracket => "did not find expected ',' or ']'"
  | .noCommaOrBrace => "did not find expected ',' or '\x7d'"
  | .repeatedVersion => "found duplicate %YAML directive"
  | .otherVersion => "found incompatible YAML document"
  | .repeatedTagDirective => "found duplicate %TAG directive"

/-- What was being read when a problem was met. -/
inductive Activity
  | nextToken
  | simpleKey
  | directive
  | versionDirective
  | tagDirective
  | alias
  | anchor
  | tag
  | tagParts
  | directiveHandle
  | directiveHandleParts
  | directiveStem
  | blockScalar
  | quotedScalar
  | quotedEscape
  | plainScalar
  | node
  | blockNode
  | flowNode
  | blockCollection
  | blockMapping
  | flowSequence
  | flowMapping
  deriving DecidableEq, Repr

def Activity.message : Activity → String
  | .nextToken => "while scanning for the next token"
  | .simpleKey => "while scanning a simple key"
  | .directive => "while scanning a directive"
  | .versionDirective => "while scanning a %YAML directive"
  | .tagDirective => "while scanning a %TAG directive"
  | .alias => "while scanning an alias"
  | .anchor => "while scanning an anchor"
  | .tag => "while scanning a tag"
  | .tagParts => "while parsing a tag"
  | .directiveHandle => "while scanning a tag directive"
  | .directiveHandleParts => "while parsing a tag directive"
  | .directiveStem => "while parsing a %TAG directive"
  | .blockScalar => "while scanning a block scalar"
  | .quotedScalar => "while scanning a quoted scalar"
  | .quotedEscape => "while parsing a quoted scalar"
  | .plainScalar => "while scanning a plain scalar"
  | .node => "while parsing a node"
  | .blockNode => "while parsing a block node"
  | .flowNode => "while parsing a flow node"
  | .blockCollection => "while parsing a block collection"
  | .blockMapping => "while parsing a block mapping"
  | .flowSequence => "while parsing a flow sequence"
  | .flowMapping => "while parsing a flow mapping"

structure Context where
  activity : Activity
  since : Mark
  deriving DecidableEq, Repr

inductive Fault
  | character (offset : Nat)
  | malformed (problem : Problem) (place : Mark) (context : Option Context)
  | unknownAnchor (place : Mark)
  | manyDocuments
  | repetition
  | ended
  deriving DecidableEq, Repr

def Fault.message : Fault → String
  | .character offset =>
    "control characters are not allowed" ++
      (if offset = 0 then "" else " at position " ++ toString offset)
  | .malformed problem place context =>
    let located := problem.message ++
      (if place.isPastStart then " at " ++ place.text else "")
    match context with
    | none => located
    | some c =>
      let apart := c.since.line ≠ place.line ∨ c.since.column ≠ place.column
      located ++ ", " ++ c.activity.message ++
        (if c.since.isPastStart ∧ apart then " at " ++ c.since.text else "")
  | .unknownAnchor place =>
    "unknown anchor" ++ (if place.isPastStart then " at " ++ place.text else "")
  | .manyDocuments => "deserializing from YAML containing more than one document is not supported"
  | .repetition => "repetition limit exceeded"
  | .ended => "EOF while parsing a value"

end Federation.Yaml
