/-
**What can be wrong with XML.** Faults come from four places: the form of a tag or another piece
of markup, the attributes of a tag, the references in an attribute value, and the way elements are
nested. Positions count bytes from just after the opening angle bracket of a tag, ranges count
bytes from the start of a value.

* `AttributeFault`, `ReferenceFault`, `Fault`: the faults.
* `Fault.message`: how they are said.
-/

namespace LaneChart.Markup

/-- What can be wrong with the attributes of a tag. -/
inductive AttributeFault where
  | keyWithoutValue (position : Nat)
  | missingValue (position : Nat)
  | unquotedValue (position : Nat)
  | unclosedValue (position : Nat) (quote : Char)
  | repeatedKey (position earlier : Nat)
deriving DecidableEq, Repr

/-- How a fault of an attribute is said. -/
def AttributeFault.message : AttributeFault → String
  | .keyWithoutValue position =>
    s!"position {position}: attribute key must be directly followed by `=` or space"
  | .missingValue position => s!"position {position}: `=` must be followed by an attribute value"
  | .unquotedValue position =>
    s!"position {position}: attribute value must be enclosed in `\"` or `'`"
  | .unclosedValue position quote =>
    s!"position {position}: missing closing quote `{quote}` in attribute value"
  | .repeatedKey position earlier =>
    s!"position {position}: duplicated attribute, previous declaration at position {earlier}"

/-- What can be wrong with the number of a character. -/
inductive NumberFault where
  | signed
  | empty
  | invalidDigit
  | tooLarge
  | zero
  | noCharacter (number : Nat)
deriving DecidableEq, Repr

/-- How a fault of a number is said. -/
def NumberFault.message : NumberFault → String
  | .signed => "unexpected number sign"
  | .empty => "cannot parse integer from empty string"
  | .invalidDigit => "invalid digit found in string"
  | .tooLarge => "number too large to fit in target type"
  | .zero => "0x0 character is not permitted in XML"
  | .noCharacter number => s!"`{number}` is not a valid codepoint"

/-- What can be wrong with a reference. -/
inductive ReferenceFault where
  | unterminated (first last : Nat)
  | unknownName (first last : Nat) (name : String)
  | badNumber (fault : NumberFault)
deriving DecidableEq, Repr

/-- How a fault of a reference is said. -/
def ReferenceFault.message : ReferenceFault → String
  | .unterminated first last =>
    s!"Error while escaping character at range {first}..{last}: Cannot find ';' after '&'"
  | .unknownName first last name => s!"at {first}..{last}: unrecognized entity `{name}`"
  | .badNumber fault => s!"invalid character reference: {fault.message}"

/-- **Everything that can be wrong with an XML text.** -/
inductive Fault where
  | unclosedTag
  | unknownMarkup
  | unclosedComment
  | unclosedData
  | unclosedDoctype
  | namelessDoctype
  | unclosedInstruction
  | unmatchedEnd (name : String)
  | wrongEnd (expected found : String)
  | inAttribute (fault : AttributeFault)
  | inReference (fault : ReferenceFault)
  | noRoot
  | unclosedElements (count : Nat)
deriving DecidableEq, Repr

/-- What is wrong, without saying that it is the document which is wrong. -/
def Fault.detail : Fault → String
  | .unclosedTag => "syntax error: tag not closed: `>` not found before end of input"
  | .unknownMarkup => "syntax error: unknown or missed symbol in markup"
  | .unclosedComment => "syntax error: comment not closed: `-->` not found before end of input"
  | .unclosedData => "syntax error: CDATA not closed: `]]>` not found before end of input"
  | .unclosedDoctype => "syntax error: DOCTYPE not closed: `>` not found before end of input"
  | .namelessDoctype =>
    "ill-formed document: `<!DOCTYPE>` declaration does not contain a name of a document type"
  | .unclosedInstruction =>
    "syntax error: processing instruction or xml declaration not closed: `?>` not found before " ++
      "end of input"
  | .unmatchedEnd name =>
    s!"ill-formed document: close tag `</{name}>` does not match any open tag"
  | .wrongEnd expected found =>
    s!"ill-formed document: expected `</{expected}>`, but `</{found}>` was found"
  | .inAttribute fault => fault.message
  | .inReference fault => fault.message
  | .noRoot => "document has no root element"
  | .unclosedElements count => s!"{count} element(s) left unclosed"

/-- How a fault is said. -/
def Fault.message (fault : Fault) : String := s!"BPMN XML is malformed: {fault.detail}"

end LaneChart.Markup
