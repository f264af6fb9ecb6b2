namespace CommandScript.Pattern

inductive Fault where
  | unclosedGroup
  | unopenedGroup
  | lookAround
  | groupName
  | repeatedGroupName
  | flags
  | missingOperand
  | repetitionCount
  | escape
  | backReference
  | wordBoundary
  | codePoint
  | unclosedClass
  | classItem
  | classRange
  | unknownProperty
  | unicodeDisallowed
  | bytesDisallowed
  | nestedTooDeeply
  | tooLarge
deriving DecidableEq, Repr

namespace Fault

def message : Fault → String
  | .unclosedGroup => "unclosed group"
  | .unopenedGroup => "unopened group"
  | .lookAround => "look-around is not supported"
  | .groupName => "malformed group name"
  | .repeatedGroupName => "repeated group name"
  | .flags => "malformed flags"
  | .missingOperand => "repetition operator without an operand"
  | .repetitionCount => "malformed repetition count"
  | .escape => "unrecognized escape"
  | .backReference => "back-references are not supported"
  | .wordBoundary => "malformed word boundary"
  | .codePoint => "not a character"
  | .unclosedClass => "unclosed character class"
  | .classItem => "not a character class item"
  | .classRange => "malformed character class range"
  | .unknownProperty => "unknown character property"
  | .unicodeDisallowed => "not allowed without the Unicode flag"
  | .bytesDisallowed => "matches something that is not a character"
  | .nestedTooDeeply => "nested too deeply"
  | .tooLarge => "too large"

end Fault

end CommandScript.Pattern
