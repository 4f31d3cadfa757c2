/-!
# Diagnostics

Every problem with a header, or with the template itself, is a diagnostic: one of six rules
broken at a span of the checked text, with a message that may take an argument.
-/

namespace Masthead

/-- How serious a diagnostic is. -/
inductive Severity
  | error
  | warning
  | info
  deriving DecidableEq

def Severity.name : Severity → String
  | error => "error"
  | warning => "warning"
  | info => "info"

inductive Rule
  | missingTemplate
  | misconfiguredTemplate
  | incorrectHeader
  | misplacedHeader
  | outdatedHeader
  | invalidHeader
  deriving DecidableEq

/-- A part of a message format: fixed wording, or the place of the argument. -/
inductive FormatPart
  | wording (text : String)
  | argument
  deriving DecidableEq

namespace FormatPart

/-- How the place of the argument is written in a format. -/
def argumentMark : String := "\x7b0\x7d"

/-- A part with the argument that is given for it, if any. -/
def fill (given : Option String) : FormatPart → String
  | wording text => text
  | argument => given.getD argumentMark

/-- A format with the argument that is given for it, if any. -/
def fillAll (parts : List FormatPart) (given : Option String) : String :=
  String.join (parts.map (fill given))

end FormatPart

namespace Rule

/-- All rules, in the order of their identifiers. -/
def all : List Rule :=
  [missingTemplate, misconfiguredTemplate, incorrectHeader, misplacedHeader, outdatedHeader,
    invalidHeader]

def id : Rule → String
  | missingTemplate => "SHA0000"
  | misconfiguredTemplate => "SHA0001"
  | incorrectHeader => "SHA0002"
  | misplacedHeader => "SHA0003"
  | outdatedHeader => "SHA0004"
  | invalidHeader => "SHA0005"

def ofId? (id : String) : Option Rule := all.find? (·.id == id)

def title : Rule → String
  | missingTemplate => "A header template file must be added to this project."
  | misconfiguredTemplate => "Header template file configuration is invalid."
  | incorrectHeader => "The file does not have the correct header."
  | misplacedHeader => "Nothing must come before the file header."
  | outdatedHeader => "The header is not current."
  | invalidHeader => "The header has invalid information."

def format : Rule → List FormatPart
  | missingTemplate =>
      [.wording
          "A header template file must be added to this project. Create a file ending in '",
        .argument,
        .wording "' at the highest-level folder where the header applies."]
  | misconfiguredTemplate => [.argument]
  | incorrectHeader => [.wording "The file does not have the correct header."]
  | misplacedHeader => [.wording "Nothing must come before the file header."]
  | outdatedHeader => [.argument]
  | invalidHeader => [.argument]

def severity : Rule → Severity
  | outdatedHeader => .info
  | _ => .error

/-- Whether writing the header anew can mend a breach of a rule. -/
def isFixable : Rule → Bool
  | missingTemplate | misconfiguredTemplate => false
  | _ => true

end Rule

/-- A rule broken at a span of the checked text. -/
structure Diagnostic where
  rule : Rule
  start : Int
  length : Int
  message : String
  properties : List (String × String)
  deriving DecidableEq

namespace Diagnostic

/-- The property that marks a diagnostic whose fix inserts a header and replaces nothing. -/
def insertOnlyKey : String := "is_insert_only"

/-- A diagnostic whose message has an argument, if one is given. -/
def create (rule : Rule) (start length : Int) (argument : Option String)
    (properties : List (String × String)) : Diagnostic :=
  ⟨rule, start, length, FormatPart.fillAll rule.format argument, properties⟩

/-- A diagnostic without a message argument or properties. -/
def plain (rule : Rule) (start length : Int) : Diagnostic := create rule start length none []

/-- A diagnostic whose message is given by its argument. -/
def saying (rule : Rule) (start length : Int) (message : String) : Diagnostic :=
  create rule start length (some message) []

def stop (diagnostic : Diagnostic) : Int := diagnostic.start + diagnostic.length

/-- Whether the fix of a diagnostic inserts a header and replaces nothing. -/
def isInsertOnly (diagnostic : Diagnostic) : Bool :=
  diagnostic.properties.any (·.1 == insertOnlyKey)

def isError (diagnostic : Diagnostic) : Bool := diagnostic.rule.severity == .error

end Diagnostic

end Masthead
