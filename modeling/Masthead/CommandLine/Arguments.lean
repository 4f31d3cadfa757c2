import Masthead.Text.Digit
import Masthead.Text.Quoted

/-!
# Command line arguments

A command takes options and one group of positional arguments.  An option is spelled in full or by
any beginning that no other option shares; its value follows it or is attached to it by an equals
sign.  After two dashes alone everything is positional, and so is an argument that looks like a
negative number.  Reading the arguments yields events in the order in which they take effect.
-/

namespace Masthead

/-- An option of a command: its spellings, and whether it takes a value. -/
structure OptionRule where
  spellings : List String
  takesValue : Bool
  deriving DecidableEq

/-- The positional arguments of a command: a word and everything after it, or one or more. -/
inductive PositionalShape
  | wordAndRest
  | oneOrMore
  deriving DecidableEq

/-- The arguments that a command takes. -/
structure Grammar where
  program : String
  options : List OptionRule
  positionalName : String
  shape : PositionalShape

/-- What reading the arguments comes upon. -/
inductive ArgumentEvent
  | option (rule : OptionRule) (value : Option String)
  | positional (values : List String)
  | unrecognized (argument : String)
  | failure (message : String)
  deriving DecidableEq

/-- How an argument that is not positional is read: the option, the spelling that names it, and a
value attached to it, with whether an equals sign attaches it. -/
structure OptionReading where
  rule : OptionRule
  spelling : String
  attached : Option (Bool × String)

/-- What an argument counts as. -/
inductive WordKind
  | argument
  | separator
  | option (reading : Option OptionReading)

/-- An argument with what it counts as. -/
structure Word where
  kind : WordKind
  text : String

namespace OptionRule

def label (rule : OptionRule) : String := String.intercalate "/" rule.spellings

end OptionRule

namespace Word

def isOption (word : Word) : Bool :=
  match word.kind with
  | .option _ => true
  | _ => false

def isArgument (word : Word) : Bool :=
  match word.kind with
  | .argument => true
  | _ => false

def isSeparator (word : Word) : Bool :=
  match word.kind with
  | .separator => true
  | _ => false

end Word

namespace Grammar

/-- The message about one argument. -/
def about (label message : String) : String := "argument " ++ label ++ ": " ++ message

/-- The message that an attached value is one too many. -/
def ignoredValue (rule : OptionRule) (value : String) : String :=
  about rule.label ("ignored explicit argument " ++ quoted value)

/-- An argument before and after its first equals sign, if it has one. -/
def splitAtEquals (argument : Text) : Text × Option Text :=
  match argument.dropWhile (· != '=') with
  | [] => (argument, none)
  | _ :: value => (argument.takeWhile (· != '='), some value)

/-- The options of a grammar by spelling. -/
def spellings (grammar : Grammar) : List (Text × OptionRule) :=
  grammar.options.flatMap fun rule => rule.spellings.map fun spelling => (spelling.toList, rule)

/-- Whether an argument looks like a negative number. -/
def looksNegative (argument : Text) : Bool :=
  let body := if argument.getLast? == some '\n' then argument.dropLast else argument
  match body with
  | '-' :: number =>
      match number.dropWhile isDecimal with
      | [] => !number.isEmpty
      | '.' :: decimals => !decimals.isEmpty && decimals.all isDecimal
      | _ => false
  | _ => false

/-- The ways to read an argument as an option that is not spelled in full. -/
def abbreviations (grammar : Grammar) (argument : Text) : List OptionReading :=
  if ['-', '-'].isPrefixOf argument then
    let (front, value) := splitAtEquals argument
    grammar.spellings.filterMap fun (spelling, rule) =>
      if front.isPrefixOf spelling then
        some ⟨rule, spelling.toString, value.map fun value => (true, value.toString)⟩
      else none
  else
    grammar.spellings.filterMap fun (spelling, rule) =>
      if spelling == argument.take 2 then
        some ⟨rule, spelling.toString, some (false, Text.toString (argument.drop 2))⟩
      else if argument.isPrefixOf spelling then some ⟨rule, spelling.toString, none⟩
      else none

/-- What an argument counts as when nothing before it settles that, or why it is ambiguous. -/
def classify (grammar : Grammar) (source : String) : Except String WordKind :=
  let argument := source.toList
  if argument.head? != some '-' then .ok .argument
  else
    match grammar.spellings.lookup argument with
    | some rule => .ok (.option (some ⟨rule, source, none⟩))
    | none =>
        if argument.length == 1 then .ok .argument
        else
          let (front, value) := splitAtEquals argument
          match grammar.spellings.lookup front, value with
          | some rule, some value =>
              .ok (.option (some ⟨rule, front.toString, some (true, value.toString)⟩))
          | _, _ =>
              match grammar.abbreviations argument with
              | [reading] => .ok (.option (some reading))
              | [] =>
                  if looksNegative argument || argument.contains ' ' then .ok .argument
                  else .ok (.option none)
              | readings =>
                  .error ("ambiguous option: " ++ source ++ " could match " ++
                    String.intercalate ", " (readings.map (·.spelling)))

def words (grammar : Grammar) : List String → Except String (List Word)
  | [] => .ok []
  | source :: rest =>
      if source == "--" then
        .ok (⟨.separator, source⟩ :: rest.map fun later => ⟨.argument, later⟩)
      else do
        let kind ← grammar.classify source
        let others ← words grammar rest
        .ok (⟨kind, source⟩ :: others)

/-- How many words at the front the positional arguments take up; zero when they do not begin
here. -/
def countPositional (grammar : Grammar) (words : List Word) : Nat :=
  let separators := (words.takeWhile (·.isSeparator)).length
  match words.drop separators with
  | first :: rest =>
      if first.isArgument then
        match grammar.shape with
        | .wordAndRest => words.length
        | .oneOrMore => separators + 1 + (rest.takeWhile (!·.isOption)).length
      else 0
  | [] => 0

/-- The positional arguments that some words write.  Unless everything is passed on, the first
separator is left out. -/
def positionalValues (grammar : Grammar) (words : List Word) : List String :=
  let values := words.map (·.text)
  match grammar.shape with
  | .wordAndRest => values
  | .oneOrMore => values.erase "--"

/-- An option takes effect only when those written behind it and the same dash are in order. -/
def ahead (rule : OptionRule) (events : List ArgumentEvent) : List ArgumentEvent :=
  match events with
  | [.failure message] => [.failure message]
  | others => .option rule none :: others

/-- The events of a short option and of those written behind it and the same dash.  Short options
take no value, so an equals sign or another dash is out of place. -/
def cluster (grammar : Grammar) (rule : OptionRule) (byEquals : Bool) :
    (fuel : Nat) → Text → List ArgumentEvent
  | 0, _ => []
  | _ + 1, [] => [.failure (ignoredValue rule "")]
  | fuel + 1, letter :: rest =>
      if byEquals || letter == '-' then
        [.failure (ignoredValue rule (Text.toString (letter :: rest)))]
      else
        match grammar.spellings.lookup ['-', letter] with
        | none => [.option rule none, .unrecognized (Text.toString ('-' :: letter :: rest))]
        | some next =>
            ahead rule
              (match rest with
              | [] => [.option next none]
              | '=' :: value => grammar.cluster next true fuel value
              | value => grammar.cluster next false fuel value)

/-- The events of an option, and how many of the words after it they use up. -/
def optionEvents (grammar : Grammar) (word : Word) (reading : Option OptionReading)
    (after : List Word) : List ArgumentEvent × Nat :=
  match reading with
  | none => ([.unrecognized word.text], 0)
  | some reading =>
      match reading.rule.takesValue, reading.attached with
      | true, some (_, value) => ([.option reading.rule (some value)], 0)
      | true, none =>
          match after with
          | next :: _ =>
              if next.isArgument then ([.option reading.rule (some next.text)], 1)
              else ([.failure (about reading.rule.label "expected one argument")], 0)
          | [] => ([.failure (about reading.rule.label "expected one argument")], 0)
      | false, none => ([.option reading.rule none], 0)
      | false, some (byEquals, value) =>
          if ['-', '-'].isPrefixOf reading.spelling.toList || value.isEmpty then
            ([.failure (ignoredValue reading.rule value)], 0)
          else (grammar.cluster reading.rule byEquals (value.length + 1) value.toList, 0)

/-- The events of the words after the last option. -/
def finalEvents (grammar : Grammar) (isPending : Bool) (words : List Word) : List ArgumentEvent :=
  let count := if isPending then grammar.countPositional words else 0
  (if count == 0 then [] else [.positional (grammar.positionalValues (words.take count))]) ++
    (words.drop count).map (fun word => .unrecognized word.text) ++
    (if isPending && count == 0 then
      [.failure ("the following arguments are required: " ++ grammar.positionalName)]
    else [])

/-- The events of some words; `isPending` says that the positional arguments are still to come. -/
def wordEvents (grammar : Grammar) : (fuel : Nat) → (isPending : Bool) → List Word →
    List ArgumentEvent
  | 0, _, _ => []
  | fuel + 1, isPending, words =>
      if words.all (!·.isOption) then grammar.finalEvents isPending words
      else
        let leading := (words.takeWhile (!·.isOption)).length
        let count := if isPending && leading != 0 then grammar.countPositional words else 0
        if count != 0 then
          .positional (grammar.positionalValues (words.take count)) ::
            grammar.wordEvents fuel false (words.drop count)
        else
          (words.take leading).map (fun word => .unrecognized word.text) ++
            match words.drop leading with
            | [] => []
            | word :: after =>
                match word.kind with
                | .option reading =>
                    let (events, used) := grammar.optionEvents word reading after
                    events ++ grammar.wordEvents fuel isPending (after.drop used)
                | _ => []

def events (grammar : Grammar) (arguments : List String) : List ArgumentEvent :=
  match grammar.words arguments with
  | .error message => [.failure message]
  | .ok words => grammar.wordEvents (words.length + 1) true words

end Grammar

end Masthead
