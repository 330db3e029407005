import HostBindings.CommandLine.Option
import HostBindings.Json.Display
import HostBindings.Literal
import HostBindings.Text.Quoted
import HostBindings.Text.UpperCase

/-!
# The arguments of the command

Arguments are options with their values, and inputs. A long option may be shortened as long as only
one name begins like it; short options can be joined in one argument; a value may follow its option
in the same argument. The inputs stand together: the first run of arguments that are neither
options nor values of options. Two dashes end the options; among values they are dropped, so that an
option with two dashes for its value is left without one.

## Main definitions

* `OptionValue` — what an option has for its value
* `Arguments` — what the arguments ask for; `Arguments.shown` lists it
* `UsageError` — arguments that cannot be understood; `UsageError.message` its wording
* `Item`, `classify` — arguments told apart
* `expand` — an option with its value, and the options joined to it
* `Arguments.parse` — arguments understood, or help, the version, or an error
-/

namespace HostBindings.CommandLine

/-- What an option that takes a value has for it. -/
inductive OptionValue where
  /-- The option is not given. -/
  | absent
  /-- The option is given, and its value is dropped. -/
  | dropped
  /-- The option is given with a value. -/
  | given (text : String)
  deriving DecidableEq, Repr

namespace OptionValue

/-- The text that an option has, empty where there is none. -/
def content : OptionValue → String
  | given text => text
  | absent | dropped => ""

/-- What an option has, as a setting: an option whose value is dropped gives an empty list. -/
def setting : OptionValue → Json
  | absent => .null
  | dropped => .array []
  | given text => .string text

/-- What an option has, with its text checked or changed. -/
def mapText (value : OptionValue) (check : String → Except ε String) : Except ε OptionValue :=
  match value with
  | given text => (check text).map given
  | other => .ok other

end OptionValue

/-- What the arguments of the command ask for. -/
structure Arguments where
  /-- The paths of documents. -/
  inputs : List String := []
  /-- The web address of a document. -/
  url : OptionValue := .absent
  /-- The directory for the output. -/
  output : OptionValue := .absent
  /-- The language to generate. -/
  language : OptionValue := .given "go"
  /-- The settings file. -/
  config : OptionValue := .absent
  /-- The package of the generated code. -/
  package : OptionValue := .absent
  /-- No comments are wanted. -/
  noComments : Bool := false
  /-- No field tags are wanted. -/
  noTags : Bool := false
  /-- The field for the host handle. -/
  hostHandle : OptionValue := .absent
  /-- Every block goes to a file of its own. -/
  perBlock : Bool := false
  /-- The process whose blocks are generated. -/
  process : OptionValue := .absent
  /-- Suspicious event names fail their block. -/
  strictEvents : Bool := false
  /-- The file that the settings are written to. -/
  writeConfig : OptionValue := .absent
  /-- The languages are to be listed. -/
  listLanguages : Bool := false
  /-- The language to be described. -/
  languageInfo : OptionValue := .absent
  /-- The level of the log. -/
  logLevel : OptionValue := .given "WARNING"
  /-- The file of the log. -/
  logFile : OptionValue := .absent
  /-- Details are wanted. -/
  verbose : Bool := false
  deriving DecidableEq

/-- What arguments ask for, name by name. -/
def Arguments.members (arguments : Arguments) : Json.Members :=
  [("inputs", .array (arguments.inputs.map .string)), ("url", arguments.url.setting),
    ("output", arguments.output.setting), ("language", arguments.language.setting),
    ("config", arguments.config.setting), ("package_name", arguments.package.setting),
    ("no_comments", .bool arguments.noComments), ("no_tags", .bool arguments.noTags),
    ("host_handle", arguments.hostHandle.setting), ("per_block", .bool arguments.perBlock),
    ("process", arguments.process.setting), ("strict_events", .bool arguments.strictEvents),
    ("write_config", arguments.writeConfig.setting),
    ("list_languages", .bool arguments.listLanguages),
    ("language_info", arguments.languageInfo.setting), ("log_level", arguments.logLevel.setting),
    ("log_file", arguments.logFile.setting), ("verbose", .bool arguments.verbose)]

/-- What arguments ask for, in one line. -/
def Arguments.shown (arguments : Arguments) : String :=
  let members := arguments.members.map fun (name, value) => name ++ "=" ++ value.display
  "Namespace(" ++ ", ".intercalate members ++ ")"

/-- Arguments that cannot be understood. -/
inductive UsageError where
  /-- A shortened option that several names begin like. -/
  | ambiguous (argument : String) (names : List String)
  /-- An option without its value. -/
  | missingValue (opt : Opt)
  /-- An option with a value that it does not take. -/
  | strayValue (opt : Opt) (value : String)
  /-- A value that is none of the choices. -/
  | badChoice (opt : Opt) (value : String) (choices : List String)
  /-- Arguments that are left over. -/
  | unrecognized (arguments : List String)
  deriving DecidableEq, Repr

/-- The wording of an error. -/
def UsageError.message : UsageError → String
  | .ambiguous argument names =>
    s!"ambiguous option: {argument} could match " ++ ", ".intercalate names
  | .missingValue opt => s!"argument {opt.shown}: expected one argument"
  | .strayValue opt value =>
    s!"argument {opt.shown}: ignored explicit argument {Text.display value}"
  | .badChoice opt value choices =>
    s!"argument {opt.shown}: invalid choice: {Text.display value} (choose from " ++
      ", ".intercalate (choices.map Text.display) ++ ")"
  | .unrecognized arguments => "unrecognized arguments: " ++ " ".intercalate arguments

/-! ### Telling arguments apart -/

/-- What is attached to the name of an option in the same argument, behind an equals sign or at
once. -/
abbrev Attached := Option (List Char)

/-- An argument, told apart from others. -/
inductive Item where
  /-- An argument that is no option. -/
  | plain (text : String)
  /-- The two dashes that end the options. -/
  | marker
  /-- An option by one of its names; `short` holds for a name with a single dash. -/
  | option (opt : Opt) (short : Bool) (attached : Attached)
  /-- An argument that looks like an option and is none. -/
  | unknown (text : String)
  deriving DecidableEq, Repr

namespace Item

/-- Whether an item is an option or looks like one. -/
def isOption : Item → Bool
  | option .. | unknown _ => true
  | _ => false

/-- The argument that an item without option is. -/
def text : Item → String
  | plain text => text
  | unknown text => text
  | marker => "--"
  | option opt _ _ => opt.shown

end Item

/-- An argument split at its first equals sign. -/
def splitAssigned (text : List Char) : List Char × Attached :=
  let name := text.takeWhile (· != '=')
  match text.drop name.length with
  | _ :: value => (name, some value)
  | [] => (name, none)

/-- Whether a text is a negative number. -/
def isNegativeNumber (text : List Char) : Bool :=
  match Literal.dropLineEnd text with
  | '-' :: number =>
    Literal.isDigits number ||
      match Literal.afterDigits number with
      | '.' :: fraction => Literal.isDigits fraction
      | _ => false
  | _ => false

/-- The names that a shortened long option may stand for. -/
def longMatches (name : List Char) : List (String × Opt) :=
  optionNames.filter fun entry => name.isPrefixOf entry.1.toList

/-- An argument that begins with a dash and is no option by its full name. -/
def classifyShortened (argument : String) (text : List Char) : Except UsageError Item :=
  -- a negative number may be a value, and no option has a blank in its name
  let other : Item :=
    if isNegativeNumber text || text.contains ' ' then .plain argument else .unknown argument
  match text with
  | '-' :: '-' :: _ =>
    let (name, attached) := splitAssigned text
    match longMatches name with
    | [] => .ok other
    | [(_, opt)] => .ok (.option opt false attached)
    | several => .error (.ambiguous argument (several.map (·.1)))
  | dash :: letter :: rest =>
    match optionOf? (String.ofList [dash, letter]) with
    | some opt => .ok (.option opt true (some rest))
    | none => .ok other
  | _ => .ok (.plain argument)

/-- An argument, told apart from others; the two dashes do not come here. -/
def classifyOne (argument : String) : Except UsageError Item :=
  let text := argument.toList
  if text.head? ≠ some '-' then .ok (.plain argument)
  else
    let isShort := fun (name : List Char) => (name.drop 1).head? != some '-'
    match optionOf? argument with
    | some opt => .ok (.option opt (isShort text) none)
    | none =>
      -- a dash alone is no option
      if text.length = 1 then .ok (.plain argument)
      else
        match splitAssigned text with
        | (name, some value) =>
          match optionOf? (String.ofList name) with
          | some opt => .ok (.option opt (isShort name) (some value))
          | none => classifyShortened argument text
        | _ => classifyShortened argument text

/-- Arguments, told apart. Everything behind two dashes is plain. -/
def classify : List String → Except UsageError (List Item)
  | [] => .ok []
  | argument :: rest =>
    if argument = "--" then .ok (.marker :: rest.map .plain)
    else do
      let item ← classifyOne argument
      return item :: (← classify rest)

/-! ### Options with their values -/

/-- An option as it is given, with what it has for its value. -/
abbrev Given := Opt × OptionValue

/-- What an option and what is attached to it give. -/
structure Expansion where
  /-- The options, in order. -/
  given : List Given
  /-- The items after the argument and its value. -/
  rest : List Item

/-- An expansion with an option more in front. -/
def Expansion.push (given : Given) (expansion : Expansion) : Expansion :=
  { expansion with given := given :: expansion.given }

/-- The value that a text gives: two dashes are dropped. -/
def valueOf (text : String) : OptionValue :=
  if text = "--" then .dropped else .given text

/-- An option without anything attached: a value is the next item, which has to be plain. -/
def expandBare (opt : Opt) (items : List Item) : Except UsageError Expansion :=
  if opt.takesValue then
    match items with
    | .plain value :: rest => .ok { given := [(opt, valueOf value)], rest }
    | _ => .error (.missingValue opt)
  else .ok { given := [(opt, .absent)], rest := items }

/-- An option with a text attached: its value, or, behind a short option that takes none, the
letters of more short options. -/
def expandJoined (opt : Opt) (short : Bool) (items : List Item) :
    List Char → Except UsageError Expansion
  | [] =>
    if opt.takesValue then .ok { given := [(opt, .given "")], rest := items }
    else .error (.strayValue opt "")
  | c :: more =>
    let value := String.ofList (c :: more)
    if opt.takesValue then .ok { given := [(opt, valueOf value)], rest := items }
    else
      match if short then optionOf? (String.ofList ['-', c]) else none with
      | none => .error (.strayValue opt value)
      | some next => do
        let following ←
          match more with
          | [] => expandBare next items
          | d :: tail => expandJoined next true items (d :: tail)
        return following.push (opt, .absent)

/-- An option with what is attached to it, before other items. -/
def expand (opt : Opt) (short : Bool) (attached : Attached) (items : List Item) :
    Except UsageError Expansion :=
  match attached with
  | none => expandBare opt items
  | some text => expandJoined opt short items text

/-! ### Understanding arguments -/

/-- Why the arguments ask for nothing to be generated. -/
inductive Stop where
  /-- Help is asked for. -/
  | help
  /-- The version is asked for. -/
  | version
  /-- The arguments cannot be understood. -/
  | usage (error : UsageError)
  deriving DecidableEq, Repr

/-- A value that has to be one of a few. -/
def choose (opt : Opt) (value : String) (choices : List String) : Except Stop String :=
  if choices.contains value then .ok value else .error (.usage (.badChoice opt value choices))

/-- The arguments with an option applied. -/
def Arguments.apply (arguments : Arguments) (given : Given) : Except Stop Arguments :=
  let (opt, value) := given
  match opt with
  | .help => .error .help
  | .version => .error .version
  | .url => .ok { arguments with url := value }
  | .output => .ok { arguments with output := value }
  | .language => .ok { arguments with language := value }
  | .config => .ok { arguments with config := value }
  | .package => .ok { arguments with package := value }
  | .noComments => .ok { arguments with noComments := true }
  | .noTags => .ok { arguments with noTags := true }
  | .hostHandle => .ok { arguments with hostHandle := value }
  | .perBlock => .ok { arguments with perBlock := true }
  | .process => do
    let process ← value.mapText fun text => choose .process text ["main", "renderer"]
    return { arguments with process }
  | .strictEvents => .ok { arguments with strictEvents := true }
  | .writeConfig => .ok { arguments with writeConfig := value }
  | .listLanguages => .ok { arguments with listLanguages := true }
  | .languageInfo => .ok { arguments with languageInfo := value }
  | .logLevel => do
    let logLevel ← value.mapText fun text =>
      choose .logLevel (Text.upperCase text) ["DEBUG", "INFO", "WARNING", "ERROR"]
    return { arguments with logLevel }
  | .logFile => .ok { arguments with logFile := value }
  | .verbose => .ok { arguments with verbose := true }

/-- What has been understood of the items so far. -/
structure Progress where
  /-- What they ask for. -/
  arguments : Arguments := {}
  /-- Whether the inputs have been met. -/
  inputsMet : Bool := false
  /-- What is left over. -/
  extra : List String := []

/-- The texts of items, without the first two dashes. -/
def inputsOf (items : List Item) : List String :=
  (items.map Item.text).erase "--"

/-- Takes a run of items that are no options: the first run has the inputs, any other is left
over. -/
def Progress.takeRun (progress : Progress) (run : List Item) : Progress :=
  if run.isEmpty then progress
  else if progress.inputsMet then
    { progress with extra := progress.extra ++ run.map Item.text }
  else
    { progress with
      arguments := { progress.arguments with inputs := inputsOf run }, inputsMet := true }

/-- Understands items in order. Every step takes at least one item, so as many steps as there are
items are enough. -/
def understand (progress : Progress) : (steps : Nat) → List Item → Except Stop Progress
  | _, [] => .ok progress
  | 0, _ => .ok progress
  | steps + 1, item :: rest =>
    match item with
    | .unknown text =>
      understand { progress with extra := progress.extra ++ [text] } steps rest
    | .option opt short attached => do
      let expansion ← (expand opt short attached rest).mapError Stop.usage
      let arguments ← expansion.given.foldlM Arguments.apply progress.arguments
      understand { progress with arguments } steps expansion.rest
    | item =>
      -- a run ends at the next option, so inputs behind it are left over
      let run := item :: rest.takeWhile (!·.isOption)
      understand (progress.takeRun run) steps (rest.dropWhile (!·.isOption))

/-- Arguments understood, or the reason why nothing is to be generated. -/
def Arguments.parse (arguments : List String) : Except Stop Arguments := do
  let items ← (classify arguments).mapError Stop.usage
  let progress ← understand {} items.length items
  if progress.extra.isEmpty then return progress.arguments
  else .error (.usage (.unrecognized progress.extra))

end HostBindings.CommandLine
