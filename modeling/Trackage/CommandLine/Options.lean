import Trackage.Text.Numeral
import Trackage.Text.Upper

/-!
What programs are told: settings by the environment, and options on a command line. An option may be
cut short as long as only one option starts that way; its value follows it, or is attached to it with
an equals sign. Only options are taken: any other word is refused.
-/

namespace Trackage

/-- Where things are kept and how much is logged. -/
structure Settings where
  storePath : Option String
  trailDirectory : Option String
  trackFile : String
  logLevel : String
deriving DecidableEq, Repr

/-- What every setting's name in the environment starts with. -/
def settingPrefix : String := "RAILWAY_"

/-- The settings of an environment. An empty value is a value. -/
def Settings.ofEnvironment (environment : String → Option String) : Settings where
  storePath := environment (settingPrefix ++ "DB_PATH")
  trailDirectory := environment (settingPrefix ++ "AUDIT_DIR")
  trackFile := (environment (settingPrefix ++ "TRACK_FILE")).getD "data/track.txt"
  logLevel := Text.upper ((environment (settingPrefix ++ "LOG_LEVEL")).getD "INFO")

end Trackage

namespace Trackage.CommandLine

/-- What an option takes. -/
inductive OptionKind where
  | text
  | integer
  | flag
  | help
deriving DecidableEq, Repr

/-- An option by its name, which starts with one dash or two. -/
structure OptionSpec where
  name : String
  kind : OptionKind
deriving DecidableEq, Repr

/-- The options that every program has. -/
def helpOptions : List OptionSpec := [⟨"-h", .help⟩, ⟨"--help", .help⟩]

/-- A given option. -/
inductive OptionValue where
  | text (value : String)
  | integer (value : Int)
  | on
  /-- The option takes a value, but only the mark in front of values is attached to it. -/
  | withoutValue
deriving DecidableEq, Repr

/-- What a command line says: the given options, the wish for help, or nothing that is understood. -/
inductive CommandWords where
  | options (given : List (String × OptionValue))
  | help
  | refused
deriving DecidableEq, Repr

/-- What one word of a command line is: an option, perhaps with a value attached; an option that is
not known; a value; or the mark after which all words are values. -/
inductive Word where
  | option (spec : OptionSpec) (attached : Option String)
  | unknown
  | value (text : String)
  | separator
deriving DecidableEq, Repr

/-- The parts of a word before and after its first equals sign. -/
def cutAtEquals? (word : List Char) : Option (String × String) :=
  let before := word.takeWhile (· != '=')
  if before.length = word.length then none
  else some (String.ofList before, String.ofList (word.drop (before.length + 1)))

/-- The options that a shortened word can mean. With two dashes a value may be attached by an equals
sign, with one dash a value may follow an option of one letter. -/
def candidates (specs : List OptionSpec) (word : List Char) : List Word :=
  match word with
  | '-' :: '-' :: _ =>
    let (start, attached) := match cutAtEquals? word with
      | some (start, value) => (start.toList, some value)
      | none => (word, none)
    (specs.filter fun spec => start.isPrefixOf spec.name.toList).map (.option · attached)
  | _ =>
    specs.filterMap fun spec =>
      if spec.name.toList = word.take 2 then
        some (.option spec (some (String.ofList (word.drop 2))))
      else if word.isPrefixOf spec.name.toList then some (.option spec none)
      else none

/-- Drops a line feed at the end of a word. -/
def withoutLineFeed (word : List Char) : List Char :=
  if word.getLast? = some '\n' then word.dropLast else word

/-- Whether a word is a negative number, and so a value: a dash and digits, with a point before the
last of them at most. A line feed behind it is of no account. -/
def isNegativeNumber (word : List Char) : Bool :=
  match withoutLineFeed word with
  | '-' :: body =>
    let digits (row : List Char) : Bool := row.all fun c => (Text.digitValue? c).isSome
    let whole := body.takeWhile (· != '.')
    let places := body.drop (whole.length + 1)
    digits whole && digits places &&
      (if whole.length = body.length then !whole.isEmpty else !places.isEmpty)
  | _ => false

/-- What a word is; nothing for a word that can mean several options. -/
def classify? (specs : List OptionSpec) (word : String) : Option Word :=
  match word.toList with
  | [] | ['-'] => some (.value word)
  | '-' :: rest =>
    match specs.find? (·.name == word) with
    | some spec => some (.option spec none)
    | none =>
      let exact := (cutAtEquals? word.toList).bind fun (name, value) =>
        (specs.find? (·.name == name)).map fun spec => Word.option spec (some value)
      match exact with
      | some found => some found
      | none =>
        match candidates specs word.toList with
        | [found] => some found
        | _ :: _ :: _ => none
        | [] =>
          if isNegativeNumber word.toList || rest.contains ' ' then some (.value word)
          else some .unknown
  | _ => some (.value word)

/-- The mark after which all words are values. -/
def mark : String := "--"

/-- What the words of a command line are. -/
def classifyAll? (specs : List OptionSpec) : List String → Option (List Word)
  | [] => some []
  | word :: words =>
    if word = mark then some (.separator :: words.map .value)
    else do
      let first ← classify? specs word
      let rest ← classifyAll? specs words
      return first :: rest

/-- The value that follows an option at once, and the words after it. -/
def takeValue? (words : List Word) :
    Option (String × { rest : List Word // rest.length < words.length }) :=
  match words with
  | .value text :: rest => some (text, ⟨rest, by simp only [List.length]; omega⟩)
  | _ => none

/-- The value of an option that takes one. -/
def readValue? (kind : OptionKind) (text : String) : Option OptionValue :=
  match kind with
  | .integer => (Text.readNumeral text).toOption.map .integer
  | _ => some (.text text)

/-- The value attached to an option that takes one. -/
def readAttached? (kind : OptionKind) (text : String) : Option OptionValue :=
  if text = mark then some .withoutValue else readValue? kind text

/-- Whether letters attached to an option of one dash are options of one letter. -/
def areLetterOptions (specs : List OptionSpec) (letters : String) : Bool :=
  letters != "" && letters.toList.all fun c => specs.any (·.name == String.ofList ['-', c])

/-- Takes the options one after the other. Words that belong to no option are found out at the end,
after a wish for help. -/
def takeOptions (specs : List OptionSpec) (given : List (String × OptionValue)) (strange : Bool)
    (words : List Word) : CommandWords :=
  match words with
  | [] => if strange then .refused else .options given
  | .unknown :: rest | .value _ :: rest | .separator :: rest => takeOptions specs given true rest
  | .option spec attached :: rest =>
    match spec.kind, attached with
    | .help, none => .help
    | .flag, none => takeOptions specs (given ++ [(spec.name, .on)]) strange rest
    | .help, some letters | .flag, some letters =>
      -- Letters behind an option of one letter are options too, and the only such option is help.
      if spec.name.toList.take 2 != ['-', '-'] && areLetterOptions specs letters then .help
      else .refused
    | kind, some text =>
      match readAttached? kind text with
      | some value => takeOptions specs (given ++ [(spec.name, value)]) strange rest
      | none => .refused
    | kind, none =>
      match takeValue? rest with
      | none => .refused
      | some (text, ⟨rest, _⟩) =>
        match readValue? kind text with
        | some value => takeOptions specs (given ++ [(spec.name, value)]) strange rest
        | none => .refused
termination_by words.length

/-- Reads a command line. -/
def readWords (specs : List OptionSpec) (words : List String) : CommandWords :=
  let specs := helpOptions ++ specs
  match classifyAll? specs words with
  | none => .refused
  | some words => takeOptions specs [] false words

/-- What was last given for an option. -/
def lastGiven? (given : List (String × OptionValue)) (name : String) : Option OptionValue :=
  (given.reverse.find? (·.1 == name)).map (·.2)

/-- The text last given for an option, or the usual one; nothing where the value was left out. -/
def textOption? (given : List (String × OptionValue)) (name usual : String) : Option String :=
  match lastGiven? given name with
  | some (.text value) => some value
  | some .withoutValue => none
  | _ => some usual

/-- The number last given for an option, or the usual one; nothing where the value was left out. -/
def integerOption? (given : List (String × OptionValue)) (name : String) (usual : Int) :
    Option Int :=
  match lastGiven? given name with
  | some (.integer value) => some value
  | some .withoutValue => none
  | _ => some usual

def flagOption (given : List (String × OptionValue)) (name : String) : Bool :=
  given.any (·.1 == name)

end Trackage.CommandLine
