import Widgetry.Files.Path

/-!
Arguments of the command line. Words are taken one after the other; an option without its value
waits for the next word. The words after a command belong to the command.
-/

namespace Widgetry.Cli

/-! ## What can be given -/

inductive Command where
  | scan
  | build
  | check
  | clean
deriving DecidableEq, Repr

def Command.name : Command → String
  | .scan => "scan"
  | .build => "build"
  | .check => "check"
  | .clean => "clean"

def Command.ofName? (name : String) : Option Command :=
  [Command.scan, .build, .check, .clean].find? fun command => command.name = name

inductive Platform where
  | ios
  | android
  | all
deriving DecidableEq, Repr

def Platform.ofName? : String → Option Platform
  | "ios" => some .ios
  | "android" => some .android
  | "all" => some .all
  | _ => none

def Platform.hasIos : Platform → Bool
  | .android => false
  | _ => true

def Platform.hasAndroid : Platform → Bool
  | .ios => false
  | _ => true

/-- What takes a value. -/
inductive Parameter where
  | config
  /-- The root of the project; its value has no name in front. -/
  | root
  | out
  | platform
  | iosDir
  | androidDir
deriving DecidableEq, Repr

/-- What is said by its name alone, and at most once. -/
inductive Switch where
  | asWidget
  | debug
  | stats
deriving DecidableEq, Repr

inductive Flag where
  | valued (parameter : Parameter)
  | switch (switch : Switch)
  | verbose
  | help
  | version
deriving DecidableEq, Repr

/-- Where words stand: before a command, or after it. -/
inductive Level where
  | top
  | after (command : Command)
deriving DecidableEq, Repr

/-- The flags that may stand on a level. -/
def Flag.isKnown (level : Level) : Flag → Bool
  | .valued .config | .verbose | .help => true
  | .version => level = .top
  | .valued .root => false
  | .valued .out => level = .after .build || level = .after .clean
  | .valued _ | .switch .stats => level = .after .build
  | .switch _ => level != .top && level != .after .clean

def Flag.ofLong? : String → Option Flag
  | "config" => some (.valued .config)
  | "verbose" => some .verbose
  | "help" => some .help
  | "version" => some .version
  | "out" => some (.valued .out)
  | "platform" => some (.valued .platform)
  | "ios-dir" => some (.valued .iosDir)
  | "android-dir" => some (.valued .androidDir)
  | "as-widget" => some (.switch .asWidget)
  | "debug" => some (.switch .debug)
  | "stats" => some (.switch .stats)
  | _ => none

def Flag.ofLetter? : Char → Option Flag
  | 'c' => some (.valued .config)
  | 'v' => some .verbose
  | 'h' => some .help
  | 'V' => some .version
  | 'o' => some (.valued .out)
  | 'p' => some (.valued .platform)
  | 'd' => some (.switch .debug)
  | _ => none

/-! ## Words that are taken -/

inductive UsageFault where
  /-- A value is missing, or it is none of those that are possible. -/
  | invalidValue
  | unknownArgument
  | invalidSubcommand
  /-- Something is given twice. -/
  | argumentConflict
  /-- A value for what takes none. -/
  | tooManyValues
deriving DecidableEq, Repr

def UsageFault.message : UsageFault → String
  | .invalidValue => "a value is missing, or it is not one of the possible values"
  | .unknownArgument => "there is an argument that is not expected"
  | .invalidSubcommand => "there is no such subcommand"
  | .argumentConflict => "an argument cannot be used more than once"
  | .tooManyValues => "an argument has a value but takes none"

/-- Why arguments do not lead to a command. -/
inductive Stop where
  | help
  | version
  | misuse (fault : UsageFault)
deriving DecidableEq, Repr

abbrev Taken (α : Type) := Except Stop α

def misuse {α : Type} (fault : UsageFault) : Taken α := .error (.misuse fault)

/-- What the words of a level have said so far. -/
structure Words where
  values : List (Parameter × String) := []
  switches : List Switch := []
  /-- A parameter that is not settled yet; its value may still be missing. -/
  pending : Option (Parameter × Option String) := none
  /-- After two dashes no word is a flag. -/
  plain : Bool := false

namespace Words

def value? (words : Words) (parameter : Parameter) : Option String := words.values.lookup parameter

/-- A parameter waits for its value. -/
def isWaiting (words : Words) : Bool :=
  match words.pending with
  | some (_, none) => true
  | _ => false

def isAllowed : Parameter → String → Bool
  | .platform, value => (Platform.ofName? value).isSome
  | _, _ => true

/-- Gives a parameter its value. -/
def give (words : Words) (parameter : Parameter) (value : String) : Taken Words :=
  if (words.value? parameter).isSome then misuse .argumentConflict
  else if isAllowed parameter value then
    .ok { words with values := words.values ++ [(parameter, value)] }
  else misuse .invalidValue

/-- Settles the parameter that is pending. -/
def settle (words : Words) : Taken Words :=
  match words.pending with
  | none => .ok words
  | some (_, none) => misuse .invalidValue
  | some (parameter, some value) => give { words with pending := none } parameter value

/-- Takes a flag that stands without a value. -/
def flag (words : Words) : Flag → Taken Words
  | .valued parameter => do
    return { ← words.settle with pending := some (parameter, none) }
  | .switch switch => do
    let words ← words.settle
    if words.switches.contains switch then misuse .argumentConflict
    else return { words with switches := words.switches ++ [switch] }
  | .verbose => words.settle
  | .help => do
    let _ ← words.settle
    throw .help
  | .version => do
    let _ ← words.settle
    throw .version

/-- Takes a parameter with the value that is written in one word with it. -/
def attached (words : Words) (parameter : Parameter) (value : String) : Taken Words := do
  give (← words.settle) parameter value

/-- Takes a flag with a name of several letters; a value may stand behind an equals sign. -/
def long (level : Level) (words : Words) (text : List Char) : Taken Words :=
  let name := String.ofList (text.takeWhile (· != '='))
  match (Flag.ofLong? name).filter (Flag.isKnown level), text.dropWhile (· != '=') with
  | none, _ => misuse .unknownArgument
  | some flag, [] => words.flag flag
  | some (.valued parameter), _ :: value => words.attached parameter (String.ofList value)
  | some _, _ :: _ => misuse .tooManyValues

/-- Takes flags of one letter each; the rest of the word is the value of the first one that takes
one. -/
def letters (level : Level) : Words → List Char → Taken Words
  | words, [] => .ok words
  | words, c :: rest =>
    match (Flag.ofLetter? c).filter (Flag.isKnown level), rest with
    | none, _ => misuse .unknownArgument
    | some (.valued parameter), '=' :: value => words.attached parameter (String.ofList value)
    | some (.valued parameter), c :: value => words.attached parameter (String.ofList (c :: value))
    | some flag, rest =>
      match words.flag flag with
      | .ok words => letters level words rest
      | .error stop => .error stop

/-- Takes a word that is no flag: the value of a parameter that waits, or else the root of the
project. Before a command there is no such word. -/
def bare (level : Level) (words : Words) (word : String) : Taken Words :=
  if words.isWaiting && !words.plain then
    .ok { words with pending := words.pending.map fun (parameter, _) => (parameter, some word) }
  else if level = .top then
    misuse (if words.plain && (word = "help" || (Command.ofName? word).isSome) then .unknownArgument
      else .invalidSubcommand)
  else if (words.value? .root).isSome || words.pending.any (·.1 = .root) then
    misuse .unknownArgument
  else do
    return { ← words.settle with pending := some (.root, some word) }

/-- Takes a word. -/
def take (level : Level) (words : Words) (word : String) : Taken Words :=
  if words.plain then words.bare level word
  else
    match word.toList with
    | ['-', '-'] => .ok { words with plain := true }
    | '-' :: '-' :: text => words.long level text
    | '-' :: c :: text => words.letters level (c :: text)
    | _ => words.bare level word

def takeAll (level : Level) : Words → List String → Taken Words
  | words, [] => words.settle
  | words, word :: rest =>
    match words.take level word with
    | .ok words => takeAll level words rest
    | .error stop => .error stop

end Words

/-! ## Invocations -/

/-- What a user asks for. -/
structure Invocation where
  command : Option Command := none
  config : Option Path := none
  root : Path := ⟨"."⟩
  out : Option String := none
  platform : Platform := .all
  iosDir : Option String := none
  androidDir : Option String := none
  asWidget : Bool := false
  debug : Bool := false
  stats : Bool := false

/-- The invocation of a command with the words before and after it. -/
def Invocation.ofWords (command : Option Command) (before after : Words) : Invocation where
  command := command
  config := ((after.value? .config).or (before.value? .config)).map Path.mk
  root := ⟨(after.value? .root).getD "."⟩
  out := after.value? .out
  platform := ((after.value? .platform).bind Platform.ofName?).getD .all
  iosDir := after.value? .iosDir
  androidDir := after.value? .androidDir
  asWidget := after.switches.contains .asWidget
  debug := after.switches.contains .debug
  stats := after.switches.contains .stats

/-- Help about commands; only one word can name one. -/
def helpOn : List String → Stop
  | [] => .help
  | [word] =>
    if word = "help" || (Command.ofName? word).isSome then .help else .misuse .invalidSubcommand
  | _ => .misuse .invalidSubcommand

/-- Takes words until a command comes. The words before it are settled last. -/
def invocationFrom (before : Words) : List String → Taken Invocation
  | [] => return .ofWords none (← before.settle) {}
  | word :: rest =>
    let isOpen := !before.plain && !before.isWaiting
    match isOpen, word == "help", Command.ofName? word with
    | true, true, _ => .error (helpOn rest)
    | true, _, some command => do
      let after ← Words.takeAll (.after command) {} rest
      return .ofWords (some command) (← before.settle) after
    | _, _, _ =>
      match before.take .top word with
      | .ok before => invocationFrom before rest
      | .error stop => .error stop

/-- What the arguments of the program ask for. -/
def Invocation.parse (arguments : List String) : Taken Invocation := invocationFrom {} arguments

end Widgetry.Cli
