import Curator.Path
import Curator.Text.Basic
import Curator.Text.Integer

/-! What a user asks for on the command line. Arguments are read from left to right, and the first
that is wrong decides; options for the whole program may stand anywhere. -/
namespace Curator

inductive CommandName where
  | feed
  | files
  | status
deriving DecidableEq, Repr

inductive Command where
  /-- List the releases in a saved feed that came from an address. -/
  | feed (file : Path) (sourceUrl : List Char)
  /-- Group the files of a folder, with those of the folders in it or without. -/
  | files (folder : Path) (isRecursive : Bool)
  | status (source : Option Int)
deriving DecidableEq, Repr

inductive HelpTopic where
  | program
  | command (command : CommandName)
  /-- The word that asks for help. -/
  | help
deriving DecidableEq, Repr

/-- What a user asks for. -/
inductive Request where
  | run (settingsFile : Option Path) (command : Command)
  | help (topic : HelpTopic)
deriving DecidableEq, Repr

namespace Request

def files : Request → List Path
  | run settingsFile (.feed file _) => settingsFile.toList ++ [file]
  | run settingsFile _ => settingsFile.toList
  | help _ => []

/-- The folder that is listed for a request, and whether the folders in it are. -/
def folder? : Request → Option (Path × Bool)
  | run _ (.files folder isRecursive) => some (folder, isRecursive)
  | _ => none

end Request

namespace CommandLine

def commandNames : List (String × CommandName) :=
  [("feed", .feed), ("files", .files), ("status", .status)]

def command? (argument : List Char) : Option CommandName :=
  commandNames.lookup (String.ofList argument)

inductive Setting where
  | config
  | verbose
  | help
  | sourceUrl
  | topLevel
  | source
deriving DecidableEq, Repr

def Setting.takesValue : Setting → Bool
  | config | sourceUrl | source => true
  | verbose | help | topLevel => false

def commonOptions : List (String × Setting) :=
  [("config", .config), ("verbose", .verbose), ("help", .help)]

def ownOptions : CommandName → List (String × Setting)
  | .feed => [("source-url", .sourceUrl)]
  | .files => [("top-level", .topLevel)]
  | .status => [("source", .source)]

def option? (command : Option CommandName) (name : List Char) : Option Setting :=
  (commonOptions ++ (command.map ownOptions).getD []).lookup (String.ofList name)

def letterOption? : Char → Option Setting
  | 'v' => some .verbose
  | 'h' => some .help
  | _ => none

/-- What the arguments read so far say. -/
structure Progress where
  command : Option CommandName := none
  /-- The settings file that was named before the command. -/
  outerConfig : Option Path := none
  config : Option Path := none
  operand : Option Path := none
  sourceUrl : Option (List Char) := none
  isTopLevel : Bool := false
  source : Option Int := none
  /-- The option that waits for its value. -/
  pending : Option Setting := none
  /-- A value that stands alone before the command is wrong. That is told at the next option before
  the command, or at the end, unless help is asked for in between. -/
  isWrong : Bool := false
  /-- Two hyphens have been read, and no options follow. -/
  isPlain : Bool := false
  /-- What help was asked for by a word, which may be followed by a topic. -/
  topic : Option HelpTopic := none

/-- Why reading stops: help is wanted, or an argument is wrong. -/
inductive Stop where
  | help (topic : HelpTopic)
  | usage

namespace Progress

/-- Set an option to a value. An option has one value at most, and a path is not empty. -/
def setValue (progress : Progress) (setting : Setting) (value : List Char) : Except Stop Progress :=
  let progress := { progress with pending := none }
  match setting with
  | .config =>
    if progress.config.isSome || value.isEmpty then .error .usage
    else .ok { progress with config := some ⟨value⟩ }
  | .sourceUrl =>
    if progress.sourceUrl.isSome then .error .usage
    else .ok { progress with sourceUrl := some value }
  | .source =>
    match progress.source, Text.readSigned 9223372036854775808 value with
    | none, .ok id => .ok { progress with source := some id }
    | _, _ => .error .usage
  | _ => .error .usage

def readValue (progress : Progress) (setting : Setting) (value : List Char) :
    Except Stop Progress :=
  match progress.setValue setting value, progress.command with
  | .error .usage, none => .ok { progress with pending := none, isWrong := true }
  | outcome, _ => outcome

def setFlag (progress : Progress) : Setting → Except Stop Progress
  | .help => .error (.help ((progress.command.map .command).getD .program))
  | .verbose => .ok progress
  | .topLevel =>
    if progress.isTopLevel then .error .usage else .ok { progress with isTopLevel := true }
  | _ => .error .usage

/-- Read an option by its long name, with or without a value behind an equals sign. -/
def readLong (progress : Progress) (body : List Char) : Except Stop Progress :=
  let (name, value) :=
    match Text.splitFirst? '=' body with
    | some (name, value) => (name, some value)
    | none => (body, none)
  match option? progress.command name, value with
  | none, _ => .error .usage
  | some setting, some value =>
    if setting.takesValue then progress.setValue setting value else .error .usage
  | some setting, none =>
    if setting.takesValue then .ok { progress with pending := some setting }
    else progress.setFlag setting

def readLetters (progress : Progress) (letters : List Char) : Except Stop Progress :=
  letters.foldlM (fun progress letter =>
    match letterOption? letter with
    | some setting => progress.setFlag setting
    | none => .error .usage) progress

def readOperand (progress : Progress) (argument : List Char) : Except Stop Progress :=
  match progress.command with
  | none | some .status => .error .usage
  | some _ =>
    if progress.operand.isSome || argument.isEmpty then .error .usage
    else .ok { progress with operand := some ⟨argument⟩ }

def readWord (progress : Progress) (argument : List Char) : Except Stop Progress :=
  match progress.command, command? argument with
  | none, some command =>
    .ok { progress with command := some command, outerConfig := progress.config, config := none }
  | none, none =>
    if argument = "help".toList then .ok { progress with topic := some .program }
    else .error .usage
  | some _, _ => progress.readOperand argument

/-- Read an argument behind the word that asks for help, and a topic that may stand between. -/
def readTopic (progress : Progress) (topic : HelpTopic) (argument : List Char) :
    Except Stop Progress :=
  match topic, command? argument with
  | .program, some command => .ok { progress with topic := some (.command command) }
  | .program, none =>
    if argument = "help".toList then .ok { progress with topic := some .help } else .error .usage
  | _, _ => .error .usage

/-- Whether an argument looks like an option. -/
def isOption (argument : List Char) : Bool :=
  argument.head? == some '-' && argument != ['-']

/-- Read one argument, when help was not asked for by a word. -/
def readArgument (progress : Progress) (argument : List Char) : Except Stop Progress :=
  if progress.isPlain then
    if progress.pending.isSome then .error .usage else progress.readOperand argument
  else
    match progress.pending with
    | some setting =>
      if isOption argument then .error .usage else progress.readValue setting argument
    | none =>
      match argument with
      | ['-', '-'] => .ok { progress with isPlain := true }
      | argument =>
        if isOption argument && progress.isWrong && progress.command.isNone then .error .usage
        else
          match argument with
          | '-' :: '-' :: body => progress.readLong body
          | '-' :: letter :: letters => progress.readLetters (letter :: letters)
          | argument => progress.readWord argument

def read (progress : Progress) (argument : List Char) : Except Stop Progress :=
  match progress.topic with
  | some topic => progress.readTopic topic argument
  | none => progress.readArgument argument

/-- What is asked for when there are no more arguments. -/
def finish (progress : Progress) : Except Stop Request :=
  let settingsFile := progress.config <|> progress.outerConfig
  match progress.topic with
  | some topic => .ok (.help topic)
  | none =>
    if progress.pending.isSome || progress.isWrong then .error .usage
    else
      match progress.command, progress.operand, progress.sourceUrl with
      | some .feed, some file, some url => .ok (.run settingsFile (.feed file url))
      | some .files, some folder, _ =>
        .ok (.run settingsFile (.files folder !progress.isTopLevel))
      | some .status, _, _ => .ok (.run settingsFile (.status progress.source))
      | _, _, _ => .error .usage

end Progress

/-- What the arguments ask for, unless they are wrong. -/
def request? (arguments : List (List Char)) : Option Request :=
  match arguments.foldlM Progress.read {} >>= Progress.finish with
  | .ok request => some request
  | .error (.help topic) => some (.help topic)
  | .error .usage => none

end CommandLine

end Curator
