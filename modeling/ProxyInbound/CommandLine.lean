import ProxyInbound.Conversion
import ProxyInbound.Json.Printer
import ProxyInbound.Json.Reader
import ProxyInbound.Text.Basic

/-!
# The command line

A run has one command: to parse or normalize a stored inbound, to serialize a form, or to print the
defaults of a protocol. Two options are common to all commands and may stand before the command,
after it, or both. An option after the command beats one before it, and either beats the
environment. The environment is consulted, and its faults are reported, wherever an option is not
given. Within one of the two places an option may be given once.

Words are looked at from left to right. A request for help or for the version is answered at once,
whatever follows it; what stands before it has been checked by then.
-/

namespace ProxyInbound.CommandLine

open Json.Printer

/-! ## What can be asked for -/

/-- What a run does. -/
inductive Command where
  /-- Print the form of a stored inbound. -/
  | parse
  /-- Print the stored inbound of a form. -/
  | serialize
  /-- Print the form of a new inbound of a protocol. -/
  | defaults (protocol : Protocol)
  /-- Print the stored inbound of the form of a stored inbound. -/
  | normalize
  deriving DecidableEq, Repr

/-- The name of a command, before its own options are known. -/
inductive CommandName where
  /-- Parse. -/
  | parse
  /-- Serialize. -/
  | serialize
  /-- Defaults. -/
  | defaults
  /-- Normalize. -/
  | normalize
  deriving DecidableEq, Repr

/-- The command that a word names. -/
def CommandName.ofWord? (word : String) : Option CommandName :=
  if word = "parse" then some parse
  else if word = "serialize" then some serialize
  else if word = "defaults" then some defaults
  else if word = "normalize" then some normalize
  else none

/-- A complete order to run. -/
structure Invocation where
  /-- What to do. -/
  command : Command
  /-- The file to read, a hyphen for standard input. -/
  input : String
  /-- How to lay out the answer. -/
  layout : Layout
  deriving DecidableEq, Repr

/-- What the words of a command line ask for. -/
inductive Request where
  /-- To run. -/
  | run (invocation : Invocation)
  /-- To print the version. -/
  | version
  /-- To print help. -/
  | help
  /-- Nothing that is understood. -/
  | misuse
  deriving DecidableEq, Repr

/-- The variables that stand in for options. -/
structure Environment where
  /-- The file to read. -/
  input : Option String
  /-- Whether to lay out compactly. -/
  compact : Option String

/-! ## Options -/

/-- The options that take a value. -/
inductive Flag where
  /-- The file to read. -/
  | input
  /-- Whether to lay out compactly. -/
  | compact
  /-- The protocol whose defaults are printed. -/
  | protocol
  deriving DecidableEq, Repr

/-- The options given in one place. -/
structure Options where
  /-- The file to read. -/
  input : Option String
  /-- Whether to lay out compactly. -/
  compact : Option Bool
  /-- The protocol whose defaults are printed. -/
  protocol : Option Protocol
  deriving DecidableEq, Repr

/-- No options. -/
def Options.none : Options := ⟨.none, .none, .none⟩

/-- The truth value of a switch word in any ASCII case. -/
def switch? (word : String) : Option Bool :=
  let lower := String.ofList (word.toList.map Text.Ascii.lower)
  if lower ∈ ["y", "yes", "t", "true", "on", "1"] then some true
  else if lower ∈ ["n", "no", "f", "false", "off", "0"] then some false
  else none

/-- A path is any word but the empty one. -/
def path? (word : String) : Option String :=
  if word = "" then none else some word

/-- The protocol that a word names. -/
def protocol? (word : String) : Option Protocol :=
  (Named.read word).toOption

/-- Record an option with its value, nothing on a fault: an option that was given before, a value
that is missing, or one that means nothing. Only the layout may be left without a value. -/
def record? (options : Options) (flag : Flag) (value : Option String) : Option Options :=
  match flag with
  | .input =>
    if options.input.isSome then none
    else (value.bind path?).map fun path => { options with input := some path }
  | .compact =>
    if options.compact.isSome then none
    else (switch? (value.getD "true")).map fun on => { options with compact := some on }
  | .protocol =>
    if options.protocol.isSome then none
    else (value.bind protocol?).map fun p => { options with protocol := some p }

/-- An option that has been named and not recorded yet, with its value if one has followed. -/
structure Pending where
  /-- The option. -/
  flag : Flag
  /-- The word after it. -/
  value : Option String
  deriving DecidableEq, Repr

/-- Record a pending option. -/
def settle? (options : Options) (pending : Option Pending) : Option Options :=
  match pending with
  | none => some options
  | some p => record? options p.flag p.value

/-! ## Words -/

/-- What a word of a command line is. -/
inductive Word where
  /-- Two hyphens alone end the options. -/
  | endOfOptions
  /-- A name after two hyphens, with the value after an equals sign. -/
  | long (name : String) (value : Option String)
  /-- Letters after one hyphen. -/
  | short (letters : List Char)
  /-- Any other word, a single hyphen included. -/
  | plain (word : String)
  deriving DecidableEq, Repr

/-- A long option with the value after its first equals sign. -/
def longWord (cs : List Char) : Word :=
  let name := cs.takeWhile (· ≠ '=')
  match cs.dropWhile (· ≠ '=') with
  | [] => .long (String.ofList name) none
  | _ :: value => .long (String.ofList name) (some (String.ofList value))

/-- What a word is. -/
def Word.of (word : String) : Word :=
  match word.toList with
  | ['-', '-'] => .endOfOptions
  | '-' :: '-' :: cs => longWord cs
  | '-' :: c :: cs => .short (c :: cs)
  | _ => .plain word

/-- The two places for options. -/
inductive Place where
  /-- Before the command. -/
  | front
  /-- After a command. -/
  | back (command : CommandName)
  deriving DecidableEq, Repr

/-- The option of a long name in a place. -/
def Place.flag? (place : Place) (name : String) : Option Flag :=
  if name = "input" then some .input
  else if name = "compact" then some .compact
  else if name = "protocol" ∧ place = .back .defaults then some .protocol
  else none

/-- What has been found when the words of a place come to an end. -/
inductive Scan where
  /-- The options of the place, one of them perhaps still to be recorded, and the command with
  the words after it. -/
  | done (options : Options) (pending : Option Pending)
      (command : Option (CommandName × List String))
  /-- A request for help. -/
  | help
  /-- A request for the version. -/
  | version
  /-- A fault. -/
  | misuse

/-- Answer a request, or report the pending option's fault. -/
def answer (options : Options) (pending : Option Pending) (request : Scan) : Scan :=
  if (settle? options pending).isSome then request else .misuse

/-- A single letter asks for help or, in front, for the version. -/
def scanShort (place : Place) (options : Options) (pending : Option Pending)
    (letters : List Char) : Scan :=
  match letters with
  | 'h' :: _ => answer options pending .help
  | 'V' :: _ => if place = .front then answer options pending .version else .misuse
  | _ => .misuse

/-- A long name that is no option asks for help or, in front, for the version. -/
def scanRequest (place : Place) (options : Options) (pending : Option Pending)
    (name : String) (value : Option String) : Scan :=
  if value.isSome then .misuse
  else if name = "help" then answer options pending .help
  else if name = "version" ∧ place = .front then answer options pending .version
  else .misuse

/-- Look at the words of a place from left to right. -/
def scan (place : Place) (options : Options) (pending : Option Pending) : List String → Scan
  | [] => .done options pending none
  | w :: rest =>
    match Word.of w with
    | .endOfOptions => if rest.isEmpty then .done options pending none else .misuse
    | .short letters => scanShort place options pending letters
    | .long name value =>
      match place.flag? name with
      | none => scanRequest place options pending name value
      | some flag =>
        match settle? options pending, value with
        | none, _ => .misuse
        | some options, none => scan place options (some ⟨flag, none⟩) rest
        | some options, some value =>
          match record? options flag (some value) with
          | none => .misuse
          | some options => scan place options none rest
    | .plain word =>
      match pending with
      | some ⟨flag, none⟩ => scan place options (some ⟨flag, some word⟩) rest
      | pending =>
        match place, CommandName.ofWord? word with
        | .front, some command => .done options pending (some (command, rest))
        | _, _ => .misuse

/-! ## From words to an order -/

/-- A value given after the command, before it, or by the environment. Where one of the places is
without it, the environment's value has to mean something. -/
def pick? (front back : Option α) (setting : Option String) (read : String → Option α)
    (fallback : α) : Option α :=
  match back, front, setting with
  | some b, some _, _ => some b
  | back, front, none => some ((back.or front).getD fallback)
  | back, front, some text => (read text).map fun v => (back.or front).getD v

/-- The command of a name with its own options. -/
def CommandName.command : CommandName → Options → Command
  | parse, _ => .parse
  | serialize, _ => .serialize
  | defaults, options => .defaults (options.protocol.getD Protocol.fallback)
  | normalize, _ => .normalize

/-- The order that the options of both places and the environment make. -/
def order? (env : Environment) (command : CommandName) (front back : Options) :
    Option Invocation := do
  let input ← pick? front.input back.input env.input path? "-"
  let compact ← pick? front.compact back.compact env.compact switch? false
  some ⟨command.command back, input, if compact then .compact else .pretty⟩

/-- The order of a command line whose command has been found, from the words after it. -/
def requestAfter (env : Environment) (front : Options) (pending : Option Pending)
    (command : CommandName) (words : List String) : Request :=
  match scan (.back command) Options.none none words with
  | .help => .help
  | .version => .version
  | .misuse => .misuse
  | .done back backPending _ =>
    match settle? back backPending, settle? front pending with
    | some back, some front =>
      match order? env command front back with
      | some invocation => .run invocation
      | none => .misuse
    | _, _ => .misuse

/-- What a command line asks for. -/
def request (env : Environment) (words : List String) : Request :=
  match scan .front Options.none none words with
  | .help => .help
  | .version => .version
  | .misuse => .misuse
  | .done _ _ none => .misuse
  | .done front pending (some (command, rest)) => requestAfter env front pending command rest

/-! ## Running -/

/-- Why a run fails. -/
inductive Failure where
  /-- Standard input cannot be read. -/
  | noStandardInput
  /-- A file cannot be read. -/
  | noFile (path : String)
  /-- The input is no JSON document. -/
  | noDocument
  /-- The input is no form. -/
  | noForm (fault : Json.Strict.Fault)
  deriving DecidableEq, Repr

/-- What is said of a failure. -/
def Failure.message : Failure → String
  | noStandardInput => "read stdin"
  | noFile path => "read " ++ path
  | noDocument => "input is not valid JSON"
  | noForm _ => "input is not a valid inbound form"

/-- The document of an input text. -/
def readDocument (text : String) : Except Failure Json :=
  match Json.Reader.read? text with
  | some v => .ok v
  | none => .error .noDocument

/-- The form of an input text. -/
def readForm (text : String) : Except Failure Form :=
  match readDocument text with
  | .error e => .error e
  | .ok v =>
    match Form.ofJson v with
    | .ok form => .ok form
    | .error fault => .error (.noForm fault)

/-- Whether a command reads an input. -/
def Command.readsInput : Command → Bool
  | defaults _ => false
  | _ => true

/-- The document that a command prints for an input text. -/
def Command.result (command : Command) (text : String) : Except Failure Json :=
  match command with
  | parse => (readDocument text).map fun w => (Conversion.parse w).toJson
  | serialize => (readForm text).map Conversion.serialize
  | defaults protocol => .ok (Form.defaults protocol).toJson
  | normalize => (readDocument text).map Conversion.normalize

/-- What a command prints for an input text: one document and a line feed. -/
def Command.output (command : Command) (layout : Layout) (text : String) :
    Except Failure String :=
  (command.result text).map fun v => render layout v ++ "\n"

/-- What a run leaves behind. -/
structure Result where
  /-- The exit code. -/
  exit : Nat
  /-- What was printed. -/
  stdout : String
  /-- What was said of a failure. -/
  stderr : Option String
  deriving DecidableEq, Repr

/-- The result of a run that prints. -/
def Result.success (stdout : String) : Result := ⟨0, stdout, none⟩

/-- The result of a run that fails. -/
def Result.failure (e : Failure) : Result := ⟨1, "", some ("Error: " ++ e.message)⟩

/-- The result of a command line that is not understood. -/
def Result.misuse : Result := ⟨2, "", none⟩

/-- What is printed for the version. -/
def versionText : String := "xp-inbound-form 0.2.0\n"

/-- Where the input of an invocation comes from. -/
inductive Source where
  /-- No input is read. -/
  | nowhere
  /-- Standard input. -/
  | standardInput
  /-- A file. -/
  | file (path : String)
  deriving DecidableEq, Repr

/-- Where an invocation reads its input. -/
def Invocation.source (i : Invocation) : Source :=
  if i.command.readsInput then
    if i.input = "-" then .standardInput else .file i.input
  else .nowhere

/-- The failure of a source that cannot be read. -/
def Source.failure : Source → Failure
  | file path => .noFile path
  | _ => .noStandardInput

/-- The result of an invocation whose source has, or has not, yielded a text. -/
def Invocation.result (i : Invocation) (text : Option String) : Result :=
  match i.source, text with
  | .nowhere, _ => finish (i.command.output i.layout "")
  | _, some text => finish (i.command.output i.layout text)
  | source, none => .failure source.failure
where
  /-- Print what there is, or report the failure. -/
  finish : Except Failure String → Result
    | .ok stdout => .success stdout
    | .error e => .failure e

/-- The result of a request that runs nothing. The text of help is not part of it. -/
def Request.result? : Request → Option Result
  | run _ => none
  | version => some (.success versionText)
  | help => some (.success "")
  | misuse => some .misuse

end ProxyInbound.CommandLine
