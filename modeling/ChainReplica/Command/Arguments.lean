import ChainReplica.Text.Numeral

/-!
# The command line

A command line is a command and its options. An option has a long and a short
name and takes a number; the value follows as the next argument or behind an
equals sign, and behind a short name also directly. No option may be given
twice, and a request for help or for the version ends the reading.
-/

namespace ChainReplica

/-- What the command line asks for. -/
inductive Invocation where
  | simulate (blocks slaves : Nat) (reorgAt : Option Nat)
  | watch (interval : Nat) (startBlock : Option Nat) (maxCatchUp : Nat)
  | config
  | version
  | help
  deriving DecidableEq, Repr

namespace Invocation

structure OptionName where
  long : String
  short : Char
  deriving DecidableEq, Repr

def simulateOptions : List OptionName := [⟨"blocks", 'b'⟩, ⟨"slaves", 's'⟩, ⟨"reorg-at", 'r'⟩]

def watchOptions : List OptionName :=
  [⟨"interval", 'i'⟩, ⟨"start-block", 's'⟩, ⟨"max-catch-up", 'm'⟩]

/-- Values by the long names of their options. -/
abbrev Given := List (String × Nat)

/-- What the options of a command amount to. -/
inductive Reading where
  | given (values : Given)
  | help
  | misuse
  deriving DecidableEq, Repr

/-- Where the value of an option stands. -/
inductive Place where
  /-- In the same argument. -/
  | attached (value : String)
  /-- In the next argument. -/
  | next
  deriving DecidableEq, Repr

/-- What one argument says. -/
inductive Word where
  | option (name : OptionName) (place : Place)
  | help
  /-- The end of the options. -/
  | dashes
  | misuse
  deriving DecidableEq, Repr

def splitAtEquals (cs : List Char) : List Char × Option (List Char) :=
  match cs.dropWhile (· != '=') with
  | [] => (cs, none)
  | _ :: value => (cs.takeWhile (· != '='), some value)

/-- Reads an argument as one of the options. -/
def word (options : List OptionName) (argument : String) : Word :=
  match argument.toList with
  | ['-', '-'] => .dashes
  | '-' :: '-' :: cs =>
    let (name, value) := splitAtEquals cs
    let long := String.ofList name
    match options.find? fun o => o.long == long, value with
    | some o, some v => .option o (.attached (String.ofList v))
    | some o, none => .option o .next
    | none, none => if long = "help" then .help else .misuse
    | none, some _ => .misuse
  | '-' :: c :: rest =>
    match options.find? fun o => o.short == c with
    | some o => match rest with
      | [] => .option o .next
      | '=' :: v => .option o (.attached (String.ofList v))
      | v => .option o (.attached (String.ofList v))
    | none => if c = 'h' then .help else .misuse
  | _ => .misuse

/-- Whether an argument can only be an option. -/
def startsOption (argument : String) : Bool := argument.startsWith "-" && argument != "-"

/-- Adds a value; none if the option was given or the value is no number. -/
def addValue? (given : Given) (name : OptionName) (value : String) : Option Given :=
  if given.any fun g => g.1 == name.long then none
  else (Numeral.readCount? value).map fun n => given ++ [(name.long, n)]

def readOptions (options : List OptionName) (given : Given) : List String → Reading
  | [] => .given given
  | argument :: rest => match word options argument with
    | .help => .help
    | .misuse => .misuse
    | .dashes => if rest.isEmpty then .given given else .misuse
    | .option name (.attached value) => match addValue? given name value with
      | some given => readOptions options given rest
      | none => .misuse
    | .option name .next => match rest with
      | [] => .misuse
      | value :: rest =>
        if startsOption value then .misuse
        else match addValue? given name value with
          | some given => readOptions options given rest
          | none => .misuse

def Given.get? (given : Given) (name : String) : Option Nat :=
  (given.find? fun g => g.1 == name).map (·.2)

/-- The command of a name with its options; none if there is a mistake. -/
def ofCommand? (name : String) (arguments : List String) : Option Invocation :=
  let read (options : List OptionName) (make : Given → Invocation) : Option Invocation :=
    match readOptions options [] arguments with
    | .given values => some (make values)
    | .help => some .help
    | .misuse => none
  if name = "simulate" then
    read simulateOptions fun g =>
      .simulate ((g.get? "blocks").getD 20) ((g.get? "slaves").getD 2) (g.get? "reorg-at")
  else if name = "watch" then
    read watchOptions fun g =>
      .watch ((g.get? "interval").getD 12) (g.get? "start-block")
        ((g.get? "max-catch-up").getD 500)
  else if name = "config" then read [] fun _ => .config
  else if name = "help" then
    match arguments with
    | [] => some .help
    | [command] =>
      if ["simulate", "watch", "config", "help"].contains command then some .help else none
    | _ => none
  else none

/-- Reads a command line; none if there is a mistake. -/
def read? : List String → Option Invocation
  | [] => none
  | first :: rest =>
    match first.toList with
    | ['-', '-'] => none
    | '-' :: '-' :: name =>
      if name = "version".toList then some .version
      else if name = "help".toList then some .help
      else none
    | '-' :: 'V' :: _ => some .version
    | '-' :: 'h' :: _ => some .help
    | _ => ofCommand? first rest

end Invocation

end ChainReplica
