/-!
# Options on a command line

Arguments are options and words. An option has a long name after two dashes, and it may have a
letter after one dash; letters may be joined. The value of an option is attached to it or is the
next argument. After two dashes alone every argument is a word.

* `Options.read?` takes the arguments of a command apart; none if they do not fit its options.
-/

namespace TextTemplate

/-- An option of a command. -/
structure CommandOption where
  name : String
  letter : Option Char
  takesValue : Bool
  /-- May the option be given more than once? -/
  repeats : Bool
  /-- May the value be empty? -/
  allowsEmpty : Bool
deriving DecidableEq

namespace CommandOption

/-- An option without a value. -/
def flag (name : String) (letter : Option Char) : CommandOption :=
  ⟨name, letter, false, false, true⟩

/-- An option whose value is the path of a file. -/
def path (name : String) (letter : Option Char) : CommandOption :=
  ⟨name, letter, true, false, false⟩

end CommandOption

/-- An option that was given, and its value. -/
abbrev GivenOption := CommandOption × String

/-- Arguments taken apart. -/
structure Options where
  given : List GivenOption
  words : List String
  /-- The arguments from the first word on, if they are left to a command of that name. -/
  rest : List String

namespace Options

/-- Is the argument an option rather than a word? -/
def isOption (arg : List Char) : Bool :=
  match arg with
  | '-' :: _ :: _ => true
  | _ => false

/-- Puts an option in front. -/
def withOption (option : CommandOption) (value : String) (o : Options) : Options :=
  { o with given := (option, value) :: o.given }

/-- What joined letters say: flags, and an option with the value that is attached to it or none if
the value is the next argument. -/
structure Letters where
  flags : List CommandOption
  last : Option (CommandOption × Option String)

/-- The text after the letter of an option, or after an equals sign. -/
def attached : List Char → Option String
  | [] => none
  | '=' :: value => some (String.ofList value)
  | value => some (String.ofList value)

/-- Reads joined letters. -/
def letters? (known : List CommandOption) : List Char → Option Letters
  | [] => some ⟨[], none⟩
  | c :: rest => do
    let option ← known.find? fun option => option.letter == some c
    if option.takesValue then some ⟨[], some (option, attached rest)⟩
    else
      let letters ← letters? known rest
      some { letters with flags := option :: letters.flags }

/-- A long name, and the value after an equals sign. -/
def longName (text : List Char) : String × Option String :=
  let name := text.takeWhile (· != '=')
  (String.ofList name, match text.drop name.length with
    | '=' :: value => some (String.ofList value)
    | _ => none)

/-- Takes an option apart: the flags, and an option that has a value or still needs one. -/
def option? (known : List CommandOption) (arg : List Char) : Option Letters :=
  match arg with
  | '-' :: '-' :: text => do
    let (name, value) := longName text
    let option ← known.find? fun option => option.name == name
    if option.takesValue then some ⟨[], some (option, value)⟩
    else if value.isNone then some ⟨[option], none⟩
    else none
  | _ :: text => letters? known text
  | [] => none

/-- Puts flags in front. -/
def withFlags (flags : List CommandOption) (o : Options) : Options :=
  { o with given := flags.map (·, "") ++ o.given }

/-- Takes arguments apart, up to the first word if it names a command. -/
def scan? (known : List CommandOption) (toCommand : Bool) : List String → Option Options
  | [] => some ⟨[], [], []⟩
  | arg :: rest =>
    if arg = "--" then if toCommand then none else some ⟨[], rest, []⟩
    else if !isOption arg.toList then
      if toCommand then some ⟨[], [], arg :: rest⟩
      else (scan? known toCommand rest).map fun o => { o with words := arg :: o.words }
    else
      match option? known arg.toList with
      | none => none
      | some ⟨flags, none⟩ => (scan? known toCommand rest).map (withFlags flags)
      | some ⟨flags, some (option, some value)⟩ =>
        (scan? known toCommand rest).map fun o => (o.withOption option value).withFlags flags
      | some ⟨flags, some (option, none)⟩ =>
        match rest with
        | value :: rest =>
          if isOption value.toList then none
          else (scan? known toCommand rest).map fun o => (o.withOption option value).withFlags flags
        | [] => none

/-- Is every option given as often and with such a value as it may be? -/
def isAllowed (given : List GivenOption) : Bool :=
  given.all fun (option, value) =>
    (option.repeats || given.countP (fun other => other.1 == option) == 1)
      && (option.allowsEmpty || !value.isEmpty)

/-- Takes arguments apart. -/
def read? (known : List CommandOption) (toCommand : Bool) (args : List String) : Option Options :=
  (scan? known toCommand args).filter fun o => isAllowed o.given

/-- The values of an option, in order. -/
def values (o : Options) (option : CommandOption) : List String :=
  (o.given.filter fun given => given.1 == option).map Prod.snd

def value? (o : Options) (option : CommandOption) : Option String := (o.values option).head?

def has (o : Options) (option : CommandOption) : Bool := (o.value? option).isSome

end Options

end TextTemplate
