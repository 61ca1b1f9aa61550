import ProviderRouting.Decimal
import ProviderRouting.Millis

/-!
# Arguments of the command line

The program has three commands.  Each takes options with values, in any order, in the forms
`--name value`, `--name=value` and, for some, `-n value`, `-nvalue` and `-n=value`.  The options
for logging may stand before the command or after it.  Arguments are taken one by one, so that
what comes first decides between a request for help and a fault.
-/

namespace ProviderRouting.CommandLine

inductive Command where
  /-- Check a configuration and list its tiers. -/
  | check (config : String)
  /-- Carry out a script, from a state file and back into it if there is one. -/
  | simulate (config script : String) (state : Option String) (start : Option Millis)
  /-- List what a state file holds. -/
  | inspect (state : String) (time : Option Millis)
deriving DecidableEq

/-- Why no command is carried out. -/
inductive Refusal where
  | help
  | badArguments
deriving DecidableEq, Repr

/-- What an option takes. -/
inductive ValueKind where
  | none
  | text
  /-- A text that is not empty. -/
  | path
  | time
deriving DecidableEq

structure OptionForm where
  name : String
  letter : Option Char := none
  kind : ValueKind
  isRequired : Bool := false

/-- The options that every command knows. -/
def commonForms : List OptionForm :=
  [{ name := "log-level", kind := .text }, { name := "log-json", kind := .none }]

def configForm : OptionForm :=
  { name := "config", letter := some 'c', kind := .path, isRequired := true }

/-- The options of a command; none for an unknown one. -/
def commandForms : String → Option (List OptionForm)
  | "check" => some [configForm]
  | "simulate" => some [configForm,
      { name := "script", letter := some 's', kind := .path, isRequired := true },
      { name := "state", kind := .path }, { name := "start-ms", kind := .time }]
  | "inspect" => some [{ name := "state", kind := .path, isRequired := true },
      { name := "at-ms", kind := .time }]
  | _ => none

/-- An integer of 64 bits with an optional sign. -/
def time? (text : String) : Option Millis :=
  let (negative, digits) := Decimal.splitSign text.toList
  if digits.isEmpty ∨ ¬ digits.all Char.isDigit then none
  else
    let value : Int := Decimal.digitsValue digits
    Millis.ofInt? (if negative then -value else value)

/-- The kind of an option takes this value. -/
def ValueKind.admits (kind : ValueKind) (value : String) : Bool :=
  match kind with
  | .none => false
  | .text => true
  | .path => !value.isEmpty
  | .time => (time? value).isSome

/-- The values of the options so far. -/
abbrev Given := List (String × String)

/-- Take an option with its value, which no option may have twice. -/
def give (form : OptionForm) (value : String) (given : Given) : Except Refusal Given :=
  if (given.lookup form.name).isSome || !form.kind.admits value then .error .badArguments
  else .ok ((form.name, value) :: given)

/-- Take an option without a value. -/
def giveFlag (form : OptionForm) (given : Given) : Except Refusal Given :=
  if (given.lookup form.name).isSome then .error .badArguments
  else .ok ((form.name, "") :: given)

/-- An argument that cannot be the value of the option before it. -/
def isOptionLike (argument : String) : Bool :=
  match argument.toList with
  | '-' :: _ :: _ => true
  | _ => false

/-- One argument. -/
inductive Argument where
  /-- What is left is no option. -/
  | separator
  | named (name : String) (value : Option String)
  | lettered (letter : Char) (rest : List Char)
  | word (text : String)

/-- The text before the first equals sign and the text after it. -/
def cutValue (text : List Char) : String × Option String :=
  match text.span (· != '=') with
  | (name, []) => (.ofList name, none)
  | (name, _ :: value) => (.ofList name, some (.ofList value))

def Argument.ofText (text : String) : Argument :=
  match text.toList with
  | ['-', '-'] => .separator
  | '-' :: '-' :: rest => .named (cutValue rest).1 (cutValue rest).2
  | '-' :: letter :: rest => .lettered letter rest
  | _ => .word text

/-- Options up to the first word, and what is left from it. -/
def takeOptions (forms : List OptionForm) (given : Given) :
    List String → Except Refusal (Given × List String)
  | [] => .ok (given, [])
  | argument :: rest =>
    let withNext (form : OptionForm) : Except Refusal (Given × List String) :=
      match rest with
      | value :: rest =>
        if isOptionLike value then .error .badArguments
        else do takeOptions forms (← give form value given) rest
      | [] => .error .badArguments
    match Argument.ofText argument with
    | .separator => if rest.isEmpty then .ok (given, []) else .error .badArguments
    | .word _ => .ok (given, argument :: rest)
    | .named "help" none => .error .help
    | .named name value =>
      match forms.find? (·.name == name) with
      | none => .error .badArguments
      | some form =>
        match form.kind, value with
        | .none, none => do takeOptions forms (← giveFlag form given) rest
        | .none, some _ => .error .badArguments
        | _, some value => do takeOptions forms (← give form value given) rest
        | _, none => withNext form
    | .lettered letter after =>
      if letter = 'h' then .error .help
      else
        match forms.find? (·.letter == some letter) with
        | none => .error .badArguments
        | some form =>
          match after with
          | [] => withNext form
          | '=' :: value => do takeOptions forms (← give form (.ofList value) given) rest
          | value => do takeOptions forms (← give form (.ofList value) given) rest

/-- The command of this name with the values of its options. -/
def commandOf (name : String) (given : Given) : Option Command :=
  let time (option : String) := (given.lookup option).bind time?
  match name with
  | "check" => (given.lookup "config").map .check
  | "simulate" => do
    some (.simulate (← given.lookup "config") (← given.lookup "script") (given.lookup "state")
      (time "start-ms"))
  | "inspect" => do some (.inspect (← given.lookup "state") (time "at-ms"))
  | _ => none

/-- What a request for help names: commands, each of which has none of its own. -/
def helpRefusal : List String → Refusal
  | [] => .help
  | [name] => if name = "help" || (commandForms name).isSome then .help else .badArguments
  | _ => .badArguments

/-- The command that the arguments ask for. -/
def parseArguments (arguments : List String) : Except Refusal Command := do
  match ← takeOptions commonForms [] arguments with
  | (_, []) => .error .badArguments
  | (_, name :: rest) =>
    if name = "help" then .error (helpRefusal rest)
    else
      match commandForms name with
      | none => .error .badArguments
      | some forms =>
        match ← takeOptions (forms ++ commonForms) [] rest with
        | (given, []) =>
          match commandOf name given with
          | some command => .ok command
          | none => .error .badArguments
        | _ => .error .badArguments

end ProviderRouting.CommandLine
