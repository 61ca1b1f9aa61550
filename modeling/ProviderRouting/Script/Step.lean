import ProviderRouting.Event
import ProviderRouting.Json.Parser
import ProviderRouting.Request
import ProviderRouting.Text.Blank

/-!
# Scripts

A script tells what happens in a simulation, one step a line.  A step is a JSON mapping whose
member `op` names its kind.  Blank lines and lines that begin with `#` are passed over.
-/

namespace ProviderRouting

/-- One step of a script.  Keys are texts here; whether they name keys shows when the step is
carried out. -/
inductive ScriptStep where
  | select (route : String) (session : Option String) (instructions : List Instruction)
      (exclude : List String) (hint : Option Capability)
  | error (key : String) (status : Option UInt16) (code : Option String)
      (retryAfter : Option Millis) (session : Option String)
  | success (key : String)
  | usage (key : String) (tokens : UInt64)
  | quota (key : String) (remaining : Float) (resetAt : Option Millis)
  | advance (seconds milliseconds : Millis)
  | reset (key : String)

namespace ScriptStep

def decodeSelect : Decoder ScriptStep := fun document => do
  let given ← Decode.record [⟨"route", []⟩, ⟨"session", []⟩, ⟨"instructions", []⟩,
    ⟨"exclude", []⟩, ⟨"hint", []⟩] document
  some (.select (← Decode.defaulted given "route" Decode.text "default")
    (← Decode.maybe given "session" Decode.text)
    (← Decode.defaulted given "instructions" (Decode.list Instruction.decodeAhead) [])
    (← Decode.defaulted given "exclude" (Decode.list Decode.text) [])
    (← Decode.maybe given "hint" Capability.decode))

def decodeError : Decoder ScriptStep := fun document => do
  let given ← Decode.record [⟨"key", []⟩, ⟨"status", []⟩, ⟨"code", []⟩, ⟨"retry_after_ms", []⟩,
    ⟨"session", []⟩] document
  some (.error (← Decode.required given "key" Decode.text)
    (← Decode.maybe given "status" Decode.uint16)
    (← Decode.maybe given "code" Decode.text)
    (← Decode.maybe given "retry_after_ms" Decode.millis)
    (← Decode.maybe given "session" Decode.text))

def decodeKeyed (build : String → ScriptStep) : Decoder ScriptStep := fun document => do
  let given ← Decode.record [⟨"key", []⟩] document
  some (build (← Decode.required given "key" Decode.text))

def decodeUsage : Decoder ScriptStep := fun document => do
  let given ← Decode.record [⟨"key", []⟩, ⟨"tokens", []⟩] document
  some (.usage (← Decode.required given "key" Decode.text)
    (← Decode.defaulted given "tokens" Decode.uint64 0))

def decodeQuota : Decoder ScriptStep := fun document => do
  let given ← Decode.record [⟨"key", []⟩, ⟨"remaining_fraction", []⟩, ⟨"reset_at_ms", []⟩]
    document
  some (.quota (← Decode.required given "key" Decode.text)
    (← Decode.required given "remaining_fraction" Decode.float)
    (← Decode.maybe given "reset_at_ms" Decode.millis))

def decodeAdvance : Decoder ScriptStep := fun document => do
  let given ← Decode.record [⟨"secs", []⟩, ⟨"ms", []⟩] document
  some (.advance (← Decode.defaulted given "secs" Decode.millis 0)
    (← Decode.defaulted given "ms" Decode.millis 0))

def decode : Decoder ScriptStep := fun document => do
  let (tag, rest) ← Decode.tagged "op" document
  match ← Decode.text tag with
  | "select" => decodeSelect rest
  | "error" => decodeError rest
  | "success" => decodeKeyed .success rest
  | "usage" => decodeUsage rest
  | "quota" => decodeQuota rest
  | "advance" => decodeAdvance rest
  | "reset" => decodeKeyed .reset rest
  | _ => none

/-- The step that a line holds. -/
def ofLine? (line : String) : Option ScriptStep := do
  decode (← Json.parse? line)

end ScriptStep

/-- The line holds no step and is passed over. -/
def isPassedOver (line : String) : Bool :=
  match trimBlanks line.toList with
  | [] => true
  | first :: _ => first = '#'

/-- The line of a script, counted from one, that holds no step but should. -/
structure ScriptError where
  line : Nat
deriving DecidableEq, Repr

def ScriptError.message (cause : ScriptError) : String :=
  "Invalid step on line " ++ toString cause.line

/-- The steps of some lines, the first of which has this number. -/
def parseLines (number : Nat) : List String → Except ScriptError (List ScriptStep)
  | [] => .ok []
  | line :: rest =>
    if isPassedOver line then parseLines (number + 1) rest
    else
      match ScriptStep.ofLine? line with
      | none => .error ⟨number⟩
      | some step => do
        let steps ← parseLines (number + 1) rest
        .ok (step :: steps)

/-- The steps of a script, or its first faulty line. -/
def readScript (text : String) : Except ScriptError (List ScriptStep) :=
  parseLines 1 (textLines text)

end ProviderRouting
