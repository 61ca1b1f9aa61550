import ProviderRouting.Request
import ProviderRouting.Rotation

/-!
# Sessions

A session may be bound to a model, and then selects from a queue of the keys that serve it, or
to a single key.  A key that fails moves to the end of the queue, and a key that is blocked hard
leaves it.  When no key of the queue can be selected, the binding is dropped.

A session also carries a filter, which outlives its bindings.
-/

namespace ProviderRouting

inductive BindingMode where
  | unbound
  | model
  | key
deriving DecidableEq, Repr, Inhabited

def BindingMode.label : BindingMode → String
  | .unbound => "none"
  | .model => "stickyModel"
  | .key => "stickyKey"

/-- Which keys a session may select. -/
structure KeyFilter where
  /-- No provider means every provider. -/
  allowed : Table String Unit := ∅
  disabled : List KeySelector := []
deriving Inhabited

namespace KeyFilter

def admits (filter : KeyFilter) (key : ProviderKey) : Bool :=
  (filter.allowed.isEmpty || filter.allowed.contains key.provider) &&
    !filter.disabled.any (·.covers key)

def isEmpty (filter : KeyFilter) : Bool :=
  filter.allowed.isEmpty && filter.disabled.isEmpty

def members (filter : KeyFilter) : List (String × Document) :=
  [("allowedProviders", .list (filter.allowed.keys.map .text)),
    ("disabledTargets", .list (filter.disabled.map KeySelector.encode))]

end KeyFilter

structure Session where
  mode : BindingMode := .unbound
  /-- The provider and model that the session is bound to. -/
  target : Option (String × String) := none
  /-- The keys to select from, the preferred ones first. -/
  queue : List ProviderKey := []
  filter : KeyFilter := {}
deriving Inhabited

namespace Session

/-- Bind to a model that these keys serve. -/
def bindModel (session : Session) (provider model : String) (pool : List ProviderKey) :
    Session :=
  { session with mode := .model, target := some (provider, model), queue := pool }

/-- Bind to one key. -/
def bindKey (session : Session) (key : ProviderKey) : Session :=
  { session with mode := .key, target := some (key.provider, key.model), queue := [key] }

def dropBinding (session : Session) : Session :=
  { session with mode := .unbound, target := none, queue := [] }

/-- Allow these providers only; none lifts the restriction. -/
def allow (session : Session) (providers : List String) : Session :=
  { session with
    filter := { session.filter with allowed := .ofList (providers.map (·, ())) } }

/-- Disable a target, once. -/
def disable (session : Session) (target : KeySelector) : Session :=
  if session.filter.disabled.contains target then session
  else
    { session with
      filter := { session.filter with disabled := session.filter.disabled ++ [target] } }

/-- Take back the disabling of exactly this target. -/
def enable (session : Session) (target : KeySelector) : Session :=
  { session with
    filter := { session.filter with
      disabled := session.filter.disabled.filter (· != target) } }

/-- Move a failed key of a bound model to the end of the queue, or out of it. -/
def rotate (session : Session) (key : ProviderKey) (hardBlock : Bool) : Session :=
  if session.mode = .model ∧ key ∈ session.queue then
    { session with
      queue := session.queue.erase key ++ if hardBlock then [] else [key] }
  else
    session

/-- The binding says something about requests on this route. -/
def applies (session : Session) (inRoute : ProviderKey → Bool) : Bool :=
  session.mode != .unbound && session.queue.any inRoute

/-- The queued keys that can be selected, in their order. -/
def candidates (session : Session) (inRoute selectable : ProviderKey → Bool) :
    List ProviderKey :=
  session.queue.filter fun key => inRoute key && session.filter.admits key && selectable key

def encode (session : Session) : Document :=
  .fields ([("mode", .text session.mode.label),
    ("target", .ofOption (fun target => .list [.text target.1, .text target.2]) session.target),
    ("queue", .list (session.queue.map ProviderKey.encode))] ++ session.filter.members)

end Session

/-- The earliest key of greatest weight. -/
def heaviest? (weight : ProviderKey → Nat) (keys : List ProviderKey) : Option ProviderKey :=
  firstGreatest? (fun key => (weight key : Int)) keys

/-- What a session's binding has to say about a request. -/
inductive BindingOutcome where
  /-- No binding applies. -/
  | notApplicable
  | selected (key : ProviderKey)
  /-- The binding had no key left to select and was dropped. -/
  | cleared
deriving DecidableEq

/-- What a sticky selection is told about keys. -/
structure BindingQuery where
  hint : Option Capability := none
  inRoute : ProviderKey → Bool
  selectable : ProviderKey → Bool
  weight : ProviderKey → Nat
  /-- Prefer the weight to the order of the queue. -/
  recover : Bool := false

/-- All sessions by their names. -/
abbrev Sessions := Table String Session

namespace Sessions

/-- Change a session, which is new if there is none of this name. -/
def update (sessions : Sessions) (name : String) (change : Session → Session) : Sessions :=
  sessions.insert name (change ((sessions.get? name).getD {}))

/-- Change a session if there is one of this name. -/
def updateExisting (sessions : Sessions) (name : String) (change : Session → Session) :
    Sessions :=
  match sessions.get? name with
  | none => sessions
  | some session => sessions.insert name (change session)

/-- Bind a session to a model, unless no key serves it. -/
def bindModel (sessions : Sessions) (name provider model : String) (pool : List ProviderKey) :
    Bool × Sessions :=
  if pool.isEmpty then (false, sessions)
  else (true, sessions.update name (·.bindModel provider model pool))

def bindKey (sessions : Sessions) (name : String) (key : ProviderKey) : Sessions :=
  sessions.update name (·.bindKey key)

def allow (sessions : Sessions) (name : String) (providers : List String) : Sessions :=
  sessions.update name (·.allow providers)

def disable (sessions : Sessions) (name : String) (target : KeySelector) : Sessions :=
  sessions.update name (·.disable target)

def enable (sessions : Sessions) (name : String) (target : KeySelector) : Sessions :=
  sessions.updateExisting name (·.enable target)

/-- Forget a session. -/
def clear (sessions : Sessions) (name : String) : Bool × Sessions :=
  (sessions.contains name, sessions.erase name)

/-- A session's filter, if it has one that filters. -/
def filter? (sessions : Sessions) (name : String) : Option KeyFilter :=
  ((sessions.get? name).map Session.filter).filter fun filter => !filter.isEmpty

def rotate (sessions : Sessions) (name : String) (key : ProviderKey) (hardBlock : Bool) :
    Sessions :=
  sessions.updateExisting name (·.rotate key hardBlock)

/-- Drop a binding, and the whole session if it has no filter. -/
def release (sessions : Sessions) (name : String) (session : Session) : Sessions :=
  if session.filter.isEmpty then sessions.erase name else sessions.insert name session.dropBinding

/-- Select from the queue of a session.  A hint bypasses the binding, and so does a route that
serves none of the queued keys. -/
def select (sessions : Sessions) (name : String) (query : BindingQuery) :
    BindingOutcome × Sessions :=
  match query.hint, sessions.get? name with
  | none, some session =>
    if session.applies query.inRoute then
      let candidates := session.candidates query.inRoute query.selectable
      let picked := if query.recover then heaviest? query.weight candidates else candidates.head?
      match picked with
      | some key => (.selected key, sessions)
      | none => (.cleared, sessions.release name session)
    else (.notApplicable, sessions)
  | _, _ => (.notApplicable, sessions)

end Sessions

end ProviderRouting
