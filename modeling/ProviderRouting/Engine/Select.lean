import ProviderRouting.Engine.Basic

/-!
# Selecting a key

A selection first carries out the instructions of the request.  A forced target comes before
everything else, then a session's binding, and then the tiers of the route by rank.  While
providers are avoided, the tiers are first tried without these.  A key may be selected only if
the request does not exclude it, its series is not cooling down, and its entry is in the pool.
-/

namespace ProviderRouting

/-- What led to a selection. -/
inductive SelectionStage where
  | forced
  | sticky
  | priority
  | roundRobin
  /-- A retry takes the healthiest key of a round-robin tier. -/
  | recovery
deriving DecidableEq, Repr, Inhabited

def SelectionStage.label : SelectionStage → String
  | .forced => "forced"
  | .sticky => "sticky"
  | .priority => "priority"
  | .roundRobin => "round_robin"
  | .recovery => "recovery"

inductive Selection where
  | selected (key : ProviderKey) (stage : SelectionStage)
  /-- No key of the route can be selected now. -/
  | exhausted
deriving DecidableEq, Inhabited

namespace Selection

def key? : Selection → Option ProviderKey
  | .selected key _ => some key
  | .exhausted => none

def stage? : Selection → Option SelectionStage
  | .selected _ stage => some stage
  | .exhausted => none

def encode : Selection → Document
  | .selected key stage =>
    .fields [("providerKey", key.encode), ("source", .text stage.label)]
  | .exhausted => .fields [("exhausted", .bool true)]

end Selection

/-- What the instructions of a request mean for this request alone. -/
structure Directives where
  force : Option KeySelector := none
  allowed : Option (List String) := none
  disabled : List KeySelector := []

def Directives.admits (directives : Directives) (key : ProviderKey) : Bool :=
  directives.allowed.all (·.contains key.provider) &&
    !directives.disabled.any (·.covers key)

namespace Engine

/-- Bind a session, if the routes hold a key for it. -/
def bind (routes : Routes) (sessions : Sessions) (session provider model : String) :
    Option String → Sessions
  | some keyAlias =>
    let key : ProviderKey := ⟨provider, keyAlias, model⟩
    if routes.contains key then sessions.bindKey session key else sessions
  | none => (sessions.bindModel session provider model (routes.servingKeys provider model)).2

/-- Carry out one instruction: what concerns a session changes it, and without a session the
instruction concerns this request alone. -/
def carryOut (routes : Routes) (session : Option String)
    (state : Directives × Sessions) (instruction : Instruction) :
    Directives × Sessions :=
  let (directives, sessions) := state
  match instruction, session with
  | .force provider model keyAlias, _ =>
    ({ directives with force := some { provider, model := some model, keyAlias } }, sessions)
  | .sticky provider model keyAlias, none =>
    ({ directives with force := some { provider, model := some model, keyAlias } }, sessions)
  | .sticky provider model keyAlias, some session =>
    (directives, bind routes sessions session provider model keyAlias)
  | .allow providers, some session => (directives, sessions.allow session providers)
  | .allow providers, none => ({ directives with allowed := some providers }, sessions)
  | .disable target, some session => (directives, sessions.disable session target)
  | .disable target, none =>
    ({ directives with disabled := directives.disabled ++ [target] }, sessions)
  | .enable target, some session => (directives, sessions.enable session target)
  | .enable _, none => (directives, sessions)
  | .clear, some session => (directives, (sessions.clear session).2)
  | .clear, none => (directives, sessions)

/-- Carry out the instructions of a request in their order. -/
def carryOutAll (engine : Engine) (request : SelectionRequest) : Directives × Sessions :=
  request.instructions.foldl (carryOut engine.routes request.session)
    ({}, engine.sessions)

/-- The key may be selected for this request. -/
def isAvailable (engine : Engine) (request : SelectionRequest) (directives : Directives)
    (now : Millis) (key : ProviderKey) : Bool :=
  !request.excluded.contains key && directives.admits key &&
    !engine.series.isCoolingDown key now && engine.quota.isAvailable key now

/-- The health weight of a key. -/
def weight (engine : Engine) (now : Millis) (key : ProviderKey) : Nat :=
  engine.health.entryWeight (engine.quota.entryAt key now) now

/-- What a key's last errors cost it in a priority tier. -/
def penalty (engine : Engine) (tier : Tier) (now : Millis) (key : ProviderKey) : Nat :=
  ((engine.quota.entryAt key now).penaltyAt now tier.penaltyWindow).toNat

/-- Select among the candidates of one tier. -/
def selectFromTier (engine : Engine) (tier : Tier) (candidate : ProviderKey → Bool)
    (recover : Bool) (now : Millis) : Option (ProviderKey × SelectionStage) × Engine :=
  match tier.mode with
  | .priority =>
    ((Priority.select tier.targets candidate (engine.penalty tier now)).map (·, .priority),
      engine)
  | .roundRobin =>
    let available := tier.targets.filter candidate
    if recover then
      ((heaviest? (engine.weight now) available).map (·, .recovery), engine)
    else
      let weighted := available.map fun key => (key, engine.weight now key)
      let bound := turnBound weighted.length engine.health.leastMultiplier
      let rotation := (engine.rotations.get? tier.id).getD {}
      let (picked, rotation) := rotation.select weighted bound
      let rotations :=
        if Rotation.totalWeight weighted = 0 then engine.rotations
        else engine.rotations.insert tier.id rotation
      (picked.map (·, .roundRobin), { engine with rotations })

/-- The first selection that one of the tiers makes. -/
def selectFromTiers (engine : Engine) (candidate : ProviderKey → Bool) (recover : Bool)
    (now : Millis) : List Tier → Option (ProviderKey × SelectionStage) × Engine
  | [] => (none, engine)
  | tier :: rest =>
    match engine.selectFromTier tier candidate recover now with
    | (some picked, engine) => (some picked, engine)
    | (none, engine) => engine.selectFromTiers candidate recover now rest

/-- Try the tiers without the avoided providers first, if there are any. -/
def selectByRank (engine : Engine) (eligible : ProviderKey → Bool) (recover : Bool)
    (now : Millis) (tiers : List Tier) :
    Option (ProviderKey × SelectionStage) × Engine :=
  if engine.series.avoidsAny now then
    let preferred (key : ProviderKey) : Bool :=
      eligible key && !engine.series.isAvoided key.provider now
    match engine.selectFromTiers preferred recover now tiers with
    | (some picked, engine) => (some picked, engine)
    | (none, engine) => engine.selectFromTiers eligible recover now tiers
  else
    engine.selectFromTiers eligible recover now tiers

/-- Count a selection on a route. -/
def countSelection (engine : Engine) (route : String) (key : ProviderKey)
    (stage : SelectionStage) : Selection × Engine :=
  (.selected key stage,
    engine.count (·.countSelection route key.provider key.model stage.label))

/-- Select on the tiers of a route, past the session's filter. -/
def selectOnRoute (engine : Engine) (route : String) (tiers : List Tier)
    (request : SelectionRequest) (directives : Directives) (now : Millis) :
    Selection × Engine :=
  let filter := request.session.bind engine.sessions.filter?
  let eligible (key : ProviderKey) : Bool :=
    engine.isAvailable request directives now key && filter.all (·.admits key)
  match engine.selectByRank eligible request.seeksHealthiest now tiers with
  | (some (key, stage), engine) => engine.countSelection route key stage
  | (none, engine) => (.exhausted, engine.count (·.countExhausted route))

/-- Ask the binding of the request's session. -/
def selectBound (engine : Engine) (route : String) (request : SelectionRequest)
    (directives : Directives) (now : Millis) : BindingOutcome × Engine :=
  match request.session with
  | none => (.notApplicable, engine)
  | some session =>
    let (outcome, sessions) := engine.sessions.select session {
      hint := request.hint
      inRoute := engine.routes.lists route
      selectable := engine.isAvailable request directives now
      weight := engine.weight now
      recover := request.seeksHealthiest }
    (outcome, { engine with sessions })

/-- The heaviest key that a forced target covers and that can be selected. -/
def forcedKey? (engine : Engine) (request : SelectionRequest) (directives : Directives)
    (now : Millis) : Option ProviderKey := do
  let target ← directives.force
  heaviest? (engine.weight now) ((engine.routes.coveredKeys target).filter
    (engine.isAvailable request directives now))

/-- Select a key for a request on a route; only an unknown route is an error. -/
def select (engine : Engine) (route : String) (request : SelectionRequest) (now : Millis) :
    Except RoutingError (Selection × Engine) :=
  match engine.routes.tiers? route with
  | none => .error (.unknownRoute route)
  | some tiers =>
    let (directives, sessions) := engine.carryOutAll request
    let engine := { engine with sessions }
    match engine.forcedKey? request directives now with
    | some key => .ok (engine.countSelection route key .forced)
    | none =>
      match engine.selectBound route request directives now with
      | (.selected key, engine) => .ok (engine.countSelection route key .sticky)
      | (.cleared, engine) =>
        .ok ((engine.count Metrics.countAutoClear).selectOnRoute route tiers request directives
          now)
      | (.notApplicable, engine) =>
        .ok (engine.selectOnRoute route tiers request directives now)

end Engine

end ProviderRouting
