import ProviderRouting.Proofs.Session.Answers
import Mathlib.Data.List.Dedup

/-!
# Failures of a bound model

A session that is bound to a model keeps the keys that serve it in a queue.  A key that fails moves
to the end of the queue, and a key that is blocked hard leaves it for good.  So the queue always
holds the keys that are left in the order in which they failed last, those first that never failed.
Filters and selections have no part in that order.
-/

namespace ProviderRouting

/-- A failure of a key, which may be blocked for good. -/
structure Failure where
  key : ProviderKey
  hardBlock : Bool
deriving DecidableEq

section Order

variable {pool queue : List ProviderKey} {failures : List Failure} {failure : Failure}
  {key : ProviderKey}

def FailsLastBefore (failures : List Failure) (earlier later : ProviderKey) : Prop :=
  ∃ front back, failures.map Failure.key = front ++ earlier :: back ∧ earlier ∉ back ∧ later ∈ back

/-- The queue holds each key of the pool that was not blocked, once: first those that never failed,
as they stand in the pool, and then the others in the order of their last failures. -/
structure LeastRecentlyFailed (pool : List ProviderKey) (failures : List Failure)
    (queue : List ProviderKey) : Prop where
  nodup : queue.Nodup
  mem_iff : ∀ key, key ∈ queue ↔ key ∈ pool ∧ ⟨key, true⟩ ∉ failures
  ordered : ∃ failed, queue = pool.filter (· ∉ failures.map Failure.key) ++ failed ∧
    failed.Pairwise (FailsLastBefore failures)

def queueAfter (pool : List ProviderKey) (failures : List Failure) : List ProviderKey :=
  pool.filter (· ∉ failures.map Failure.key) ++
    (failures.map Failure.key).dedup.filter fun key => key ∈ pool ∧ ⟨key, true⟩ ∉ failures

theorem dedup_append_singleton {α : Type} [DecidableEq α] (items : List α) (item : α) :
    (items ++ [item]).dedup = items.dedup.filter (· != item) ++ [item] := by
  induction items with
  | nil => rfl
  | cons head rest ih =>
      rw [List.cons_append]
      by_cases hrest : head ∈ rest
      · rw [List.dedup_cons_of_mem (List.mem_append_left [item] hrest),
          List.dedup_cons_of_mem hrest, ih]
      · rw [List.dedup_cons_of_notMem hrest, List.filter_cons]
        by_cases hhead : head = item
        · subst hhead
          rw [List.dedup_cons_of_mem (by simp), ih]
          simp
        · rw [List.dedup_cons_of_notMem (by simp [hrest, hhead]), ih]
          simp [hhead]

theorem pairwise_dedup {α : Type} [DecidableEq α] (items : List α) :
    items.dedup.Pairwise fun earlier later =>
      ∃ front back, items = front ++ earlier :: back ∧ earlier ∉ back ∧ later ∈ back := by
  induction items with
  | nil => exact .nil
  | cons head rest ih =>
      have hmono : rest.dedup.Pairwise fun earlier later =>
          ∃ front back, head :: rest = front ++ earlier :: back ∧ earlier ∉ back ∧
            later ∈ back := by
        refine ih.imp fun hbefore => ?_
        obtain ⟨front, back, hsplit, hlast⟩ := hbefore
        exact ⟨head :: front, back, by rw [hsplit, List.cons_append], hlast⟩
      by_cases hrest : head ∈ rest
      · rw [List.dedup_cons_of_mem hrest]
        exact hmono
      · rw [List.dedup_cons_of_notMem hrest, List.pairwise_cons]
        exact ⟨fun later hlater => ⟨[], rest, rfl, hrest, List.mem_dedup.mp hlater⟩, hmono⟩

theorem mem_queueAfter_iff :
    key ∈ queueAfter pool failures ↔ key ∈ pool ∧ ⟨key, true⟩ ∉ failures := by
  rw [queueAfter, List.mem_append, List.mem_filter, List.mem_filter, List.mem_dedup]
  simp only [decide_eq_true_eq]
  have hfailed : (⟨key, true⟩ : Failure) ∈ failures → key ∈ failures.map Failure.key :=
    fun hmem => List.mem_map.mpr ⟨_, hmem, rfl⟩
  tauto

theorem leastRecentlyFailed_queueAfter (hpool : pool.Nodup) (failures : List Failure) :
    LeastRecentlyFailed pool failures (queueAfter pool failures) where
  nodup := by
    refine List.nodup_append.mpr ⟨hpool.filter _, (List.nodup_dedup _).filter _, ?_⟩
    intro key hnever other hfailed heq
    subst heq
    have hnot : key ∉ failures.map Failure.key := of_decide_eq_true (List.mem_filter.mp hnever).2
    exact hnot (List.mem_dedup.mp (List.mem_filter.mp hfailed).1)
  mem_iff key := mem_queueAfter_iff
  ordered := ⟨_, rfl, (pairwise_dedup _).filter _⟩

/-- A failure takes its key from where it stands and puts it to the end, if it may stay at all. -/
theorem queueAfter_append_singleton (pool : List ProviderKey) (failures : List Failure)
    (key : ProviderKey) (hardBlock : Bool) :
    queueAfter pool (failures ++ [⟨key, hardBlock⟩]) =
      (queueAfter pool failures).filter (· != key) ++
        if key ∈ queueAfter pool failures ∧ hardBlock = false then [key] else [] := by
  have hnever : pool.filter (· ∉ failures.map Failure.key ++ [key]) =
      (pool.filter (· ∉ failures.map Failure.key)).filter (· != key) := by
    rw [List.filter_filter]
    refine List.filter_congr fun other _ => ?_
    rw [Bool.eq_iff_iff]
    simp [and_comm]
  have hfailed : ((failures.map Failure.key).dedup.filter (· != key)).filter (fun other =>
        other ∈ pool ∧ ⟨other, true⟩ ∉ failures ++ [⟨key, hardBlock⟩]) =
      ((failures.map Failure.key).dedup.filter fun other =>
        other ∈ pool ∧ ⟨other, true⟩ ∉ failures).filter (· != key) := by
    rw [List.filter_filter, List.filter_filter]
    refine List.filter_congr fun other _ => ?_
    by_cases hother : other = key
    · simp [hother]
    · simp [hother, Bool.and_comm]
  have hlast : [key].filter (fun other =>
        other ∈ pool ∧ ⟨other, true⟩ ∉ failures ++ [⟨key, hardBlock⟩]) =
      if key ∈ queueAfter pool failures ∧ hardBlock = false then [key] else [] := by
    cases hardBlock <;> simp [List.filter_singleton, mem_queueAfter_iff]
  rw [queueAfter, List.map_append, List.map_singleton, hnever, dedup_append_singleton,
    List.filter_append, hfailed, hlast, queueAfter, List.filter_append, List.append_assoc]

end Order

/-! ## The queue of a session -/

namespace Session

variable {session after : Session} {target : String × String} {pool : List ProviderKey}
  {failures : List Failure}

/-- The session is bound to this model, and its queue is what the failures made of the pool. -/
structure Rotated (target : String × String) (pool : List ProviderKey) (failures : List Failure)
    (session : Session) : Prop where
  mode_eq : session.mode = .model
  target_eq : session.target = some target
  queue_eq : session.queue = queueAfter pool failures

theorem Rotated.of_sameBinding (hrotated : session.Rotated target pool failures)
    (hsame : SameBinding session after) : after.Rotated target pool failures where
  mode_eq := hsame.mode_eq.trans hrotated.mode_eq
  target_eq := hsame.target_eq.trans hrotated.target_eq
  queue_eq := hsame.queue_eq.trans hrotated.queue_eq

theorem rotated_bindModel (session : Session) (provider model : String) (pool : List ProviderKey) :
    (session.bindModel provider model pool).Rotated (provider, model) pool [] :=
  ⟨rfl, rfl, by simp [bindModel, queueAfter]⟩

theorem Rotated.rotate (hrotated : session.Rotated target pool failures) (hpool : pool.Nodup)
    (key : ProviderKey) (hardBlock : Bool) :
    (session.rotate key hardBlock).Rotated target pool (failures ++ [⟨key, hardBlock⟩]) := by
  have hafter := queueAfter_append_singleton pool failures key hardBlock
  have hnodup := (leastRecentlyFailed_queueAfter hpool failures).nodup
  rw [← hnodup.erase_eq_filter, ← hrotated.queue_eq] at hafter
  by_cases hkey : key ∈ session.queue
  · rw [Session.rotate, if_pos ⟨hrotated.mode_eq, hkey⟩]
    refine ⟨hrotated.mode_eq, hrotated.target_eq, ?_⟩
    rw [hafter]
    cases hardBlock <;> simp [hkey]
  · rw [rotate_eq_self hkey]
    refine ⟨hrotated.mode_eq, hrotated.target_eq, ?_⟩
    rw [hafter, List.erase_of_not_mem hkey]
    simp [hkey]

end Session

def SessionChange.failure? : SessionChange → Option Failure
  | .rotate key hardBlock => some ⟨key, hardBlock⟩
  | _ => none

def failuresOf (name : String) (calls : List SessionCall) : List Failure :=
  Sessions.toldOf SessionChange.failure? name calls

namespace Sessions

variable {sessions : Sessions} {name : String} {session : Session} {call : SessionCall}
  {calls : List SessionCall} {target : String × String} {pool : List ProviderKey}
  {failures : List Failure}

/-- The call neither binds its session nor ends it, and is no selection that drops the binding. -/
def Spares (sessions : Sessions) (call : SessionCall) : Prop :=
  match call.change with
  | .bindModel _ _ _ | .bindKey _ | .clear => False
  | .select query => (sessions.select call.name query).1 ≠ .cleared
  | _ => True

/-- No call for the session binds it anew, ends it or drops its binding. -/
def StaysBound (name : String) : Sessions → List SessionCall → Prop
  | _, [] => True
  | sessions, call :: rest =>
      (call.name = name → sessions.Spares call) ∧ StaysBound name (sessions.perform call) rest

/-- One call moves the queue on by the failure that it reports, if it reports one. -/
theorem perform_rotated (hpool : pool.Nodup) (hsession : sessions.get? name = some session)
    (hrotated : session.Rotated target pool failures)
    (hspares : call.name = name → sessions.Spares call) :
    ∃ after, (sessions.perform call).get? name = some after ∧
      after.Rotated target pool
        (failures ++ if call.name = name then call.change.failure?.toList else []) := by
  obtain ⟨named, change⟩ := call
  have hnext := get?_perform sessions ⟨named, change⟩ name
  by_cases hname : named = name
  · subst hname
    have hspares := hspares rfl
    rw [if_pos rfl, hsession] at hnext
    rw [if_pos rfl]
    cases change with
    | bindModel provider model others => exact absurd hspares id
    | bindKey key => exact absurd hspares id
    | clear => exact absurd hspares id
    | allow providers =>
        have hsame := session.allow_sameBinding providers
        exact ⟨_, hnext, by simpa [SessionChange.failure?] using hrotated.of_sameBinding hsame⟩
    | disable target =>
        have hsame := session.disable_sameBinding target
        exact ⟨_, hnext, by simpa [SessionChange.failure?] using hrotated.of_sameBinding hsame⟩
    | enable target =>
        have hsame := session.enable_sameBinding target
        exact ⟨_, hnext, by simpa [SessionChange.failure?] using hrotated.of_sameBinding hsame⟩
    | select query =>
        have hsame : sessions.perform ⟨named, .select query⟩ = sessions := select_snd_eq hspares
        rw [hsame]
        exact ⟨session, hsession, by simpa [SessionChange.failure?] using hrotated⟩
    | rotate key hardBlock => exact ⟨_, hnext, hrotated.rotate hpool key hardBlock⟩
  · rw [if_neg (Ne.symm hname), hsession] at hnext
    rw [if_neg hname, List.append_nil]
    exact ⟨session, hnext, hrotated⟩

/-- Over a run the queue follows all failures that are reported for the session. -/
theorem run_rotated (hpool : pool.Nodup) (hsession : sessions.get? name = some session)
    (hrotated : session.Rotated target pool failures) (hbound : StaysBound name sessions calls) :
    ∃ after, (sessions.run calls).get? name = some after ∧
      after.Rotated target pool (failures ++ failuresOf name calls) := by
  induction calls generalizing sessions session failures with
  | nil => exact ⟨session, hsession, by simpa [failuresOf, toldOf] using hrotated⟩
  | cons call rest ih =>
      obtain ⟨after, hafter, hfollows⟩ := perform_rotated hpool hsession hrotated hbound.1
      rw [failuresOf, toldOf_cons, ← List.append_assoc]
      exact ih hafter hfollows hbound.2

/-- Failures of keys that are not queued change nothing. -/
theorem rotate_eq_self (hsession : sessions.get? name = some session) {key : ProviderKey}
    (hkey : key ∉ session.queue) (hardBlock : Bool) :
    sessions.rotate name key hardBlock = sessions := by
  apply Table.eq_of_get?
  intro probe
  rw [rotate, get?_updateExisting]
  by_cases hprobe : probe = name
  · rw [if_pos hprobe, hprobe, hsession, Option.map_some, Session.rotate_eq_self hkey]
  · rw [if_neg hprobe]

theorem bindModel_rotated {provider model : String}
    (hbound : (sessions.bindModel name provider model pool).1 = true) :
    ∃ session, (sessions.bindModel name provider model pool).2.get? name = some session ∧
      session.Rotated (provider, model) pool [] := by
  rw [bindModel] at hbound ⊢
  by_cases hempty : pool.isEmpty = true
  · rw [if_pos hempty] at hbound
    cases hbound
  · rw [if_neg hempty]
    refine ⟨_, (get?_update sessions name name _).trans (if_pos rfl), ?_⟩
    exact Session.rotated_bindModel _ provider model pool

/-- From the time when a session is bound to a model until it is bound anew, ended or released, its
queue holds each key of the pool that was not blocked, once, in the order in which they failed
last.  A failure of a key that was blocked, or that is not of the pool, changes nothing. -/
theorem run_leastRecentlyFailed (sessions : Sessions) (name provider model : String)
    {pool : List ProviderKey} (hpool : pool.Nodup)
    (hbound : (sessions.bindModel name provider model pool).1 = true) {calls : List SessionCall}
    (hstays : StaysBound name (sessions.bindModel name provider model pool).2 calls) :
    ∃ session, ((sessions.bindModel name provider model pool).2.run calls).get? name =
        some session ∧
      session.mode = .model ∧ session.target = some (provider, model) ∧
      LeastRecentlyFailed pool (failuresOf name calls) session.queue ∧
      ∀ key hardBlock, key ∉ pool ∨ ⟨key, true⟩ ∈ failuresOf name calls →
        ((sessions.bindModel name provider model pool).2.run calls).rotate name key hardBlock =
          (sessions.bindModel name provider model pool).2.run calls := by
  obtain ⟨opened, hopened, hfresh⟩ := bindModel_rotated hbound
  obtain ⟨session, hsession, hrotated⟩ := run_rotated hpool hopened hfresh hstays
  rw [List.nil_append] at hrotated
  have hqueue := leastRecentlyFailed_queueAfter hpool (failuresOf name calls)
  rw [← hrotated.queue_eq] at hqueue
  refine ⟨session, hsession, hrotated.mode_eq, hrotated.target_eq, hqueue, ?_⟩
  intro key hardBlock hgone
  refine rotate_eq_self hsession (fun hkey => ?_) hardBlock
  obtain ⟨hmem, hleft⟩ := (hqueue.mem_iff key).mp hkey
  exact hgone.elim (fun houtside => houtside hmem) fun hblocked => hleft hblocked

/-- Of three keys the first one fails twice, the second one is blocked, and the third one fails in
between, while selections go on. -/
theorem run_leastRecentlyFailed_of_three :
    let key (keyAlias : String) : ProviderKey := ⟨"north", keyAlias, "large"⟩
    let pool : List ProviderKey := [key "a", key "b", key "c"]
    let query : BindingQuery :=
      { inRoute := fun _ => true, selectable := fun _ => true, weight := fun _ => 1 }
    let calls : List SessionCall := [⟨"s", .rotate (key "a") false⟩, ⟨"s", .select query⟩,
      ⟨"s", .rotate (key "b") true⟩, ⟨"s", .rotate (key "c") false⟩,
      ⟨"s", .rotate (key "a") false⟩]
    pool.Nodup ∧ (Sessions.bindModel ∅ "s" "north" "large" pool).1 = true ∧
      StaysBound "s" (Sessions.bindModel ∅ "s" "north" "large" pool).2 calls ∧
      LeastRecentlyFailed pool
        [⟨key "a", false⟩, ⟨key "b", true⟩, ⟨key "c", false⟩, ⟨key "a", false⟩]
        [key "c", key "a"] := by
  intro key pool query calls
  have hpool : pool.Nodup := by decide
  have hbound : (Sessions.bindModel ∅ "s" "north" "large" pool).1 = true := rfl
  have hselected : (((Sessions.bindModel ∅ "s" "north" "large" pool).2.rotate "s" (key "a")
      false).select "s" query).1 ≠ .cleared := by decide
  have hstays : StaysBound "s" (Sessions.bindModel ∅ "s" "north" "large" pool).2 calls :=
    ⟨fun _ => trivial, fun _ => hselected, fun _ => trivial, fun _ => trivial, fun _ => trivial,
      trivial⟩
  refine ⟨hpool, hbound, hstays, ?_⟩
  obtain ⟨session, hsession, -, -, hqueue, -⟩ :=
    run_leastRecentlyFailed ∅ "s" "north" "large" hpool hbound hstays
  have hreached : ((((Sessions.bindModel ∅ "s" "north" "large" pool).2.run calls).get? "s").map
      Session.queue) = some [key "c", key "a"] := by decide
  have hfailures : failuresOf "s" calls =
      [⟨key "a", false⟩, ⟨key "b", true⟩, ⟨key "c", false⟩, ⟨key "a", false⟩] := by decide
  rw [hsession, Option.map_some, Option.some.injEq] at hreached
  rw [hreached, hfailures] at hqueue
  exact hqueue

end Sessions

end ProviderRouting
