/-
  Meshcop.Client.PrefixCache — the cached mesh-local prefix under concurrent calls
  (`require_mesh_local_prefix` of `meshcop/src/commissioner/client/requests.rs`, the cache of
  `client/mod.rs`).

  A call of `require_mesh_local_prefix` is three atomic pieces: it locks the cache and either
  returns the prefix or remembers the generation; it fetches the active dataset; it locks the
  cache again and stores what it read if the generation still stands.  Calls from any number
  of handles and the driver's invalidations interleave between these pieces, a fetch may fail,
  and a call may be dropped.  A trace records when fetches begin and return, what is stored
  and when the cache is dropped.

  Main results:
    * `step_sound` — every step keeps `Sound`: the generation counts the invalidations, and
      a call whose generation still stands began its fetch after the last of them;
    * `cached_prefix_never_stale` — what the cache holds was fetched after the last
      invalidation.
-/

import Mathlib.Data.List.Induction
import Meshcop.Lib.Interleaving
import Meshcop.Lib.Lists
import Meshcop.Wire.Dataset
import Meshcop.Driver.State

namespace Meshcop

open Lib

/-! ## §1. The cache and its calls. -/

namespace PrefixCache

/-- Drops the cached prefix. -/
def invalidate (cache : PrefixCache) : PrefixCache :=
  { cached := none, generation := cache.generation + 1 }

/-- Stores a prefix that was read under `generation`, unless the cache was dropped since. -/
def store (cache : PrefixCache) (generation : UInt64) (meshLocalPrefix : FixedBytes 8) :
    PrefixCache :=
  if cache.generation = generation then { cache with cached := some meshLocalPrefix } else cache

/-- This is what a dataset-changed notification does in the driver. -/
theorem invalidateMeshLocalPrefix_eq {env : Env} (d : Driver env) :
    d.invalidateMeshLocalPrefix.meshLocalPrefix = d.meshLocalPrefix.invalidate := rfl

end PrefixCache

/-- The prefix in a fetched active dataset. -/
def prefixOfDataset (raw : Bytes) : Except Error (FixedBytes 8) := do
  let dataset ← Dataset.fromBytes raw
  let found ← dataset.meshLocalPrefix
  match found with
  | none => .error (.invalidState "active dataset does not include the mesh-local prefix")
  | some meshLocalPrefix =>
    if meshLocalPrefix.bytes.head? ≠ some 0xfd then
      .error (.dataset "mesh-local prefix must be within fd00::/8")
    else .ok meshLocalPrefix

namespace PrefixLookup

/-- What the trace records. -/
inductive Event where
  /-- Call `i` sent its dataset request. -/
  | began (i : Nat)
  /-- The fetch of call `i` returned a prefix. -/
  | fetched (i : Nat) (meshLocalPrefix : FixedBytes 8)
  /-- Call `i` put the prefix into the cache. -/
  | stored (i : Nat) (meshLocalPrefix : FixedBytes 8)
  | invalidated
  deriving DecidableEq

/-- What handles and driver share. -/
structure Shared where
  cache : PrefixCache
  trace : List Event

/-- How far a call is, with the values it holds across its awaits. -/
inductive Call where
  /-- The cache was empty; the generation is remembered. -/
  | locked (generation : UInt64)
  | fetching (generation : UInt64)
  | fetched (generation : UInt64) (meshLocalPrefix : FixedBytes 8)
  | returned (result : Except Error (FixedBytes 8))
  /-- The caller dropped the future. -/
  | dropped

abbrev State := Pool Shared Call

def State.start : State :=
  { shared := { cache := { cached := none, generation := 0 }, trace := [] }, tasks := [] }

/-- The first lock: a cached prefix is returned at once. -/
def enter (s : Shared) : Call :=
  match s.cache.cached with
  | some meshLocalPrefix => .returned (.ok meshLocalPrefix)
  | none => .locked s.cache.generation

def Shared.log (s : Shared) (event : Event) : Shared := { s with trace := s.trace ++ [event] }

/-- The fetch begins. -/
def begin (i : Nat) (s : Shared) : Call → Shared × Call
  | .locked generation => (s.log (.began i), .fetching generation)
  | call => (s, call)

/-- The fetch returns: an error, or a dataset that may or may not have a usable prefix. -/
def answer (i : Nat) (outcome : Except Error Bytes) (s : Shared) : Call → Shared × Call
  | .fetching generation =>
    match outcome >>= prefixOfDataset with
    | .ok meshLocalPrefix =>
      (s.log (.fetched i meshLocalPrefix), .fetched generation meshLocalPrefix)
    | .error e => (s, .returned (.error e))
  | call => (s, call)

/-- The second lock. -/
def finish (i : Nat) (s : Shared) : Call → Shared × Call
  | .fetched generation meshLocalPrefix =>
    let s' := { s with cache := s.cache.store generation meshLocalPrefix }
    (if s.cache.generation = generation then s'.log (.stored i meshLocalPrefix) else s',
      .returned (.ok meshLocalPrefix))
  | call => (s, call)

/-- The future is dropped. -/
def abandon (s : Shared) (_ : Call) : Shared × Call := (s, .dropped)

/-- A dataset-changed notification. -/
def invalidate (s : Shared) : Shared :=
  { s with cache := s.cache.invalidate }.log .invalidated

/-- One atomic piece of an interleaving. -/
inductive Op where
  /-- Some handle calls `require_mesh_local_prefix`. -/
  | call
  | begin (i : Nat)
  | answer (i : Nat) (outcome : Except Error Bytes)
  | finish (i : Nat)
  | abandon (i : Nat)
  | invalidate

def step (state : State) : Op → State
  | .call => state.spawn enter
  | .begin i => state.advance i (begin i)
  | .answer i outcome => state.advance i (answer i outcome)
  | .finish i => state.advance i (finish i)
  | .abandon i => state.advance i abandon
  | .invalidate => state.disturb invalidate

def run (ops : List Op) : State := ops.foldl step State.start

/-! ## §2. What the trace says about a call. -/

/-- How often the cache was dropped. -/
def drops (trace : List Event) : Nat := trace.count .invalidated

/-- Since the fetch of call `i` began, the cache was not dropped and all of `events` happened. -/
def Since (trace : List Event) (i : Nat) (events : List Event) : Prop :=
  ∃ before after, trace = before ++ .began i :: after ∧ .invalidated ∉ after ∧
    ∀ event ∈ events, event ∈ after

theorem since_began (trace : List Event) (i : Nat) : Since (trace ++ [.began i]) i [] :=
  ⟨trace, [], rfl, List.not_mem_nil, List.forall_mem_nil _⟩

variable {events trace : List Event} {i : Nat} {event : Event}

/-- One more event, which is then one of those that happened. -/
theorem Since.log (h : Since trace i events) (hne : event ≠ .invalidated) :
    Since (trace ++ [event]) i (event :: events) := by
  obtain ⟨before, after, rfl, hkept, hevents⟩ := h
  refine ⟨before, after ++ [event], by simp, ?_, ?_⟩
  · intro hmem
    cases List.mem_append.mp hmem with
    | inl hold => exact hkept hold
    | inr hnew => exact hne (List.mem_singleton.mp hnew).symm
  · intro e he
    cases List.mem_cons.mp he with
    | inl heq => exact List.mem_append_right _ (List.mem_singleton.mpr heq)
    | inr hold => exact List.mem_append_left _ (hevents e hold)

theorem Since.mono (h : Since trace i (event :: events)) : Since trace i events := by
  obtain ⟨before, after, htrace, hkept, hevents⟩ := h
  exact ⟨before, after, htrace, hkept, fun e he => hevents e (List.mem_cons_of_mem _ he)⟩

/-- A remembered generation is never ahead of the drops; and while it stands, the fetch of
    the call, once begun, began after the last of them. -/
def Follows (trace : List Event) (i : Nat) : Call → Prop
  | .locked generation => generation.toNat ≤ drops trace
  | .fetching generation =>
    generation.toNat ≤ drops trace ∧ (generation.toNat = drops trace → Since trace i [])
  | .fetched generation meshLocalPrefix =>
    generation.toNat ≤ drops trace ∧
      (generation.toNat = drops trace → Since trace i [.fetched i meshLocalPrefix])
  | .returned _ => True
  | .dropped => True

theorem drops_log (hne : event ≠ .invalidated) : drops (trace ++ [event]) = drops trace := by
  unfold drops
  rw [List.count_append, List.count_singleton, if_neg (by simpa using hne), Nat.add_zero]

theorem drops_invalidated (trace : List Event) : drops (trace ++ [.invalidated]) = drops trace + 1 := by
  unfold drops
  rw [List.count_append, List.count_singleton_self]

/-- A call tolerates every event but a drop without a change. -/
theorem Follows.log {call : Call} (h : Follows trace i call) (hne : event ≠ .invalidated) :
    Follows (trace ++ [event]) i call := by
  cases call with
  | locked generation =>
    show _ ≤ drops (trace ++ [event])
    rw [drops_log hne]
    exact h
  | fetching generation =>
    show _ ≤ drops (trace ++ [event]) ∧ (_ = drops (trace ++ [event]) → _)
    rw [drops_log hne]
    exact ⟨h.1, fun heq => ((h.2 heq).log hne).mono⟩
  | fetched generation meshLocalPrefix =>
    show _ ≤ drops (trace ++ [event]) ∧ (_ = drops (trace ++ [event]) → _)
    rw [drops_log hne]
    refine ⟨h.1, fun heq => ?_⟩
    obtain ⟨before, after, htrace, hkept, hevents⟩ := (h.2 heq).log hne
    exact ⟨before, after, htrace, hkept, fun e he => hevents e (List.mem_cons_of_mem _ he)⟩
  | returned result => trivial
  | dropped => trivial

/-- After a drop no remembered generation stands. -/
theorem Follows.invalidated {call : Call} (h : Follows trace i call) :
    Follows (trace ++ [.invalidated]) i call := by
  cases call with
  | locked generation =>
    have h : generation.toNat ≤ drops trace := h
    show _ ≤ drops (trace ++ [.invalidated])
    rw [drops_invalidated]
    omega
  | fetching generation =>
    have hle : generation.toNat ≤ drops trace := h.1
    show _ ≤ drops (trace ++ [.invalidated]) ∧ (_ = drops (trace ++ [.invalidated]) → _)
    rw [drops_invalidated]
    exact ⟨by omega, fun heq => absurd heq (by omega)⟩
  | fetched generation meshLocalPrefix =>
    have hle : generation.toNat ≤ drops trace := h.1
    show _ ≤ drops (trace ++ [.invalidated]) ∧ (_ = drops (trace ++ [.invalidated]) → _)
    rw [drops_invalidated]
    exact ⟨by omega, fun heq => absurd heq (by omega)⟩
  | returned result => trivial
  | dropped => trivial

/-! ## §3. Every step keeps the cache fresh. -/

/-- The generation counts the drops, in 64 bits; and what is cached was stored by a call whose
    fetch began after the last of them. -/
structure Cached (s : Shared) : Prop where
  generation : s.cache.generation.toNat = drops s.trace % 2 ^ 64
  fresh : drops s.trace < 2 ^ 64 → ∀ p, s.cache.cached = some p →
    ∃ i, Since s.trace i [.stored i p, .fetched i p]

abbrev Sound (state : State) : Prop :=
  Pool.Holds Cached (fun s i call => Follows s.trace i call) state

theorem sound_start : Sound State.start :=
  { shared := { generation := rfl, fresh := by simp [State.start] }, tasks := by simp [State.start] }

/-- An event that is no drop, with the cache as it was. -/
theorem Cached.log {s : Shared} (h : Cached s) (hne : event ≠ .invalidated) :
    Cached (s.log event) := by
  refine { generation := ?_, fresh := ?_ }
  · show s.cache.generation.toNat = drops (s.trace ++ [event]) % _
    rw [drops_log hne]
    exact h.generation
  · intro hfew p hp
    have hfew : drops (s.trace ++ [event]) < 2 ^ 64 := hfew
    rw [drops_log hne] at hfew
    obtain ⟨i, hsince⟩ := h.fresh hfew p hp
    obtain ⟨before, after, htrace, hkept, hevents⟩ := hsince.log hne
    exact ⟨i, before, after, htrace, hkept, fun e he => hevents e (List.mem_cons_of_mem _ he)⟩

/-- Storing under the generation that stands. -/
theorem Cached.stored {s : Shared} (h : Cached s) {generation : UInt64} {p : FixedBytes 8}
    (hcall : Follows s.trace i (.fetched generation p))
    (hstands : s.cache.generation = generation) :
    Cached ({ s with cache := s.cache.store generation p }.log (.stored i p)) := by
  have hne : Event.stored i p ≠ .invalidated := by simp
  refine { generation := ?_, fresh := ?_ }
  · show (s.cache.store generation p).generation.toNat = drops (s.trace ++ [_]) % _
    rw [drops_log hne, PrefixCache.store, if_pos hstands]
    exact h.generation
  · intro hfew q hq
    have hfew : drops (s.trace ++ [.stored i p]) < 2 ^ 64 := hfew
    rw [drops_log hne] at hfew
    have hq : (s.cache.store generation p).cached = some q := hq
    rw [PrefixCache.store, if_pos hstands] at hq
    have hpq : p = q := Option.some.inj hq
    subst hpq
    have hcount : generation.toNat = drops s.trace := by
      rw [← hstands, h.generation, Nat.mod_eq_of_lt hfew]
    exact ⟨i, (hcall.2 hcount).log hne⟩

/-- **Every step keeps the state sound.** -/
theorem step_sound {state : State} (h : Sound state) (op : Op) : Sound (step state op) := by
  cases op with
  | call =>
    refine h.spawn ?_
    unfold enter
    cases hcached : state.shared.cache.cached with
    | some p => trivial
    | none =>
      show state.shared.cache.generation.toNat ≤ drops state.shared.trace
      rw [h.shared.generation]
      exact Nat.mod_le _ _
  | begin i =>
    show Sound (state.advance i (begin i))
    refine h.advance ?_
    intro call htask hcall
    cases call with
    | locked generation =>
      have hne : Event.began i ≠ .invalidated := by simp
      refine ⟨h.shared.log hne, ?_, fun j other _ hother => hother.log hne⟩
      have hle : generation.toNat ≤ drops state.shared.trace := hcall
      show _ ≤ drops (state.shared.trace ++ [_]) ∧ (_ → Since (state.shared.trace ++ [_]) i [])
      rw [drops_log hne]
      exact ⟨hle, fun _ => since_began _ i⟩
    | _ => exact ⟨h.shared, hcall, fun _ _ _ hother => hother⟩
  | answer i outcome =>
    show Sound (state.advance i (answer i outcome))
    refine h.advance ?_
    intro call htask hcall
    cases call with
    | fetching generation =>
      unfold answer
      cases houtcome : outcome >>= prefixOfDataset with
      | error e => exact ⟨h.shared, trivial, fun _ _ _ hother => hother⟩
      | ok p =>
        have hne : Event.fetched i p ≠ .invalidated := by simp
        refine ⟨h.shared.log hne, ?_, fun j other _ hother => hother.log hne⟩
        show _ ≤ drops (state.shared.trace ++ [_]) ∧
          (_ = drops (state.shared.trace ++ [_]) → Since (state.shared.trace ++ [_]) i _)
        rw [drops_log hne]
        exact ⟨hcall.1, fun heq => (hcall.2 heq).log hne⟩
    | _ => exact ⟨h.shared, hcall, fun _ _ _ hother => hother⟩
  | finish i =>
    show Sound (state.advance i (finish i))
    refine h.advance ?_
    intro call htask hcall
    cases call with
    | fetched generation p =>
      unfold finish
      by_cases hstands : state.shared.cache.generation = generation
      · dsimp only
        rw [if_pos hstands]
        exact ⟨h.shared.stored hcall hstands, trivial, fun j other _ hother => hother.log (by simp)⟩
      -- the cache was dropped meanwhile and stays as it is
      have hcache : state.shared.cache.store generation p = state.shared.cache := by
        unfold PrefixCache.store
        rw [if_neg hstands]
      dsimp only
      rw [if_neg hstands, hcache]
      exact ⟨h.shared, trivial, fun _ _ _ hother => hother⟩
    | _ => exact ⟨h.shared, hcall, fun _ _ _ hother => hother⟩
  | abandon i =>
    show Sound (state.advance i abandon)
    exact h.advance fun _ _ _ => ⟨h.shared, trivial, fun _ _ _ hother => hother⟩
  | invalidate =>
    refine h.disturb ?_ (fun j other hother => hother.invalidated)
    refine { generation := ?_, fresh := ?_ }
    · show (state.shared.cache.generation + 1).toNat = drops (state.shared.trace ++ [_]) % _
      rw [drops_invalidated, UInt64.toNat_add, h.shared.generation]
      have hone : (1 : UInt64).toNat = 1 := rfl
      omega
    · intro _ p hp
      cases hp

theorem run_sound (ops : List Op) : Sound (run ops) := by
  unfold run
  induction ops using List.reverseRecOn with
  | nil => exact sound_start
  | append_singleton ops op ih =>
    rw [List.foldl_append]
    exact step_sound ih op

/-! ## §4. The cached prefix is never stale. -/

/-- Steps only add to the trace. -/
theorem step_trace (state : State) (op : Op) :
    state.shared.trace <+: (step state op).shared.trace := by
  have hidle : state.shared.trace <+: state.shared.trace := List.prefix_rfl
  cases op with
  | call => exact hidle
  | begin i =>
    refine Pool.shared_advance (P := fun s : Shared => state.shared.trace <+: s.trace) hidle ?_
    intro call
    cases call with
    | locked generation => exact List.prefix_append _ _
    | _ => exact hidle
  | answer i outcome =>
    refine Pool.shared_advance (P := fun s : Shared => state.shared.trace <+: s.trace) hidle ?_
    intro call
    cases call with
    | fetching generation =>
      unfold answer
      cases outcome >>= prefixOfDataset with
      | ok p => exact List.prefix_append _ _
      | error e => exact hidle
    | _ => exact hidle
  | finish i =>
    refine Pool.shared_advance (P := fun s : Shared => state.shared.trace <+: s.trace) hidle ?_
    intro call
    cases call with
    | fetched generation p =>
      unfold finish
      dsimp only
      split
      · exact List.prefix_append _ _
      · exact hidle
    | _ => exact hidle
  | abandon i =>
    exact Pool.shared_advance (P := fun s : Shared => state.shared.trace <+: s.trace) hidle fun _ => hidle
  | invalidate => exact List.prefix_append _ _

theorem run_trace_append (earlier later : List Op) :
    (run earlier).shared.trace <+: (run (earlier ++ later)).shared.trace := by
  unfold run
  rw [List.foldl_append]
  generalize List.foldl step State.start earlier = state
  induction later using List.reverseRecOn with
  | nil => exact List.prefix_rfl
  | append_singleton later op ih =>
    rw [List.foldl_append]
    exact ih.trans (step_trace _ op)

/-- A fetch that no drop follows began after every drop there was. -/
theorem Since.after_drop {earlier recent : List Event}
    (h : Since (earlier ++ [.invalidated] ++ recent) i events) :
    .began i ∈ recent ∧ ∀ event ∈ events, event ∈ recent := by
  obtain ⟨before, after, htrace, hkept, hevents⟩ := h
  rcases split_append htrace with ⟨rest, hearlier, hafter⟩ | ⟨first, hrecent, -⟩
  · -- the drop would be the beginning of the fetch or come after it
    have hlast := congrArg List.getLast? hearlier
    rw [List.getLast?_append_of_ne_nil _ (by simp), List.getLast?_append_of_ne_nil _ (by simp)]
      at hlast
    have hmem := List.mem_of_getLast? hlast.symm
    cases List.mem_cons.mp hmem with
    | inl heq => cases heq
    | inr hrest => exact absurd (hafter ▸ List.mem_append_left _ hrest) hkept
  · rw [hrecent]
    refine ⟨List.mem_append_right _ List.mem_cons_self, ?_⟩
    intro event hevent
    exact List.mem_append_right _ (List.mem_cons_of_mem _ (hevents event hevent))

/-- **The cached prefix is never stale.**  For every interleaving of calls, fetches that
    succeed or fail, dropped calls and invalidations, fewer than `2 ^ 64` of the last: a
    prefix in the cache was returned by a fetch that began after the most recent
    invalidation; and every invalidation leaves the cache empty until a call whose fetch
    began after it stores what it read. -/
theorem cached_prefix_never_stale (ops : List Op)
    (hfew : (run ops).shared.trace.count .invalidated < 2 ^ 64) :
    (∀ p, (run ops).shared.cache.cached = some p →
      ∃ i before after, (run ops).shared.trace = before ++ .began i :: after ∧
        .invalidated ∉ after ∧ .fetched i p ∈ after) ∧
    ∀ earlier later, ops = earlier ++ .invalidate :: later →
      (run (earlier ++ [.invalidate])).shared.cache.cached = none ∧
      ∃ recent, (run ops).shared.trace
          = (run (earlier ++ [.invalidate])).shared.trace ++ recent ∧
        ∀ p, (run ops).shared.cache.cached = some p →
          ∃ i, .began i ∈ recent ∧ .fetched i p ∈ recent ∧ .stored i p ∈ recent := by
  have hfresh := (run_sound ops).shared.fresh hfew
  constructor
  · intro p hp
    obtain ⟨i, before, after, htrace, hkept, hevents⟩ := hfresh p hp
    exact ⟨i, before, after, htrace, hkept, hevents _ (by simp)⟩
  · intro earlier later hops
    have hdropped : run (earlier ++ [.invalidate]) = (run earlier).disturb invalidate := by
      unfold run
      rw [List.foldl_append]
      rfl
    have hsplit : ops = earlier ++ [.invalidate] ++ later := by
      rw [hops, List.append_assoc]
      rfl
    obtain ⟨recent, hrecent⟩ := run_trace_append (earlier ++ [.invalidate]) later
    rw [← hsplit] at hrecent
    refine ⟨by rw [hdropped]; rfl, recent, hrecent.symm, ?_⟩
    intro p hp
    obtain ⟨i, hsince⟩ := hfresh p hp
    rw [← hrecent, hdropped] at hsince
    obtain ⟨hbegan, hevents⟩ := Since.after_drop hsince
    exact ⟨i, hbegan, hevents _ (by simp), hevents _ (by simp)⟩

/-- A dataset whose mesh-local prefix is `fd00:0:0:k`. -/
def datasetWithPrefix (k : UInt8) : Bytes := [0x07, 8, 0xfd, 0, 0, 0, 0, 0, 0, k]

/-- A fetch overtaken by an invalidation is not stored; the next one is. -/
theorem cached_prefix_never_stale_overtaken :
    let ops : List Op :=
      [.call, .begin 0, .invalidate, .call, .begin 1, .answer 0 (.ok (datasetWithPrefix 1)),
        .finish 0, .answer 1 (.ok (datasetWithPrefix 2)), .finish 1]
    (run (ops.take 7)).shared.cache.cached = none ∧
    ((run ops).shared.cache.cached.map FixedBytes.bytes) = some [0xfd, 0, 0, 0, 0, 0, 0, 2] ∧
    ∀ p, (run ops).shared.cache.cached = some p →
      ∃ i before after, (run ops).shared.trace = before ++ .began i :: after ∧
        .invalidated ∉ after ∧ .fetched i p ∈ after :=
  ⟨by decide +kernel, by decide +kernel, (cached_prefix_never_stale _ (by decide +kernel)).1⟩

end PrefixLookup

end Meshcop
