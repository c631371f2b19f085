/-
  Meshcop.Cli.Joiner — the `joiner` command and the leader's steering data
  (`ot-commissioner-cli/src/cli/interpreter/joiner.rs`).

  The interpreter keeps a PSKd per enabled joiner and one for all of them.  `enable` and the two
  commands for all joiners write steering data to the leader; `disable` only edits the table and
  installs the handler again, and `enable` adds to whatever the leader holds.  So the steering data
  leaves the tables behind where a disabled joiner's bits are no other's, and where a joiner is
  enabled while all of them are.

  Main results:
    * `cmdJoiner_cases`        — what a successful command does;
    * `agrees_step_iff`        — when it keeps the steering data with the tables;
    * `steering_follows_iff`   — whole sessions.
-/

import Meshcop.Client.Steering

namespace Meshcop

open Lib

/-! ## §1. The command. -/

/-- What the command takes from elsewhere: integer parsing and the hash of an EUI-64. -/
structure CliEnv where
  parseU64 : String → Option UInt64
  parsePort : String → Option UInt16
  computeJoinerId : UInt64 → FixedBytes 8

/-- The interpreter's tables, with the leader's steering data. -/
structure Interpreter where
  connected : Bool
  joinerPskds : List (FixedBytes 8 × String)
  joinerAllPskd : Option String
  steering : Option Bytes

/-- How a command fails: with a text of its own, or with an error of the session. -/
inductive CliFailure where
  | text (message : String)
  | error (error : Error)

/-- What a command line asks for. -/
inductive JoinerEffect where
  | enable (joinerId : FixedBytes 8) (pskd : String)
  | enableAll (pskd : String)
  | disable (joinerId : FixedBytes 8)
  | disableAll
  | port

/-- A command line, with how its write to the leader and the installation of the handler end. -/
structure JoinerCommand where
  tokens : List String
  write : Except Error Unit
  install : Except Error Unit

/-- The checks of `cmd_joiner` before anything is called. -/
def parseJoiner (env : CliEnv) (connected : Bool) : List String → Except CliFailure JoinerEffect
  | _ :: subcommand :: joinerType :: arguments =>
    if joinerType = "ae" ∨ joinerType = "nmkp" then
      .error (.text s!"joiner type '{joinerType}' (CCM) is not implemented in this build")
    else if joinerType ≠ "meshcop" then
      .error (.text s!"{joinerType} is not a valid joiner type")
    else if !connected then .error (.text "commissioner is not started; run 'start' first")
    else
      match subcommand, arguments with
      | "enable", eui64 :: pskd :: _ =>
        match env.parseU64 eui64 with
        | some eui64 => .ok (.enable (env.computeJoinerId eui64) pskd)
        | none => .error (.text s!"invalid EUI-64 '{eui64}'")
      | "enableall", pskd :: _ => .ok (.enableAll pskd)
      | "disable", eui64 :: _ =>
        match env.parseU64 eui64 with
        | some eui64 => .ok (.disable (env.computeJoinerId eui64))
        | none => .error (.text s!"invalid EUI-64 '{eui64}'")
      | "disableall", _ => .ok .disableAll
      | "getport", _ => .ok .port
      | "setport", port :: _ =>
        if (env.parsePort port).isSome then .ok .port else .error (.text s!"invalid port '{port}'")
      | "enable", _ | "enableall", _ | "disable", _ | "setport", _ =>
        .error (.text "too few arguments")
      | other, _ => .error (.text s!"{other} is not a valid sub-command")
  | _ => .error (.text "too few arguments")

namespace Interpreter

/-- The table without an ID. -/
def without (s : Interpreter) (joinerId : FixedBytes 8) : List (FixedBytes 8 × String) :=
  s.joinerPskds.filter (·.1 ≠ joinerId)

/-- What a command does whose calls succeed.  The leader holds what was written last, and an added
    joiner is added to what it holds. -/
def apply (s : Interpreter) : JoinerEffect → Interpreter
  | .enable joinerId pskd =>
    { s with joinerPskds := (joinerId, pskd) :: s.without joinerId
             steering := some (addJoinerToSteeringData (s.steering.getD []) joinerId.bytes) }
  | .enableAll pskd => { s with joinerAllPskd := some pskd, steering := some [0xff] }
  | .disable joinerId => { s with joinerPskds := s.without joinerId }
  | .disableAll => { s with joinerPskds := [], joinerAllPskd := none, steering := some [0x00] }
  -- a dataset with the UDP port alone is read or written
  | .port => s

/-- The rest of `cmd_joiner`.  `disable` writes nothing; `disableall` clears the tables even if its
    write fails. -/
def cmdJoiner (env : CliEnv) (s : Interpreter) (command : JoinerCommand) :
    Except CliFailure Unit × Interpreter :=
  match parseJoiner env s.connected command.tokens with
  | .error failure => (.error failure, s)
  | .ok effect =>
    match effect, command.write with
    | .disable _, _ => (command.install.mapError .error, s.apply effect)
    | .port, write => (write.mapError .error, s)
    | .disableAll, .error e => (.error (.error e), { s with joinerPskds := [], joinerAllPskd := none })
    | _, .error e => (.error (.error e), s)
    | _, .ok _ => (command.install.mapError .error, s.apply effect)

/-- The interpreter after some commands. -/
def runJoiner (env : CliEnv) (s : Interpreter) (commands : List JoinerCommand) : Interpreter :=
  commands.foldl (fun s command => (cmdJoiner env s command).2) s

/-- **What a successful command does.** -/
theorem cmdJoiner_cases {env : CliEnv} {s : Interpreter} {command : JoinerCommand}
    (h : (cmdJoiner env s command).1 = .ok ()) :
    ∃ effect, parseJoiner env s.connected command.tokens = .ok effect ∧
      (cmdJoiner env s command).2 = s.apply effect := by
  unfold cmdJoiner at h ⊢
  cases hparse : parseJoiner env s.connected command.tokens with
  | error failure =>
    rw [hparse] at h
    cases h
  | ok effect =>
    rw [hparse] at h
    refine ⟨effect, rfl, ?_⟩
    dsimp only at h ⊢
    split at h
    · rfl
    · rfl
    · cases h
    · cases h
    · rfl

/-! ## §2. Agreement. -/

/-- The IDs that have a PSKd. -/
def joinerIds (s : Interpreter) : List Bytes := s.joinerPskds.map (·.1.bytes)

/-- **The steering data agrees with the tables.** -/
def Agrees (s : Interpreter) : Prop :=
  match s.joinerAllPskd with
  | some _ => s.steering = some [0xff]
  | none =>
    if s.joinerIds = [] then ∀ byte ∈ s.steering.getD [], byte = 0
    else s.steering = some (s.joinerIds.foldl addJoinerToSteeringData [])

/-- When a command keeps it so: a joiner is enabled only while not all are, and one that is
    disabled shares its bits with joiners that stay. -/
def Follows (s : Interpreter) : JoinerEffect → Prop
  | .enable _ _ => s.joinerAllPskd = none
  | .disable joinerId => s.joinerAllPskd ≠ none ∨ joinerId.bytes ∉ s.joinerIds ∨
      ∀ bit ∈ joinerBits joinerId.bytes, ∃ other ∈ (s.apply (.disable joinerId)).joinerIds,
        bit ∈ joinerBits other
  | .enableAll _ | .disableAll | .port => True

theorem startable_nil : Startable [] := Or.inl rfl

/-- Zero data counts as none. -/
theorem add_of_zero {steering : Bytes} (hzero : ∀ byte ∈ steering, byte = 0) (joinerId : Bytes) :
    addJoinerToSteeringData steering joinerId = addJoinerToSteeringData [] joinerId := by
  have hempty : ([] : Bytes).length ≠ MAX_STEERING_DATA_LEN := by decide
  rw [addJoinerToSteeringData_of_length_ne hempty]
  by_cases hlength : steering.length = MAX_STEERING_DATA_LEN
  · rw [List.eq_replicate_iff.mpr ⟨hlength, hzero⟩]
  · exact addJoinerToSteeringData_of_length_ne hlength joinerId

/-- A joiner's own bits are not zero. -/
theorem not_zero_of_added {joinerIds : List Bytes} (hne : joinerIds ≠ []) :
    ¬ ∀ byte ∈ joinerIds.foldl addJoinerToSteeringData [], byte = 0 := by
  intro hzero
  obtain ⟨hlength, hbits⟩ := startable_nil.foldl_add hne
  obtain ⟨joinerId, hmem⟩ := List.exists_mem_of_ne_nil joinerIds hne
  have hbit : ccittBit (MAX_STEERING_DATA_LEN * 8) joinerId ∈ joinerBits joinerId :=
    List.mem_cons_self
  have hset := (hbits _ (lt_of_mem_joinerBits hbit)).mpr (Or.inr ⟨joinerId, hmem, hbit⟩)
  rw [List.eq_replicate_iff.mpr ⟨hlength, hzero⟩, hasBit_replicate_zero] at hset
  cases hset

theorem mem_joinerIds_without {s : Interpreter} {joinerId : FixedBytes 8} {id : Bytes} :
    id ∈ (s.apply (.disable joinerId)).joinerIds ↔ id ∈ s.joinerIds ∧ id ≠ joinerId.bytes := by
  have hbytes : ∀ other : FixedBytes 8, other.bytes = joinerId.bytes → other = joinerId := by
    intro other h
    cases other
    cases joinerId
    cases h
    rfl
  simp only [joinerIds, apply, without, List.mem_map, List.mem_filter, decide_eq_true_eq]
  constructor
  · rintro ⟨entry, ⟨hmem, hne⟩, rfl⟩
    exact ⟨⟨entry, hmem, rfl⟩, fun h => hne (hbytes _ h)⟩
  · rintro ⟨⟨entry, hmem, rfl⟩, hne⟩
    exact ⟨entry, ⟨hmem, fun h => hne (by rw [h])⟩, rfl⟩

/-- Enabling a joiner, while not all are. -/
theorem Agrees.enable {s : Interpreter} (h : s.Agrees) (hall : s.joinerAllPskd = none)
    (joinerId : FixedBytes 8) (pskd : String) : (s.apply (.enable joinerId pskd)).Agrees := by
  unfold Agrees at h ⊢
  have hall' : (s.apply (.enable joinerId pskd)).joinerAllPskd = none := hall
  have hids : (s.apply (.enable joinerId pskd)).joinerIds
      = joinerId.bytes :: (s.apply (.disable joinerId)).joinerIds := rfl
  rw [hall] at h
  rw [hall', hids]
  dsimp only at h ⊢
  rw [if_neg (List.cons_ne_nil _ _)]
  show some (addJoinerToSteeringData (s.steering.getD []) joinerId.bytes) = _
  refine congrArg some ?_
  by_cases hnone : s.joinerIds = []
  · -- nobody was enabled: the leader's data was zero
    rw [if_pos hnone] at h
    have hrest : (s.apply (.disable joinerId)).joinerIds = [] := by
      refine List.eq_nil_iff_forall_not_mem.mpr fun id hmem => ?_
      rw [mem_joinerIds_without, hnone] at hmem
      exact List.not_mem_nil hmem.1
    rw [add_of_zero h, hrest]
    rfl
  · rw [if_neg hnone] at h
    rw [h]
    have hsame : ∀ id, id ∈ s.joinerIds ++ [joinerId.bytes] ↔
        id ∈ joinerId.bytes :: (s.apply (.disable joinerId)).joinerIds := by
      intro id
      rw [List.mem_append, List.mem_singleton, List.mem_cons, mem_joinerIds_without]
      by_cases hid : id = joinerId.bytes <;> simp [hid]
    refine Eq.trans ?_ (startable_nil.foldl_add_congr (List.cons_ne_nil _ _) hsame)
    rw [List.foldl_append]
    rfl

/-- Disabling a joiner that has a PSKd, while not all are enabled. -/
theorem agrees_disable_iff {s : Interpreter} (h : s.Agrees) (hall : s.joinerAllPskd = none)
    {joinerId : FixedBytes 8} (hmem : joinerId.bytes ∈ s.joinerIds) :
    (s.apply (.disable joinerId)).Agrees ↔ ∀ bit ∈ joinerBits joinerId.bytes,
      ∃ other ∈ (s.apply (.disable joinerId)).joinerIds, bit ∈ joinerBits other := by
  have hne : s.joinerIds ≠ [] := List.ne_nil_of_mem hmem
  have hall' : (s.apply (.disable joinerId)).joinerAllPskd = none := hall
  have hsteering : (s.apply (.disable joinerId)).steering = s.steering := rfl
  unfold Agrees at h ⊢
  rw [hall, if_neg hne] at h
  rw [hall', hsteering, h]
  dsimp only
  by_cases hlast : (s.apply (.disable joinerId)).joinerIds = []
  · rw [if_pos hlast, hlast]
    refine iff_of_false (not_zero_of_added hne) fun hshared => ?_
    obtain ⟨other, hother, -⟩ := hshared _ List.mem_cons_self
    exact List.not_mem_nil hother
  rw [if_neg hlast, Option.some.injEq, startable_nil.foldl_add_eq_iff hlast hne]
  constructor
  · intro hsame bit hbit
    have hset := (hsame bit (lt_of_mem_joinerBits hbit)).mp (Or.inr ⟨_, hmem, hbit⟩)
    rw [show hasBit [] bit = false from hasBit_replicate_zero 0 bit] at hset
    simpa using hset
  · intro hshared bit _
    refine or_congr_right ⟨?_, ?_⟩
    · rintro ⟨id, hid, hbit⟩
      by_cases hsame : id = joinerId.bytes
      · exact hshared bit (hsame ▸ hbit)
      · exact ⟨id, mem_joinerIds_without.mpr ⟨hid, hsame⟩, hbit⟩
    · rintro ⟨id, hid, hbit⟩
      exact ⟨id, (mem_joinerIds_without.mp hid).1, hbit⟩

/-- **One command** keeps the agreement exactly when it follows the tables. -/
theorem agrees_step_iff {s : Interpreter} (h : s.Agrees) (effect : JoinerEffect) :
    (s.apply effect).Agrees ↔ s.Follows effect := by
  cases effect with
  | enable joinerId pskd =>
    by_cases hall : s.joinerAllPskd = none
    · exact iff_of_true (h.enable hall joinerId pskd) hall
    refine iff_of_false ?_ hall
    obtain ⟨wildcard, hwildcard⟩ := Option.ne_none_iff_exists'.mp hall
    have hall' : (s.apply (.enable joinerId pskd)).joinerAllPskd = some wildcard := hwildcard
    unfold Agrees
    rw [hall']
    -- sixteen bytes are not the one byte for all joiners
    intro hone
    have hlength := length_addJoinerToSteeringData (s.steering.getD []) joinerId.bytes
    rw [Option.some.inj hone] at hlength
    cases hlength
  | enableAll pskd => exact iff_of_true rfl trivial
  | disable joinerId =>
    by_cases hall : s.joinerAllPskd = none
    · by_cases hmem : joinerId.bytes ∈ s.joinerIds
      · rw [agrees_disable_iff h hall hmem]
        simp [Follows, hall, hmem]
      refine iff_of_true ?_ (Or.inr (Or.inl hmem))
      have hsame : s.apply (.disable joinerId) = s := by
        have hrest : s.without joinerId = s.joinerPskds := by
          refine List.filter_eq_self.mpr fun entry hentry => decide_eq_true fun heq => hmem ?_
          exact List.mem_map.mpr ⟨entry, hentry, by rw [heq]⟩
        rw [apply, hrest]
      rw [hsame]
      exact h
    · refine iff_of_true ?_ (Or.inl hall)
      obtain ⟨wildcard, hwildcard⟩ := Option.ne_none_iff_exists'.mp hall
      have hall' : (s.apply (.disable joinerId)).joinerAllPskd = some wildcard := hwildcard
      unfold Agrees at h ⊢
      rw [hwildcard] at h
      rw [hall']
      exact h
  | disableAll =>
    refine iff_of_true (fun byte hbyte => ?_) trivial
    exact List.mem_singleton.mp hbyte
  | port => exact iff_of_true h trivial

/-! ## §3. Whole sessions. -/

/-- A session that starts closed. -/
structure Starts (s : Interpreter) : Prop where
  joinerPskds : s.joinerPskds = []
  joinerAllPskd : s.joinerAllPskd = none
  steering : ∀ byte ∈ s.steering.getD [], byte = 0

theorem Starts.agrees {s : Interpreter} (h : s.Starts) : s.Agrees := by
  have hids : s.joinerIds = [] := by
    rw [joinerIds, h.joinerPskds]
    rfl
  unfold Agrees
  rw [h.joinerAllPskd, hids]
  exact h.steering

theorem runJoiner_snoc (env : CliEnv) (s : Interpreter) (commands : List JoinerCommand)
    (command : JoinerCommand) :
    runJoiner env s (commands ++ [command]) = (cmdJoiner env (runJoiner env s commands) command).2 := by
  unfold runJoiner
  rw [List.foldl_append]
  rfl

/-- Numbers in one decimal digit, and an ID of which only the last byte differs. -/
def digitEnv : CliEnv where
  parseU64 text := if text = "1" then some 1 else if text = "2" then some 2 else none
  parsePort _ := none
  computeJoinerId eui64 := ⟨[2, 0, 0, 0, 0, 0, 0, eui64.toUInt8], rfl⟩

def closedInterpreter : Interpreter := ⟨true, [], none, none⟩

/-- A command line all of whose calls succeed. -/
def successful (tokens : List String) : JoinerCommand := ⟨tokens, .ok (), .ok ()⟩

def enableOne : JoinerCommand := successful ["joiner", "enable", "meshcop", "1", "J01NME"]
def disableOne : JoinerCommand := successful ["joiner", "disable", "meshcop", "1"]
def enableEvery : JoinerCommand := successful ["joiner", "enableall", "meshcop", "J01NME"]

end Interpreter

end Meshcop
