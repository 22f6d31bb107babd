import Mls4rn.Lib.Triples
import Mls4rn.ReactNative.FacadeSimulation

/-!
# The React Native facade refines the core

A script run through the bridge takes the core through the states of the
direct run, and every reply is the direct one, except for two things.  A byte
string of `2 ^ 29` bytes or more does not survive the decoder of the facade,
and where `null` may stand for a byte string, the empty one arrives as `null`.
A core that builds its commits with `toCommit` returns no such empty string.
-/

namespace Mls4rn.ReactNative.FacadeRefinement

open Mls4rn.Core.GroupFacade (AddResult Commit toCommit nz nz_ne)
open Mls4rn.Lib
open Mls4rn.Lib.ByteString
open Mls4rn.Lib.NumberText
open Mls4rn.Lib.Throwing
open Mls4rn.Lib.Utf16
open Mls4rn.ReactNative.CoreApi
open Mls4rn.ReactNative.Facade
open Mls4rn.ReactNative.FacadeSimulation
open Mls4rn.ReactNative.HostDispatch

variable {State Client Group Number : Type}

/-! ## Which replies pass unchanged -/

section Replies

variable (texts : EngineTexts)

theorem redecode_eq_ok_iff (bytes : Bytes) :
    redecode texts bytes = .ok bytes ↔ bytes.length < 2 ^ 29 := by
  rw [← Base64Codec.base64ToBytes_encode_iff, redecode]
  cases Base64Codec.base64ToBytes (Base64.encode bytes) with
  | error error =>
      cases error
      simp [codecResult]
  | ok decoded => simp [codecResult]

theorem redecodeOptional_eq_ok_iff (bytes : Option Bytes) :
    redecodeOptional texts bytes = .ok bytes ↔
      ∀ present ∈ bytes.toList, present.length < 2 ^ 29 ∧ present ≠ [] := by
  cases bytes with
  | none => simp [redecodeOptional]
  | some bytes =>
      rw [redecodeOptional, Option.toList_some, List.forall_mem_singleton,
        ← redecode_eq_ok_iff texts bytes]
      by_cases empty : bytes = []
      · simp [empty]
      · rw [if_neg empty, bind_eq_ok_iff]
        simp only [pure, Except.pure, Except.ok.injEq, Option.some.injEq,
          exists_eq_right, ne_eq, empty, not_false_eq_true, and_true]

/--
All byte strings of a reply are short, and none is empty where `null` may
stand for it.
-/
def Intact (reply : Reply) : Prop :=
  (∀ bytes ∈ reply.byteStrings, bytes.length < 2 ^ 29) ∧
    [] ∉ reply.optionalStrings

theorem intact_commit_iff (proposal welcome : Option Bytes) (commit : Bytes) :
    Intact (.commit proposal commit welcome) ↔
      (∀ present ∈ proposal.toList,
          present.length < 2 ^ 29 ∧ present ≠ []) ∧
        commit.length < 2 ^ 29 ∧
          ∀ present ∈ welcome.toList,
            present.length < 2 ^ 29 ∧ present ≠ [] := by
  have each (strings : List Bytes) :
      (∀ present ∈ strings, present.length < 2 ^ 29 ∧ present ≠ []) ↔
        (∀ present ∈ strings, present.length < 2 ^ 29) ∧ [] ∉ strings := by
    constructor
    · intro both
      exact ⟨fun present member => (both present member).1,
        fun member => (both [] member).2 rfl⟩
    · rintro ⟨short, absent⟩ present member
      exact ⟨short present member, fun empty => absent (empty ▸ member)⟩
  rw [each, each, Intact, Reply.byteStrings, Reply.optionalStrings,
    List.forall_mem_append, List.forall_mem_cons, List.mem_append, not_or]
  tauto

/-- A reply passes unchanged just when it is intact. -/
theorem deliveredReply_eq_ok_iff (reply : Reply) :
    deliveredReply texts reply = .ok reply ↔ Intact reply := by
  have plain
      (required : reply.optionalStrings = []) :
      Intact reply ↔ ∀ bytes ∈ reply.byteStrings, bytes.length < 2 ^ 29 := by
    simp [Intact, required]
  cases reply with
  | bytes bytes =>
      rw [plain rfl, deliveredReply, bind_eq_ok_iff]
      simp only [pure, Except.pure, Except.ok.injEq, Reply.bytes.injEq,
        exists_eq_right, Reply.byteStrings, List.forall_mem_singleton]
      exact redecode_eq_ok_iff texts bytes
  | commit proposal commit welcome =>
      rw [deliveredReply, intact_commit_iff,
        ← redecodeOptional_eq_ok_iff texts proposal,
        ← redecode_eq_ok_iff texts commit,
        ← redecodeOptional_eq_ok_iff texts welcome]
      simp only [bind_eq_ok_iff, pure, Except.pure,
        Except.ok.injEq, Reply.commit.injEq]
      constructor
      · rintro ⟨_, first, _, second, _, third, rfl, rfl, rfl⟩
        exact ⟨first, second, third⟩
      · rintro ⟨first, second, third⟩
        exact ⟨_, first, _, second, _, third, rfl, rfl, rfl⟩
  | added result =>
      rcases result with ⟨welcome, ratchetTree, proposal, commit⟩
      rw [plain rfl, deliveredReply, Reply.byteStrings,
        List.forall_mem_cons, List.forall_mem_cons, List.forall_mem_cons,
        List.forall_mem_singleton, ← redecode_eq_ok_iff texts welcome,
        ← redecode_eq_ok_iff texts ratchetTree,
        ← redecode_eq_ok_iff texts proposal,
        ← redecode_eq_ok_iff texts commit]
      simp only [bind_eq_ok_iff, pure, Except.pure,
        Except.ok.injEq, Reply.added.injEq, AddResult.mk.injEq]
      constructor
      · rintro ⟨_, first, _, second, _, third, _, fourth, rfl, rfl, rfl, rfl⟩
        exact ⟨first, second, third, fourth⟩
      · rintro ⟨first, second, third, fourth⟩
        exact ⟨_, first, _, second, _, third, _, fourth, rfl, rfl, rfl, rfl⟩
  | done => simp [plain rfl, deliveredReply, Reply.byteStrings]
  | client => simp [plain rfl, deliveredReply, Reply.byteStrings]
  | group => simp [plain rfl, deliveredReply, Reply.byteStrings]
  | noGroup => simp [plain rfl, deliveredReply, Reply.byteStrings]
  | text text => simp [plain rfl, deliveredReply, Reply.byteStrings]
  | names names => simp [plain rfl, deliveredReply, Reply.byteStrings]
  | flag value => simp [plain rfl, deliveredReply, Reply.byteStrings]

/-- Results pass unchanged just when their replies are intact. -/
theorem map_delivered_eq_iff (results : List (Except Failure Reply)) :
    results.map (delivered texts) = results ↔
      ∀ reply, .ok reply ∈ results → Intact reply := by
  induction results with
  | nil => simp
  | cons result results induction =>
      rw [List.map_cons, List.cons.injEq, induction]
      cases result with
      | error failure =>
          constructor
          · rintro ⟨-, rest⟩ reply member
            rcases List.mem_cons.mp member with impossible | later
            · cases impossible
            · exact rest reply later
          · intro every
            exact ⟨rfl, fun reply later =>
              every reply (List.mem_cons_of_mem _ later)⟩
      | ok reply =>
          rw [delivered, deliveredReply_eq_ok_iff]
          constructor
          · rintro ⟨first, rest⟩ other member
            rcases List.mem_cons.mp member with same | later
            · cases same
              exact first
            · exact rest other later
          · intro every
            exact ⟨every reply List.mem_cons_self, fun other later =>
              every other (List.mem_cons_of_mem _ later)⟩

end Replies

theorem related_new (core : State) :
    Related (Direct.new core : Direct State Client Group)
      (Remote.new core : Remote State Client Group Number) :=
  ⟨rfl, rfl, .nil, .nil, nofun, nofun⟩

variable [DecidableEq Number]

/-! ## Whole scripts -/

section Scripts

variable
  (api : Core State Client Group)
  (format : NumberFormat Number)
  (texts : EngineTexts)

/-- A script through the bridge. -/
def remoteRun (core : State) (script : List (Call Number)) :
    List (Except Failure Reply) × Remote State Client Group Number :=
  runAll (Facade.perform api format texts) script (Remote.new core)

/-- A script on the core itself. -/
def directRun (core : State) (script : List (Call Number)) :
    List (Except Failure Reply) × Direct State Client Group :=
  runAll (Direct.perform api format) script (Direct.new core)

/-- Call by call the same result, and the same state of the core. -/
def SameRun (core : State) (script : List (Call Number)) : Prop :=
  (remoteRun api format texts core script).1 =
      (directRun api format core script).1 ∧
    (remoteRun api format texts core script).2.host.core =
      (directRun api format core script).2.core

/-- A run passes on the results of the direct run and stays related to it. -/
theorem runAll_simulates
    (script : List (Call Number))
    {direct : Direct State Client Group}
    {remote : Remote State Client Group Number}
    (related : Related direct remote) :
    (runAll (Facade.perform api format texts) script remote).1 =
        (runAll (Direct.perform api format) script
          direct).1.map (delivered texts) ∧
      Related
        (runAll (Direct.perform api format) script direct).2
        (runAll (Facade.perform api format texts) script
          remote).2 := by
  induction script generalizing direct remote with
  | nil => exact ⟨rfl, related⟩
  | cons call script induction =>
      have step : Simulates texts (Direct.perform api format call direct)
          (Facade.perform api format texts call remote) :=
        perform_simulates related call
      have rest := induction step.2
      constructor
      · simp only [runAll, List.map_cons, step.1, rest.1]
      · exact rest.2

theorem sameRun_iff_intact (core : State) (script : List (Call Number)) :
    SameRun api format texts core script ↔
      ∀ reply, .ok reply ∈ (directRun api format core script).1 →
        Intact reply := by
  have simulated :
      (remoteRun api format texts core script).1 =
          (directRun api format core script).1.map (delivered texts) ∧
        Related (directRun api format core script).2
          (remoteRun api format texts core script).2 :=
    runAll_simulates api format texts script (related_new core)
  rw [SameRun, simulated.1, map_delivered_eq_iff]
  constructor
  · intro same
    exact same.1
  · intro intact
    exact ⟨intact, simulated.2.core⟩

/--
A script sees through the bridge what it would see on the core, and leaves the
core in the same state, exactly when every byte string that the core returns
is shorter than `2 ^ 29` bytes and no proposal or welcome of a commit is
empty.
-/
theorem sameRun_iff (core : State) (script : List (Call Number)) :
    SameRun api format texts core script ↔
      ∀ reply, .ok reply ∈ (directRun api format core script).1 →
        (∀ bytes ∈ reply.byteStrings, bytes.length < 2 ^ 29) ∧
          [] ∉ reply.optionalStrings :=
  sameRun_iff_intact api format texts core script

end Scripts

/-! ## An empty byte string that comes back as `null` -/

/-- A core whose groups return one and the same commit. -/
def commitCore (commit : Commit) : Core Unit Unit Unit where
  newClient _ := ret ()
  openClient _ := ret ()
  save _ := ret ()
  keyPackage _ := raise []
  createGroup _ _ := ret ()
  joinGroup _ _ _ _ := ret ()
  group _ _ := ret none
  add _ _ := raise []
  send _ _ := raise []
  receiveText _ _ := raise []
  receive _ _ := raise []
  exportRatchetTree _ := raise []
  exportKey _ _ _ _ := raise []
  remove _ _ := ret commit
  update _ := ret commit
  leave _ := raise []
  commit _ := ret commit
  proposeAdd _ _ := raise []
  proposeRemove _ _ := raise []
  proposeUpdate _ := raise []
  members _ := ret []
  active _ := ret true

/-- Engine messages that tell the exceptions apart. -/
def plainTexts : EngineTexts where
  invalidCharacter := literal "InvalidCharacterError"
  syntaxError := literal "SyntaxError"
  typeError := literal "TypeError"
  rangeError := literal "RangeError"

/-- A new client creates a group and commits. -/
def commitScript : List (Call Decimal) :=
  [.newClient (literal "alice"), .createGroup 0 (literal "room"), .commit 0]

/--
The host posts an empty proposal as the empty text, which the facade takes for
`null`.
-/
theorem empty_proposal_becomes_null :
    (directRun (commitCore ⟨some [], [7], none⟩) decimalFormat ()
        commitScript).1 =
        [.ok .client, .ok .group, .ok (.commit (some []) [7] none)] ∧
      (remoteRun (commitCore ⟨some [], [7], none⟩) decimalFormat plainTexts
          () commitScript).1 =
          [.ok .client, .ok .group, .ok (.commit none [7] none)] ∧
        ¬ SameRun (commitCore ⟨some [], [7], none⟩) decimalFormat plainTexts
          () commitScript := by
  have direct :
      (directRun (commitCore ⟨some [], [7], none⟩) decimalFormat ()
          commitScript).1 =
        [.ok .client, .ok .group, .ok (.commit (some []) [7] none)] :=
    rfl
  have simulated :
      (remoteRun (commitCore ⟨some [], [7], none⟩) decimalFormat plainTexts
          () commitScript).1 =
        (directRun (commitCore ⟨some [], [7], none⟩) decimalFormat ()
          commitScript).1.map (delivered plainTexts) :=
    (runAll_simulates (commitCore ⟨some [], [7], none⟩) decimalFormat
      plainTexts commitScript (related_new ())).1
  have remote :
      (remoteRun (commitCore ⟨some [], [7], none⟩) decimalFormat plainTexts
          () commitScript).1 =
        [.ok .client, .ok .group, .ok (.commit none [7] none)] := by
    have message : redecode plainTexts [7] = .ok [7] :=
      (redecode_eq_ok_iff plainTexts [7]).mpr (by decide)
    rw [simulated, direct]
    simp only [List.map_cons, List.map_nil, delivered, deliveredReply,
      redecodeOptional, message]
    rfl
  refine ⟨direct, remote, ?_⟩
  rintro ⟨same, -⟩
  rw [direct, remote] at same
  cases same

/-! ## Commits built by `toCommit` -/

section ToCommit

/-- An operation whose commits are built by `toCommit`. -/
def BuildsCommits (operation : Operation State Commit) : Prop :=
  Triple (fun _ => True) operation
    (fun commit _ =>
      ∃ proposal message welcome,
        commit = toCommit proposal message welcome)
    fun _ _ => True

/-- A core whose commits are built by `toCommit`, as in `src/client.ts`. -/
structure NullsEmpty (api : Core State Client Group) : Prop where
  remove : ∀ group name, BuildsCommits (api.remove group name)
  update : ∀ group, BuildsCommits (api.update group)
  commit : ∀ group, BuildsCommits (api.commit group)

theorem optionalStrings_toCommit (proposal message welcome : Bytes) :
    [] ∉
      (Direct.commitReply
        (toCommit proposal message welcome)).optionalStrings := by
  have present (bytes : Bytes) : [] ∉ (nz bytes).toList := by
    rw [Option.mem_toList]
    exact nz_ne bytes
  exact List.not_mem_append (present proposal) (present welcome)

/-- An action whose replies have no empty proposal or welcome. -/
def NoneEmpty
    (action : Throwing (Direct State Client Group) Failure Reply) : Prop :=
  Triple (fun _ => True) action
    (fun reply _ => [] ∉ reply.optionalStrings) fun _ _ => True

theorem noneEmpty_give
    {reply : Reply} (plain : reply.optionalStrings = [])
    (change : Direct State Client Group → Direct State Client Group) :
    NoneEmpty fun direct => (.ok reply, change direct) := by
  intro direct _
  apply ends_ok rfl
  rw [plain]
  exact List.not_mem_nil

theorem noneEmpty_bind
    {Value : Type}
    {first : Throwing (Direct State Client Group) Failure Value}
    {second : Value → Throwing (Direct State Client Group) Failure Reply}
    (rest : ∀ value, NoneEmpty (second value)) :
    NoneEmpty (first >>= second) :=
  triple_bind (fun _ _ => ⟨fun _ _ _ => trivial, fun _ _ _ => trivial⟩) rest

theorem BuildsCommits.noneEmpty
    {operation : Operation State Commit}
    (builds : BuildsCommits operation) :
    NoneEmpty
      ((Direct.onCore operation :
          Throwing (Direct State Client Group) Failure Commit) >>=
        fun commit => pure (Direct.commitReply commit)) := by
  have asked :
      Triple (fun _ => True)
        (Direct.onCore operation :
          Throwing (Direct State Client Group) Failure Commit)
        (fun commit _ =>
          ∃ proposal message welcome,
            commit = toCommit proposal message welcome)
        fun _ _ => True :=
    triple_zoom builds (fun _ _ => trivial)
      (fun _ _ _ _ built => built) fun _ _ _ _ _ => trivial
  apply triple_bind asked
  intro commit
  apply triple_pure
  rintro _ ⟨proposal, message, welcome, rfl⟩
  exact optionalStrings_toCommit proposal message welcome

variable (format : NumberFormat Number)

omit [DecidableEq Number] in
/-- The replies of such a core have no empty proposal or welcome. -/
theorem NullsEmpty.perform
    {api : Core State Client Group} (nulls : NullsEmpty api)
    (call : Call Number) : NoneEmpty (Direct.perform api format call) := by
  cases call with
  | remove group name =>
      exact noneEmpty_bind fun group => (nulls.remove group name).noneEmpty
  | update group =>
      exact noneEmpty_bind fun group => (nulls.update group).noneEmpty
  | commit group =>
      exact noneEmpty_bind fun group => (nulls.commit group).noneEmpty
  | newClient _ | openClient _ =>
      exact noneEmpty_bind fun _ => noneEmpty_give rfl _
  | group _ _ =>
      refine noneEmpty_bind fun _ => noneEmpty_bind fun found => ?_
      cases found with
      | none => exact noneEmpty_give rfl id
      | some group => exact noneEmpty_give rfl _
  | createGroup _ _ | joinGroup _ _ _ _ =>
      exact noneEmpty_bind fun _ =>
        noneEmpty_bind fun _ => noneEmpty_give rfl _
  | save _ | keyPackage _ | add _ _ | send _ _ | receiveText _ _
  | receive _ _ | exportRatchetTree _ | exportKey _ _ _ _ | leave _
  | proposeAdd _ _ | proposeRemove _ _ | proposeUpdate _ | members _
  | active _ =>
      exact noneEmpty_bind fun _ =>
        noneEmpty_bind fun _ => noneEmpty_give rfl id

omit [DecidableEq Number] in
theorem NullsEmpty.runAll
    {api : Core State Client Group} (nulls : NullsEmpty api)
    (script : List (Call Number)) (direct : Direct State Client Group)
    {reply : Reply}
    (returned :
      .ok reply ∈ (runAll (Direct.perform api format) script direct).1) :
    [] ∉ reply.optionalStrings := by
  induction script generalizing direct with
  | nil => cases returned
  | cons call script induction =>
      rcases List.mem_cons.mp returned with first | later
      · exact (nulls.perform format call direct trivial).1 reply _
          (Prod.ext first.symm rfl)
      · exact induction _ later

/-- Through such a core only the lengths of byte strings count. -/
theorem NullsEmpty.sameRun_iff_short
    {api : Core State Client Group}
    (nulls : NullsEmpty api) (texts : EngineTexts) (core : State)
    (script : List (Call Number)) :
    SameRun api format texts core script ↔
      ∀ reply, .ok reply ∈ (directRun api format core script).1 →
        ∀ bytes ∈ reply.byteStrings, bytes.length < 2 ^ 29 := by
  rw [sameRun_iff_intact]
  constructor
  · intro intact reply returned
    exact (intact reply returned).1
  · intro short reply returned
    exact ⟨short reply returned, nulls.runAll format script _ returned⟩

end ToCommit

end Mls4rn.ReactNative.FacadeRefinement
