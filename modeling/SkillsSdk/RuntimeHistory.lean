/-
SkillsSdk/RuntimeHistory.lean

The lock of a runtime over a history of observed installations and rollbacks.

The SDK installs nothing.  It plans on the lock that it is given, and it checks
the records of an adapter against the plan.  A history is a run of such records,
each one truthful about the lock that the adapter leaves (`HostHistory`).  What the
records say about the lock is folded along the history (`known`): a completed
installation puts the planned entry, a rollback goes back to what was known
before its installation, and a mutation that fails leaves nothing known.

The lock digests bind the records to the locks, so as far as these digests
separate the locks of the history every known lock is the first one with the
entries of its installations put (`history_determines_lock`).
-/
import SkillsSdk.Lib.KeyedRuns
import SkillsSdk.PlanLaws
import SkillsSdk.RuntimeChains

namespace SkillsSdk

variable {sha256 : List UInt8 → Sha256} {T : AwareDatetime}

/-! ### Locks with an entry put -/

/-- The lock with an entry put in its place. -/
def RuntimeLock.put (lock : RuntimeLock sha256) (entry : RuntimeLockEntry sha256) : RuntimeLock sha256 :=
  ⟨⟨KeyedList.upsert entryKey entry lock.val.entries⟩,
    RuntimeLockData.validate_eq_ok.mpr (KeyedList.nodup_upsert lock.keys_nodup)⟩

/-- The planner proposes the lock with the entry put. -/
theorem proposedLock_eq_put {lock proposed : RuntimeLock sha256} {entry : RuntimeLockEntry sha256} :
    proposedLock lock entry = .ok proposed ↔ proposed = lock.put entry := by
  rw [proposedLock_eq_ok_iff]
  constructor
  · intro h
    apply Subtype.ext
    obtain ⟨⟨entries⟩, hvalid⟩ := proposed
    exact congrArg RuntimeLockData.mk h
  · rintro rfl
    rfl

/-- The lock with the entries put, the first one first. -/
def RuntimeLock.puts (lock : RuntimeLock sha256) (entries : List (RuntimeLockEntry sha256)) : RuntimeLock sha256 :=
  entries.foldl RuntimeLock.put lock

theorem RuntimeLock.puts_append_singleton (lock : RuntimeLock sha256)
    (entries : List (RuntimeLockEntry sha256)) (entry : RuntimeLockEntry sha256) :
    lock.puts (entries ++ [entry]) = (lock.puts entries).put entry := by
  rw [puts, List.foldl_append]
  rfl

theorem RuntimeLock.puts_entries (lock : RuntimeLock sha256) (entries : List (RuntimeLockEntry sha256)) :
    (lock.puts entries).val.entries = KeyedList.puts entryKey entries lock.val.entries := by
  induction entries using List.reverseRecOn with
  | nil => rfl
  | append_singleton entries entry ih =>
      rw [puts_append_singleton, KeyedList.puts_append_singleton, ← ih]
      rfl

/-! ### Records -/

/-- An installation that was observed: the request, the lock it was planned on,
and a result that is bound to the plan. -/
structure Installation (sha256 : List UInt8 → Sha256) (T : AwareDatetime) where
  request : InstallRequest sha256
  before : RuntimeLock sha256
  plan : InstallPlan sha256
  entry : RuntimeLockEntry sha256
  result : InstallationResult T
  planned : request.plan before = .ok plan
  entry_eq : plan.val.proposedEntry = some entry
  bound : result.validateAgainstInstallPlan sha256 plan = .ok ()

/-- A rollback that was observed, of an installation. -/
structure Rollback (i : Installation sha256 T) where
  journal : RollbackJournal T
  outcome : RollbackOutcome T
  journaled : journal.validateAgainstInstallationResult sha256 i.result = .ok ()
  bound : outcome.validateAgainstJournal sha256 journal = .ok ()

/-- An observation of the host's lock.  A rollback names the place in the history
of the installation that it undoes. -/
inductive HostEvent (sha256 : List UInt8 → Sha256) (T : AwareDatetime) where
  | installed (i : Installation sha256 T)
  | rolledBack (place : Nat) (i : Installation sha256 T) (r : Rollback i)

/-- The lock that the installation leaves when it completes. -/
def Installation.proposed (i : Installation sha256 T) : RuntimeLock sha256 := i.before.put i.entry

theorem Installation.status_planned (i : Installation sha256 T) : i.plan.val.status = .planned := by
  have h := i.bound
  rw [InstallationResult.validateAgainstInstallPlan] at h
  obtain ⟨⟨⟩, hbinding, -⟩ := bind_eq_ok_iff.mp h
  rw [CandidateBound.validatePlanBinding, InstallPlan.reload_eq] at hbinding
  obtain ⟨p, hp, hbinding⟩ := bind_eq_ok_iff.mp hbinding
  obtain rfl : i.plan = p := Except.ok.inj hp
  simp only [raiseValueErrors_eq_ok, List.forall_mem_cons, violation_fst, not_or, ne_eq, not_not]
    at hbinding
  exact hbinding.1.1

/-- The digests of a plan are those of its locks. -/
theorem Installation.digests (i : Installation sha256 T) :
    i.plan.val.currentLockSha256 = lockDigest i.before ∧
      i.plan.val.proposedLockSha256 = some (lockDigest i.proposed) := by
  obtain ⟨candidate, manifest, digest, entry, proposed, -, hlock, hplan⟩ :=
    derivation_of_planned i.planned i.status_planned
  have hentry := i.entry_eq
  rw [hplan] at hentry
  obtain rfl : entry = i.entry := Option.some.inj hentry
  obtain rfl := proposedLock_eq_put.mp hlock
  rw [hplan]
  exact ⟨rfl, rfl⟩

/-- A completed installation reports the proposed lock. -/
theorem Installation.resulting (i : Installation sha256 T) (h : i.result.val.status = .completed) :
    i.result.val.resultingLockSha256 = some (lockDigest i.proposed) := by
  obtain ⟨-, -, hproposed⟩ := InstallationResult.agrees i.bound
  rw [InstallationResult.resulting_of_completed h, ← hproposed, i.digests.2]

/-- A rollback reports the lock from before its installation. -/
theorem Rollback.resulting {i : Installation sha256 T} (r : Rollback i) (h : r.outcome.val.status = .rolledBack) :
    r.outcome.val.resultingLockSha256 = some (lockDigest i.before) := by
  have hchain : RollbackChain sha256 i.plan i.result r.journal r.outcome := ⟨i.bound, r.journaled, r.bound⟩
  obtain ⟨hresulting, hcurrent, -⟩ := hchain.agrees.2 h
  rw [hresulting, hcurrent, i.digests.1]

/-! ### Histories -/

/-- What a record says about the lock is true: without a mutation the lock stays,
and the digest that it gives is the digest of the lock. -/
structure TrueOfLock (before after : RuntimeLock sha256) (mutationPerformed : Bool)
    (resulting : Option Sha256) : Prop where
  kept : mutationPerformed = false → after = before
  digest : ∀ d, resulting = some d → lockDigest after = d

/-- The histories of a host with its locks: it starts with a lock, every
installation is planned on the present lock, a rollback undoes an installation
of the history, and every record is truthful. -/
inductive HostHistory (start : RuntimeLock sha256) : List (HostEvent sha256 T) → List (RuntimeLock sha256) → Prop
  | start : HostHistory start [] [start]
  | installed {events : List (HostEvent sha256 T)} {locks : List (RuntimeLock sha256)}
      {i : Installation sha256 T} {after : RuntimeLock sha256} :
      HostHistory start events locks → locks.getLast? = some i.before →
      TrueOfLock i.before after i.result.val.mutationPerformed i.result.val.resultingLockSha256 →
      HostHistory start (events ++ [.installed i]) (locks ++ [after])
  | rolledBack {events : List (HostEvent sha256 T)} {locks : List (RuntimeLock sha256)} {place : Nat}
      {i : Installation sha256 T} {r : Rollback i} {before after : RuntimeLock sha256} :
      HostHistory start events locks → locks.getLast? = some before →
      events[place]? = some (.installed i) →
      TrueOfLock before after r.outcome.val.mutationPerformed r.outcome.val.resultingLockSha256 →
      HostHistory start (events ++ [.rolledBack place i r]) (locks ++ [after])

/-- The entries that were put to get to a lock, where the records tell. -/
abbrev Knowledge (sha256 : List UInt8 → Sha256) := Option (List (RuntimeLockEntry sha256))

/-- What is known of the lock after an event, from what was known of the locks before. -/
def HostEvent.learn (knowledge : List (Knowledge sha256)) : HostEvent sha256 T → Knowledge sha256
  | .installed i =>
    if i.result.val.status = .completed then knowledge.getLast?.join.map (· ++ [i.entry])
    else if i.result.val.mutationPerformed then none
    else knowledge.getLast?.join
  | .rolledBack place _ r =>
    if r.outcome.val.status = .rolledBack then knowledge[place]?.join
    else if r.outcome.val.mutationPerformed then none
    else knowledge.getLast?.join

/-- What is known of every lock of a history. -/
def known (events : List (HostEvent sha256 T)) : List (Knowledge sha256) :=
  events.foldl (fun knowledge e => knowledge ++ [e.learn knowledge]) [some []]

theorem known_append_singleton (events : List (HostEvent sha256 T)) (e : HostEvent sha256 T) :
    known (events ++ [e]) = known events ++ [e.learn (known events)] := by
  rw [known, List.foldl_append]
  rfl

/-! ### What is known is right -/

/-- The locks whose digests the records compare: those of the host, and those
that its installations propose. -/
def comparedLocks (events : List (HostEvent sha256 T)) (locks : List (RuntimeLock sha256)) :
    Set (RuntimeLock sha256) :=
  {lock | lock ∈ locks ∨ ∃ i, HostEvent.installed i ∈ events ∧ lock = i.proposed}

theorem comparedLocks_mono {events : List (HostEvent sha256 T)} {locks : List (RuntimeLock sha256)}
    (e : HostEvent sha256 T) (after : RuntimeLock sha256) :
    comparedLocks events locks ⊆ comparedLocks (events ++ [e]) (locks ++ [after]) := by
  rintro lock (h | ⟨i, hi, rfl⟩)
  · exact Or.inl (List.mem_append_left _ h)
  · exact Or.inr ⟨i, List.mem_append_left _ hi, rfl⟩

/-- Every entry that is known to be put is that of a completed installation. -/
def FromInstallations (events : List (HostEvent sha256 T)) (entries : List (RuntimeLockEntry sha256)) : Prop :=
  ∀ entry ∈ entries, ∃ i, HostEvent.installed i ∈ events ∧ i.result.val.status = .completed ∧ i.entry = entry

/-- **The invariant**: there is one piece of knowledge for each lock, and where a
lock is known it is the first one with the entries put. -/
structure Tracks (start : RuntimeLock sha256) (events : List (HostEvent sha256 T))
    (knowledge : List (Knowledge sha256)) (locks : List (RuntimeLock sha256)) : Prop where
  length_eq : knowledge.length = locks.length
  right : ∀ (n : Nat) (entries : List (RuntimeLockEntry sha256)) (lock : RuntimeLock sha256),
    knowledge[n]? = some (some entries) → locks[n]? = some lock →
    lock = start.puts entries ∧ FromInstallations events entries

section

variable {start after lock : RuntimeLock sha256} {events : List (HostEvent sha256 T)}
  {knowledge : List (Knowledge sha256)} {locks : List (RuntimeLock sha256)}
  {entries : List (RuntimeLockEntry sha256)}

theorem FromInstallations.later (h : FromInstallations events entries) (e : HostEvent sha256 T) :
    FromInstallations (events ++ [e]) entries := by
  intro entry hentry
  obtain ⟨i, hi, hrest⟩ := h entry hentry
  exact ⟨i, List.mem_append_left _ hi, hrest⟩

/-- The present lock, where it is known. -/
theorem Tracks.last (h : Tracks start events knowledge locks) (hknown : knowledge.getLast?.join = some entries)
    (hlock : locks.getLast? = some lock) : lock = start.puts entries ∧ FromInstallations events entries := by
  rw [Option.join_eq_some_iff, List.getLast?_eq_getElem?] at hknown
  rw [List.getLast?_eq_getElem?, ← h.length_eq] at hlock
  exact h.right _ _ _ hknown hlock

/-- One more event keeps the invariant when what it tells is right. -/
theorem Tracks.step (h : Tracks start events knowledge locks) (e : HostEvent sha256 T) {k : Knowledge sha256}
    (hk : ∀ entries, k = some entries → after = start.puts entries ∧ FromInstallations (events ++ [e]) entries) :
    Tracks start (events ++ [e]) (knowledge ++ [k]) (locks ++ [after]) := by
  refine ⟨by rw [List.length_append, List.length_append, h.length_eq]; rfl, ?_⟩
  intro n entries lock hknown hlock
  rcases lt_or_ge n knowledge.length with hn | hn
  · -- an earlier lock
    rw [List.getElem?_append_left hn] at hknown
    rw [List.getElem?_append_left (h.length_eq ▸ hn)] at hlock
    obtain ⟨heq, hfrom⟩ := h.right n entries lock hknown hlock
    exact ⟨heq, hfrom.later e⟩
  · -- the new lock
    rw [List.getElem?_append_right hn] at hknown
    rw [List.getElem?_append_right (h.length_eq ▸ hn), ← h.length_eq] at hlock
    obtain ⟨hindex, hsingle⟩ := List.getElem?_eq_some_iff.mp hknown
    obtain hzero : n - knowledge.length = 0 := by
      have : n - knowledge.length < 1 := hindex
      omega
    rw [hzero] at hknown hlock
    obtain rfl : after = lock := Option.some.inj hlock
    exact hk entries (Option.some.inj hknown)

/-- The installations of the history were planned on the locks at their places. -/
structure PlannedOn (events : List (HostEvent sha256 T)) (locks : List (RuntimeLock sha256)) : Prop where
  length_eq : locks.length = events.length + 1
  before_eq : ∀ (n : Nat) (i : Installation sha256 T), events[n]? = some (.installed i) → locks[n]? = some i.before

theorem PlannedOn.step (h : PlannedOn events locks) (e : HostEvent sha256 T) (after : RuntimeLock sha256)
    (hlast : ∀ i, e = .installed i → locks.getLast? = some i.before) :
    PlannedOn (events ++ [e]) (locks ++ [after]) := by
  have hlength := h.length_eq
  refine ⟨by rw [List.length_append, List.length_append, hlength]; rfl, ?_⟩
  intro n i hi
  rcases lt_or_ge n events.length with hn | hn
  · -- an earlier event
    rw [List.getElem?_append_left hn] at hi
    rw [List.getElem?_append_left (by omega)]
    exact h.before_eq n i hi
  · -- the new event
    rw [List.getElem?_append_right hn] at hi
    obtain ⟨hindex, -⟩ := List.getElem?_eq_some_iff.mp hi
    obtain rfl : n = events.length := by
      have : n - events.length < 1 := hindex
      omega
    rw [Nat.sub_self] at hi
    have hplace := hlast i (Option.some.inj hi)
    rw [List.getLast?_eq_getElem?, hlength] at hplace
    rw [List.getElem?_append_left (by omega)]
    exact hplace

theorem HostHistory.plannedOn (h : HostHistory start events locks) : PlannedOn events locks := by
  induction h with
  | start => exact ⟨rfl, fun n i hi => by simp at hi⟩
  | installed _ hlast _ ih =>
      refine ih.step _ _ ?_
      rintro i' heq
      obtain rfl := HostEvent.installed.inj heq
      exact hlast
  | rolledBack _ _ _ _ ih =>
      refine ih.step _ _ ?_
      rintro i' heq
      cases heq

/-- The lock after an installation. -/
theorem Installation.after_eq (i : Installation sha256 T)
    (htrue : TrueOfLock i.before after i.result.val.mutationPerformed i.result.val.resultingLockSha256)
    (hseparates : lockDigest after = lockDigest i.proposed → after = i.proposed)
    (hknown : ∀ entries, knowledge.getLast?.join = some entries →
      i.before = start.puts entries ∧ FromInstallations events entries) :
    ∀ entries, HostEvent.learn knowledge (.installed i) = some entries →
      after = start.puts entries ∧ FromInstallations (events ++ [.installed i]) entries := by
  intro entries hlearn
  rw [HostEvent.learn] at hlearn
  split at hlearn
  · -- completed: the entry is put
    rename_i hcompleted
    obtain ⟨earlier, hearlier, rfl⟩ := Option.map_eq_some_iff.mp hlearn
    obtain ⟨hbefore, hfrom⟩ := hknown earlier hearlier
    have hafter := hseparates (htrue.digest _ (i.resulting hcompleted))
    refine ⟨by rw [hafter, proposed, hbefore, RuntimeLock.puts_append_singleton], ?_⟩
    intro entry hentry
    rcases List.mem_append.mp hentry with hentry | hentry
    · exact hfrom.later _ entry hentry
    · refine ⟨i, List.mem_append_right _ (List.mem_singleton_self _), hcompleted, ?_⟩
      exact (List.mem_singleton.mp hentry).symm
  · split at hlearn
    · cases hlearn
    · -- not completed, and without a mutation
      rename_i hmutation
      obtain ⟨hbefore, hfrom⟩ := hknown entries hlearn
      exact ⟨(htrue.kept (Bool.eq_false_iff.mpr hmutation)).trans hbefore, hfrom.later _⟩

/-- The lock after a rollback. -/
theorem Rollback.after_eq {i : Installation sha256 T} (r : Rollback i) (place : Nat) {before : RuntimeLock sha256}
    (htrue : TrueOfLock before after r.outcome.val.mutationPerformed r.outcome.val.resultingLockSha256)
    (hseparates : lockDigest after = lockDigest i.before → after = i.before)
    (hplace : ∀ entries, knowledge[place]?.join = some entries →
      i.before = start.puts entries ∧ FromInstallations events entries)
    (hknown : ∀ entries, knowledge.getLast?.join = some entries →
      before = start.puts entries ∧ FromInstallations events entries) :
    ∀ entries, HostEvent.learn knowledge (.rolledBack place i r) = some entries →
      after = start.puts entries ∧ FromInstallations (events ++ [.rolledBack place i r]) entries := by
  intro entries hlearn
  rw [HostEvent.learn] at hlearn
  split at hlearn
  · -- rolled back: the lock from before the installation
    rename_i hrolled
    obtain ⟨hbefore, hfrom⟩ := hplace entries hlearn
    have hafter := hseparates (htrue.digest _ (r.resulting hrolled))
    exact ⟨hafter.trans hbefore, hfrom.later _⟩
  · split at hlearn
    · cases hlearn
    · rename_i hmutation
      obtain ⟨hbefore, hfrom⟩ := hknown entries hlearn
      exact ⟨(htrue.kept (Bool.eq_false_iff.mpr hmutation)).trans hbefore, hfrom.later _⟩

/-- **What is known is right**, in every history whose locks the digests separate. -/
theorem HostHistory.tracks (h : HostHistory start events locks)
    (hseparates : Set.InjOn lockDigest (comparedLocks events locks)) :
    Tracks start events (known events) locks := by
  induction h with
  | start =>
      refine ⟨rfl, ?_⟩
      intro n entries lock hknown hlock
      rcases n with - | n
      · obtain rfl : [] = entries := Option.some.inj (Option.some.inj hknown)
        obtain rfl : start = lock := Option.some.inj hlock
        exact ⟨rfl, fun entry hentry => absurd hentry List.not_mem_nil⟩
      · cases hlock
  | @installed events locks i after _ hlast htrue ih =>
      have htracks := ih (hseparates.mono (comparedLocks_mono _ _))
      rw [known_append_singleton]
      refine htracks.step _ (i.after_eq htrue ?_ fun entries hknown => htracks.last hknown hlast)
      -- both the new lock and the proposed one are compared
      refine fun heq => hseparates (Or.inl ?_) (Or.inr ⟨i, ?_, rfl⟩) heq
      · exact List.mem_append_right _ (List.mem_singleton_self after)
      · exact List.mem_append_right _ (List.mem_singleton_self _)
  | @rolledBack events locks place i r before after hhistory hlast hplace htrue ih =>
      have htracks := ih (hseparates.mono (comparedLocks_mono _ _))
      have hbefore := hhistory.plannedOn.before_eq place i hplace
      rw [known_append_singleton]
      refine htracks.step _ (r.after_eq place htrue ?_ ?_ fun entries hknown => htracks.last hknown hlast)
      · refine fun heq => hseparates (Or.inl ?_) (Or.inl ?_) heq
        · exact List.mem_append_right _ (List.mem_singleton_self after)
        · exact List.mem_append_left _ (List.mem_of_getElem? hbefore)
      · intro entries hknown
        exact htracks.right place entries i.before (Option.join_eq_some_iff.mp hknown) hbefore

end

/-- **The records determine the lock.**  In a history of truthful records whose
locks the digests separate, every known lock is the first one with the entries of
completed installations put: it holds the last entry that was put for a key, and
else the entry that stood there first. -/
theorem history_determines_lock {start : RuntimeLock sha256} {events : List (HostEvent sha256 T)}
    {locks : List (RuntimeLock sha256)} (h : HostHistory start events locks)
    (hseparates : Set.InjOn lockDigest (comparedLocks events locks)) :
    (known events).length = locks.length ∧
      ∀ (n : Nat) (entries : List (RuntimeLockEntry sha256)) (lock : RuntimeLock sha256),
        (known events)[n]? = some (some entries) → locks[n]? = some lock →
        lock = start.puts entries ∧
        (∀ entry ∈ entries, ∃ i, HostEvent.installed i ∈ events ∧
          i.result.val.status = .completed ∧ i.entry = entry) ∧
        ∀ entry, entry ∈ lock.val.entries ↔ KeyedList.LastPut entryKey entries entry ∨
          (entry ∈ start.val.entries ∧ ∀ put ∈ entries, entryKey put ≠ entryKey entry) := by
  have htracks := h.tracks hseparates
  refine ⟨htracks.length_eq, ?_⟩
  intro n entries lock hknown hlock
  obtain ⟨heq, hfrom⟩ := htracks.right n entries lock hknown hlock
  refine ⟨heq, hfrom, fun entry => ?_⟩
  rw [heq, RuntimeLock.puts_entries]
  exact KeyedList.mem_puts start.keys_nodup

/-! ### An installation and its rollback -/

/-- A plan id is public, so that every record may name it. -/
theorem lifecycleTextIsPublicSafe_planId (sha256 : List UInt8 → Sha256) (payload : Json) :
    lifecycleTextIsPublicSafe (planId sha256 payload).val = true := by
  have hmem : ∀ c ∈ (planId sha256 payload).val, c ∈ "install-plan-".toList ++ hexAlphabet := by
    intro c hc
    rcases List.mem_append.mp hc with hc | hc
    · exact List.mem_append_left _ hc
    · refine List.mem_append_right _ (mem_hexAlphabet ?_)
      exact (isHexOfLength_iff.mp (canonicalJsonSha256 sha256 payload).2).2 c (List.mem_of_mem_take hc)
  exact lifecycleTextIsPublicSafe_iff.mpr
    ⟨Rx.not_searches_of_needs (S := "install-plan-".toList ++ hexAlphabet) (by decide +kernel) hmem,
      Rx.not_searches_of_needs (S := "install-plan-".toList ++ hexAlphabet) (by decide +kernel) hmem⟩

namespace Demo

/-- The plan that installs the demo package into the empty lock. -/
def installPlanData : InstallPlanData hashlibSha256 :=
  emitted (request publicName publicName_ok) emptyLock (candidate publicName)
    (canonicalJsonSha256 hashlibSha256 (manifest publicName).val.toJson) entry filledLock

theorem proposedLock_emptyLock : proposedLock emptyLock entry = .ok filledLock := by
  have hfresh : entryKey entry ∉ emptyLock.val.entries.map entryKey := by simp [emptyLock]
  exact proposedLock_eq_ok_iff.mpr (KeyedList.upsert_of_not_mem hfresh).symm

theorem installPlanData_valid : installPlanData.validate = .ok () := by
  have hinstall : transitionOperation emptyLock entry = .install :=
    transitionOperation_eq_install_iff.mpr (by simp [emptyLock])
  have hevidence : EvidenceAccepted [evidence.val] := ⟨by simp, by simp, by decide +kernel⟩
  exact (plannedPlanData_validate_iff derivation.entry_ok
    (inputReceiptId_of_unblocked (unblocked publicName publicName_ok))).mpr
    ⟨hevidence, iff_of_false (by simp [hinstall]) lockDigest_ne⟩

def installPlan : InstallPlan hashlibSha256 := ⟨installPlanData, installPlanData_valid⟩

/-- Times that are kept as the texts they are dumped as. -/
def textTime : AwareDatetime := ⟨Text, id, some⟩

def adapter : RuntimeAdapterIdentity :=
  ⟨⟨literal "adapter" (by decide +kernel), literal "2.5.0" (by decide +kernel)⟩, by decide +kernel⟩

/-- The ids of the records are public. -/
theorem ids_public : ∀ id ∈ ["installed", "journal", "rolled-back"],
    lifecycleTextIsPublicSafe id.toList = true := by
  decide +kernel

/-- What the records of the demo are bound to. -/
def bound : CandidateBound textTime where
  candidate := candidate publicName
  packageName := publicName
  version := version
  packageDigest := canonicalJsonSha256 hashlibSha256 (manifest publicName).val.toJson
  planId := installPlan.val.planId
  planSha256 := modelSha256 hashlibSha256 installPlan.val.toJson
  target := target
  adapter := adapter
  observedAt := "2026-01-02T03:04:05Z".toList
  evidence := [evidence.val]

theorem bound_fieldErrors : bound.fieldErrors = [] := by
  have hplan : lifecycleTextIsPublicSafe installPlan.val.planId.val = true :=
    lifecycleTextIsPublicSafe_planId _ _
  have hname : lifecycleTextIsPublicSafe publicName.val = true := by decide +kernel
  have hversion : lifecycleTextIsPublicSafe version.val = true := by decide +kernel
  have hevidence : somePathErrors "evidence" "runtime evidence paths" [evidence.val] = [] := by decide +kernel
  rw [CandidateBound.fieldErrors, bound]
  simp only [publicTextErrors_eq_nil.mpr hplan, publicTextErrors_eq_nil.mpr hname,
    publicTextErrors_eq_nil.mpr hversion, hevidence, List.append_nil]

theorem bound_named : bound.packageIdentityMustMatchCandidate.1 = false := by
  rw [CandidateBound.packageIdentityMustMatchCandidate, violation_fst]
  exact fun h => h rfl

theorem reloadObservedAt_bound (model : String) : bound.reloadObservedAt model = .ok bound.observedAt := by
  have hmatch : Rx.fullmatch rfc3339Pattern "2026-01-02T03:04:05Z".toList = true := by decide +kernel
  rw [CandidateBound.reloadObservedAt, reloadInstant]
  exact if_pos hmatch

def resultData : InstallationResultData textTime where
  toCandidateBound := bound
  receiptId := literal "installed" (by decide +kernel)
  operation := .install
  currentLockSha256 := lockDigest emptyLock
  proposedLockSha256 := lockDigest filledLock
  resultingLockSha256 := some (lockDigest filledLock)
  status := .completed
  mutationPerformed := true
  blocker := none
  race := none

theorem resultData_valid : resultData.validate = .ok () := by
  have hid : lifecycleTextIsPublicSafe resultData.receiptId.val = true := ids_public "installed" (by simp)
  rw [InstallationResultData.validate, validateWith_eq_ok]
  refine ⟨?_, ?_⟩
  · rw [publicTextErrors_eq_nil.mpr hid, List.append_nil]
    exact bound_fieldErrors
  · rw [List.forall_mem_cons]
    refine ⟨bound_named, ?_⟩
    simp [InstallationResultData.statusMustMatchObservation, resultData, lockDigest_ne, violation_fst]

def result : InstallationResult textTime := ⟨resultData, resultData_valid⟩

theorem result_bound : result.validateAgainstInstallPlan hashlibSha256 installPlan = .ok () := by
  have hinstall : transitionOperation emptyLock entry = .install :=
    transitionOperation_eq_install_iff.mpr (by simp [emptyLock])
  rw [InstallationResult.validateAgainstInstallPlan, CandidateBound.validatePlanBinding, InstallPlan.reload_eq]
  refine bind_eq_ok_iff.mpr ⟨(), bind_eq_ok_iff.mpr ⟨installPlan, rfl, ?_⟩, ?_⟩
  · rw [raiseValueErrors_eq_ok]
    simp only [List.forall_mem_cons, violation_fst, not_or, ne_eq, not_not]
    exact ⟨⟨rfl, Option.some_ne_none _, Option.some_ne_none _⟩, ⟨rfl, rfl⟩, ⟨rfl, rfl⟩, ⟨rfl, rfl, rfl⟩,
      List.forall_mem_nil _⟩
  · rw [raiseValueErrors_eq_ok]
    simp only [List.forall_mem_cons, violation_fst, ne_eq, not_not]
    refine ⟨rfl, rfl, ?_, ?_, List.forall_mem_nil _⟩
    · exact (congrArg some hinstall).symm
    · exact Bool.false_ne_true

def installation : Installation hashlibSha256 textTime where
  request := request publicName publicName_ok
  before := emptyLock
  plan := installPlan
  entry := entry
  result := result
  planned := planned_of_derivation derivation proposedLock_emptyLock installPlanData_valid
  entry_eq := rfl
  bound := result_bound

theorem installation_proposed : installation.proposed = filledLock :=
  (proposedLock_eq_put.mp proposedLock_emptyLock).symm

theorem result_reload : result.reload = .ok result := by
  rw [InstallationResult.reload]
  exact bind_eq_ok_iff.mpr ⟨_, reloadObservedAt_bound _,
    bind_eq_ok_iff.mpr ⟨none, rfl, construct_of_ok resultData_valid⟩⟩

def journalEntry : RollbackJournalEntry :=
  ⟨⟨0, "SKILL.md".toList, .remove, .applied, none, none, [evidence.val]⟩, by decide +kernel⟩

def journalData : RollbackJournalData textTime where
  toCandidateBound := bound
  journalId := literal "journal" (by decide +kernel)
  installationResultId := result.val.receiptId
  installationResultSha256 := modelSha256 hashlibSha256 result.val.toJson
  rollbackLockSha256 := lockDigest emptyLock
  entries := [journalEntry]
  mutationPerformed := true

theorem journalData_valid : journalData.validate = .ok () := by
  have hid : lifecycleTextIsPublicSafe journalData.journalId.val = true := ids_public "journal" (by simp)
  have hresult : lifecycleTextIsPublicSafe journalData.installationResultId.val = true :=
    ids_public "installed" (by simp)
  have hentries : check (journalData.entries ≠ []) "entries"
      "Tuple should have at least 1 item after validation, not 0" = [] := by
    rw [check_eq_nil]
    rfl
  rw [RollbackJournalData.validate, validateWith_eq_ok]
  refine ⟨?_, ?_⟩
  · rw [publicTextErrors_eq_nil.mpr hid, publicTextErrors_eq_nil.mpr hresult, hentries, List.append_nil,
      List.append_nil, List.append_nil]
    exact bound_fieldErrors
  · rw [List.forall_mem_cons]
    refine ⟨bound_named, ?_⟩
    simp [RollbackJournalData.entriesMustBeOrderedAndUnique, journalData, journalEntry, violation_fst]

def journal : RollbackJournal textTime := ⟨journalData, journalData_valid⟩

theorem journal_bound : journal.validateAgainstInstallationResult hashlibSha256 result = .ok () := by
  rw [RollbackJournal.validateAgainstInstallationResult, result_reload]
  refine bind_eq_ok_iff.mpr ⟨result, rfl, ?_⟩
  rw [raiseValueErrors_eq_ok]
  simp only [CandidateBound.bindingTo, List.cons_append, List.nil_append, List.forall_mem_cons, violation_fst,
    not_or, ne_eq, not_not]
  have hmutation : result.val.mutationPerformed = true := rfl
  exact ⟨ne_of_eq_of_ne hmutation Bool.false_ne_true.symm, ⟨rfl, rfl⟩, ⟨rfl, rfl, rfl⟩, ⟨rfl, rfl, rfl⟩, rfl,
    List.forall_mem_nil _⟩

theorem journal_reload : journal.reload = .ok journal := by
  rw [RollbackJournal.reload]
  exact bind_eq_ok_iff.mpr ⟨_, reloadObservedAt_bound _, construct_of_ok journalData_valid⟩

def outcomeData : RollbackOutcomeData textTime where
  toCandidateBound := bound
  receiptId := literal "rolled-back" (by decide +kernel)
  journalId := journal.val.journalId
  journalSha256 := modelSha256 hashlibSha256 journal.val.toJson
  rollbackLockSha256 := lockDigest emptyLock
  resultingLockSha256 := some (lockDigest emptyLock)
  status := .rolledBack
  mutationPerformed := true
  blocker := none
  race := none

theorem outcomeData_valid : outcomeData.validate = .ok () := by
  have hid : lifecycleTextIsPublicSafe outcomeData.receiptId.val = true := ids_public "rolled-back" (by simp)
  have hjournal : lifecycleTextIsPublicSafe outcomeData.journalId.val = true := ids_public "journal" (by simp)
  rw [RollbackOutcomeData.validate, validateWith_eq_ok]
  refine ⟨?_, ?_⟩
  · rw [publicTextErrors_eq_nil.mpr hid, publicTextErrors_eq_nil.mpr hjournal, List.append_nil, List.append_nil]
    exact bound_fieldErrors
  · rw [List.forall_mem_cons]
    refine ⟨bound_named, ?_⟩
    simp [RollbackOutcomeData.statusMustMatchObservation, outcomeData, violation_fst]

def outcome : RollbackOutcome textTime := ⟨outcomeData, outcomeData_valid⟩

theorem outcome_bound : outcome.validateAgainstJournal hashlibSha256 journal = .ok () := by
  rw [RollbackOutcome.validateAgainstJournal, journal_reload]
  refine bind_eq_ok_iff.mpr ⟨journal, rfl, ?_⟩
  have hrolled : outcome.val.status = .rolledBack := rfl
  rw [raiseValueErrors_eq_ok, if_pos hrolled]
  simp only [CandidateBound.bindingTo, List.cons_append, List.nil_append, List.forall_mem_cons, violation_fst,
    not_or, ne_eq, not_not]
  have hmutation : journal.val.mutationPerformed = true := rfl
  have happlied : (journal.val.entries.any fun entry => entry.val.status ≠ .applied) = false := rfl
  refine ⟨ne_of_eq_of_ne hmutation Bool.false_ne_true.symm, ne_of_eq_of_ne happlied Bool.false_ne_true, rfl, ?_, ?_⟩
  · exact ⟨rfl, rfl⟩
  · exact ⟨⟨rfl, rfl, rfl⟩, ⟨rfl, rfl, rfl⟩, rfl, Bool.false_ne_true, List.forall_mem_nil _⟩

def rollback : Rollback installation := ⟨journal, outcome, journal_bound, outcome_bound⟩

/-- The package is installed, and the installation is rolled back. -/
def events : List (HostEvent hashlibSha256 textTime) :=
  [.installed installation, .rolledBack 0 installation rollback]

theorem history : HostHistory emptyLock events [emptyLock, filledLock, emptyLock] := by
  have hinstalled : HostHistory emptyLock [.installed installation] [emptyLock, filledLock] := by
    refine HostHistory.installed .start rfl ⟨fun h => absurd h Bool.false_ne_true.symm, ?_⟩
    intro d hd
    exact Option.some.inj hd
  refine HostHistory.rolledBack hinstalled rfl rfl ⟨fun h => absurd h Bool.false_ne_true.symm, ?_⟩
  intro d hd
  exact Option.some.inj hd

theorem separated : Set.InjOn lockDigest (comparedLocks events [emptyLock, filledLock, emptyLock]) := by
  have hlocks : ∀ lock ∈ comparedLocks events [emptyLock, filledLock, emptyLock],
      lock = emptyLock ∨ lock = filledLock := by
    rintro lock (hmem | ⟨i, hi, rfl⟩)
    · simpa [or_comm, or_assoc] using hmem
    · obtain rfl : i = installation := by simpa [events] using hi
      exact Or.inr installation_proposed
  intro lock hlock lock' hlock' heq
  rcases hlocks lock hlock with rfl | rfl <;> rcases hlocks lock' hlock' with rfl | rfl
  · rfl
  · exact absurd heq lockDigest_ne
  · exact absurd heq.symm lockDigest_ne
  · rfl

end Demo

/-- The demo package is the only entry after its installation, and there is none
after the rollback. -/
theorem history_determines_lock_demo :
    (known Demo.events)[1]? = some (some [Demo.entry]) ∧ (known Demo.events)[2]? = some (some []) ∧
      Demo.filledLock = Demo.emptyLock.puts [Demo.entry] ∧
      ∀ entry, entry ∈ Demo.filledLock.val.entries ↔ KeyedList.LastPut entryKey [Demo.entry] entry ∨
        (entry ∈ Demo.emptyLock.val.entries ∧ ∀ put ∈ [Demo.entry], entryKey put ≠ entryKey entry) := by
  have hknown : (known Demo.events)[1]? = some (some [Demo.entry]) := rfl
  obtain ⟨-, hlocks⟩ := history_determines_lock Demo.history Demo.separated
  obtain ⟨hlock, -, hentries⟩ := hlocks 1 [Demo.entry] Demo.filledLock hknown rfl
  exact ⟨hknown, rfl, hlock, hentries⟩

end SkillsSdk
