/-
SkillsSdk/EntrypointReports.lean

What the outcome of a repair says is true, without a foreign writer, whatever
operations fail.

    publish_truthful   the tree at the end is the one that the outcome describes

Every assertion is stable here, so the proof is one assertion for each part of
the repair: nothing is touched (`Untouched`), the new bytes are staged
(`Prepared`), the names have been exchanged (`Published`).
-/
import SkillsSdk.EntrypointLaws

namespace SkillsSdk

open Interference Interference.Prog

variable {sha256 : List UInt8 → Sha256} {device : EntrypointDirectory → Nat}

/-! ### Modes -/

/-- The mode of a written file has the sanitized bits. -/
theorem permissionBits_written (mode : Nat) :
    permissionBits (0o100000 ||| sanitizedMode mode) = sanitizedMode mode := by
  simp [permissionBits, sanitizedMode, Nat.and_or_distrib_right, Nat.and_assoc]

/-- The name holds these bytes, with the mode that a replacement inherits. -/
def FileTree.HoldsReplacement (t : FileTree) (name : EntrypointName) (data : List UInt8) (mode : Nat) : Prop :=
  ∃ c, t.Holds name c ∧ c.data = data ∧ permissionBits c.mode = sanitizedMode mode

theorem FileTree.Written.holds {t : FileTree} {name : EntrypointName} {i : Nat} {source current : CapturedFile}
    (h : t.Written i source current) (hname : t.names name = some i) :
    t.HoldsReplacement name source.data current.mode :=
  ⟨_, ⟨i, hname, h⟩, rfl, permissionBits_written current.mode⟩

/-- A capture that agrees with the current file is a replacement of it. -/
theorem FileTree.Describes.holdsReplacement {t : FileTree} {name : EntrypointName} {saved current : CapturedFile}
    (h : t.Describes name saved) (hsame : sameSnapshot saved current = true) :
    t.HoldsReplacement name current.data current.mode := by
  rw [sameSnapshot, Bool.and_eq_true, Bool.and_eq_true, beq_iff_eq, beq_iff_eq, beq_iff_eq] at hsame
  exact ⟨saved.content, h.holds, hsame.1.1, hsame.2⟩

/-! ### The parts of a repair -/

/-- The target has the current file, and the names of the backups are new. -/
structure Untouched (current : CapturedFile) (t : FileTree) : Prop where
  target : t.names .target = some current.inode
  original : t.inodes current.inode = current.content
  backup : t.names .backup = none
  recovery : t.names .recovery = none

/-- The target has the current file, and the stage name the new one. -/
structure Prepared (source current : CapturedFile) (o : Nat) (t : FileTree) : Prop where
  target : t.names .target = some current.inode
  original : t.inodes current.inode = current.content
  stage : t.names .stage = some o
  own : o ≠ current.inode
  written : t.Written o source current
  recovery : t.names .recovery = none

/-- The target has the new file, and another name the current one. -/
structure Published (source current : CapturedFile) (o : Nat) (t : FileTree) : Prop where
  target : t.names .target = some o
  own : o ≠ current.inode
  original : t.inodes current.inode = current.content
  written : t.Written o source current
  saved : t.HoldsReplacement .backup current.data current.mode
  held : t.names .stage = some current.inode ∨
    t.names .stage = none ∧ t.names .recovery = some current.inode

section Parts

variable {source current : CapturedFile} {o : Nat} {t : FileTree}

theorem Untouched.kept (h : Untouched current t) : t.Holds .target current.content := ⟨_, h.target, h.original⟩

theorem Prepared.kept (h : Prepared source current o t) : t.Holds .target current.content :=
  ⟨_, h.target, h.original⟩

theorem Published.published (h : Published source current o t) :
    t.HoldsReplacement .target source.data current.mode :=
  h.written.holds h.target

theorem Published.heldBy (h : Published source current o t) :
    ∃ name, name ≠ .target ∧ t.Holds name current.content := by
  rcases h.held with hstage | ⟨-, hrecovery⟩
  · exact ⟨.stage, by decide, _, hstage, h.original⟩
  · exact ⟨.recovery, by decide, _, hrecovery, h.original⟩

/-- The exchange publishes what was prepared. -/
theorem Prepared.exchanged (h : Prepared source current o t)
    (hsaved : t.HoldsReplacement .backup current.data current.mode) :
    Published source current o (t.exchanged current.inode o) where
  target := by simp
  own := h.own
  original := h.original
  written := h.written
  saved := by
    obtain ⟨c, ⟨b, hb, hc⟩, hdata, hmode⟩ := hsaved
    exact ⟨c, ⟨b, by simpa using hb, hc⟩, hdata, hmode⟩
  held := .inl (by simp)

/-- A write to another inode. -/
theorem Prepared.put (h : Prepared source current o t) {i : Nat} (hi : i ≠ current.inode) (hio : i ≠ o)
    (content : InodeContent) : Prepared source current o (t.put i content) where
  target := h.target
  original := by rw [FileTree.inodes_put, if_neg (Ne.symm hi), h.original]
  stage := h.stage
  own := h.own
  written := by
    rw [FileTree.Written, FileTree.inodes_put, if_neg (Ne.symm hio)]
    exact h.written
  recovery := h.recovery

theorem Prepared.rename_backup (h : Prepared source current o t) (i : Option Nat) :
    Prepared source current o (t.rename .backup i) where
  target := by simpa using h.target
  original := h.original
  stage := by simpa using h.stage
  own := h.own
  written := h.written
  recovery := by simpa using h.recovery

/-- The names that a published file does not need may change. -/
theorem Published.rename (h : Published source current o t) {name : EntrypointName} {i : Option Nat}
    (htarget : name ≠ .target) (hbackup : name ≠ .backup)
    (hheld : (t.rename name i).names .stage = some current.inode ∨
      (t.rename name i).names .stage = none ∧ (t.rename name i).names .recovery = some current.inode) :
    Published source current o (t.rename name i) where
  target := by rw [FileTree.names_rename, if_neg (Ne.symm htarget), h.target]
  own := h.own
  original := h.original
  written := h.written
  saved := by
    obtain ⟨c, ⟨b, hb, hc⟩, hdata, hmode⟩ := h.saved
    exact ⟨c, ⟨b, by rw [FileTree.names_rename, if_neg (Ne.symm hbackup), hb], hc⟩, hdata, hmode⟩
  held := hheld

end Parts

/-! ### The end of a repair -/

/-- What the outcome of a repair says, of the content that the target had. -/
inductive Truthful (sha256 : List UInt8 → Sha256) (source : CapturedFile) (old : InodeContent) :
    Except EntrypointRaised EntrypointMaintenanceResult → FileTree → Prop where
  | matching {t : FileTree} (kept : t.Holds .target old) (same : sha256 old.data = source.digest)
      (others : ∀ name, name ≠ .target → t.names name = none) : Truthful sha256 source old (.ok .matching) t
  | blocked {blocker : EntrypointMaintenanceBlocker} {t : FileTree} (kept : t.Holds .target old)
      (saved : t.HoldsReplacement .backup old.data old.mode)
      (stage : t.names .stage = none) (recovery : t.names .recovery = none) :
      Truthful sha256 source old (.ok (.blocked blocker .backup)) t
  | repaired {t : FileTree} (published : t.HoldsReplacement .target source.data old.mode)
      (saved : t.HoldsReplacement .backup old.data old.mode) (moved : t.Holds .recovery old)
      (stage : t.names .stage = none) : Truthful sha256 source old (.ok (.repaired .backup .recovery)) t
  | indeterminate {blocker : EntrypointMaintenanceBlocker} {name : EntrypointName} {t : FileTree}
      (published : t.HoldsReplacement .target source.data old.mode)
      (saved : t.HoldsReplacement .backup old.data old.mode)
      (hname : name ≠ .target) (held : t.Holds name old) :
      Truthful sha256 source old (.ok (.indeterminate blocker .backup name)) t
  | raised {e : EntrypointRaised} {t : FileTree}
      (h : t.Holds .target old ∨ t.HoldsReplacement .target source.data old.mode ∧
        t.HoldsReplacement .backup old.data old.mode ∧ ∃ name, name ≠ .target ∧ t.Holds name old) :
      Truthful sha256 source old (.error e) t

/-- What the finalizer finds. -/
inductive Reached (source current : CapturedFile) (o : Nat) :
    Except EntrypointRaised (EntrypointMaintenanceResult × Bool) → FileTree → Prop where
  | blocked {blocker : EntrypointMaintenanceBlocker} {t : FileTree} (h : Prepared source current o t)
      (saved : t.HoldsReplacement .backup current.data current.mode) :
      Reached source current o (.ok (.blocked blocker .backup, false)) t
  | repaired {t : FileTree} (h : Published source current o t) (stage : t.names .stage = none) :
      Reached source current o (.ok (.repaired .backup .recovery, true)) t
  | indeterminate {blocker : EntrypointMaintenanceBlocker} {name : EntrypointName} {t : FileTree}
      (h : Published source current o t) (hname : name ≠ .target) (held : t.Holds name current.content) :
      Reached source current o (.ok (.indeterminate blocker .backup name, true)) t
  | unpublished {e : EntrypointRaised} {t : FileTree} (h : Prepared source current o t) :
      Reached source current o (.error e) t
  | published {e : EntrypointRaised} {t : FileTree} (h : Published source current o t) :
      Reached source current o (.error e) t

theorem Published.truthful {source current : CapturedFile} {o : Nat} {t : FileTree} {e : EntrypointRaised}
    (h : Published source current o t) : Truthful sha256 source current.content (.error e) t :=
  .raised (.inr ⟨h.published, h.saved, h.heldBy⟩)

section Alone

variable {source current : CapturedFile} {o : Nat}

/-- The recovery name is linked, and the stage name still there. -/
def Doubled (source current : CapturedFile) (o : Nat) (t : FileTree) : Prop :=
  Published source current o t ∧ t.names .stage = some current.inode ∧ t.names .recovery = some current.inode

theorem ensures_removeDisplaced (displaced : CapturedFile) :
    TreeEnsures (alone device) (Doubled source current o) (removeCaptured .stage displaced) fun out t =>
      (∀ u, out = .ok u → Published source current o t ∧ t.names .stage = none) ∧
        ∀ e, out = .error e → Doubled source current o t := by
  have hkept : ∀ (e : EntrypointRaised) t, Doubled source current o t →
      (∀ u, (Except.error e : Except EntrypointRaised Unit) = .ok u →
        Published source current o t ∧ t.names .stage = none) ∧
        ∀ e', (Except.error e : Except EntrypointRaised Unit) = .error e' → Doubled source current o t :=
    fun e t ht => ⟨nofun, fun _ _ => ht⟩
  show TreeEnsures (alone device) _ ((Os.lstat .stage).bind _) _
  refine ensures_reads_bind fileMachine_alone stable_alone (reads_lstat .stage) hkept fun observed => ?_
  split
  · exact ensures_raise stable_alone fun t ht => hkept _ t ht
  · refine ensures_perform stable_alone ?_ fun _ => stable_alone
    rintro s r s' ⟨h, hstage, hrecovery⟩ (⟨-, rfl, rfl⟩ | ⟨rfl, rfl⟩)
    · refine ⟨fun _ _ => ?_, nofun⟩
      have hnone : (s.tree.rename .stage none).names .stage = none := by simp
      exact ⟨h.rename (by decide) (by decide) (.inr ⟨hnone, by simpa using hrecovery⟩), hnone⟩
    · exact hkept _ _ ⟨h, hstage, hrecovery⟩

theorem ensures_moveAway (displaced : CapturedFile) :
    TreeEnsures (alone device) (Doubled source current o) (moveDisplaced sha256 displaced) fun out t =>
      (out = .ok true → Published source current o t ∧ t.names .stage = none) ∧
        (out ≠ .ok true → Doubled source current o t) := by
  have hkept : ∀ (out : Except EntrypointRaised Bool) t, out ≠ .ok true → Doubled source current o t →
      (out = .ok true → Published source current o t ∧ t.names .stage = none) ∧
        (out ≠ .ok true → Doubled source current o t) :=
    fun out t hout ht => ⟨fun h => absurd h hout, fun _ => ht⟩
  show TreeEnsures (alone device) _ ((capture sha256 .recovery).bind _) _
  refine ensures_reads_bind fileMachine_alone stable_alone (reads_capture .recovery)
    (fun e t ht => hkept _ t (by simp) ht) fun recovery => ?_
  split
  · exact ensures_ret stable_alone fun t ht => hkept _ t (by simp) ht
  · refine ensures_bind (ensures_removeDisplaced displaced) (fun _ => stable_alone)
      (fun e s hs => hkept _ s.tree (by simp) (hs.2 e rfl)) fun u => ?_
    exact ensures_done stable_alone fun s hs => ⟨fun _ => hs.1 u rfl, fun h => absurd rfl h⟩

/-- The names have been exchanged, and the stage name has the displaced file. -/
def Swapped (source current : CapturedFile) (o : Nat) (t : FileTree) : Prop :=
  Published source current o t ∧ t.names .stage = some current.inode

theorem Swapped.indeterminate {t : FileTree} (h : Swapped source current o t) (blocker : EntrypointMaintenanceBlocker) :
    Reached source current o (.ok (.indeterminate blocker .backup .stage, true)) t :=
  .indeterminate h.1 (by decide) ⟨_, h.2, h.1.original⟩

/-- An exception after the exchange, reported under the stage name. -/
theorem ensures_reportStage (blocker : EntrypointMaintenanceBlocker) (e : EntrypointRaised) :
    TreeEnsures (alone device) (Swapped source current o)
      (if e.isListed then ret (.indeterminate blocker .backup .stage, true) else throw e)
      (Reached source current o) := by
  split
  · exact ensures_ret stable_alone fun t ht => ht.indeterminate blocker
  · exact ensures_raise stable_alone fun t ht => .published ht.1

theorem ensures_moveAndReport (displaced : CapturedFile) :
    TreeEnsures (alone device) (Doubled source current o) ((moveDisplaced sha256 displaced).andThen reportMoved)
      (Reached source current o) := by
  have hraised : ∀ e, TreeEnsures (alone device) (Doubled source current o) (reportMoved (.error e))
      (Reached source current o) := by
    intro e
    rw [reportMoved]
    split
    · exact ensures_ret stable_alone fun t ht => .indeterminate ht.1 (by decide) ⟨_, ht.2.2, ht.1.original⟩
    · exact ensures_raise stable_alone fun t ht => .published ht.1
  have hreplaced : TreeEnsures (alone device) (Doubled source current o) (reportMoved (.ok false))
      (Reached source current o) :=
    ensures_ret stable_alone fun t ht => Swapped.indeterminate ⟨ht.1, ht.2.1⟩ _
  refine ensures_andThen (ensures_moveAway displaced) ?_
  rintro (e | _ | _)
  · exact (hraised e).conseq (fun s hs => hs.2 (by simp)) fun _ _ h => h
  · exact hreplaced.conseq (fun s hs => hs.2 (by simp)) fun _ _ h => h
  · exact ensures_done stable_alone fun s hs => .repaired (hs.1 rfl).1 (hs.1 rfl).2

theorem ensures_preserve (displaced : CapturedFile) :
    TreeEnsures (alone device) (Swapped source current o) (preserveDisplaced sha256 displaced)
      (Reached source current o) := by
  refine ensures_call (o := FileOp.link) (R := fun r s =>
    (r = .ok () ∧ Doubled source current o s.tree) ∨ (∃ e, r = .error e) ∧ Swapped source current o s.tree)
    stable_alone ?_ ?_
  · rintro s r s' ⟨h, hs⟩ (⟨i, hi, -, rfl, rfl⟩ | ⟨rfl, rfl⟩)
    · obtain rfl := Option.some.inj (hi.symm.trans hs)
      have hstill : (s.tree.rename .recovery (some current.inode)).names .stage = some current.inode := by
        simpa using hs
      exact .inl ⟨rfl, h.rename (by decide) (by decide) (.inl hstill), hstill, by simp⟩
    · exact .inr ⟨⟨_, rfl⟩, h, hs⟩
  · rintro r s out s' (⟨rfl, hs⟩ | ⟨⟨e, rfl⟩, hs⟩) hrun
    · exact ensures_moveAndReport displaced s out s' hs hrun
    · exact ensures_reportStage _ e s out s' hs hrun

theorem ensures_verify :
    TreeEnsures (alone device) (Swapped source current o) (verifyPublished sha256 source current)
      (Reached source current o) := by
  have hinspect : TreeEnsures (alone device) (Swapped source current o) (inspectPublished sha256 source current)
      fun _ t => Swapped source current o t :=
    ensures_of_reads fileMachine_alone stable_alone reads_inspectPublished
  refine ensures_andThen hinspect ?_
  rintro (e | _ | displaced)
  · exact ensures_reportStage _ e
  · exact ensures_done stable_alone fun s hs => hs.indeterminate _
  · exact ensures_preserve displaced

/-- Prepared, and the backup is a copy of the current file. -/
def Copied (source current : CapturedFile) (o : Nat) (t : FileTree) : Prop :=
  Prepared source current o t ∧ t.HoldsReplacement .backup current.data current.mode

theorem ensures_exchangePrepared :
    TreeEnsures (alone device) (Copied source current o) (exchangeStage sha256 source current)
      (Reached source current o) := by
  refine ensures_call (o := FileOp.exchange) (R := fun r s =>
    (r = .ok () ∧ Swapped source current o s.tree) ∨ (∃ e, r = .error e) ∧ Copied source current o s.tree)
    stable_alone ?_ ?_
  · rintro s r s' ⟨h, hsaved⟩ (⟨atTarget, atStage, htarget, hstage, rfl, rfl⟩ | ⟨rfl, rfl⟩)
    · obtain rfl := Option.some.inj (htarget.symm.trans h.target)
      obtain rfl := Option.some.inj (hstage.symm.trans h.stage)
      exact .inl ⟨rfl, h.exchanged hsaved, by simp⟩
    · exact .inr ⟨⟨_, rfl⟩, h, hsaved⟩
  · rintro r s out s' (⟨rfl, hs⟩ | ⟨⟨e, rfl⟩, hs⟩) hrun
    · exact ensures_verify s out s' hs hrun
    · have hraised : TreeEnsures (alone device) (Copied source current o) (if e.isOsError then
          ret (EntrypointMaintenanceResult.blocked EntrypointBlocker.publicationUnavailable .backup, false)
          else throw e) (Reached source current o) := by
        split
        · exact ensures_ret stable_alone fun t ht => .blocked ht.1 ht.2
        · exact ensures_raise stable_alone fun t ht => .unpublished ht.1
      exact hraised s out s' hs hrun

theorem ensures_verifyPrepared :
    TreeEnsures (alone device) (Copied source current o) (verifyUnpublished sha256 source current)
      (Reached source current o) := by
  show TreeEnsures (alone device) _ ((capture sha256 .backup).bind _) _
  refine ensures_reads_bind fileMachine_alone stable_alone (reads_capture .backup)
    (fun e t ht => .unpublished ht.1) fun saved => ?_
  have hinspect : TreeEnsures (alone device) (Copied source current o) (inspectUnpublished sha256 saved source current)
      fun _ t => Copied source current o t :=
    ensures_of_reads fileMachine_alone stable_alone (reads_inspectUnpublished saved)
  refine ensures_andThen hinspect ?_
  rintro (e | u)
  · show TreeEnsures (alone device) (Copied source current o) (if e.isListed then
      ret (EntrypointMaintenanceResult.blocked EntrypointBlocker.prepublicationVerificationFailed .backup, false)
      else throw e) _
    split
    · exact ensures_ret stable_alone fun t ht => .blocked ht.1 ht.2
    · exact ensures_raise stable_alone fun t ht => .unpublished ht.1
  · exact ensures_exchangePrepared

/-- A snapshot that could not be made durable is reported only when it is complete. -/
theorem ensures_snapshotReport (e : EntrypointRaised) :
    TreeEnsures (alone device) (Prepared source current o) (snapshotFailed sha256 current e)
      (Reached source current o) := by
  have hcapture : TreeEnsures (alone device) (Prepared source current o) (capture sha256 .backup) fun out t =>
      Prepared source current o t ∧ ∀ c, out = .ok c → t.Describes .backup c ∧ c.digest = sha256 c.data :=
    ensures_capture fileMachine_alone stable_alone fun _ _ => stable_alone
  refine ensures_andThen hcapture ?_
  rintro (again | saved)
  · show Ensures (alone device) _ (if again.isListed then throw e else throw again) _
    split <;> exact ensures_done stable_alone fun s hs => .unpublished hs.1
  · show Ensures (alone device) _ (if sameSnapshot saved current then
      ret (EntrypointMaintenanceResult.blocked EntrypointBlocker.backupSyncFailed .backup, false) else throw e) _
    split
    · rename_i hsame
      exact ensures_done stable_alone fun s hs => .blocked hs.1 ((hs.2 saved rfl).1.holdsReplacement hsame)
    · exact ensures_done stable_alone fun s hs => .unpublished hs.1

theorem ensures_copy :
    TreeEnsures (alone device) (Prepared source current o) (writeSnapshot current) fun out t =>
      Prepared source current o t ∧ ∀ u, out = .ok u → Copied source current o t := by
  -- the backup while it is being written
  let W : Nat → FileTree → Prop := fun b t =>
    Prepared source current o t ∧ t.names .backup = some b ∧ b ≠ current.inode ∧ b ≠ o
  have hwrite : TreeEnsures (alone device) (Prepared source current o) (writeStage .backup current current)
      fun out t => Prepared source current o t ∧ ∀ b, out = .ok b → Copied source current o t := by
    refine (ensures_writeStage (E := Prepared source current o) (W := W) fileMachine_alone stable_alone stable_alone
      (fun _ _ => stable_alone) ?_ ?_ (fun _ h => h) (fun _ _ h => h.1) (fun t b h => h.1.rename_backup none)
      current current).conseq (fun _ hs => hs) ?_
    · intro t b content h _ hfree
      have hb : b ≠ current.inode := fun hb => hfree .target (hb ▸ h.target)
      have hbo : b ≠ o := fun hb => hfree .stage (hb ▸ h.stage)
      exact ⟨(h.rename_backup (some b)).put hb hbo content, by simp, hb, hbo⟩
    · rintro t b content ⟨h, hname, hb, hbo⟩
      exact ⟨h.put hb hbo content, hname, hb, hbo⟩
    · rintro (e | b) s ⟨hok, herror⟩
      · exact ⟨herror e rfl, nofun⟩
      · obtain ⟨⟨h, hname, -⟩, hwritten⟩ := hok b rfl
        exact ⟨h, fun _ _ => ⟨h, hwritten.holds hname⟩⟩
  refine ensures_bind hwrite (fun _ => stable_alone) (fun e s hs => ⟨hs.1, nofun⟩) fun b => ?_
  have hsync : TreeEnsures (alone device) (Copied source current o)
      ((Os.close b).bind fun _ => Os.fsyncDirectory .backup) fun _ t => Copied source current o t :=
    ensures_of_reads fileMachine_alone stable_alone (only_bind (reads_close b) fun _ => reads_fsyncDirectory .backup)
  exact hsync.conseq (fun s hs => hs.2 b rfl) fun out s hs => ⟨hs.1, fun _ _ => hs⟩

theorem ensures_staged :
    TreeEnsures (alone device) (Prepared source current o) (publishStaged sha256 source current)
      (Reached source current o) := by
  refine ensures_andThen ensures_copy ?_
  rintro (e | u)
  · have hfailed : TreeEnsures (alone device) (Prepared source current o)
        (if e.isOsError then snapshotFailed sha256 current e else throw e) (Reached source current o) := by
      split
      · exact ensures_snapshotReport e
      · exact ensures_raise stable_alone fun t ht => .unpublished ht
    exact hfailed.conseq (fun s hs => hs.1) fun _ _ h => h
  · exact ensures_verifyPrepared.conseq (fun s hs => hs.2 u rfl) fun _ _ h => h

/-! ### The finalizer and the result -/

/-- The stage name is gone, or the operating system refused. -/
def StageRemoved (P : FileTree → Prop) (out : Except EntrypointRaised Unit) (t : FileTree) : Prop :=
  (∀ u, out = .ok u → ∃ t₀, P t₀ ∧ t = t₀.rename .stage none) ∧ ∀ e, out = .error e → e = .osError ∧ P t

theorem stageRemoved_refused {P : FileTree → Prop} {t : FileTree} (h : P t) : StageRemoved P (.error .osError) t :=
  ⟨nofun, fun _ he => ⟨(Except.error.inj he).symm, h⟩⟩

/-- The stage file is the repair's own, so the check passes. -/
theorem ensures_removePrepared {P : FileTree → Prop} (hP : ∀ t, P t → t.names .stage = some o) :
    TreeEnsures (alone device) P (removeOwned .stage o) (StageRemoved P) := by
  refine ensures_lstat (φ := fun i => i = o) (ψ := False) fileMachine_alone stable_alone ?_ ?_
    (fun _ => stageRemoved_refused) ?_ False.elim
  · exact fun t i ht hi => Option.some.inj (hi.symm.trans (hP t ht))
  · intro t ht hnone
    rw [hP t ht] at hnone
    cases hnone
  · intro observed hinode hdevice
    refine ensures_call (o := FileOp.fstat o) (R := fun r s => P s.tree ∧
      ((∃ owned : FileStat, r = .ok owned ∧ owned.inode = o ∧ owned.device = device .target) ∨ r = .error .osError))
      stable_alone ?_ ?_
    · rintro s r s' hs (⟨mtime, ctime, rfl, rfl⟩ | ⟨rfl, rfl⟩)
      · exact ⟨hs, .inl ⟨_, rfl, rfl, rfl⟩⟩
      · exact ⟨hs, .inr rfl⟩
    · rintro r s out s' ⟨hs, ⟨owned, rfl, hinode', hdevice'⟩ | rfl⟩ hrun
      · refine (?_ : TreeEnsures (alone device) P (if (observed.device, observed.inode) ≠ (owned.device, owned.inode)
          then throw .valueError else Os.unlink .stage) (StageRemoved P)) s out s' hs hrun
        rw [if_neg (by rw [hinode, hdevice, hinode', hdevice']; exact fun h => h rfl)]
        refine ensures_perform stable_alone ?_ fun _ => stable_alone
        rintro s r s' hs (⟨-, rfl, rfl⟩ | ⟨rfl, rfl⟩)
        · exact ⟨fun _ _ => ⟨s.tree, hs, rfl⟩, nofun⟩
        · exact stageRemoved_refused hs
      · have hraised : TreeEnsures (alone device) P (throw .osError) (StageRemoved P) :=
          ensures_raise stable_alone fun _ => stageRemoved_refused
        exact hraised s out s' hs hrun

theorem ensures_removeStage {P : FileTree → Prop} (hP : ∀ t, P t → t.names .stage = some o) :
    TreeEnsures (alone device) P (removeStage o) (StageRemoved P) := by
  refine ensures_handle (ensures_removePrepared hP) (fun _ => stable_alone) (fun _ _ hs => hs) fun e => ?_
  split
  · rename_i he
    subst he
    exact ensures_done stable_alone fun s hs => by cases (hs.2 _ rfl).1
  · exact ensures_done stable_alone fun s hs => hs

/-- The outcome after the finalizer. -/
def Finished (sha256 : List UInt8 → Sha256) (source current : CapturedFile)
    (out : Except EntrypointRaised (EntrypointMaintenanceResult × Bool)) (last : Except EntrypointRaised Unit)
    (t : FileTree) : Prop :=
  (∀ u, last = .ok u → Truthful sha256 source current.content (out.map Prod.fst) t) ∧
    ∀ e, last = .error e → Truthful sha256 source current.content (.error e) t

theorem ensures_finishBlocked (blocker : EntrypointMaintenanceBlocker) :
    TreeEnsures (alone device) (Copied source current o) ((removeStage o).bind fun _ => Os.close o)
      (Finished sha256 source current (.ok (.blocked blocker .backup, false))) := by
  refine ensures_bind (ensures_removeStage fun t ht => ht.1.stage) (fun _ => stable_alone) ?_ fun u => ?_
  · rintro e s hs
    exact ⟨nofun, fun _ _ => .raised (.inl (hs.2 e rfl).2.1.kept)⟩
  · have hclose : TreeEnsures (alone device) (fun t => ∃ t₀, Copied source current o t₀ ∧ t = t₀.rename .stage none)
        (Os.close o) fun _ t => ∃ t₀, Copied source current o t₀ ∧ t = t₀.rename .stage none :=
      ensures_of_reads fileMachine_alone stable_alone (reads_close o)
    refine hclose.conseq (fun s hs => hs.1 u rfl) ?_
    rintro last s ⟨t₀, ⟨h, c, ⟨b, hb, hc⟩, hdata, hmode⟩, ht⟩
    have hkept : s.tree.Holds .target current.content := by
      rw [ht]
      exact ⟨_, by simpa using h.target, h.original⟩
    have hsaved : s.tree.HoldsReplacement .backup current.data current.mode := by
      rw [ht]
      exact ⟨c, ⟨b, by simpa using hb, hc⟩, hdata, hmode⟩
    refine ⟨fun _ _ => .blocked hkept hsaved ?_ ?_, fun _ _ => .raised (.inl hkept)⟩
    · rw [ht, FileTree.names_rename, if_pos rfl]
    · rw [ht, FileTree.names_rename, if_neg (by decide)]
      exact h.recovery

theorem ensures_finish (out : Except EntrypointRaised (EntrypointMaintenanceResult × Bool)) :
    TreeEnsures (alone device) (Reached source current o out) (finishStage o out)
      (Finished sha256 source current out) := by
  intro s last s' hs hrun
  -- one case for each state in which the publication ends
  cases hs with
  | blocked h saved => exact ensures_finishBlocked _ s last s' ⟨h, saved⟩ hrun
  | repaired h stage =>
    have hclosed := ensures_of_reads (P := fun t => Published source current o t ∧ t.names .stage = none)
      fileMachine_alone stable_alone (reads_close o) s last s' ⟨h, stage⟩ hrun
    refine ⟨fun _ _ => ?_, fun _ _ => hclosed.1.truthful⟩
    rcases hclosed.1.held with hstage | ⟨-, hrecovery⟩
    · rw [hclosed.2] at hstage
      cases hstage
    · exact .repaired hclosed.1.published hclosed.1.saved ⟨_, hrecovery, hclosed.1.original⟩ hclosed.2
  | indeterminate h hname held =>
    rename_i blocker name
    have hclosed := ensures_of_reads (P := fun t => Published source current o t ∧ t.Holds name current.content)
      fileMachine_alone stable_alone (reads_close o) s last s' ⟨h, held⟩ hrun
    exact ⟨fun _ _ => .indeterminate hclosed.1.published hclosed.1.saved hname hclosed.2,
      fun _ _ => hclosed.1.truthful⟩
  | unpublished h =>
    have hkept := ensures_removeAndClose (E := fun t => t.Holds .target current.content) fileMachine_alone stable_alone
      (ensures_removeOwned fileMachine_alone stable_alone stable_alone (fun t ht => ht.kept) ?_ o) s last s' h hrun
    · exact ⟨fun _ _ => .raised (.inl hkept), fun _ _ => .raised (.inl hkept)⟩
    · intro t ht
      exact ⟨_, by simpa using ht.target, ht.original⟩
  | published h =>
    have hpublished := ensures_removeAndClose fileMachine_alone stable_alone
      (ensures_removeOwned_other fileMachine_alone stable_alone ?_) s last s' h hrun
    · exact ⟨fun _ _ => hpublished.truthful, fun _ _ => hpublished.truthful⟩
    · intro t i ht hi
      rcases ht.held with hstage | ⟨hstage, -⟩
      · obtain rfl := Option.some.inj (hi.symm.trans hstage)
        exact ht.own.symm
      · rw [hstage] at hi
        cases hi

/-- The repair of a captured target. -/
theorem ensures_repairCaptured :
    TreeEnsures (alone device) (Untouched current) (publishCaptured sha256 source current)
      (Truthful sha256 source current.content) := by
  let W : Nat → FileTree → Prop := fun i t => Untouched current t ∧ t.names .stage = some i ∧ i ≠ current.inode
  -- the stage is a new inode, so writing it leaves the target alone
  have hwrite : TreeEnsures (alone device) (Untouched current) (writeStage .stage source current) fun out t =>
      (∀ i, out = .ok i → W i t ∧ t.Written i source current) ∧ ∀ e, out = .error e → Untouched current t := by
    refine ensures_writeStage fileMachine_alone stable_alone stable_alone (fun _ _ => stable_alone) ?_ ?_
      (fun _ h => h) (fun _ _ h => h.1) ?_ source current
    · intro t i content h _ hfree
      have hi : i ≠ current.inode := fun hi => hfree .target (hi ▸ h.target)
      refine ⟨⟨by simpa using h.target, ?_, by simpa using h.backup, by simpa using h.recovery⟩, by simp, hi⟩
      rw [FileTree.inodes_put, if_neg (Ne.symm hi)]
      exact h.original
    · rintro t i content ⟨h, hstage, hi⟩
      refine ⟨⟨h.target, ?_, h.backup, h.recovery⟩, hstage, hi⟩
      rw [FileTree.inodes_put, if_neg (Ne.symm hi)]
      exact h.original
    · rintro t i ⟨h, -, -⟩
      exact ⟨by simpa using h.target, h.original, by simpa using h.backup, by simpa using h.recovery⟩
  refine ensures_bind hwrite (fun _ => stable_alone) (fun e s hs => .raised (.inl (hs.2 e rfl).kept)) fun o => ?_
  have hfinished : TreeEnsures (alone device) (Prepared source current o)
      ((publishStaged sha256 source current).lastly (finishStage o))
      fun out t => Truthful sha256 source current.content (out.map Prod.fst) t :=
    ensures_lastly ensures_staged ensures_finish (fun _ _ => stable_alone)
      (fun _ u _ hs => hs.1 u rfl) fun _ e _ hs => hs.2 e rfl
  refine (ensures_bind hfinished (fun _ => stable_alone) (fun _ _ hs => hs)
    fun finished => ensures_done stable_alone fun s hs => hs).conseq ?_ fun _ _ h => h
  rintro s ⟨hok, -⟩
  obtain ⟨⟨h, hstage, hne⟩, hwritten⟩ := hok o rfl
  exact ⟨h.target, h.original, hstage, hne, hwritten, h.recovery⟩

end Alone

/-- The target is the only file. -/
structure OnlyTarget (i : Nat) (old : InodeContent) (t : FileTree) : Prop where
  target : t.names .target = some i
  original : t.inodes i = old
  fresh : ∀ name, name ≠ .target → t.names name = none

theorem ensures_publishAlone (request : EntrypointRequest) (source : CapturedFile) {i : Nat} {old : InodeContent} :
    TreeEnsures (alone device) (OnlyTarget i old) (publish sha256 request source) (Truthful sha256 source old) := by
  have hraised : ∀ e t, OnlyTarget i old t → Truthful sha256 source old (.error e) t :=
    fun e t ht => .raised (.inl ⟨i, ht.target, ht.original⟩)
  show TreeEnsures (alone device) _ ((Os.directoryDevice .target).bind _) _
  refine ensures_reads_bind fileMachine_alone stable_alone (reads_directoryDevice .target) hraised
    fun targetDevice => ?_
  show TreeEnsures (alone device) _ ((Os.directoryDevice .backup).bind _) _
  refine ensures_reads_bind fileMachine_alone stable_alone (reads_directoryDevice .backup) hraised
    fun backupDevice => ?_
  split
  · exact ensures_raise stable_alone (hraised _)
  show TreeEnsures (alone device) _ ((capture sha256 .target).bind _) _
  refine ensures_capture_bind (φ := fun c => c.inode = i ∧ c.content = old ∧ c.digest = sha256 c.data)
    fileMachine_alone stable_alone (fun _ _ => stable_alone) ?_ hraised ?_
  -- the target is the one inode that is there
  · rintro t c ht ⟨hi, hc⟩ hdigest
    have hinode : c.inode = i := Option.some.inj (hi.symm.trans ht.target)
    exact ⟨hinode, hc.symm.trans (hinode ▸ ht.original), hdigest⟩
  rintro current ⟨rfl, rfl, hdigest⟩
  split
  · exact ensures_raise stable_alone (hraised _)
  split
  · rename_i hsame
    show TreeEnsures (alone device) _ (verifyParents.bind _) _
    refine ensures_reads_bind fileMachine_alone stable_alone reads_verifyParents hraised fun _ => ?_
    exact ensures_ret stable_alone fun t ht =>
      .matching ⟨_, ht.target, ht.original⟩ (hdigest.symm.trans hsame) ht.fresh
  split
  · exact ensures_raise stable_alone (hraised _)
  · exact ensures_repairCaptured.conseq (fun s hs => ⟨hs.target, hs.original, hs.fresh .backup (by decide),
      hs.fresh .recovery (by decide)⟩) fun _ _ h => h

/-- **A repair tells the truth**: without a foreign writer, and whatever
operations fail, the tree at the end is the one that the outcome describes. -/
theorem publish_truthful {request : EntrypointRequest} {source : CapturedFile} {old : InodeContent}
    {s s' : FileState} {out : Except EntrypointRaised EntrypointMaintenanceResult}
    (htarget : s.tree.Holds .target old) (hfresh : ∀ name, name ≠ .target → s.tree.names name = none)
    (hrun : Runs (alone device) (publish sha256 request source) s out s') :
    Truthful sha256 source old out s'.tree := by
  obtain ⟨i, hi, hold⟩ := htarget
  exact ensures_publishAlone request source s out s' ⟨hi, hold, hfresh⟩ hrun

def FileOp.isLink : FileOp → Bool
  | link => true
  | _ => false

/-- The link to the recovery name fails. -/
def unlinked (source : CapturedFile) (op : FileOp) (s : FileState) : Except EntrypointRaised op.Result × FileState :=
  if op.isLink then (.error .osError, s) else op.run (fun _ => 0) source s

theorem unlinked_allowed (source : CapturedFile) (op : FileOp) (s : FileState) :
    ∃ s₁, (alone fun _ => 0).Moves s s₁ ∧
      (alone fun _ => 0).step op s₁ (unlinked source op s).1 (unlinked source op s).2 := by
  refine ⟨s, .refl, ?_⟩
  rw [unlinked]
  split
  · rename_i hop
    cases op with
    | link => exact .inr ⟨rfl, rfl⟩
    | _ => cases hop
  · exact fileStep_run source op s

/-- The repair of a file when hard links are refused. -/
def unlinkedRepair : Except EntrypointRaised EntrypointMaintenanceResult × FileState :=
  (publish hashlibSha256 demoRequest demoSource).exec (unlinked demoSource) (singleFile ⟨[1], 0o100644⟩)

theorem publish_truthful_unlinked :
    unlinkedRepair.2.tree.Holds .target ⟨[2], 0o100644⟩ ∧
      Truthful hashlibSha256 demoSource ⟨[1], 0o100644⟩ unlinkedRepair.1 unlinkedRepair.2.tree :=
  ⟨⟨2, by rfl, by rfl⟩, publish_truthful (s := singleFile ⟨[1], 0o100644⟩) ⟨1, rfl, rfl⟩
    (fun name hname => if_neg hname)
    (runs_exec (unlinked_allowed demoSource) (publish hashlibSha256 demoRequest demoSource) _)⟩

end SkillsSdk
