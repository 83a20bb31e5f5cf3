/-
SkillsSdk/EntrypointLaws.lean

What a repair never loses.

    publish_keeps_displaced   with a foreign writer, at every interleaving
    publish_truthful          without one, for every pattern of failures

The first is about the one moment at which the repair takes a file from the
target name.  Before the exchange the stage name has the inode `o` of the new
bytes, which the target name does not have (`StageWritten`); after it the stage name
has the displaced inode, which is not `o` (`Displaced`), so the finalizer, which
removes the stage name only while it has `o`, leaves it alone.  A foreign writer
ends neither, for it takes an inode that is not in use.
-/
import SkillsSdk.Entrypoint

namespace SkillsSdk

open Interference Interference.Prog

variable {sha256 : List UInt8 → Sha256} {device : EntrypointDirectory → Nat}
variable {M : Machine FileOp FileOp.Result EntrypointRaised FileState}

/-! ### Trees -/

namespace FileTree

variable {t : FileTree} {name other : EntrypointName} {i j : Nat} {content : InodeContent}

@[simp] theorem names_rename {inode : Option Nat} :
    (t.rename name inode).names other = if other = name then inode else t.names other :=
  Function.update_apply _ _ _ _

@[simp] theorem inodes_rename {inode : Option Nat} : (t.rename name inode).inodes = t.inodes := rfl

@[simp] theorem displaced_rename {inode : Option Nat} : (t.rename name inode).displaced = t.displaced := rfl

@[simp] theorem names_put : (t.put i content).names = t.names := rfl

@[simp] theorem inodes_put : (t.put i content).inodes j = if j = i then content else t.inodes j :=
  Function.update_apply _ _ _ _

@[simp] theorem displaced_put : (t.put i content).displaced = t.displaced := rfl

@[simp] theorem names_exchanged :
    (t.exchanged i j).names other =
      if other = .stage then some i else if other = .target then some j else t.names other := by
  show ((t.rename .target (some j)).rename .stage (some i)).names other = _
  rw [names_rename, names_rename]

@[simp] theorem inodes_exchanged : (t.exchanged i j).inodes = t.inodes := rfl

@[simp] theorem displaced_exchanged : (t.exchanged i j).displaced = t.displaced ++ [t.inodes i] := rfl

end FileTree

/-! ### File machines -/

/-- A machine of the file operations, on which at most the target name is replaced. -/
structure FileMachine (device : EntrypointDirectory → Nat)
    (M : Machine FileOp FileOp.Result EntrypointRaised FileState) : Prop where
  step : M.step = fileStep device
  replaces : ∀ s s', M.interferes s s' → Replaces s s'

theorem fileMachine_shared : FileMachine device (shared device) := ⟨rfl, fun _ _ h => h⟩

theorem fileMachine_alone : FileMachine device (alone device) := ⟨rfl, fun _ _ h => h.elim⟩

/-- An assertion about the tree that the other party cannot end. -/
abbrev TreeStable (M : Machine FileOp FileOp.Result EntrypointRaised FileState) (P : FileTree → Prop) : Prop :=
  Stable M fun s => P s.tree

/-- A replacement takes an inode that no name has. -/
theorem treeStable_of_replaced (hM : FileMachine device M) {P : FileTree → Prop}
    (h : ∀ t i content, P t → (∀ name, t.names name ≠ some i) →
      P ((t.rename .target (some i)).put i content)) : TreeStable M P := by
  intro s s' hs hmove
  obtain ⟨i, content, hfree, rfl⟩ := hM.replaces s s' hmove
  exact h _ i content hs fun name hname => hfree (.inr ⟨name, hname⟩)

theorem stable_alone {P : FileState → Prop} : Stable (alone device) P := fun _ _ _ h => h.elim

theorem TreeStable.and {P P' : FileTree → Prop} (h : TreeStable M P) (h' : TreeStable M P') :
    TreeStable M fun t => P t ∧ P' t :=
  Stable.and h h'

theorem TreeStable.exists {α : Type} {P : α → FileTree → Prop} (h : ∀ a, TreeStable M (P a)) :
    TreeStable M fun t => ∃ a, P a t := by
  rintro s s' ⟨a, hs⟩ hmove
  exact ⟨a, h a s s' hs hmove⟩

theorem treeStable_pure {p : Prop} : TreeStable M fun _ => p := fun _ _ h _ => h

/-- A name other than the target's keeps its inode, with its content. -/
theorem treeStable_entry (hM : FileMachine device M) {name : EntrypointName} (hname : name ≠ .target)
    {i : Nat} {content : InodeContent} :
    TreeStable M fun t => t.names name = some i ∧ t.inodes i = content := by
  apply treeStable_of_replaced hM
  rintro t j new ⟨hi, hcontent⟩ hfree
  have hij : i ≠ j := fun h => hfree name (h ▸ hi)
  simp [hname, hi, hcontent, hij]

theorem treeStable_holds (hM : FileMachine device M) {name : EntrypointName} (hname : name ≠ .target)
    {content : InodeContent} : TreeStable M fun t => t.Holds name content :=
  TreeStable.exists fun _ => treeStable_entry hM hname

/-! ### Operations that only read -/

/-- The operation leaves the tree as it is. -/
def FileOp.Reads : FileOp → Prop
  | create _ _ | write _ _ | fchmod _ _ | unlink _ | exchange | link => False
  | _ => True

theorem tree_of_reads (op : FileOp) {s s' : FileState} {r : Except EntrypointRaised op.Result}
    (hop : op.Reads) (h : fileStep device op s r s') : s'.tree = s.tree := by
  cases op with
  | create | write | fchmod | unlink | exchange | link => exact hop.elim
  | directoryDevice | fsync | fsyncDirectory | read =>
    rcases h with ⟨-, rfl⟩ | ⟨-, rfl⟩ <;> rfl
  | openRead name =>
    rcases h with ⟨i, -, -, rfl⟩ | ⟨-, rfl⟩ <;> rfl
  | fstat fd =>
    rcases h with ⟨_, _, -, rfl⟩ | ⟨-, rfl⟩ <;> rfl
  | close fd =>
    rcases h with ⟨-, rfl | rfl⟩ <;> rfl
  | lstat name =>
    rcases h with ⟨_, _, _, -, -, rfl⟩ | ⟨-, -, rfl⟩ | ⟨-, rfl⟩ <;> rfl
  | source | verifyParents => rw [show s' = s from h]

/-- Every assertion about the tree survives a read. -/
theorem keeps_of_reads (hM : FileMachine device M) {P : FileTree → Prop} {op : FileOp} (hop : op.Reads) :
    Keeps M (fun s => P s.tree) op := by
  intro s r s' hs hstep
  rw [hM.step] at hstep
  rw [tree_of_reads op hop hstep]
  exact hs

/-- Assertions about the tree, before and after a program. -/
abbrev TreeEnsures {α : Type} (M : Machine FileOp FileOp.Result EntrypointRaised FileState) (P : FileTree → Prop)
    (p : FileProg α) (Q : Except EntrypointRaised α → FileTree → Prop) : Prop :=
  Ensures M (fun s => P s.tree) p fun out s => Q out s.tree

section Rules

variable {α β : Type} {P : FileTree → Prop} {p : FileProg α} {Q : Except EntrypointRaised α → FileTree → Prop}

/-- A program that only reads keeps every stable assertion. -/
theorem ensures_of_reads (hM : FileMachine device M) (hP : TreeStable M P) (hp : p.Only FileOp.Reads) :
    TreeEnsures M P p fun _ t => P t :=
  ensures_only hP (hp.mono fun _ hop => keeps_of_reads hM hop)

/-- A program that only reads, before another one. -/
theorem ensures_reads_bind (hM : FileMachine device M) (hP : TreeStable M P) {q : FileProg β}
    (hq : q.Only FileOp.Reads) {f : β → FileProg α} (herror : ∀ e t, P t → Q (.error e) t)
    (hf : ∀ b, TreeEnsures M P (f b) Q) : TreeEnsures M P (q.bind f) Q :=
  ensures_bind (ensures_of_reads hM hP hq) (fun _ => hP) (fun e s hs => herror e s.tree hs) hf

/-- An operation that only reads, and what is known of the value that it returns. -/
theorem ensures_read_bind (hM : FileMachine device M) (hP : TreeStable M P) (op : FileOp) (hop : op.Reads)
    {φ : op.Result → Prop} (hφ : ∀ s a s', P s.tree → fileStep device op s (.ok a) s' → φ a)
    {f : op.Result → FileProg α} (herror : ∀ e t, P t → Q (.error e) t)
    (hf : ∀ a, φ a → TreeEnsures M P (f a) Q) : TreeEnsures M P ((perform op).bind f) Q := by
  refine ensures_call (R := fun r s => P s.tree ∧ ∀ a, r = .ok a → φ a) hP ?_ ?_
  · intro s r s' hs hstep
    rw [hM.step] at hstep
    refine ⟨tree_of_reads op hop hstep ▸ hs, ?_⟩
    rintro a rfl
    exact hφ s a s' hs hstep
  · rintro (e | a)
    · refine ensures_done (fun s s' hs hmove => ⟨hP s s' hs.1 hmove, hs.2⟩) ?_
      exact fun s hs => herror e s.tree hs.1
    · rintro s out s' ⟨hs, ha⟩ hrun
      exact hf a (ha a rfl) s out s' hs hrun

/-- An operation, and what holds after it when it returns and when it raises. -/
theorem ensures_op_bind (hM : FileMachine device M) (hP : TreeStable M P) (op : FileOp)
    {R : op.Result → FileTree → Prop} {E : FileTree → Prop} (hE : TreeStable M E)
    (hok : ∀ s a s', P s.tree → fileStep device op s (.ok a) s' → R a s'.tree)
    (hfail : ∀ s e s', P s.tree → fileStep device op s (.error e) s' → E s'.tree)
    {f : op.Result → FileProg α} (herror : ∀ e t, E t → Q (.error e) t)
    (hf : ∀ a, TreeEnsures M (R a) (f a) Q) : TreeEnsures M P ((perform op).bind f) Q := by
  refine ensures_call (R := fun r s =>
    (∀ a, r = .ok a → R a s.tree) ∧ ∀ e, r = .error e → E s.tree) hP ?_ ?_
  · intro s r s' hs hstep
    rw [hM.step] at hstep
    refine ⟨?_, ?_⟩
    · rintro a rfl
      exact hok s a s' hs hstep
    · rintro e rfl
      exact hfail s e s' hs hstep
  · rintro (e | a) s out s' ⟨hreturned, hraised⟩ hrun
    · cases hrun with
      | done moves => exact herror e _ (Stable.moves hE (hraised e rfl) moves)
    · exact hf a s out s' (hreturned a rfl) hrun

theorem ensures_raise {e : EntrypointRaised} (hP : TreeStable M P) (h : ∀ t, P t → Q (.error e) t) :
    TreeEnsures M P (throw e) Q :=
  ensures_done hP fun s hs => h s.tree hs

theorem ensures_ret {a : α} (hP : TreeStable M P) (h : ∀ t, P t → Q (.ok a) t) : TreeEnsures M P (ret a) Q :=
  ensures_done hP fun s hs => h s.tree hs

theorem ensures_exists {ι : Type} {R : ι → FileTree → Prop} (h : ∀ x, TreeEnsures M (R x) p Q) :
    TreeEnsures M (fun t => ∃ x, R x t) p Q := by
  rintro s out s' ⟨x, hs⟩ hrun
  exact h x s out s' hs hrun

theorem ensures_pure {φ : Prop} (h : φ → TreeEnsures M P p Q) : TreeEnsures M (fun t => P t ∧ φ) p Q := by
  rintro s out s' ⟨hs, hφ⟩ hrun
  exact h hφ s out s' hs hrun

end Rules

/-! ### Capturing -/

/-- The captured file is what the name holds. -/
def FileTree.Describes (t : FileTree) (name : EntrypointName) (c : CapturedFile) : Prop :=
  t.names name = some c.inode ∧ t.inodes c.inode = c.content

theorem FileTree.Describes.holds {t : FileTree} {name : EntrypointName} {c : CapturedFile}
    (h : t.Describes name c) : t.Holds name c.content :=
  ⟨c.inode, h⟩

theorem reads_fsyncDirectory (d : EntrypointDirectory) : (Os.fsyncDirectory d).Only FileOp.Reads :=
  only_perform trivial

theorem reads_openRead (name : EntrypointName) : (Os.openRead name).Only FileOp.Reads := only_perform trivial

theorem reads_fstat (fd : Nat) : (Os.fstat fd).Only FileOp.Reads := only_perform trivial

theorem reads_read (fd limit : Nat) : (Os.read fd limit).Only FileOp.Reads := only_perform trivial

theorem reads_close (fd : Nat) : (Os.close fd).Only FileOp.Reads := only_perform trivial

theorem reads_directoryDevice (d : EntrypointDirectory) : (Os.directoryDevice d).Only FileOp.Reads :=
  only_perform trivial

theorem reads_lstat (name : EntrypointName) : (Os.lstat name).Only FileOp.Reads := only_perform trivial

theorem reads_verifyParents : verifyParents.Only FileOp.Reads := only_perform trivial

theorem reads_captureOpen (fd : Nat) : (captureOpen sha256 fd).Only FileOp.Reads := by
  refine only_bind (only_perform trivial) fun before => ?_
  split
  · trivial
  · refine only_bind (only_perform trivial) fun data => ?_
    refine only_bind (only_perform trivial) fun after => ?_
    split <;> trivial

theorem reads_capture (name : EntrypointName) : (capture sha256 name).Only FileOp.Reads :=
  only_bind (only_perform trivial) fun fd =>
    only_lastly (reads_captureOpen fd) fun _ => only_perform trivial

section Capture

variable {P : FileTree → Prop} {name : EntrypointName}

/-- What is captured of an open inode is its content: the size was read before. -/
theorem ensures_captureOpen (hM : FileMachine device M) (hP : TreeStable M P) {fd : Nat} {content : InodeContent}
    (hcontent : ∀ t, P t → t.inodes fd = content) :
    TreeEnsures M P (captureOpen sha256 fd) fun out t =>
      P t ∧ ∀ c, out = .ok c → c.inode = fd ∧ c.content = content ∧ c.digest = sha256 c.data := by
  have hnone : ∀ e t, P t → P t ∧ ∀ c, (Except.error e : Except EntrypointRaised CapturedFile) = .ok c →
      c.inode = fd ∧ c.content = content ∧ c.digest = sha256 c.data := by
    intro e t ht
    refine ⟨ht, ?_⟩
    intro c hc
    cases hc
  show TreeEnsures M P ((perform (FileOp.fstat fd)).bind _) _
  refine ensures_read_bind (φ := fun before : FileStat =>
      before.inode = fd ∧ before.mode = content.mode ∧ before.size = content.data.length)
    hM hP (.fstat fd) trivial ?_ hnone ?_
  · intro s before s' hs hstep
    rcases hstep with ⟨mtime, ctime, hbefore, -⟩ | ⟨hbefore, -⟩
    · obtain rfl := Except.ok.inj hbefore
      refine ⟨rfl, ?_, ?_⟩
      · exact congrArg InodeContent.mode (hcontent _ hs)
      · exact congrArg (fun c : InodeContent => c.data.length) (hcontent _ hs)
    · cases hbefore
  rintro before ⟨hinode, hmode, hsize⟩
  split
  · exact ensures_raise hP fun t ht => hnone _ t ht
  show TreeEnsures M P ((perform (FileOp.read fd (entrypointLimit + 1))).bind _) _
  refine ensures_read_bind (φ := fun data : List UInt8 => data = content.data.take (entrypointLimit + 1))
    hM hP (.read fd (entrypointLimit + 1)) trivial ?_ hnone ?_
  · intro s data s' hs hstep
    rcases hstep with ⟨hdata, -⟩ | ⟨hdata, -⟩
    · obtain rfl := Except.ok.inj hdata
      rw [hcontent _ hs]
    · cases hdata
  intro data hdata
  show TreeEnsures M P ((perform (FileOp.fstat fd)).bind _) _
  refine ensures_read_bind (φ := fun _ => True) hM hP (.fstat fd) trivial (fun _ _ _ _ _ => trivial) hnone ?_
  intro after _
  split
  · exact ensures_raise hP fun t ht => hnone _ t ht
  · rename_i hsame
    push Not at hsame
    refine ensures_ret hP fun t ht => ⟨ht, ?_⟩
    rintro c hc
    obtain rfl := Except.ok.inj hc
    -- as many bytes as the inode has are all of them
    have hall : data = content.data := by
      rw [hdata, List.take_of_length_le]
      have hlength := hsame.2
      rw [hdata, List.length_take, hsize] at hlength
      omega
    refine ⟨hinode, ?_, rfl⟩
    rw [CapturedFile.content, hmode, hall]

/-- **Capturing** a name that nobody replaces describes what it holds. -/
theorem ensures_capture (hM : FileMachine device M) (hP : TreeStable M P)
    (hentry : ∀ i content, TreeStable M fun t => t.names name = some i ∧ t.inodes i = content) :
    TreeEnsures M P (capture sha256 name) fun out t =>
      P t ∧ ∀ c, out = .ok c → t.Describes name c ∧ c.digest = sha256 c.data := by
  -- the tree when the descriptor was opened
  let Q : Except EntrypointRaised Nat → FileTree → Prop := fun out t =>
    P t ∧ ∀ fd, out = .ok fd → t.names name = some fd
  have hopen : TreeEnsures M P (Os.openRead name) Q := by
    refine ensures_perform hP ?_ ?_
    · intro s r s' hs hstep
      rw [hM.step] at hstep
      have htree : s'.tree = s.tree := tree_of_reads (.openRead name) trivial hstep
      refine ⟨htree ▸ hs, ?_⟩
      rintro fd rfl
      rcases hstep with ⟨i, hi, hfd, -⟩ | ⟨hfd, -⟩
      · obtain rfl := Except.ok.inj hfd
        rw [htree]
        exact hi
      · cases hfd
    · rintro (e | fd)
      · rintro s s' ⟨hs, -⟩ hmove
        refine ⟨hP s s' hs hmove, ?_⟩
        intro fd hfd
        cases hfd
      · rintro s s' ⟨hs, hfd⟩ hmove
        refine ⟨hP s s' hs hmove, ?_⟩
        intro fd' hfd'
        obtain rfl := Except.ok.inj hfd'
        exact (hentry fd _ s s' ⟨hfd fd rfl, rfl⟩ hmove).1
  refine ensures_bind hopen ?_ ?_ ?_
  · rintro e s s' ⟨hs, -⟩ hmove
    refine ⟨hP s s' hs hmove, ?_⟩
    intro fd hfd
    cases hfd
  · rintro e s ⟨hs, -⟩
    refine ⟨hs, ?_⟩
    intro c hc
    cases hc
  · rintro fd s out s' ⟨hs, hfd⟩ hrun
    have hstable : TreeStable M fun t => P t ∧ t.names name = some fd ∧ t.inodes fd = s.tree.inodes fd :=
      hP.and (hentry fd _)
    have hbody : TreeEnsures M (fun t => P t ∧ t.names name = some fd ∧ t.inodes fd = s.tree.inodes fd)
        (captureOpen sha256 fd) fun out t => (P t ∧ t.names name = some fd ∧ t.inodes fd = s.tree.inodes fd) ∧
          ∀ c, out = .ok c → c.inode = fd ∧ c.content = s.tree.inodes fd ∧ c.digest = sha256 c.data :=
      ensures_captureOpen hM hstable fun t ht => ht.2.2
    have hclose := ensures_lastly (T := fun out s' => P s'.tree ∧
        ∀ c, out = .ok c → s'.tree.Describes name c ∧ c.digest = sha256 c.data) hbody
      (fun out => (ensures_of_reads hM (hstable.and treeStable_pure) (only_perform trivial) :
        TreeEnsures M _ (Os.close fd) _))
      (fun out last => hstable.and treeStable_pure)
      (fun out u s' hs' => ⟨hs'.1.1, fun c hc => by
        obtain ⟨rfl, hcontent, hdigest⟩ := hs'.2 c hc
        exact ⟨⟨hs'.1.2.1, hs'.1.2.2.trans hcontent.symm⟩, hdigest⟩⟩)
      (fun out e s' hs' => ⟨hs'.1.1, fun c hc => by cases hc⟩)
    exact hclose s out s' ⟨hs, hfd fd rfl, rfl⟩ hrun

/-- The digest of a capture is the digest of its bytes. -/
theorem ensures_capture_digest (hM : FileMachine device M) :
    TreeEnsures M (fun _ => True) (capture sha256 name) fun out _ => ∀ c, out = .ok c → c.digest = sha256 c.data := by
  have hraised : ∀ (e : EntrypointRaised) (t : FileTree), True →
      ∀ c, (Except.error e : Except EntrypointRaised CapturedFile) = .ok c → c.digest = sha256 c.data := by
    intro e t _ c hc
    cases hc
  have hopen : ∀ fd, TreeEnsures M (fun _ => True) (captureOpen sha256 fd) fun out _ =>
      ∀ c, out = .ok c → c.digest = sha256 c.data := by
    intro fd
    show TreeEnsures M (fun _ => True) ((Os.fstat fd).bind _) _
    refine ensures_reads_bind hM treeStable_pure (reads_fstat fd) hraised fun before => ?_
    split
    · exact ensures_raise treeStable_pure (hraised _)
    show TreeEnsures M _ ((Os.read fd _).bind _) _
    refine ensures_reads_bind hM treeStable_pure (reads_read fd _) hraised fun data => ?_
    show TreeEnsures M _ ((Os.fstat fd).bind _) _
    refine ensures_reads_bind hM treeStable_pure (reads_fstat fd) hraised fun after => ?_
    split
    · exact ensures_raise treeStable_pure (hraised _)
    · refine ensures_ret treeStable_pure fun t _ c hc => ?_
      obtain rfl := Except.ok.inj hc
      rfl
  show TreeEnsures M (fun _ => True) ((Os.openRead name).bind _) _
  refine ensures_reads_bind hM treeStable_pure (reads_openRead name) hraised fun fd => ?_
  exact ensures_lastly (hopen fd) (fun _ => ensures_of_reads hM treeStable_pure (reads_close fd))
    (fun _ _ => treeStable_pure) (fun _ _ _ h => h) fun out e s _ => hraised e s.tree trivial

/-- A capture, before a program that is told what was captured. -/
theorem ensures_capture_bind (hM : FileMachine device M) (hP : TreeStable M P)
    (hentry : ∀ i content, TreeStable M fun t => t.names name = some i ∧ t.inodes i = content)
    {φ : CapturedFile → Prop} (hφ : ∀ t c, P t → t.Describes name c → c.digest = sha256 c.data → φ c) {α : Type}
    {Q : Except EntrypointRaised α → FileTree → Prop} {f : CapturedFile → FileProg α}
    (herror : ∀ e t, P t → Q (.error e) t) (hf : ∀ c, φ c → TreeEnsures M P (f c) Q) :
    TreeEnsures M P ((capture sha256 name).bind f) Q := by
  intro s out s' hs hrun
  rcases runs_bind.mp hrun with ⟨e, s₁, hcapture, rfl, moves⟩ | ⟨c, s₁, hcapture, hrest⟩
  · have h := ensures_capture hM hP hentry s _ s₁ hs hcapture
    exact herror e _ (Stable.moves hP h.1 moves)
  · have h := ensures_capture hM hP hentry s _ s₁ hs hcapture
    exact hf c (hφ _ c h.1 (h.2 c rfl).1 (h.2 c rfl).2) s₁ out s' h.1 hrest

end Capture

/-! ### Removing and writing -/

section Writing

variable {α : Type} {P E : FileTree → Prop} {Q : Except EntrypointRaised α → FileTree → Prop}
variable {name : EntrypointName}

/-- What `os.stat` of a name says, when the assertion says it of the name. -/
theorem ensures_lstat (hM : FileMachine device M) (hP : TreeStable M P) {φ : Nat → Prop} {ψ : Prop}
    (hφ : ∀ t i, P t → t.names name = some i → φ i) (hψ : ∀ t, P t → t.names name = none → ψ)
    {f : Option FileStat → FileProg α} (herror : ∀ t, P t → Q (.error .osError) t)
    (hsome : ∀ st : FileStat, φ st.inode → st.device = device name.directory → TreeEnsures M P (f (some st)) Q)
    (hnone : ψ → TreeEnsures M P (f none) Q) : TreeEnsures M P ((lstat? name).bind f) Q := by
  refine ensures_call (o := FileOp.lstat name)
    (R := fun r s => P s.tree ∧ (∀ st, r = .ok st → φ st.inode ∧ st.device = device name.directory) ∧
      ∀ e, r = .error e → (e = .fileNotFoundError ∧ ψ) ∨ e = .osError) hP ?_ ?_
  · intro s r s' hs hstep
    rw [hM.step] at hstep
    refine ⟨tree_of_reads (.lstat name) trivial hstep ▸ hs, ?_, ?_⟩
    · rintro st rfl
      rcases hstep with ⟨i, mtime, ctime, hi, hst, -⟩ | ⟨-, hst, -⟩ | ⟨hst, -⟩
      · obtain rfl := Except.ok.inj hst
        exact ⟨hφ _ i hs hi, rfl⟩
      · cases hst
      · cases hst
    · rintro e rfl
      rcases hstep with ⟨_, _, _, _, hst, -⟩ | ⟨hmissing, hst, -⟩ | ⟨hst, -⟩
      · cases hst
      · exact .inl ⟨Except.error.inj hst, hψ _ hs hmissing⟩
      · exact .inr (Except.error.inj hst)
  · rintro (e | st) s out s' ⟨hs, hok, hraised⟩ hrun
    · rcases hraised e rfl with ⟨rfl, hmissing⟩ | rfl
      · exact hnone hmissing s out s' hs hrun
      · have h : TreeEnsures M P (throw .osError : FileProg α) Q := ensures_raise hP fun t ht => herror t ht
        exact h s out s' hs hrun
    · exact hsome st (hok st rfl).1 (hok st rfl).2 s out s' hs hrun

/-- An owned file is removed, or left. -/
theorem ensures_removeOwned (hM : FileMachine device M) (hP : TreeStable M P) (hE : TreeStable M E)
    (hleft : ∀ t, P t → E t) (hremoved : ∀ t, P t → E (t.rename name none)) (fd : Nat) :
    TreeEnsures M P (removeOwned name fd) fun _ t => E t := by
  refine ensures_lstat (φ := fun _ => True) (ψ := True) hM hP (fun _ _ _ _ => trivial) (fun _ _ _ => trivial)
    (fun t ht => hleft t ht) ?_ ?_
  · intro observed _ _
    show TreeEnsures M P ((perform (FileOp.fstat fd)).bind _) _
    refine ensures_read_bind (φ := fun _ => True) hM hP (.fstat fd) trivial (fun _ _ _ _ _ => trivial)
      (fun e t ht => hleft t ht) ?_
    intro owned _
    split
    · exact ensures_raise hP fun t ht => hleft t ht
    · refine ensures_perform hP ?_ fun _ => hE
      intro s r s' hs hstep
      rw [hM.step] at hstep
      rcases hstep with ⟨-, -, rfl⟩ | ⟨-, rfl⟩
      · exact hremoved _ hs
      · exact hleft _ hs
  · intro _
    exact ensures_ret hP fun t ht => hleft t ht

variable {W : Nat → FileTree → Prop}

/-- A file that has been written has the bytes and the sanitized mode. -/
def FileTree.Written (t : FileTree) (i : Nat) (source current : CapturedFile) : Prop :=
  t.inodes i = ⟨source.data, 0o100000 ||| sanitizedMode current.mode⟩

/-- Each operation of the write keeps `W`, and the last one finds the file complete. -/
theorem ensures_writeOpened (hM : FileMachine device M)
    (hW : ∀ i content, TreeStable M fun t => W i t ∧ t.inodes i = content)
    (hput : ∀ t i content, W i t → W i (t.put i content)) (source current : CapturedFile) (fd : Nat) :
    TreeEnsures M (W fd) (writeOpened fd source.data (sanitizedMode current.mode)) fun out t =>
      W fd t ∧ ∀ i, out = .ok i → i = fd ∧ t.Written i source current := by
  have hWfd : TreeStable M (W fd) := fun s s' hs hmove => (hW fd _ s s' ⟨hs, rfl⟩ hmove).1
  have hfail : ∀ (e : EntrypointRaised) t, W fd t → W fd t ∧
      ∀ i, (Except.error e : Except EntrypointRaised Nat) = .ok i → i = fd ∧ t.Written i source current := by
    intro e t ht
    refine ⟨ht, ?_⟩
    intro i hi
    cases hi
  show TreeEnsures M (W fd) ((perform (FileOp.write fd source.data)).bind _) _
  refine ensures_op_bind (R := fun _ t => ∃ mode, W fd t ∧ t.inodes fd = ⟨source.data, mode⟩) (E := W fd)
    hM hWfd (.write fd source.data) hWfd ?_ ?_ hfail ?_
  · rintro s u s' hs (⟨-, rfl⟩ | ⟨hraised, -⟩)
    · exact ⟨_, hput _ _ _ hs, FileTree.inodes_put.trans (if_pos rfl)⟩
    · cases hraised
  · rintro s e s' hs (⟨hreturned, -⟩ | ⟨-, data, rfl⟩)
    · cases hreturned
    · exact hput _ _ _ hs
  intro _
  -- only the bytes are known after the write: the mode is set next
  refine ensures_exists fun mode => ?_
  show TreeEnsures M _ ((perform (FileOp.fchmod fd (sanitizedMode current.mode))).bind _) _
  refine ensures_op_bind (R := fun _ t => W fd t ∧ t.Written fd source current) (E := W fd)
    hM (hW fd _) (.fchmod fd (sanitizedMode current.mode)) hWfd ?_ ?_ hfail ?_
  · rintro s u s' ⟨hs, hdata⟩ (⟨-, rfl⟩ | ⟨hraised, -⟩)
    · refine ⟨hput _ _ _ hs, FileTree.inodes_put.trans ?_⟩
      rw [if_pos rfl, hdata]
    · cases hraised
  · rintro s e s' ⟨hs, -⟩ (⟨hreturned, -⟩ | ⟨-, rfl⟩)
    · cases hreturned
    · exact hs
  intro _
  show TreeEnsures M _ ((perform (FileOp.fsync fd)).bind _) _
  refine ensures_read_bind (φ := fun _ => True) hM (hW fd _) (.fsync fd) trivial (fun _ _ _ _ _ => trivial)
    (fun e t ht => hfail e t ht.1) ?_
  intro _ _
  refine ensures_ret (hW fd _) fun t ht => ⟨ht.1, ?_⟩
  intro i hi
  obtain rfl := Except.ok.inj hi
  exact ⟨rfl, ht.2⟩

theorem ensures_discardOpened (hM : FileMachine device M) (hP : TreeStable M P) (hE : TreeStable M E)
    (hleft : ∀ t, P t → E t) (hremoved : ∀ t, P t → E (t.rename name none)) (fd : Nat) (e : EntrypointRaised) :
    TreeEnsures M P (discardOpened name fd e) fun out t => (∀ i, out ≠ .ok i) ∧ E t := by
  rw [discardOpened]
  split
  · have hremove : TreeEnsures M P ((removeOwned name fd).lastly fun _ => Os.close fd) fun _ t => E t :=
      ensures_lastly (T := fun _ s => E s.tree) (ensures_removeOwned hM hP hE hleft hremoved fd)
        (fun _ => (ensures_of_reads hM hE (only_perform trivial) : TreeEnsures M E (Os.close fd) _))
        (fun _ _ => hE) (fun _ _ _ hs => hs) (fun _ _ _ hs => hs)
    refine ensures_bind hremove (fun _ => hE) (fun _ s hs => ⟨nofun, hs⟩) ?_
    intro _
    exact ensures_done hE fun s hs => ⟨nofun, hs⟩
  · exact ensures_raise hP fun t ht => ⟨nofun, hleft t ht⟩

/-- **Writing a file** under a free name: it is written with the sanitized mode, or removed
again where that succeeds.  `W` is what holds while the file is being written. -/
theorem ensures_writeStage (hM : FileMachine device M) (hP : TreeStable M P) (hE : TreeStable M E)
    (hW : ∀ i content, TreeStable M fun t => W i t ∧ t.inodes i = content)
    (hcreate : ∀ t i content, P t → t.names name = none → (∀ other, t.names other ≠ some i) →
      W i ((t.rename name (some i)).put i content))
    (hput : ∀ t i content, W i t → W i (t.put i content)) (hfailed : ∀ t, P t → E t)
    (hleft : ∀ t i, W i t → E t) (hremoved : ∀ t i, W i t → E (t.rename name none))
    (source current : CapturedFile) :
    TreeEnsures M P (writeStage name source current) fun out t =>
      (∀ i, out = .ok i → W i t ∧ t.Written i source current) ∧ ∀ e, out = .error e → E t := by
  show TreeEnsures M P ((perform (FileOp.create name (sanitizedMode current.mode))).bind _) _
  refine ensures_op_bind (R := fun i t => W i t) (E := E) hM hP (.create name (sanitizedMode current.mode))
    hE ?_ ?_ ?_ ?_
  · rintro s i s' hs (⟨j, masked, hfree, hunused, hj, rfl⟩ | ⟨hraised, -⟩)
    · obtain rfl := Except.ok.inj hj
      exact hcreate _ _ _ hs hfree fun other hother => hunused (.inr ⟨other, hother⟩)
    · cases hraised
  · rintro s e s' hs (⟨j, masked, -, -, hreturned, -⟩ | ⟨-, rfl⟩)
    · cases hreturned
    · exact hfailed _ hs
  · intro e t ht
    exact ⟨nofun, fun _ _ => ht⟩
  intro fd
  -- the stage is ours from its creation on; a failure to fill it discards it
  have hWfd : TreeStable M (W fd) := fun s s' hs hmove => (hW fd _ s s' ⟨hs, rfl⟩ hmove).1
  refine ensures_handle (ensures_writeOpened hM hW hput source current fd) ?_ ?_ ?_
  · rintro i s s' ⟨hs, hi⟩ hmove
    obtain ⟨rfl, hcontent⟩ := hi i rfl
    have hmoved := hW i _ s s' ⟨hs, hcontent⟩ hmove
    refine ⟨hmoved.1, ?_⟩
    intro j hj
    obtain rfl := Except.ok.inj hj
    exact ⟨rfl, hmoved.2⟩
  · rintro i s ⟨hs, hi⟩
    obtain ⟨rfl, hcontent⟩ := hi i rfl
    refine ⟨?_, nofun⟩
    intro j hj
    obtain rfl := Except.ok.inj hj
    exact ⟨hs, hcontent⟩
  · intro e
    refine (ensures_discardOpened hM hWfd hE (fun t ht => hleft t fd ht) (fun t ht => hremoved t fd ht) fd e).conseq
      (fun s hs => hs.1) ?_
    rintro out s ⟨hnone, hs⟩
    exact ⟨fun i hi => absurd hi (hnone i), fun _ _ => hs⟩

end Writing

/-! ### Before and after the exchange -/

/-- The new bytes are under the stage name, and nothing has been displaced. -/
structure StageWritten (o : Nat) (t : FileTree) : Prop where
  displaced : t.displaced = []
  stage : t.names .stage = some o
  target : t.names .target ≠ some o

/-- The displaced content is under the stage name, in an inode that is not the repair's own. -/
structure Displaced (o : Nat) (d : InodeContent) (t : FileTree) : Prop where
  displaced : t.displaced = [d]
  stage : ∃ i, t.names .stage = some i ∧ i ≠ o ∧ t.inodes i = d

/-- It is under the recovery name as well. -/
structure Linked (o : Nat) (d : InodeContent) (t : FileTree) : Prop where
  displaced : t.displaced = [d]
  both : ∃ i, t.names .stage = some i ∧ t.names .recovery = some i ∧ i ≠ o ∧ t.inodes i = d

theorem Linked.unlinked {o : Nat} {d : InodeContent} {t : FileTree} (h : Linked o d t) : Displaced o d t := by
  obtain ⟨i, hi, -, hne, hd⟩ := h.both
  exact ⟨h.displaced, i, hi, hne, hd⟩

theorem Linked.recovery {o : Nat} {d : InodeContent} {t : FileTree} (h : Linked o d t) : t.Holds .recovery d := by
  obtain ⟨i, -, hi, -, hd⟩ := h.both
  exact ⟨i, hi, hd⟩

theorem Displaced.holds {o : Nat} {d : InodeContent} {t : FileTree} (h : Displaced o d t) : t.Holds .stage d := by
  obtain ⟨i, hi, -, hd⟩ := h.stage
  exact ⟨i, hi, hd⟩

/-- What a report of a displaced content says, and what the tree holds. -/
def RecoveryReported (current : CapturedFile) (r : EntrypointMaintenanceResult) (t : FileTree) : Prop :=
  ∃ d name, t.displaced = [d] ∧ r.val.recoveryName = some name ∧ name ≠ .target ∧ t.Holds name d ∧
    (r.val.status = .indeterminate ∨ r.val.status = .repaired ∧ d = current.content)

/-- How the repair ends before its finalizer. -/
inductive Ended (o : Nat) (current : CapturedFile) :
    Except EntrypointRaised (EntrypointMaintenanceResult × Bool) → FileTree → Prop where
  | reported {r : EntrypointMaintenanceResult} {t : FileTree} (h : RecoveryReported current r t) :
      Ended o current (.ok (r, true)) t
  | blocked {r : EntrypointMaintenanceResult} {t : FileTree} (hr : r.val.status = .blocked) (h : StageWritten o t) :
      Ended o current (.ok (r, false)) t
  | raised {e : EntrypointRaised} {t : FileTree} (h : StageWritten o t ∨ ∃ d, Displaced o d t) :
      Ended o current (.error e) t

section Races

variable {o : Nat} {d : InodeContent} {source current : CapturedFile}

theorem staged_stable (hM : FileMachine device M) : TreeStable M (StageWritten o) := by
  apply treeStable_of_replaced hM
  intro t i content h hfree
  refine ⟨h.displaced, ?_, ?_⟩
  · rw [FileTree.names_put, FileTree.names_rename, if_neg (by decide)]
    exact h.stage
  · rw [FileTree.names_put, FileTree.names_rename, if_pos rfl]
    intro hio
    exact hfree .stage (h.stage.trans hio.symm)

theorem nothingDisplaced_stable (hM : FileMachine device M) : TreeStable M fun t => t.displaced = [] :=
  treeStable_of_replaced hM fun _ _ _ h _ => h

theorem displacedBy_stable (hM : FileMachine device M) : TreeStable M fun t => t.displaced = [d] :=
  treeStable_of_replaced hM fun _ _ _ h _ => h

theorem displaced_stable (hM : FileMachine device M) : TreeStable M (Displaced o d) := by
  intro s s' hs hmove
  obtain ⟨i, hi, hne, hd⟩ := hs.stage
  have hstage := treeStable_entry hM (show EntrypointName.stage ≠ .target by decide) s s' ⟨hi, hd⟩ hmove
  exact ⟨displacedBy_stable hM s s' hs.displaced hmove, i, hstage.1, hne, hstage.2⟩

theorem linked_stable (hM : FileMachine device M) : TreeStable M (Linked o d) := by
  intro s s' hs hmove
  obtain ⟨i, hi, hi', hne, hd⟩ := hs.both
  have hstage := treeStable_entry hM (show EntrypointName.stage ≠ .target by decide) s s' ⟨hi, hd⟩ hmove
  have hrecovery := treeStable_entry hM (show EntrypointName.recovery ≠ .target by decide) s s' ⟨hi', hd⟩ hmove
  exact ⟨displacedBy_stable hM s s' hs.displaced hmove, i, hstage.1, hrecovery.1, hne, hstage.2⟩

theorem recoveryReported_stable (hM : FileMachine device M) {r : EntrypointMaintenanceResult} :
    TreeStable M (RecoveryReported current r) := by
  rintro s s' ⟨d, name, hd, hname, hne, hholds, hstatus⟩ hmove
  exact ⟨d, name, displacedBy_stable hM s s' hd hmove, hname, hne,
    treeStable_holds hM hne s s' hholds hmove, hstatus⟩

/-- An exchange displaces what the target name has then. -/
theorem ensures_exchange (hM : FileMachine device M) {α : Type}
    {Q : Except EntrypointRaised α → FileTree → Prop} {f : Except EntrypointRaised Unit → FileProg α}
    (hok : ∀ d, TreeEnsures M (Displaced o d) (f (.ok ())) Q)
    (herror : ∀ e, TreeEnsures M (StageWritten o) (f (.error e)) Q) :
    TreeEnsures M (StageWritten o) (Os.exchange.andThen f) Q := by
  refine ensures_call (o := FileOp.exchange) (R := fun r s =>
    (r = .ok () ∧ ∃ d, Displaced o d s.tree) ∨ ((∃ e, r = .error e) ∧ StageWritten o s.tree)) (staged_stable hM) ?_ ?_
  · intro s r s' hs hstep
    rw [hM.step] at hstep
    rcases hstep with ⟨atTarget, atStage, htarget, hstage, rfl, rfl⟩ | ⟨rfl, rfl⟩
    · refine .inl ⟨rfl, s.tree.inodes atTarget, ?_, atTarget, ?_, ?_, rfl⟩
      · rw [FileTree.displaced_exchanged, hs.displaced]
        rfl
      · rw [FileTree.names_exchanged, if_pos rfl]
      · intro h
        exact hs.target (h ▸ htarget)
    · exact .inr ⟨⟨_, rfl⟩, hs⟩
  · rintro r s out s' (⟨rfl, d, hs⟩ | ⟨⟨e, rfl⟩, hs⟩) hrun
    · exact hok d s out s' hs hrun
    · exact herror e s out s' hs hrun

/-- A link to the recovery name. -/
theorem ensures_link (hM : FileMachine device M) {α : Type}
    {Q : Except EntrypointRaised α → FileTree → Prop} {f : Except EntrypointRaised Unit → FileProg α}
    (hok : TreeEnsures M (Linked o d) (f (.ok ())) Q)
    (herror : ∀ e, TreeEnsures M (Displaced o d) (f (.error e)) Q) :
    TreeEnsures M (Displaced o d) (Os.link.andThen f) Q := by
  refine ensures_call (o := FileOp.link) (R := fun r s =>
    (r = .ok () ∧ Linked o d s.tree) ∨ ((∃ e, r = .error e) ∧ Displaced o d s.tree)) (displaced_stable hM) ?_ ?_
  · intro s r s' hs hstep
    rw [hM.step] at hstep
    rcases hstep with ⟨i, hi, hfree, rfl, rfl⟩ | ⟨rfl, rfl⟩
    · obtain ⟨j, hj, hne, hd⟩ := hs.stage
      obtain rfl := Option.some.inj (hi.symm.trans hj)
      refine .inl ⟨rfl, hs.displaced, i, ?_, ?_, hne, hd⟩
      · rw [FileTree.names_rename, if_neg (by decide)]
        exact hi
      · rw [FileTree.names_rename, if_pos rfl]
    · exact .inr ⟨⟨_, rfl⟩, hs⟩
  · rintro r s out s' (⟨rfl, hs⟩ | ⟨⟨e, rfl⟩, hs⟩) hrun
    · exact hok s out s' hs hrun
    · exact herror e s out s' hs hrun

/-! ### The steps of a repair -/

theorem StageWritten.rename_backup {t : FileTree} (h : StageWritten o t) (i : Option Nat) :
    StageWritten o (t.rename .backup i) where
  displaced := h.displaced
  stage := by
    rw [FileTree.names_rename, if_neg (by decide)]
    exact h.stage
  target := by
    rw [FileTree.names_rename, if_neg (by decide)]
    exact h.target

theorem StageWritten.put {t : FileTree} (h : StageWritten o t) (i : Nat) (content : InodeContent) :
    StageWritten o (t.put i content) :=
  ⟨h.displaced, h.stage, h.target⟩

theorem ensures_writeSnapshot (hM : FileMachine device M) :
    TreeEnsures M (StageWritten o) (writeSnapshot current) fun _ t => StageWritten o t := by
  have hstaged : TreeStable M (StageWritten o) := staged_stable hM
  have hwrite : TreeEnsures M (StageWritten o) (writeStage .backup current current) fun _ t => StageWritten o t := by
    refine (ensures_writeStage (E := StageWritten o) (W := fun i t => StageWritten o t ∧ t.names .backup = some i)
      hM hstaged hstaged ?_ ?_ (fun t i content h => ⟨h.1.put i content, h.2⟩) (fun _ h => h) (fun _ _ h => h.1)
      (fun t i h => h.1.rename_backup none) current current).conseq (fun _ hs => hs) ?_
    · rintro i content s s' ⟨⟨hs, hi⟩, hcontent⟩ hmove
      have hentry := treeStable_entry hM (show EntrypointName.backup ≠ .target by decide) s s' ⟨hi, hcontent⟩ hmove
      exact ⟨⟨hstaged s s' hs hmove, hentry.1⟩, hentry.2⟩
    · intro t i content h _ _
      refine ⟨(h.rename_backup (some i)).put i content, ?_⟩
      rw [FileTree.names_put, FileTree.names_rename, if_pos rfl]
    · rintro (e | i) s ⟨hok, herror⟩
      · exact herror e rfl
      · exact (hok i rfl).1.1
  refine ensures_bind hwrite (fun _ => hstaged) (fun _ _ hs => hs) ?_
  intro fd
  exact ensures_of_reads hM hstaged (only_bind (only_perform trivial) fun _ => only_perform trivial)

/-- The stage name loses its inode when nothing fails, and the recovery name has it by then. -/
theorem ensures_removeCaptured (hM : FileMachine device M) (displaced : CapturedFile) :
    TreeEnsures M (Linked o d) (removeCaptured .stage displaced) fun out t =>
      (t.displaced = [d] ∧ t.Holds .recovery d) ∧ ∀ e, out = .error e → Linked o d t := by
  have hdone : ∀ out : Except EntrypointRaised Unit, TreeStable M fun t =>
      (t.displaced = [d] ∧ t.Holds .recovery d) ∧ ∀ e, out = .error e → Linked o d t := by
    rintro out s s' ⟨⟨hd, hholds⟩, herror⟩ hmove
    exact ⟨⟨displacedBy_stable hM s s' hd hmove, treeStable_holds hM (by decide) s s' hholds hmove⟩,
      fun e he => linked_stable hM s s' (herror e he) hmove⟩
  show TreeEnsures M (Linked o d) ((perform (FileOp.lstat .stage)).bind _) _
  refine ensures_read_bind (φ := fun _ => True) hM (linked_stable hM) (.lstat .stage) trivial
    (fun _ _ _ _ _ => trivial) (fun e t ht => ⟨⟨ht.displaced, ht.recovery⟩, fun _ _ => ht⟩) ?_
  intro observed _
  split
  · exact ensures_raise (linked_stable hM) fun t ht => ⟨⟨ht.displaced, ht.recovery⟩, fun _ _ => ht⟩
  · refine ensures_perform (linked_stable hM) ?_ hdone
    intro s r s' hs hstep
    rw [hM.step] at hstep
    rcases hstep with ⟨-, rfl, rfl⟩ | ⟨rfl, rfl⟩
    · refine ⟨⟨hs.displaced, ?_⟩, nofun⟩
      obtain ⟨i, hi, hd⟩ := hs.recovery
      exact ⟨i, by rw [FileTree.names_rename, if_neg (by decide)]; exact hi, hd⟩
    · exact ⟨⟨hs.displaced, hs.recovery⟩, fun _ _ => hs⟩

theorem ensures_moveDisplaced (hM : FileMachine device M) (displaced : CapturedFile) :
    TreeEnsures M (Linked o d) (moveDisplaced sha256 displaced) fun out t =>
      (t.displaced = [d] ∧ t.Holds .recovery d) ∧ (out ≠ .ok true → Linked o d t) := by
  have hlinked : ∀ (out : Except EntrypointRaised Bool) t, Linked o d t →
      (t.displaced = [d] ∧ t.Holds .recovery d) ∧ (out ≠ .ok true → Linked o d t) :=
    fun _ t ht => ⟨⟨ht.displaced, ht.recovery⟩, fun _ => ht⟩
  refine ensures_bind (ensures_of_reads hM (linked_stable hM) (reads_capture .recovery))
    (fun _ => linked_stable hM) (fun e s hs => hlinked _ s.tree hs) ?_
  intro recovery
  split
  · exact ensures_done (linked_stable hM) fun s hs => hlinked _ s.tree hs
  · refine ensures_bind (ensures_removeCaptured hM displaced) ?_ ?_ ?_
    · rintro e s s' ⟨-, herror⟩ hmove
      have h := linked_stable hM s s' (herror e rfl) hmove
      exact ⟨⟨h.displaced, h.recovery⟩, fun _ _ => h⟩
    · exact fun e s hs => hlinked _ s.tree (hs.2 e rfl)
    · intro u
      refine ensures_done ?_ fun s hs => ⟨hs.1, fun h => absurd rfl h⟩
      rintro s s' ⟨⟨hd, hholds⟩, -⟩ hmove
      exact ⟨⟨displacedBy_stable hM s s' hd hmove, treeStable_holds hM (by decide) s s' hholds hmove⟩, nofun⟩

theorem ensures_preserveDisplaced (hM : FileMachine device M) {displaced : CapturedFile}
    (hcurrent : d = current.content) :
    TreeEnsures M (Displaced o d) (preserveDisplaced sha256 displaced) (Ended o current) := by
  -- a report under the stage name
  have hstage : ∀ (blocker : EntrypointMaintenanceBlocker) t, Displaced o d t →
      Ended o current (.ok (.indeterminate blocker .backup .stage, true)) t :=
    fun blocker t ht => .reported ⟨d, .stage, ht.displaced, rfl, by decide, ht.holds, .inl rfl⟩
  refine ensures_link hM ?_ ?_
  · refine ensures_andThen (ensures_moveDisplaced hM displaced) ?_
    rintro (e | _ | _)
    · have hlinked : TreeEnsures M (Linked o d) (if e.isListed then
          ret (EntrypointMaintenanceResult.indeterminate EntrypointBlocker.recoveryFailed .backup .recovery, true)
          else throw e) (Ended o current) := by
        split
        · refine ensures_ret (linked_stable hM) fun t ht => .reported ?_
          exact ⟨d, .recovery, ht.displaced, rfl, by decide, ht.recovery, .inl rfl⟩
        · exact ensures_raise (linked_stable hM) fun t ht => .raised (.inr ⟨d, ht.unlinked⟩)
      exact hlinked.conseq (fun s hs => hs.2 nofun) fun _ _ h => h
    · refine (ensures_ret (linked_stable hM) fun t ht => hstage EntrypointBlocker.recoveryReplaced t
        ht.unlinked).conseq (fun s hs => hs.2 (by decide)) fun _ _ h => h
    · refine ensures_done ?_ ?_
      · rintro s s' ⟨⟨hd, hholds⟩, hnot⟩ hmove
        exact ⟨⟨displacedBy_stable hM s s' hd hmove, treeStable_holds hM (by decide) s s' hholds hmove⟩,
          fun h => absurd rfl h⟩
      · rintro s ⟨⟨hd, hholds⟩, -⟩
        exact .reported ⟨d, .recovery, hd, rfl, by decide, hholds, .inr ⟨rfl, hcurrent⟩⟩
  · intro e
    show TreeEnsures M (Displaced o d) (if e.isListed then
      ret (EntrypointMaintenanceResult.indeterminate EntrypointBlocker.recoveryFailed .backup .stage, true)
      else throw e) _
    split
    · exact ensures_ret (displaced_stable hM) fun t ht => hstage _ t ht
    · exact ensures_raise (displaced_stable hM) fun t ht => .raised (.inr ⟨d, ht⟩)

/-- What is looked at after the exchange does not end the displacement, and a
displaced file that passes is the current one. -/
theorem ensures_inspectPublished (hM : FileMachine device M) :
    TreeEnsures M (Displaced o d) (inspectPublished sha256 source current) fun out t =>
      Displaced o d t ∧ ∀ c, out = .ok (some c) → d = current.content := by
  have hother : ∀ out : Except EntrypointRaised (Option CapturedFile), (∀ c, out ≠ .ok (some c)) →
      ∀ t, Displaced o d t → Displaced o d t ∧ ∀ c, out = .ok (some c) → d = current.content :=
    fun out hout t ht => ⟨ht, fun c hc => absurd hc (hout c)⟩
  have hraised : ∀ e t, Displaced o d t → Displaced o d t ∧
      ∀ c, (Except.error e : Except EntrypointRaised (Option CapturedFile)) = .ok (some c) → d = current.content :=
    fun e => hother (.error e) (by simp)
  have hstable : TreeStable M (Displaced o d) := displaced_stable hM
  show TreeEnsures M _ ((Os.fsyncDirectory .target).bind _) _
  refine ensures_reads_bind hM hstable (reads_fsyncDirectory .target) hraised fun _ => ?_
  show TreeEnsures M _ (verifyParents.bind _) _
  refine ensures_reads_bind hM hstable reads_verifyParents hraised fun _ => ?_
  show TreeEnsures M _ ((capture sha256 .stage).bind _) _
  refine ensures_capture_bind (φ := fun c => c.content = d) hM hstable
    (fun i content => treeStable_entry hM (by decide)) ?_ hraised fun displaced hcontent => ?_
  · rintro t c ht ⟨hi, hc⟩ -
    obtain ⟨i, hi', -, hd⟩ := ht.stage
    obtain rfl := Option.some.inj (hi.symm.trans hi')
    exact hc.symm.trans hd
  split
  · exact ensures_ret hstable (hother _ (by simp))
  rename_i hcurrent
  show TreeEnsures M _ ((capture sha256 .target).bind _) _
  refine ensures_reads_bind hM hstable (reads_capture .target) hraised fun published => ?_
  split
  · exact ensures_raise hstable (hraised _)
  show TreeEnsures M _ ((capture sha256 .backup).bind _) _
  refine ensures_reads_bind hM hstable (reads_capture .backup) hraised fun saved => ?_
  split
  · exact ensures_raise hstable (hraised _)
  · refine ensures_ret hstable fun t ht => ⟨ht, fun c _ => ?_⟩
    push Not at hcurrent
    rw [← hcontent, hcurrent]

theorem reads_inspectPublished : (inspectPublished sha256 source current).Only FileOp.Reads := by
  refine only_bind (reads_fsyncDirectory .target) fun _ => only_bind reads_verifyParents fun _ => ?_
  refine only_bind (reads_capture .stage) fun displaced => ?_
  split
  · trivial
  refine only_bind (reads_capture .target) fun published => ?_
  split
  · trivial
  refine only_bind (reads_capture .backup) fun saved => ?_
  split <;> trivial

theorem ensures_verifyPublished (hM : FileMachine device M) :
    TreeEnsures M (Displaced o d) (verifyPublished sha256 source current) (Ended o current) := by
  have hstage : ∀ (blocker : EntrypointMaintenanceBlocker) t, Displaced o d t →
      Ended o current (.ok (.indeterminate blocker .backup .stage, true)) t :=
    fun blocker t ht => .reported ⟨d, .stage, ht.displaced, rfl, by decide, ht.holds, .inl rfl⟩
  refine ensures_andThen (ensures_inspectPublished hM) ?_
  rintro (e | _ | displaced)
  · have hraised : TreeEnsures M (Displaced o d) (if e.isListed then
        ret (EntrypointMaintenanceResult.indeterminate EntrypointBlocker.durabilityUnknown .backup .stage, true)
        else throw e) (Ended o current) := by
      split
      · exact ensures_ret (displaced_stable hM) fun t ht => hstage _ t ht
      · exact ensures_raise (displaced_stable hM) fun t ht => .raised (.inr ⟨d, ht⟩)
    exact hraised.conseq (fun s hs => hs.1) fun _ _ h => h
  · exact (ensures_ret (displaced_stable hM) fun t ht => hstage EntrypointBlocker.competingBytes t
      ht).conseq (fun s hs => hs.1) fun _ _ h => h
  · intro s out s' hs hrun
    exact ensures_preserveDisplaced hM (hs.2 displaced rfl) s out s' hs.1 hrun

theorem ensures_exchangeStage (hM : FileMachine device M) :
    TreeEnsures M (StageWritten o) (exchangeStage sha256 source current) (Ended o current) := by
  refine ensures_exchange hM (fun d => ensures_verifyPublished hM) fun e => ?_
  show TreeEnsures M (StageWritten o) (if e.isOsError then
    ret (EntrypointMaintenanceResult.blocked EntrypointBlocker.publicationUnavailable .backup, false)
    else throw e) _
  split
  · exact ensures_ret (staged_stable hM) fun t ht => .blocked rfl ht
  · exact ensures_raise (staged_stable hM) fun t ht => .raised (.inl ht)

theorem reads_inspectUnpublished (saved : CapturedFile) :
    (inspectUnpublished sha256 saved source current).Only FileOp.Reads := by
  refine only_bind (reads_capture .target) fun latest => ?_
  split
  · trivial
  · refine only_bind (only_perform trivial) fun again => ?_
    split
    · trivial
    · exact only_perform trivial

theorem ensures_verifyUnpublished (hM : FileMachine device M) :
    TreeEnsures M (StageWritten o) (verifyUnpublished sha256 source current) (Ended o current) := by
  have hstable : TreeStable M (StageWritten o) := staged_stable hM
  have hraised : ∀ e t, StageWritten o t → Ended o current (.error e) t := fun e t ht => .raised (.inl ht)
  show TreeEnsures M _ ((capture sha256 .backup).bind _) _
  refine ensures_reads_bind hM hstable (reads_capture .backup) hraised fun saved => ?_
  refine ensures_andThen (ensures_of_reads hM hstable (reads_inspectUnpublished saved)) ?_
  rintro (e | u)
  · show TreeEnsures M (StageWritten o) (if e.isListed then
      ret (EntrypointMaintenanceResult.blocked EntrypointBlocker.prepublicationVerificationFailed .backup, false)
      else throw e) _
    split
    · exact ensures_ret hstable fun t ht => .blocked rfl ht
    · exact ensures_raise hstable (hraised e)
  · exact ensures_exchangeStage hM

theorem ensures_snapshotFailed (hM : FileMachine device M) (e : EntrypointRaised) :
    TreeEnsures M (StageWritten o) (snapshotFailed sha256 current e) (Ended o current) := by
  have hstable : TreeStable M (StageWritten o) := staged_stable hM
  have hraised : ∀ e t, StageWritten o t → Ended o current (.error e) t := fun e t ht => .raised (.inl ht)
  refine ensures_andThen (ensures_of_reads hM hstable (reads_capture .backup)) ?_
  rintro (again | saved)
  · show TreeEnsures M (StageWritten o) (if again.isListed then throw e else throw again) _
    split <;> exact ensures_raise hstable (hraised _)
  · show TreeEnsures M (StageWritten o) (if sameSnapshot saved current then
      ret (EntrypointMaintenanceResult.blocked EntrypointBlocker.backupSyncFailed .backup, false) else throw e) _
    split
    · exact ensures_ret hstable fun t ht => .blocked rfl ht
    · exact ensures_raise hstable (hraised _)

/-- **From the staged file to the end**, before the finalizer. -/
theorem ensures_publishStaged (hM : FileMachine device M) :
    TreeEnsures M (StageWritten o) (publishStaged sha256 source current) (Ended o current) := by
  refine ensures_andThen (ensures_writeSnapshot hM) ?_
  rintro (e | u)
  · show TreeEnsures M (StageWritten o) (if e.isOsError then snapshotFailed sha256 current e else throw e) _
    split
    · exact ensures_snapshotFailed hM e
    · exact ensures_raise (staged_stable hM) fun t ht => .raised (.inl ht)
  · exact ensures_verifyUnpublished hM

/-! ### The finalizer -/

/-- Whatever was displaced has a name, and not the one that others replace. -/
def FileTree.Retains (t : FileTree) : Prop := ∀ d ∈ t.displaced, ∃ name, name ≠ .target ∧ t.Holds name d

/-- How the repair ends. -/
inductive Settled (current : CapturedFile) :
    Except EntrypointRaised EntrypointMaintenanceResult → FileTree → Prop where
  | reported {r : EntrypointMaintenanceResult} {t : FileTree} (h : RecoveryReported current r t) :
      Settled current (.ok r) t
  | blocked {r : EntrypointMaintenanceResult} {t : FileTree} (hr : r.val.status = .blocked)
      (h : t.displaced = []) : Settled current (.ok r) t
  | raised {e : EntrypointRaised} {t : FileTree} (h : t.Retains) : Settled current (.error e) t

theorem retains_stable (hM : FileMachine device M) : TreeStable M FileTree.Retains := by
  apply treeStable_of_replaced hM
  intro t i content h hfree d hd
  obtain ⟨name, hname, j, hj, hholds⟩ := h d hd
  have hij : j ≠ i := fun h => hfree name (h ▸ hj)
  exact ⟨name, hname, j, by simp [hname, hj, hholds, hij]⟩

theorem settled_stable (hM : FileMachine device M) {out : Except EntrypointRaised EntrypointMaintenanceResult} :
    TreeStable M (Settled current out) := by
  intro s s' hs hmove
  cases hs with
  | reported h => exact .reported (recoveryReported_stable hM s s' h hmove)
  | blocked hr h => exact .blocked hr (nothingDisplaced_stable hM s s' h hmove)
  | raised h => exact .raised (retains_stable hM s s' h hmove)

theorem RecoveryReported.retains {r : EntrypointMaintenanceResult} {t : FileTree}
    (h : RecoveryReported current r t) : t.Retains := by
  obtain ⟨d, name, hd, -, hname, hholds, -⟩ := h
  intro d' hd'
  rw [hd, List.mem_singleton] at hd'
  exact ⟨name, hname, hd' ▸ hholds⟩

theorem Displaced.retains {t : FileTree} (h : Displaced o d t) : t.Retains := by
  intro d' hd'
  rw [h.displaced, List.mem_singleton] at hd'
  exact ⟨.stage, by decide, hd' ▸ h.holds⟩

theorem retains_of_nothing {t : FileTree} (h : t.displaced = []) : t.Retains := by
  intro d hd
  rw [h] at hd
  cases hd

theorem Settled.retains {out : Except EntrypointRaised EntrypointMaintenanceResult} {t : FileTree}
    (h : Settled current out t) : t.Retains := by
  cases h with
  | reported h => exact h.retains
  | blocked hr h => exact retains_of_nothing h
  | raised h => exact h

/-- The stage file is removed while it is the repair's own. -/
theorem ensures_removeOwned_staged (hM : FileMachine device M) :
    TreeEnsures M (StageWritten o) (removeOwned .stage o) fun _ t => t.displaced = [] :=
  ensures_removeOwned hM (staged_stable hM) (nothingDisplaced_stable hM)
    (fun _ h => h.displaced) (fun _ h => h.displaced) o

/-- Another file is not. -/
theorem ensures_removeOwned_other (hM : FileMachine device M) {P : FileTree → Prop} (hP : TreeStable M P)
    (hne : ∀ t i, P t → t.names .stage = some i → i ≠ o) :
    TreeEnsures M P (removeOwned .stage o) fun _ t => P t := by
  refine ensures_lstat (φ := fun i => i ≠ o) (ψ := True) hM hP hne (fun _ _ _ => trivial) (fun t ht => ht) ?_ ?_
  · intro observed hobserved _
    show TreeEnsures M _ ((perform (FileOp.fstat o)).bind _) _
    refine ensures_read_bind (φ := fun owned : FileStat => owned.inode = o) hM hP (.fstat o) trivial ?_
      (fun e t ht => ht) ?_
    · rintro s owned s' hs (⟨_, _, howned, -⟩ | ⟨howned, -⟩)
      · obtain rfl := Except.ok.inj howned
        rfl
      · cases howned
    · intro owned howned
      split
      · exact ensures_raise hP fun t ht => ht
      · rename_i hsame
        push Not at hsame
        -- the name has another inode than the descriptor
        exact absurd ((congrArg Prod.snd hsame).trans howned) hobserved
  · intro _
    exact ensures_ret hP fun t ht => ht

theorem ensures_removeOwned_displaced (hM : FileMachine device M) :
    TreeEnsures M (Displaced o d) (removeOwned .stage o) fun _ t => Displaced o d t := by
  refine ensures_removeOwned_other hM (displaced_stable hM) ?_
  rintro t i ht hi
  obtain ⟨j, hj, hne, -⟩ := ht.stage
  obtain rfl := Option.some.inj (hi.symm.trans hj)
  exact hne

/-- What holds after the removal, whatever its outcome, holds after the finalizer. -/
theorem ensures_removeAndClose (hM : FileMachine device M) {P E : FileTree → Prop} (hE : TreeStable M E)
    (h : TreeEnsures M P (removeOwned .stage o) fun _ t => E t) :
    TreeEnsures M P ((removeStage o).bind fun _ => Os.close o) fun _ t => E t := by
  have hremove : TreeEnsures M P (removeStage o) fun _ t => E t := by
    refine ensures_handle h (fun _ => hE) (fun _ _ hs => hs) fun e => ?_
    split
    · exact ensures_ret hE fun t ht => ht
    · exact ensures_raise hE fun t ht => ht
  exact ensures_bind hremove (fun _ => hE) (fun _ _ hs => hs) fun _ => ensures_of_reads hM hE (reads_close o)

theorem ensures_finishStage (hM : FileMachine device M)
    (out : Except EntrypointRaised (EntrypointMaintenanceResult × Bool)) :
    TreeEnsures M (Ended o current out) (finishStage o out) fun _ t => Settled current (out.map Prod.fst) t := by
  intro s last s' hs hrun
  cases hs with
  | reported h => exact .reported (ensures_of_reads hM (recoveryReported_stable hM) (reads_close o) s last s' h hrun)
  | blocked hr h =>
    exact .blocked hr (ensures_removeAndClose hM (nothingDisplaced_stable hM) (ensures_removeOwned_staged hM)
      s last s' h hrun)
  | raised h =>
    rcases h with h | ⟨d, h⟩
    · exact .raised (retains_of_nothing (ensures_removeAndClose hM (nothingDisplaced_stable hM)
        (ensures_removeOwned_staged hM) s last s' h hrun))
    · exact .raised (ensures_removeAndClose hM (displaced_stable hM) (ensures_removeOwned_displaced hM)
        s last s' h hrun).retains

/-- The new bytes have been written under the stage name. -/
theorem ensures_writeStage_stage (hM : FileMachine device M) :
    TreeEnsures M (fun t => t.displaced = []) (writeStage .stage source current) fun out t =>
      (∀ i, out = .ok i → StageWritten i t) ∧ ∀ e, out = .error e → t.displaced = [] := by
  have hnothing : TreeStable M fun t => t.displaced = [] := nothingDisplaced_stable hM
  refine (ensures_writeStage (E := fun t => t.displaced = []) (W := fun i t => StageWritten i t)
    hM hnothing hnothing ?_ ?_ (fun t i content h => h.put i content) (fun _ h => h) (fun _ _ h => h.displaced)
    (fun t i h => h.displaced) source current).conseq (fun _ hs => hs) ?_
  · rintro i content s s' ⟨hs, hcontent⟩ hmove
    have hentry := treeStable_entry hM (show EntrypointName.stage ≠ .target by decide) s s' ⟨hs.stage, hcontent⟩ hmove
    exact ⟨staged_stable hM s s' hs hmove, hentry.2⟩
  · intro t i content h _ hfree
    refine ⟨h, ?_, ?_⟩
    · rw [FileTree.names_put, FileTree.names_rename, if_pos rfl]
    · rw [FileTree.names_put, FileTree.names_rename, if_neg (by decide)]
      exact hfree .target
  · rintro out s ⟨hok, herror⟩
    exact ⟨fun i hi => (hok i hi).1, herror⟩

/-- The repair of a captured target. -/
theorem ensures_publishCaptured (hM : FileMachine device M) :
    TreeEnsures M (fun t => t.displaced = []) (publishCaptured sha256 source current) (Settled current) := by
  refine ensures_bind (ensures_writeStage_stage hM) ?_ ?_ fun o => ?_
  · rintro e s s' ⟨-, hs⟩ hmove
    exact ⟨nofun, fun _ _ => nothingDisplaced_stable hM s s' (hs e rfl) hmove⟩
  · exact fun e s hs => .raised (retains_of_nothing (hs.2 e rfl))
  · have hfinished : TreeEnsures M (StageWritten o) ((publishStaged sha256 source current).lastly (finishStage o))
        fun out t => Settled current (out.map Prod.fst) t :=
      ensures_lastly (ensures_publishStaged hM) (ensures_finishStage hM) (fun _ _ => settled_stable hM)
        (fun _ _ _ hs => hs) fun _ _ _ hs => .raised hs.retains
    refine (ensures_bind hfinished (fun _ => settled_stable hM) (fun _ _ hs => hs) ?_).conseq
      (fun s hs => hs.1 o rfl) fun _ _ h => h
    intro finished
    exact ensures_ret (settled_stable hM) fun t ht => ht

end Races

/-- What is true of the outcome of a repair and of the tree at its end. -/
structure Preserves (request : EntrypointRequest) (sha256 : List UInt8 → Sha256)
    (out : Except EntrypointRaised EntrypointMaintenanceResult) (t : FileTree) : Prop where
  /-- A displaced content has a name that others do not replace. -/
  retains : t.Retains
  /-- Nothing was displaced, or what was displaced is what the report names. -/
  reports : ∀ r, out = .ok r →
    ((r.val.status = .matching ∨ r.val.status = .blocked) ∧ t.displaced = []) ∨
    ∃ d name, t.displaced = [d] ∧ r.val.recoveryName = some name ∧ name ≠ .target ∧ t.Holds name d ∧
      (r.val.status = .indeterminate ∨ r.val.status = .repaired ∧ sha256 d.data = request.expectedCurrent)

theorem Settled.preserves {request : EntrypointRequest} {current : CapturedFile} {t : FileTree}
    {out : Except EntrypointRaised EntrypointMaintenanceResult} (h : Settled current out t)
    (hdigest : current.digest = sha256 current.data) (hcurrent : current.digest = request.expectedCurrent) :
    Preserves request sha256 out t := by
  refine ⟨h.retains, ?_⟩
  rintro r rfl
  cases h with
  | reported h =>
    obtain ⟨d, name, hd, hrecovery, hname, hholds, hstatus⟩ := h
    refine .inr ⟨d, name, hd, hrecovery, hname, hholds, hstatus.imp_right ?_⟩
    rintro ⟨hrepaired, rfl⟩
    exact ⟨hrepaired, hdigest.symm.trans hcurrent⟩
  | blocked hr h => exact .inl ⟨.inr hr, h⟩

theorem ensures_publish (hM : FileMachine device M) (request : EntrypointRequest) (source : CapturedFile) :
    TreeEnsures M (fun t => t.displaced = []) (publish sha256 request source) (Preserves request sha256) := by
  -- nothing is displaced before the exchange, so a failure on the way loses nothing
  have hnothing : TreeStable M fun t => t.displaced = [] := nothingDisplaced_stable hM
  have hraised : ∀ e t, t.displaced = [] → Preserves request sha256 (.error e) t := by
    intro e t ht
    refine ⟨retains_of_nothing ht, ?_⟩
    intro r hr
    cases hr
  show TreeEnsures M _ ((Os.directoryDevice .target).bind _) _
  refine ensures_reads_bind hM hnothing (reads_directoryDevice .target) hraised fun targetDevice => ?_
  show TreeEnsures M _ ((Os.directoryDevice .backup).bind _) _
  refine ensures_reads_bind hM hnothing (reads_directoryDevice .backup) hraised fun backupDevice => ?_
  split
  · exact ensures_raise hnothing (hraised _)
  show TreeEnsures M _ ((capture sha256 .target).bind _) _
  -- the digest of what is captured is that of its own bytes
  have hcapture : TreeEnsures M (fun t => t.displaced = []) (capture sha256 .target) fun out t =>
      t.displaced = [] ∧ ∀ c, out = .ok c → c.digest = sha256 c.data :=
    fun s out s' hs hrun => ⟨ensures_of_reads hM hnothing (reads_capture .target) s out s' hs hrun,
      ensures_capture_digest hM s out s' trivial hrun⟩
  refine ensures_bind hcapture (fun e => hnothing.and treeStable_pure) (fun e s hs => hraised e s.tree hs.1)
    fun current => ?_
  show TreeEnsures M (fun t => t.displaced = [] ∧ ∀ c, (Except.ok current : Except EntrypointRaised CapturedFile) =
    .ok c → c.digest = sha256 c.data) _ _
  refine ensures_pure fun hdigest => ?_
  have hdigest : current.digest = sha256 current.data := hdigest current rfl
  split
  · exact ensures_raise hnothing (hraised _)
  split
  · show TreeEnsures M _ (verifyParents.bind _) _
    refine ensures_reads_bind hM hnothing reads_verifyParents hraised fun _ => ?_
    refine ensures_ret hnothing fun t ht => ⟨retains_of_nothing ht, ?_⟩
    rintro r hr
    obtain rfl := Except.ok.inj hr
    exact .inl ⟨.inl rfl, ht⟩
  split
  · exact ensures_raise hnothing (hraised _)
  · rename_i hcurrent
    exact (ensures_publishCaptured hM).conseq (fun _ hs => hs) fun out s hs =>
      hs.preserves hdigest (not_not.mp hcurrent)

/-- **Nothing displaced is lost**, whoever else writes under the target name and
whatever fails.  A content that the repair takes from the target name has another
name at the end, a report of it names that one, and a repair that succeeds has
kept the bytes of the approved digest. -/
theorem publish_keeps_displaced {request : EntrypointRequest} {source : CapturedFile} {s s' : FileState}
    {out : Except EntrypointRaised EntrypointMaintenanceResult} (hstart : s.tree.displaced = [])
    (hrun : Runs (shared device) (publish sha256 request source) s out s') : Preserves request sha256 out s'.tree :=
  ensures_publish fileMachine_shared request source s out s' hstart hrun

/-! ### A contested repair -/

theorem one_le_foldr_add (l : List Nat) : 1 ≤ l.foldr (fun i bound => i + bound) 1 := by
  induction l with
  | nil => exact le_refl 1
  | cons i l ih => exact le_trans ih (Nat.le_add_left _ _)

theorem lt_foldr_add {l : List Nat} {i : Nat} (hi : i ∈ l) : i < l.foldr (fun i bound => i + bound) 1 := by
  induction l with
  | nil => cases hi
  | cons j l ih =>
    rw [List.foldr_cons]
    have hpos := one_le_foldr_add l
    rcases List.mem_cons.mp hi with rfl | hi
    · omega
    · have hlt := ih hi
      omega

theorem FileState.not_inUse_fresh (s : FileState) : ¬ s.InUse s.fresh := by
  intro h
  refine absurd (lt_foldr_add ?_) (lt_irrefl s.fresh)
  rw [List.mem_append, List.mem_filterMap]
  rcases h with h | ⟨name, hname⟩
  · exact .inr h
  · refine .inl ⟨name, ?_, hname⟩
    cases name <;> simp

/-- Running an operation is one of the things that it may do. -/
theorem fileStep_run (source : CapturedFile) (op : FileOp) (s : FileState) :
    fileStep device op s (op.run device source s).1 (op.run device source s).2 := by
  cases op with
  | directoryDevice | read | fsync | fsyncDirectory | write | fchmod => exact .inl ⟨rfl, rfl⟩
  | fstat fd => exact .inl ⟨0, 0, rfl, rfl⟩
  | close fd => exact ⟨.inl rfl, .inl rfl⟩
  | source | verifyParents => rfl
  | openRead name =>
    rw [FileOp.run]
    cases h : s.tree.names name with
    | some i => exact .inl ⟨i, h, rfl, rfl⟩
    | none => exact .inr ⟨rfl, rfl⟩
  | create name mode =>
    rw [FileOp.run]
    cases h : s.tree.names name with
    | some i => exact .inr ⟨rfl, rfl⟩
    | none => exact .inl ⟨s.fresh, mode, h, s.not_inUse_fresh, rfl, rfl⟩
  | lstat name =>
    rw [FileOp.run]
    cases h : s.tree.names name with
    | some i => exact .inl ⟨i, 0, 0, h, rfl, rfl⟩
    | none => exact .inr (.inl ⟨h, rfl, rfl⟩)
  | unlink name =>
    rw [FileOp.run]
    cases h : s.tree.names name with
    | some i => exact .inl ⟨by simp [h], rfl, rfl⟩
    | none => exact .inr ⟨rfl, rfl⟩
  | exchange =>
    rw [FileOp.run]
    cases h : s.tree.names .target with
    | none => exact .inr ⟨rfl, rfl⟩
    | some i =>
      cases h' : s.tree.names .stage with
      | none => exact .inr ⟨rfl, rfl⟩
      | some j => exact .inl ⟨i, j, h, h', rfl, rfl⟩
  | link =>
    rw [FileOp.run]
    cases h : s.tree.names .stage with
    | none => exact .inr ⟨rfl, rfl⟩
    | some i =>
      cases h' : s.tree.names .recovery with
      | some j => exact .inr ⟨rfl, rfl⟩
      | none => exact .inl ⟨i, h, h', rfl, rfl⟩

/-- Before the exchange, the foreign writer takes the target name. -/
def takeTarget : FileOp → FileState → FileState
  | .exchange, s => { s with tree := (s.tree.rename .target (some s.fresh)).put s.fresh ⟨[0], 0o100644⟩ }
  | _, s => s

variable (device) in
def contested (source : CapturedFile) (op : FileOp) (s : FileState) :
    Except EntrypointRaised op.Result × FileState :=
  op.run device source (takeTarget op s)

theorem contested_allowed (source : CapturedFile) (op : FileOp) (s : FileState) :
    ∃ s₁, (shared device).Moves s s₁ ∧
      (shared device).step op s₁ (contested device source op s).1 (contested device source op s).2 := by
  refine ⟨takeTarget op s, ?_, fileStep_run source op _⟩
  cases op with
  | exchange => exact .single ⟨s.fresh, _, s.not_inUse_fresh, rfl⟩
  | _ => exact .refl

/-- One file under the target name. -/
def singleFile (content : InodeContent) : FileState :=
  ⟨⟨fun name => if name = .target then some 1 else none, fun _ => content, []⟩, []⟩

/-- The bytes of the source, captured from its own directory. -/
def demoSource : CapturedFile := ⟨[2], hashlibSha256 [2], 0, 9, 0o100755⟩

def demoRequest : EntrypointRequest := ⟨hashlibSha256 [1], false⟩

/-- The repair of a file that somebody else replaces just before the exchange. -/
def contestedRepair : Except EntrypointRaised EntrypointMaintenanceResult × FileState :=
  (publish hashlibSha256 demoRequest demoSource).exec (contested (fun _ => 0) demoSource)
    (singleFile ⟨[1], 0o100644⟩)

theorem publish_keeps_displaced_contested :
    contestedRepair.2.tree.displaced = [⟨[0], 0o100644⟩] ∧
      Preserves demoRequest hashlibSha256 contestedRepair.1 contestedRepair.2.tree :=
  ⟨by rfl, publish_keeps_displaced (s := singleFile ⟨[1], 0o100644⟩) rfl
    (runs_exec (contested_allowed demoSource) (publish hashlibSha256 demoRequest demoSource) _)⟩

end SkillsSdk
