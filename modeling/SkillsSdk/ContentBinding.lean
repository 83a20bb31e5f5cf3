/-
SkillsSdk/ContentBinding.lean

Does the candidate digest determine the files?

The hashed bytes are the paths and digests of the files, each closed by a NUL,
and `require_portable_relative_path` lets a NUL through.  So a list of files is
written like the one file whose path spells the others (`Records.encode_concat`),
and that path is accepted, because accepted paths are closed under gluing
(`Portable.append`).  The bytes determine an accepted tuple exactly when it has
one file and its path spells no others (`content_binding`).  Tuples whose paths
have no NUL are determined among themselves (`records_eq_of_nul_free`).
-/
import SkillsSdk.Lib.Records
import SkillsSdk.Models.Lifecycle

namespace SkillsSdk

/-! ### From bytes to letters -/

/-- UTF-8 determines the text. -/
theorem utf8_injective : Function.Injective utf8 := by
  intro u v h
  have hbytes : u.utf8Encode = v.utf8Encode := by
    rw [List.utf8Encode, List.utf8Encode]
    exact congrArg _ h
  have := congrArg ByteArray.utf8Decode? hbytes
  rw [List.utf8Decode?_utf8Encode, List.utf8Decode?_utf8Encode] at this
  simpa using this

/-- The files as records of letters. -/
def letters (files : List (Text × Sha256)) : List (Text × Text) := files.map fun f => (f.1, f.2.val)

@[simp] theorem letters_nil : letters [] = [] := rfl

@[simp] theorem letters_cons (f : Text × Sha256) (fs : List (Text × Sha256)) :
    letters (f :: fs) = (f.1, f.2.val) :: letters fs := rfl

@[simp] theorem letters_append (xs ys : List (Text × Sha256)) :
    letters (xs ++ ys) = letters xs ++ letters ys := List.map_append

theorem letters_injective : Function.Injective letters := by
  refine List.map_injective_iff.mpr fun f g h => ?_
  obtain ⟨hpath, hdigest⟩ := Prod.mk.inj h
  exact Prod.ext hpath (Subtype.ext hdigest)

/-- The hashed bytes are the UTF-8 of records closed by NUL. -/
theorem candidatePreimage_eq (files : List (Text × Sha256)) :
    candidatePreimage files = utf8 (Records.encode '\x00' (letters files)) := by
  induction files with
  | nil => rfl
  | cons f fs ih =>
    rw [letters_cons, Records.encode_cons]
    rw [candidatePreimage] at ih ⊢
    rw [List.flatMap_cons, ih, utf8_append, digestRecord,
      show ('\x00' :: (f.2.val ++ '\x00' :: Records.encode '\x00' (letters fs))) =
        ['\x00'] ++ (f.2.val ++ (['\x00'] ++ Records.encode '\x00' (letters fs))) from rfl,
      utf8_append, utf8_append, utf8_append]
    simp [show utf8 ['\x00'] = [0] from rfl]

theorem candidatePreimage_inj {xs ys : List (Text × Sha256)} :
    candidatePreimage xs = candidatePreimage ys ↔
      Records.encode '\x00' (letters xs) = Records.encode '\x00' (letters ys) := by
  rw [candidatePreimage_eq, candidatePreimage_eq, utf8_injective.eq_iff]

theorem nul_notMem_sha256 (h : Sha256) : '\x00' ∉ h.val := fun hm =>
  absurd ((isHexOfLength_iff.mp h.2).2 _ hm) (by decide)

/-- Without NUL in the paths the bytes determine the files. -/
theorem records_eq_of_nul_free {xs ys : List (Text × Sha256)} (hx : ∀ f ∈ xs, '\x00' ∉ f.1)
    (hy : ∀ f ∈ ys, '\x00' ∉ f.1) (h : candidatePreimage xs = candidatePreimage ys) : xs = ys := by
  have hfree : ∀ zs : List (Text × Sha256), (∀ f ∈ zs, '\x00' ∉ f.1) →
      ∀ r ∈ letters zs, '\x00' ∉ r.1 ∧ '\x00' ∉ r.2 := by
    intro zs hz r hr
    obtain ⟨f, hf, rfl⟩ := List.mem_map.mp hr
    exact ⟨hz f hf, nul_notMem_sha256 f.2⟩
  exact letters_injective
    (Records.encode_injective_of_free (hfree xs hx) (hfree ys hy) (candidatePreimage_inj.mp h))

/-! ### Accepted tuples -/

/-- The file tuples a model accepts, for the paths it accepts. -/
structure AcceptedFiles (ok : Text → Prop) (files : List (Text × Sha256)) : Prop where
  ne_nil : files ≠ []
  nodup : (files.map Prod.fst).Nodup
  paths : ∀ f ∈ files, ok f.1

/-- Gluing accepted paths around a digest gives an accepted path. -/
def ClosedUnderGluing (ok : Text → Prop) : Prop :=
  ∀ a b (k : Sha256), ok a → ok b → ok (a ++ '\x00' :: (k.val ++ '\x00' :: b))

/-- The path spells two files: an accepted path, a digest and another accepted path. -/
def SpellsTwoFiles (ok : Text → Prop) (path : Text) : Prop :=
  ∃ a b, ∃ k : Sha256, ok a ∧ ok b ∧ a ≠ b ∧ path = a ++ '\x00' :: (k.val ++ '\x00' :: b)

/-- One file, whose path spells no others. -/
def OnePlainFile (ok : Text → Prop) (files : List (Text × Sha256)) : Prop :=
  ∃ path digest, files = [(path, digest)] ∧ ¬ SpellsTwoFiles ok path

variable {ok : Text → Prop}

/-- The text that files spell in front of an accepted path. -/
theorem ok_spelled (hclosed : ClosedUnderGluing ok) {files : List (Text × Sha256)}
    (hfiles : ∀ f ∈ files, ok f.1) {last : Text} (hlast : ok last) :
    ok (Records.encode '\x00' (letters files) ++ last) := by
  induction files with
  | nil => exact hlast
  | cons f fs ih =>
    have hrest := ih fun g hg => hfiles g (by simp [hg])
    have := hclosed f.1 _ f.2 (hfiles f (by simp)) hrest
    rw [letters_cons, Records.encode_cons]
    simpa using this

/-- Files that are written like a single one spell two files in its path. -/
theorem spellsTwoFiles_of_encode (hclosed : ClosedUnderGluing ok) {init : List (Text × Sha256)}
    {last : Text} {digest : Sha256} (hinit : init ≠ [])
    (h : AcceptedFiles ok (init ++ [(last, digest)])) :
    SpellsTwoFiles ok (Records.encode '\x00' (letters init) ++ last) := by
  have hlast : ok last := h.paths (last, digest) (by simp)
  have hok : ∀ f ∈ init, ok f.1 := fun f hf => h.paths f (by simp [hf])
  obtain ⟨f, init', rfl⟩ := List.exists_cons_of_ne_nil hinit
  have hok' : ∀ g ∈ init', ok g.1 := fun g hg => hok g (by simp [hg])
  have hrest := ok_spelled hclosed hok' hlast
  by_cases hne : f.1 = Records.encode '\x00' (letters init') ++ last
  · -- the first path is the rest: then the cut before the last path is uneven
    rcases List.eq_nil_or_concat init' with rfl | ⟨init'', g, rfl⟩
    · have hnodup := h.nodup
      simp only [letters_nil, Records.encode_nil, List.nil_append] at hne
      simp [hne] at hnodup
    · simp only [List.concat_eq_append] at hne hok hrest ⊢
      refine ⟨Records.encode '\x00' (letters (f :: init'')) ++ g.1, last, g.2,
        ok_spelled hclosed (fun x hx => hok x ?_) (hok g (by simp)), hlast, ?_, ?_⟩
      · rcases List.mem_cons.mp hx with rfl | hx
        · simp
        · simp [hx]
      · intro heq
        have hlen := congrArg List.length heq
        have hlen' := congrArg List.length hne
        simp only [letters_cons, letters_append, Records.encode, List.flatMap_cons,
          List.flatMap_append, List.length_append, List.length_cons] at hlen hlen'
        omega
      · simp [Records.encode]
  · refine ⟨f.1, _, f.2, hok f (by simp), hrest, hne, ?_⟩
    rw [letters_cons, Records.encode_cons]
    simp

/-- **Which tuples the bytes determine**, for any class of paths closed under gluing. -/
theorem determined_iff (hclosed : ClosedUnderGluing ok) {xs : List (Text × Sha256)}
    (hxs : AcceptedFiles ok xs) :
    (∀ ys, AcceptedFiles ok ys → candidatePreimage ys = candidatePreimage xs → ys = xs) ↔
      OnePlainFile ok xs := by
  constructor
  · intro hdet
    rcases List.eq_nil_or_concat xs with rfl | ⟨init, ⟨last, digest⟩, rfl⟩
    · exact absurd rfl hxs.ne_nil
    rw [List.concat_eq_append] at hxs hdet ⊢
    -- the one file that spells them all is accepted, so it is the tuple itself
    have hlast : ok last := hxs.paths (last, digest) (by simp)
    have hone : AcceptedFiles ok [(Records.encode '\x00' (letters init) ++ last, digest)] :=
      ⟨by simp, by simp, by
        simpa using ok_spelled hclosed (fun f hf => hxs.paths f (by simp [hf])) hlast⟩
    have heq := hdet _ hone (by
      rw [candidatePreimage_inj, letters_append]
      exact (Records.encode_concat _ _ _).symm)
    have hinit : init = [] := by
      have := congrArg List.length heq
      simpa using this.symm
    subst hinit
    refine ⟨last, digest, rfl, ?_⟩
    rintro ⟨a, b, k, ha, hb, hne, rfl⟩
    have htwo : AcceptedFiles ok [(a, k), (b, digest)] :=
      ⟨by simp, by simpa using hne, by simp [ha, hb]⟩
    have := hdet _ htwo (by
      rw [candidatePreimage_inj]
      simp [Records.encode])
    simp at this
  · rintro ⟨path, digest, rfl, hplain⟩ ys hys h
    rw [candidatePreimage_inj] at h
    have hlen : ∀ r ∈ letters ys, r.2.length = digest.val.length := by
      intro r hr
      obtain ⟨f, -, rfl⟩ := List.mem_map.mp hr
      exact (isHexOfLength_iff.mp f.2.2).1.trans (isHexOfLength_iff.mp digest.2).1.symm
    obtain ⟨init, last, hsplit, hpath⟩ := Records.encode_eq_singleton hlen h
    obtain ⟨init', tail, rfl, rfl, htail⟩ := List.map_eq_append_iff.mp hsplit
    obtain ⟨f, rfl, hf⟩ := List.map_eq_singleton_iff.mp htail
    obtain ⟨rfl, hd⟩ := Prod.mk.inj hf
    obtain rfl : f.2 = digest := Subtype.ext hd
    change path = Records.encode '\x00' (letters init') ++ f.1 at hpath
    rcases init' with - | ⟨g, init'⟩
    · simp [hpath]
    · refine absurd ?_ hplain
      rw [hpath]
      exact spellsTwoFiles_of_encode hclosed (by simp) hys

/-! ### The two path contracts -/

/-- The paths of a package manifest. -/
def ManifestPath (path : Text) : Prop := isPortable path = true

/-- The paths of a runtime lock entry. -/
def RuntimePath (path : Text) : Prop :=
  isPortable path = true ∧ lifecycleTextIsPublicSafe path = true

theorem portable_digest_between_nul (k : Sha256) : Portable ('\x00' :: (k.val ++ ['\x00'])) := by
  obtain ⟨hlen, hhex⟩ := isHexOfLength_iff.mp k.2
  refine portable_of_letters ⟨by simp, ?_, ?_⟩ ⟨'\x00', by simp, by decide⟩ ?_
  · intro h
    simpa using congrArg List.length h
  · intro h
    have := congrArg List.length h
    simp [hlen] at this
  · intro c hc
    rcases List.mem_cons.mp hc with rfl | hc
    · decide
    · rcases List.mem_append.mp hc with hc | hc
      · intro hbad
        have hall : ['/', '\\', '\r', '\n', ':'].all (fun d => !isHex d) = true := by decide
        exact absurd (hhex c hc) (by simpa using List.all_eq_true.mp hall c hbad)
      · obtain rfl := List.mem_singleton.mp hc
        decide

theorem closedUnderGluing_manifestPath : ClosedUnderGluing ManifestPath := by
  intro a b k ha hb
  have := ((portable_iff.mp ha).append (portable_digest_between_nul k)).append (portable_iff.mp hb)
  exact portable_iff.mpr (by simpa using this)

theorem closedUnderGluing_runtimePath : ClosedUnderGluing RuntimePath := by
  intro a b k ha hb
  refine ⟨closedUnderGluing_manifestPath a b k ha.1 hb.1, ?_⟩
  have hk := lifecycleTextIsPublicSafe_of_hex (isHexOfLength_iff.mp k.2).2
  exact lifecycleTextIsPublicSafe_append_nul.mpr
    ⟨ha.2, lifecycleTextIsPublicSafe_append_nul.mpr ⟨hk, hb.2⟩⟩

/-- The `(path, sha256)` tuple of a manifest. -/
def PackageManifest.records (m : PackageManifest) : List (Text × Sha256) :=
  m.val.files.map PackageManifestFile.record

theorem PackageManifest.acceptedFiles (m : PackageManifest) : AcceptedFiles ManifestPath m.records := by
  refine ⟨by simpa [records] using m.files_ne_nil, ?_, ?_⟩
  · have := m.paths_nodup.map Subtype.val_injective
    rw [PackageManifestData.paths, List.map_map] at this
    rw [records, List.map_map]
    exact this
  · intro f hf
    obtain ⟨item, -, rfl⟩ := List.mem_map.mp hf
    exact item.path.2

/-- Every accepted tuple is the tuple of a manifest. -/
theorem PackageManifest.exists_of_acceptedFiles (m : PackageManifest) {xs : List (Text × Sha256)}
    (hxs : AcceptedFiles ManifestPath xs) : ∃ n : PackageManifest, n.records = xs := by
  let file (f : { x // x ∈ xs }) : PackageManifestFile :=
    ⟨⟨f.val.1, hxs.paths f.val f.2⟩, f.val.2, 0, .asset⟩
  let files := xs.attach.map file
  have hrecords : files.map PackageManifestFile.record = xs := by
    rw [List.map_map]
    exact List.attach_map_subtype_val xs
  refine ⟨⟨{ m.val with files := files }, PackageManifestData.validate_eq_ok.mpr ⟨?_, ?_⟩⟩, hrecords⟩
  · intro h
    rw [show files = [] from h] at hrecords
    exact hxs.ne_nil hrecords.symm
  · refine List.Nodup.of_map Subtype.val ?_
    have := hxs.nodup
    rw [← hrecords, List.map_map] at this
    rw [PackageManifestData.paths, List.map_map]
    exact this

variable {sha256 : List UInt8 → Sha256}

theorem RuntimeLockEntry.acceptedFiles (e : RuntimeLockEntry sha256) :
    AcceptedFiles RuntimePath e.val.records := by
  obtain ⟨⟨-, -, -, -, hne⟩, -, hnodup, -⟩ := (RuntimeLockEntryData.validate_eq_ok sha256).mp e.2
  refine ⟨fun h => hne (List.map_eq_nil_iff.mp h), ?_, ?_⟩
  · rw [RuntimeLockEntryData.records, List.map_map]
    exact hnodup
  · intro f hf
    obtain ⟨file, -, rfl⟩ := List.mem_map.mp hf
    exact RuntimeFileData.validate_eq_ok.mp file.2

/-- Every accepted tuple is the tuple of a lock entry. -/
theorem RuntimeLockEntry.exists_of_acceptedFiles (e : RuntimeLockEntry sha256)
    {xs : List (Text × Sha256)} (hxs : AcceptedFiles RuntimePath xs) :
    ∃ e' : RuntimeLockEntry sha256, e'.val.records = xs := by
  let file (f : { x // x ∈ xs }) : RuntimeFile :=
    ⟨⟨f.val.1, f.val.2⟩, RuntimeFileData.validate_eq_ok.mpr (hxs.paths f.val f.2)⟩
  let files := xs.attach.map file
  have hrecords : files.map (·.val.record) = xs := by
    rw [List.map_map]
    exact List.attach_map_subtype_val xs
  obtain ⟨⟨h₁, h₂, h₃, h₄, -⟩, hname, -, -⟩ := (RuntimeLockEntryData.validate_eq_ok sha256).mp e.2
  refine ⟨⟨{ e.val with
    files := files
    candidate := { e.val.candidate with
      contentSha256 := candidateContentSha256 sha256 (files.map (·.val.record)) } },
    (RuntimeLockEntryData.validate_eq_ok sha256).mpr
      ⟨⟨h₁, h₂, h₃, h₄, ?_⟩, hname, ?_, rfl⟩⟩, hrecords⟩
  · intro h
    rw [show files = [] from h] at hrecords
    exact hxs.ne_nil hrecords.symm
  · have := hxs.nodup
    rw [← hrecords, List.map_map] at this
    exact this

/-! ### Content binding -/

/-- **What the hashed bytes determine.**  The tuple of a manifest is determined by
its bytes exactly when it is one plain file; so is the tuple of a lock entry; and
for a hash without a collision between two such tuples the candidate digest
determines the tuple of a manifest under the same condition. -/
theorem content_binding :
    (∀ m : PackageManifest,
      (∀ n : PackageManifest,
        candidatePreimage n.records = candidatePreimage m.records → n.records = m.records) ↔
      OnePlainFile ManifestPath m.records) ∧
    (∀ e : RuntimeLockEntry sha256,
      (∀ e' : RuntimeLockEntry sha256,
        candidatePreimage e'.val.records = candidatePreimage e.val.records →
          e'.val.records = e.val.records) ↔
      OnePlainFile RuntimePath e.val.records) ∧
    (∀ m : PackageManifest,
      (∀ n : PackageManifest,
        (sha256 (candidatePreimage n.records) = sha256 (candidatePreimage m.records) →
          candidatePreimage n.records = candidatePreimage m.records) →
        candidateContentSha256 sha256 n.records = candidateContentSha256 sha256 m.records →
          n.records = m.records) ↔
      OnePlainFile ManifestPath m.records) := by
  have hmanifest : ∀ m : PackageManifest,
      (∀ n : PackageManifest,
        candidatePreimage n.records = candidatePreimage m.records → n.records = m.records) ↔
      OnePlainFile ManifestPath m.records := by
    intro m
    -- manifests are the accepted lists of records
    rw [← determined_iff closedUnderGluing_manifestPath m.acceptedFiles]
    constructor
    · intro h ys hys heq
      obtain ⟨n, rfl⟩ := m.exists_of_acceptedFiles hys
      exact h n heq
    · exact fun h n => h n.records n.acceptedFiles
  refine ⟨hmanifest, ?_, ?_⟩
  · intro e
    rw [← determined_iff closedUnderGluing_runtimePath (RuntimeLockEntry.acceptedFiles e)]
    constructor
    · intro h ys hys heq
      obtain ⟨e', rfl⟩ := RuntimeLockEntry.exists_of_acceptedFiles e hys
      exact h e' heq
    · exact fun h e' => h e'.val.records (RuntimeLockEntry.acceptedFiles e')
  · intro m
    rw [← hmanifest m]
    constructor
    · intro h n heq
      exact h n (fun _ => heq) (congrArg sha256 heq)
    · intro h n hcollision hdigest
      exact h n (hcollision hdigest)

namespace Demo

/-- A manifest with the given files. -/
def manifestOf (files : List PackageManifestFile) (hne : files ≠ [])
    (hnodup : (files.map (·.path)).Nodup) : PackageManifest :=
  ⟨⟨⟨⟨"pair".toList, by decide +kernel⟩, ⟨List.replicate 40 '1', by decide +kernel⟩,
      ⟨List.replicate 64 '0', by decide +kernel⟩⟩, ⟨"0.1.0".toList, by decide +kernel⟩, files,
      ⟨⟨[⟨"source".toList, by decide +kernel⟩], by simp⟩, ⟨"builder".toList, by decide +kernel⟩⟩⟩,
    PackageManifestData.validate_eq_ok.mpr ⟨hne, hnodup⟩⟩

def digestC : Sha256 := ⟨List.replicate 64 'c', by decide +kernel⟩
def digestD : Sha256 := ⟨List.replicate 64 'd', by decide +kernel⟩

/-- The files `x` and `y`. -/
def twoFiles : PackageManifest :=
  manifestOf [⟨⟨['x'], by decide +kernel⟩, digestC, 0, .asset⟩,
    ⟨⟨['y'], by decide +kernel⟩, digestD, 0, .asset⟩] (by simp) (by simp)

/-- The one file whose path spells `x`, its digest and `y`. -/
def oneFile : PackageManifest :=
  manifestOf [⟨⟨'x' :: '\x00' :: (digestC.val ++ '\x00' :: ['y']), by decide +kernel⟩, digestD, 0,
    .asset⟩] (by simp) (by simp)

end Demo

/-- Two manifests with the same bytes and different files. -/
theorem content_binding_fails :
    candidatePreimage Demo.oneFile.records = candidatePreimage Demo.twoFiles.records ∧
      Demo.oneFile.records ≠ Demo.twoFiles.records := by
  decide +kernel

end SkillsSdk
