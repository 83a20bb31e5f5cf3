/-
SkillsSdk/FmAdvisoryLaws.lean

Advisory evidence is real.

`realLines` is the purpose of the numbering in one line: the lines that are not
blank, in the order of the documents.  The table of the atoms has exactly these
values under distinct keys (`Numbered`), which one step of the loop preserves.
A decisive result then cites lines that exist, because an identifier that the
table knows stands for one of them.
-/
import SkillsSdk.FmAdvisory

namespace SkillsSdk

/-! ### Identifiers -/

theorem AdvisoryRole.initial_injective : Function.Injective AdvisoryRole.initial := by
  intro a b h
  cases a <;> cases b <;> first | rfl | cases h

theorem toString_toList_injective {m n : Nat} (h : (toString m).toList = (toString n).toList) : m = n := by
  have hdigits : Nat.toDigits 10 m = Nat.toDigits 10 n := by simpa [toString] using h
  have hread := congrArg (fun l => Nat.ofDigitChars 10 l 0) hdigits
  simpa using hread

/-- The identifiers of two roles, and of two counts, differ. -/
theorem atomId_inj {a b : AdvisoryRole} {m n : Nat} (h : atomId a m = atomId b n) : a = b ∧ m = n := by
  obtain ⟨hrole, hcount⟩ := List.cons.inj h
  exact ⟨AdvisoryRole.initial_injective hrole, toString_toList_injective hcount⟩

/-! ### Lines -/

def AdvisoryDocument.atom (d : AdvisoryDocument) (line : Text × Nat) : SourceAtom :=
  ⟨d.val.documentId, d.val.role, line.2, line.1⟩

/-- The lines of a document that are not blank. -/
def AdvisoryDocument.realLines (d : AdvisoryDocument) : List SourceAtom :=
  (d.lines.filter fun line => strip line.1 ≠ []).map d.atom

/-- The lines of the request that are not blank, in order. -/
def realLines (request : FMAdvisoryRequest) : List SourceAtom :=
  request.val.documents.flatMap AdvisoryDocument.realLines

theorem AdvisoryDocument.mem_realLines {d : AdvisoryDocument} {a : SourceAtom} :
    a ∈ d.realLines ↔ (a.text, a.line) ∈ d.lines ∧ strip a.text ≠ [] ∧
      a.documentId = d.val.documentId ∧ a.role = d.val.role := by
  simp only [realLines, List.mem_map, List.mem_filter, decide_eq_true_eq]
  constructor
  · rintro ⟨line, ⟨hline, hblank⟩, rfl⟩
    exact ⟨hline, hblank, rfl, rfl⟩
  · rintro ⟨hline, hblank, hid, hrole⟩
    refine ⟨(a.text, a.line), ⟨hline, hblank⟩, ?_⟩
    rw [AdvisoryDocument.atom, ← hid, ← hrole]

theorem mem_realLines {request : FMAdvisoryRequest} {a : SourceAtom} :
    a ∈ realLines request ↔ ∃ d ∈ request.val.documents, (a.text, a.line) ∈ d.lines ∧
      strip a.text ≠ [] ∧ a.documentId = d.val.documentId ∧ a.role = d.val.role := by
  simp only [realLines, List.mem_flatMap, AdvisoryDocument.mem_realLines]

theorem AdvisoryDocument.nodup_realLines (d : AdvisoryDocument) :
    (d.realLines.map SourceAtom.line).Nodup := by
  have hlines : (d.lines.map Prod.snd).Nodup := by
    rw [AdvisoryDocument.lines, List.zipIdx_map_snd]
    exact List.nodup_range'
  rw [AdvisoryDocument.realLines, List.map_map]
  exact hlines.sublist (List.filter_sublist.map Prod.snd)

/-- Document and number determine a line. -/
theorem nodup_realLines (request : FMAdvisoryRequest) :
    ((realLines request).map fun a => (a.documentId, a.line)).Nodup := by
  have hids := request.ids_nodup
  rw [realLines, List.map_flatMap, List.nodup_flatMap]
  constructor
  · intro d hd
    refine List.Nodup.of_map Prod.snd ?_
    rw [List.map_map]
    exact d.nodup_realLines
  · refine (List.pairwise_map.mp hids).imp fun {d e} hne => ?_
    rintro p hp hp'
    obtain ⟨a, ha, rfl⟩ := List.mem_map.mp hp
    obtain ⟨b, hb, hab⟩ := List.mem_map.mp hp'
    apply hne
    rw [← (AdvisoryDocument.mem_realLines.mp ha).2.2.1, ← (AdvisoryDocument.mem_realLines.mp hb).2.2.1]
    exact (Prod.mk.inj hab).1.symm

/-! ### The table -/

/-- The table holds the lines `as`, under distinct identifiers below the counters. -/
structure Numbered (table : AtomTable) (as : List SourceAtom) : Prop where
  values : table.atoms.map Prod.snd = as
  nodup : (table.atoms.map Prod.fst).Nodup
  keys : ∀ p ∈ table.atoms, ∃ n ≤ table.counts p.2.role, p.1 = atomId p.2.role n

theorem Numbered.empty : Numbered ⟨fun _ => 0, []⟩ [] := ⟨rfl, List.nodup_nil, nofun⟩

/-- One line: a blank one changes nothing, another gets a new identifier. -/
theorem Numbered.addLine {table : AtomTable} {as : List SourceAtom} (h : Numbered table as)
    (d : AdvisoryDocument) (line : Text × Nat) :
    Numbered (table.addLine d line)
      (as ++ ([line].filter fun line => strip line.1 ≠ []).map d.atom) := by
  rw [AtomTable.addLine]
  by_cases hblank : strip line.1 = []
  · rw [if_pos hblank, List.filter_cons_of_neg (by simpa using hblank), List.filter_nil, List.map_nil,
      List.append_nil]
    exact h
  · rw [if_neg hblank, List.filter_cons_of_pos (by simpa using hblank), List.filter_nil]
    set id := atomId d.val.role (table.counts d.val.role + 1) with hid
    have hnew : id ∉ table.atoms.map Prod.fst := by
      intro hmem
      obtain ⟨p, hp, hpid⟩ := List.mem_map.mp hmem
      obtain ⟨n, hn, hkey⟩ := h.keys p hp
      obtain ⟨hrole, hcount⟩ := atomId_inj (hkey.symm.trans (hpid.trans hid))
      rw [hrole] at hn
      omega
    have hput : KeyedList.upsert Prod.fst (id, d.atom line) table.atoms =
        table.atoms ++ [(id, d.atom line)] := KeyedList.upsert_of_not_mem hnew
    show Numbered ⟨_, KeyedList.upsert Prod.fst (id, d.atom line) table.atoms⟩ _
    rw [hput]
    refine ⟨?_, ?_, ?_⟩
    · rw [List.map_append, h.values]
      rfl
    · rw [List.map_append]
      refine List.nodup_append.mpr ⟨h.nodup, List.nodup_singleton id, ?_⟩
      rintro a ha b hb rfl
      have hb : a = id := List.mem_singleton.mp hb
      exact hnew (hb ▸ ha)
    · intro p hp
      rcases List.mem_append.mp hp with hp | hp
      · obtain ⟨n, hn, hkey⟩ := h.keys p hp
        refine ⟨n, ?_, hkey⟩
        show n ≤ if p.2.role = d.val.role then table.counts d.val.role + 1 else table.counts p.2.role
        by_cases hrole : p.2.role = d.val.role
        · rw [if_pos hrole]
          rw [hrole] at hn
          omega
        · rw [if_neg hrole]
          exact hn
      · obtain rfl := List.mem_singleton.mp hp
        exact ⟨table.counts d.val.role + 1, (if_pos rfl).ge, hid⟩

theorem Numbered.addLines {table : AtomTable} {as : List SourceAtom} (h : Numbered table as)
    (d : AdvisoryDocument) (lines : List (Text × Nat)) :
    Numbered (lines.foldl (AtomTable.addLine d) table)
      (as ++ (lines.filter fun line => strip line.1 ≠ []).map d.atom) := by
  induction lines generalizing table as with
  | nil =>
    rw [List.filter_nil, List.map_nil, List.append_nil]
    exact h
  | cons line lines ih =>
    have := ih (h.addLine d line)
    rwa [List.append_assoc, ← List.map_append, ← List.filter_append] at this

theorem Numbered.addDocuments {table : AtomTable} {as : List SourceAtom} (h : Numbered table as)
    (ds : List AdvisoryDocument) :
    Numbered (ds.foldl AtomTable.addDocument table) (as ++ ds.flatMap AdvisoryDocument.realLines) := by
  induction ds generalizing table as with
  | nil =>
    rw [List.flatMap_nil, List.append_nil]
    exact h
  | cons d ds ih =>
    have := ih (h.addLines d d.lines)
    rwa [List.append_assoc] at this

variable (sha256 : List UInt8 → Sha256) (request : FMAdvisoryRequest)

/-- The atoms are the lines that are not blank, in order. -/
theorem sourceAtoms_values : (sourceAtoms request).map Prod.snd = realLines request :=
  (Numbered.empty.addDocuments request.val.documents).values

theorem sourceAtoms_nodup : ((sourceAtoms request).map Prod.fst).Nodup :=
  (Numbered.empty.addDocuments request.val.documents).nodup

theorem sourceAtoms_lookup {id : Text} {a : SourceAtom} :
    (sourceAtoms request).lookup id = some a ↔ (id, a) ∈ sourceAtoms request :=
  KeyedList.lookup_eq_some_iff_mem (sourceAtoms_nodup request)

theorem realLine_of_lookup {id : Text} {a : SourceAtom} (h : (sourceAtoms request).lookup id = some a) :
    a ∈ realLines request := by
  rw [← sourceAtoms_values]
  exact List.mem_map_of_mem ((sourceAtoms_lookup request).mp h)

/-- Entries for the same line are one entry. -/
theorem sourceAtoms_inj {id id' : Text} {a a' : SourceAtom} (h : (id, a) ∈ sourceAtoms request)
    (h' : (id', a') ∈ sourceAtoms request) (heq : (a.documentId, a.line) = (a'.documentId, a'.line)) :
    id = id' := by
  have hnodup : ((sourceAtoms request).map fun p => (p.2.documentId, p.2.line)).Nodup := by
    have := nodup_realLines request
    rwa [← sourceAtoms_values, List.map_map] at this
  exact congrArg Prod.fst (List.inj_on_of_nodup_map hnodup h h' heq)

/-- Every line that is not blank has one identifier. -/
theorem existsUnique_id {a : SourceAtom} (ha : a ∈ realLines request) :
    ∃! id, (sourceAtoms request).lookup id = some a := by
  rw [← sourceAtoms_values] at ha
  obtain ⟨p, hp, rfl⟩ := List.mem_map.mp ha
  refine ⟨p.1, (sourceAtoms_lookup request).mpr hp, fun id hid => ?_⟩
  exact sourceAtoms_inj request ((sourceAtoms_lookup request).mp hid) hp rfl

/-! ### Groups -/

/-- The lists of the documents are the identifiers, each in one list. -/
theorem sourceDocuments_perm :
    ((sourceDocuments request (sourceAtoms request)).flatMap SourceDocument.sourceAtomIds).Perm
      ((sourceAtoms request).map Prod.fst) := by
  have hkeys := sourceAtoms_nodup request
  rw [List.perm_ext_iff_of_nodup ?_ hkeys]
  · intro id
    simp only [sourceDocuments, List.mem_flatMap, List.mem_map]
    constructor
    · rintro ⟨_, ⟨d, -, rfl⟩, hid⟩
      obtain ⟨p, hp, rfl⟩ := List.mem_map.mp hid
      exact ⟨p, (List.mem_filter.mp hp).1, rfl⟩
    · rintro ⟨p, hp, rfl⟩
      obtain ⟨d, hd, -, -, hid, -⟩ :=
        mem_realLines.mp (realLine_of_lookup request ((sourceAtoms_lookup request).mpr hp))
      refine ⟨_, ⟨d, hd, rfl⟩, List.mem_map.mpr ⟨p, List.mem_filter.mpr ⟨hp, ?_⟩, rfl⟩⟩
      exact decide_eq_true hid
  · rw [List.nodup_flatMap]
    constructor
    · intro g hg
      obtain ⟨d, -, rfl⟩ := List.mem_map.mp hg
      exact hkeys.sublist (List.filter_sublist.map Prod.fst)
    · rw [sourceDocuments, List.pairwise_map]
      refine (List.pairwise_map.mp request.ids_nodup).imp fun {d e} hne => ?_
      intro id hd he
      obtain ⟨p, hp, rfl⟩ := List.mem_map.mp hd
      obtain ⟨q, hq, hpq⟩ := List.mem_map.mp he
      obtain ⟨hp, hpd⟩ := List.mem_filter.mp hp
      obtain ⟨hq, hqe⟩ := List.mem_filter.mp hq
      obtain rfl : q = p := List.inj_on_of_nodup_map hkeys hq hp hpq
      exact hne ((of_decide_eq_true hpd).symm.trans (of_decide_eq_true hqe))

/-! ### Evidence -/

/-- The evidence points to a line of the role that is not blank. -/
def Cites (role : AdvisoryRole) (e : AdvisoryEvidence) : Prop :=
  ∃ d ∈ request.val.documents, d.val.role = role ∧ e.val.documentId = d.val.documentId ∧
    ∃ text, (text, e.val.line) ∈ d.lines ∧ strip text ≠ [] ∧ e.val.lineSha256 = sha256 (utf8 text)

variable (atoms : SourceAtoms)

theorem evidenceFor_eq_ok {role : AdvisoryRole} {item : PyStr} {e : AdvisoryEvidence}
    (h : evidenceFor sha256 atoms role item = .ok e) :
    ∃ id a, item = PyStr.ofText id ∧ atoms.lookup id = some a ∧ a.role = role ∧
      e.val = ⟨a.documentId, a.line, sha256 (utf8 a.text)⟩ := by
  rw [evidenceFor] at h
  split at h
  case h_1 => cases h
  case h_2 a hlookup =>
    obtain ⟨id, hid, hatom⟩ := Option.bind_eq_some_iff.mp hlookup
    split at h
    case isTrue => cases h
    case isFalse hrole =>
      exact ⟨id, a, PyStr.encode?_eq_some_iff.mp hid, hatom, not_not.mp hrole,
        construct_eq_ok_iff.mp (mapError_eq_ok_iff.mp h)⟩

theorem evidenceFor_cites {role : AdvisoryRole} {item : PyStr} {e : AdvisoryEvidence}
    (h : evidenceFor sha256 (sourceAtoms request) role item = .ok e) : Cites sha256 request role e := by
  obtain ⟨id, a, -, hlookup, hrole, he⟩ := evidenceFor_eq_ok sha256 _ h
  obtain ⟨d, hd, hline, hblank, hid, hdrole⟩ := mem_realLines.mp (realLine_of_lookup request hlookup)
  refine ⟨d, hd, hdrole.symm.trans hrole, ?_, a.text, ?_, hblank, ?_⟩
  · rw [he, hid]
  · rw [he]
    exact hline
  · rw [he]

/-- One step of `ids.mapM`. -/
theorem mapM_cons_eq_ok {α β : Type _} {ε : Type _} {f : α → Except ε β} {a : α} {l : List α} {bs : List β}
    (h : (a :: l).mapM f = .ok bs) : ∃ b bs', f a = .ok b ∧ l.mapM f = .ok bs' ∧ bs = b :: bs' := by
  rw [List.mapM_cons] at h
  obtain ⟨b, hb, h⟩ := bind_eq_ok_iff.mp h
  obtain ⟨bs', hbs, h⟩ := bind_eq_ok_iff.mp h
  exact ⟨b, bs', hb, hbs, (Except.ok.inj h).symm⟩

/-- Distinct identifiers stand for distinct lines. -/
theorem mapM_evidenceFor {role : AdvisoryRole} {ids : List PyStr} {es : List AdvisoryEvidence}
    (hids : ids.Nodup) (h : ids.mapM (evidenceFor sha256 (sourceAtoms request) role) = .ok es) :
    es.length = ids.length ∧ (∀ e ∈ es, Cites sha256 request role e) ∧
      (es.map fun e => (e.val.documentId, e.val.line)).Nodup ∧
      ∀ e ∈ es, ∃ item ∈ ids, evidenceFor sha256 (sourceAtoms request) role item = .ok e := by
  induction ids generalizing es with
  | nil =>
    obtain rfl : [] = es := Except.ok.inj h
    exact ⟨rfl, nofun, List.nodup_nil, nofun⟩
  | cons item ids ih =>
    obtain ⟨e, es, he, hes, rfl⟩ := mapM_cons_eq_ok h
    obtain ⟨hnot, hids⟩ := List.nodup_cons.mp hids
    obtain ⟨hlen, hcites, hnodup, hfrom⟩ := ih hids hes
    refine ⟨?_, ?_, ?_, ?_⟩
    · rw [List.length_cons, List.length_cons, hlen]
    · exact List.forall_mem_cons.mpr ⟨evidenceFor_cites sha256 request he, hcites⟩
    · rw [List.map_cons, List.nodup_cons]
      refine ⟨fun hmem => hnot ?_, hnodup⟩
      obtain ⟨e', he', heq⟩ := List.mem_map.mp hmem
      obtain ⟨item', hitem', hfor⟩ := hfrom e' he'
      -- the same line has the same identifier
      obtain ⟨id, a, rfl, hlookup, -, ha⟩ := evidenceFor_eq_ok sha256 _ he
      obtain ⟨id', a', rfl, hlookup', -, ha'⟩ := evidenceFor_eq_ok sha256 _ hfor
      have hid : id' = id := by
        refine sourceAtoms_inj request ((sourceAtoms_lookup request).mp hlookup')
          ((sourceAtoms_lookup request).mp hlookup) ?_
        rwa [ha, ha'] at heq
      rwa [← hid]
    · intro e' he'
      rcases List.mem_cons.mp he' with rfl | he'
      · exact ⟨item, List.mem_cons_self, he⟩
      · obtain ⟨item', hitem', hfor⟩ := hfrom e' he'
        exact ⟨item', List.mem_cons_of_mem _ hitem', hfor⟩

theorem evidenceIds?_eq_ok {value : JsonDoc} {ids : List PyStr} (h : evidenceIds? value = .ok ids) :
    1 ≤ ids.length ∧ ids.length ≤ 4 ∧ ids.Nodup := by
  cases value with
  | arr items =>
    rw [evidenceIds?] at h
    cases hread : items.mapM jsonString? with
    | none =>
      rw [hread] at h
      cases h
    | some read =>
      simp only [hread] at h
      split at h
      case isFalse => cases h
      case isTrue hlen =>
        split at h
        case isFalse => cases h
        case isTrue hnodup =>
          obtain rfl := Except.ok.inj h
          exact ⟨hlen.1, hlen.2, hnodup⟩
  | _ => cases h

/-- The evidence of one field: one to four lines of its role. -/
structure FieldEvidence (role : AdvisoryRole) (es : List AdvisoryEvidence) : Prop where
  some : es ≠ []
  few : es.length ≤ 4
  cites : ∀ e ∈ es, Cites sha256 request role e
  nodup : (es.map fun e => (e.val.documentId, e.val.line)).Nodup

theorem evidenceOf_eq_ok {raw : JsonMembers} {key : String} {role : AdvisoryRole}
    {es : List AdvisoryEvidence} (h : evidenceOf sha256 raw (sourceAtoms request) key role = .ok es) :
    FieldEvidence sha256 request role es := by
  rw [evidenceOf] at h
  split at h
  case h_1 => cases h
  case h_2 value _ =>
    obtain ⟨ids, hids, h⟩ := bind_eq_ok_iff.mp h
    obtain ⟨hpos, hfew, hdistinct⟩ := evidenceIds?_eq_ok hids
    obtain ⟨hlen, hcites, hnodup, -⟩ := mapM_evidenceFor sha256 request hdistinct h
    refine ⟨?_, hlen ▸ hfew, hcites, hnodup⟩
    rintro rfl
    rw [← hlen] at hpos
    exact absurd hpos (by decide)

/-- Lines of both roles, none twice. -/
structure RealEvidence (es : List AdvisoryEvidence) : Prop where
  fromBoth : ∃ specification response, es = specification ++ response ∧ specification ≠ [] ∧
    response ≠ [] ∧ (∀ e ∈ specification, Cites sha256 request .specification e) ∧
    ∀ e ∈ response, Cites sha256 request .response e
  nodup : (es.map fun e => (e.val.documentId, e.val.line)).Nodup

/-- A document has one role, so lines of two roles differ. -/
theorem Cites.ne {a b : AdvisoryRole} {e f : AdvisoryEvidence} (he : Cites sha256 request a e)
    (hf : Cites sha256 request b f) (h : a ≠ b) :
    (e.val.documentId, e.val.line) ≠ (f.val.documentId, f.val.line) := by
  obtain ⟨d, hd, hrole, hid, -⟩ := he
  obtain ⟨d', hd', hrole', hid', -⟩ := hf
  intro heq
  have hsame : d.val.documentId = d'.val.documentId :=
    hid.symm.trans ((Prod.mk.inj heq).1.trans hid')
  obtain rfl := List.inj_on_of_nodup_map request.ids_nodup hd hd' hsame
  exact h (hrole.symm.trans hrole')

theorem evidence_eq_ok {raw : JsonMembers} {es : List AdvisoryEvidence}
    (h : evidence sha256 raw (sourceAtoms request) = .ok es) :
    RealEvidence sha256 request es ∧ es.length ≤ 8 := by
  obtain ⟨specification, hspec, h⟩ := bind_eq_ok_iff.mp h
  obtain ⟨response, hresp, h⟩ := bind_eq_ok_iff.mp h
  obtain rfl := Except.ok.inj h
  have hs := evidenceOf_eq_ok sha256 request hspec
  have hr := evidenceOf_eq_ok sha256 request hresp
  refine ⟨⟨⟨_, _, rfl, hs.some, hr.some, hs.cites, hr.cites⟩, ?_⟩, ?_⟩
  · rw [List.map_append]
    refine List.nodup_append.mpr ⟨hs.nodup, hr.nodup, ?_⟩
    intro p hp q hq
    obtain ⟨e, he, rfl⟩ := List.mem_map.mp hp
    obtain ⟨f, hf, rfl⟩ := List.mem_map.mp hq
    exact (hs.cites e he).ne sha256 request (hr.cites f hf) nofun
  · rw [List.length_append]
    exact Nat.add_le_add hs.few hr.few

/-! ### Results -/

/-- What a completed result may cite: nothing for an abstention, else lines of both roles. -/
def CitesRealLines (r : FMAdvisoryResult) : Prop :=
  r.val.status = .completed ∧
    ((r.val.judgement = some .insufficientEvidence ∧ r.val.evidence = []) ∨
      ((r.val.judgement = some .noFinding ∨ r.val.judgement = some .finding) ∧
        RealEvidence sha256 request r.val.evidence))

theorem completedResult_eq_ok {payload : List UInt8} {judgement : AdvisoryJudgement}
    {critique note : JsonDoc} {es : List AdvisoryEvidence} {r : FMAdvisoryResult}
    (h : completedResult sha256 request payload judgement critique note es = .ok r) :
    r.val.status = .completed ∧ r.val.judgement = some judgement ∧ r.val.evidence = es := by
  rw [completedResult] at h
  split at h
  case h_1 explanation missing _ _ =>
    rw [construct_eq_ok_iff.mp h]
    exact ⟨rfl, rfl, rfl⟩
  case h_2 => cases h

theorem decodeAbstention_eq_ok {payload : List UInt8} {raw : JsonMembers} {r : FMAdvisoryResult}
    (h : decodeAbstention sha256 request payload raw = .ok r) : CitesRealLines sha256 request r := by
  rw [decodeAbstention] at h
  split at h
  case isTrue => cases h
  case isFalse =>
    split at h
    case h_1 => cases h
    case h_2 note _ =>
      obtain ⟨hstatus, hjudgement, hevidence⟩ :=
        completedResult_eq_ok sha256 request (mapError_eq_ok_iff.mp h)
      exact ⟨hstatus, Or.inl ⟨hjudgement, hevidence⟩⟩

theorem decodeVerdict_eq_ok {payload : List UInt8} {raw : JsonMembers} {r : FMAdvisoryResult}
    (h : decodeVerdict sha256 request (sourceAtoms request) payload raw = .ok r) :
    CitesRealLines sha256 request r := by
  rw [decodeVerdict] at h
  split at h
  case isTrue => cases h
  case isFalse =>
    obtain ⟨es, hes, h⟩ := bind_eq_ok_iff.mp h
    obtain ⟨hstatus, hjudgement, rfl⟩ := completedResult_eq_ok sha256 request (mapError_eq_ok_iff.mp h)
    refine ⟨hstatus, Or.inr ⟨?_, (evidence_eq_ok sha256 request hes).1⟩⟩
    rw [hjudgement]
    by_cases hpass : saysWord raw "result" "Pass" = true
    · exact Or.inl (congrArg some (if_pos hpass))
    · exact Or.inr (congrArg some (if_neg hpass))

/-! ### Errors -/

theorem mapError_eq_error_iff {ε ε' : Type*} {α : Type _} {x : Except ε α} {f : ε → ε'} {e : ε'} :
    x.mapError f = .error e ↔ ∃ e₀, x = .error e₀ ∧ f e₀ = e := by
  rcases x with e₀ | a
  · constructor
    · intro h
      exact ⟨e₀, rfl, Except.error.inj h⟩
    · rintro ⟨e₁, h, rfl⟩
      rw [Except.error.inj h]
      rfl
  · exact iff_of_false nofun fun ⟨_, h, _⟩ => by cases h

theorem mapM_eq_error {α β : Type _} {ε : Type _} {f : α → Except ε β} {l : List α} {e : ε}
    (h : l.mapM f = .error e) : ∃ a ∈ l, f a = .error e := by
  induction l with
  | nil => cases h
  | cons a l ih =>
    rw [List.mapM_cons] at h
    rcases bind_eq_error_iff.mp h with h | ⟨b, -, h⟩
    · exact ⟨a, List.mem_cons_self, h⟩
    · rcases bind_eq_error_iff.mp h with h | ⟨bs, -, h⟩
      · obtain ⟨a', ha', h⟩ := ih h
        exact ⟨a', List.mem_cons_of_mem a ha', h⟩
      · cases h

theorem evidenceFor_eq_error {role : AdvisoryRole} {item : PyStr} {e : PyExc}
    (h : evidenceFor sha256 atoms role item = .error e) : e = .valueError := by
  rw [evidenceFor] at h
  split at h
  · exact (Except.error.inj h).symm
  · split at h
    · exact (Except.error.inj h).symm
    · obtain ⟨_, -, rfl⟩ := mapError_eq_error_iff.mp h
      rfl

theorem evidenceIds?_eq_error {value : JsonDoc} {e : PyExc} (h : evidenceIds? value = .error e) :
    e = .valueError := by
  cases value with
  | arr items =>
    rw [evidenceIds?] at h
    split at h
    · split at h
      · split at h
        · cases h
        · exact (Except.error.inj h).symm
      · exact (Except.error.inj h).symm
    · exact (Except.error.inj h).symm
  | _ => exact (Except.error.inj h).symm

theorem evidenceOf_eq_error {raw : JsonMembers} {key : String} {role : AdvisoryRole} {e : PyExc}
    (h : evidenceOf sha256 raw atoms key role = .error e) : e = .keyError ∨ e = .valueError := by
  rw [evidenceOf] at h
  split at h
  · exact Or.inl (Except.error.inj h).symm
  · rcases bind_eq_error_iff.mp h with h | ⟨ids, -, h⟩
    · exact Or.inr (evidenceIds?_eq_error h)
    · obtain ⟨item, -, h⟩ := mapM_eq_error h
      exact Or.inr (evidenceFor_eq_error sha256 atoms h)

theorem evidence_eq_error {raw : JsonMembers} {e : PyExc} (h : evidence sha256 raw atoms = .error e) :
    e = .keyError ∨ e = .valueError := by
  rcases bind_eq_error_iff.mp h with h | ⟨specification, -, h⟩
  · exact evidenceOf_eq_error sha256 atoms h
  · rcases bind_eq_error_iff.mp h with h | ⟨response, -, h⟩
    · exact evidenceOf_eq_error sha256 atoms h
    · cases h

variable (decoder : JsonDecoder)

/-- The decoder raises nothing but invalid output. -/
theorem decode_eq_error {payload : List UInt8} {e : PyExc}
    (h : decode sha256 decoder request atoms payload = .error e) : e ∈ invalidOutputErrors := by
  have hvalue : PyExc.valueError ∈ invalidOutputErrors := List.mem_cons_self
  have hkey : PyExc.keyError ∈ invalidOutputErrors := by decide
  rw [decode, advisoryHooks_eq] at h
  split at h
  case isTrue => exact Except.error.inj h ▸ hvalue
  case isFalse =>
    split at h
    case h_1 e' hload =>
      obtain ⟨fault, hfault⟩ := loadsWith_eq_error judgeHooks_raisesValueErrors hload
      rw [← Except.error.inj h, hfault]
      cases fault <;> decide
    case h_2 raw _ =>
      split at h
      case isTrue =>
        rw [decodeAbstention] at h
        split at h
        · exact Except.error.inj h ▸ hvalue
        · split at h
          · exact Except.error.inj h ▸ hkey
          · obtain ⟨_, -, rfl⟩ := mapError_eq_error_iff.mp h
            exact hvalue
      case isFalse =>
        rw [decodeVerdict] at h
        split at h
        · exact Except.error.inj h ▸ hvalue
        · rcases bind_eq_error_iff.mp h with h | ⟨es, -, h⟩
          · rcases evidence_eq_error sha256 atoms h with rfl | rfl
            · exact hkey
            · exact hvalue
          · obtain ⟨_, -, rfl⟩ := mapError_eq_error_iff.mp h
            exact hvalue
    case h_3 => exact Except.error.inj h ▸ hvalue

/-- The outcomes for errors are results of the model. -/
theorem outcome_error (reason : AdvisoryReason) (attempted : Bool)
    (h : reason ∈ [AdvisoryReason.executionTimeout, .executionFailed, .invalidModelOutput, .inputLimit]) :
    ∃ r, outcome sha256 request .error reason attempted = .ok r ∧ r.val.status = .error ∧
      r.val.reason = some reason ∧ r.val.generationAttempted = attempted := by
  have hvalid : FMAdvisoryResultData.validate
      { candidate := request.val.candidate, requestSha256 := requestSha256 sha256 request,
        status := .error, generationAttempted := attempted, reason := some reason } = .ok () := by
    rw [FMAdvisoryResultData.validate, validateWith_eq_ok]
    refine ⟨rfl, ?_⟩
    simp only [List.mem_cons, List.not_mem_nil, or_false] at h
    rcases h with rfl | rfl | rfl | rfl <;>
      simp [FMAdvisoryResultData.outcomeMatchesExecution]
  exact ⟨⟨_, hvalid⟩, construct_of_ok hvalid, rfl, rfl, rfl⟩

/-- What is caught for invalid output becomes that outcome. -/
theorem handleInvoke_invalidOutput {e : PyExc} (h : e ∈ invalidOutputErrors) (attempted : Bool) :
    ∃ r, handleInvoke sha256 request attempted (.exc e) = .ok r ∧ r.val.status = .error ∧
      r.val.reason = some .invalidModelOutput ∧ r.val.generationAttempted = attempted := by
  obtain ⟨r, hr, hfields⟩ := outcome_error sha256 request .invalidModelOutput attempted (by decide)
  refine ⟨r, ?_, hfields⟩
  rw [handleInvoke, if_pos h, hr]
  rfl

/-! ### The protocol -/

/-- A decoding that is caught as invalid output, or a completed result that cites real lines. -/
def DecodedSoundly : Except PyExc FMAdvisoryResult → Prop
  | .error e => ∀ attempted, ∃ r, handleInvoke sha256 request attempted (.exc e) = .ok r ∧
      r.val.status = .error ∧ r.val.reason = some .invalidModelOutput
  | .ok r => CitesRealLines sha256 request r

theorem decode_sound (payload : List UInt8) :
    DecodedSoundly sha256 request (decode sha256 decoder request (sourceAtoms request) payload) := by
  cases h : decode sha256 decoder request (sourceAtoms request) payload with
  | error e =>
    intro attempted
    obtain ⟨r, hr, hstatus, hreason, -⟩ :=
      handleInvoke_invalidOutput sha256 request (decode_eq_error sha256 request _ decoder h) attempted
    exact ⟨r, hr, hstatus, hreason⟩
  | ok r =>
    show CitesRealLines sha256 request r
    rw [decode] at h
    split at h
    case isTrue => cases h
    case isFalse =>
      split at h
      case h_1 => cases h
      case h_2 raw _ =>
        split at h
        case isTrue => exact decodeAbstention_eq_ok sha256 request h
        case isFalse => exact decodeVerdict_eq_ok sha256 request h
      case h_3 => cases h

/-- An invocation whose model answers returns what the answer is decoded to, or the
outcome for invalid output. -/
theorem invoke_of_output {host : InvokeHost} {provider output : List UInt8}
    (hprompt : ∃ p, prompt request (sourceAtoms request) = .ok p)
    (hlate : host.lateForProvider = false ∧ host.lateForOutput = false)
    (hprovider : host.provider = .ok provider) (hnone : stripBytes provider = utf8 "(none)".toList)
    (hschema : host.schema = .ok ()) (houtput : host.output = .ok output) :
    ∃ r, invoke sha256 decoder request host = .ok r ∧
      (decode sha256 decoder request (sourceAtoms request) output = .ok r ∨
        (r.val.status = .error ∧ r.val.reason = some .invalidModelOutput)) := by
  obtain ⟨p, hp⟩ := hprompt
  have hbody : invokeBody sha256 decoder request (sourceAtoms request) host =
      (decode sha256 decoder request (sourceAtoms request) output).mapError fun e => (true, .exc e) := by
    simp only [invokeBody, hlate.1, hlate.2, hprovider, hnone, hschema, houtput, Bool.false_eq_true,
      if_false, ne_eq, not_true_eq_false]
  simp only [invoke, hp, hbody]
  cases h : decode sha256 decoder request (sourceAtoms request) output with
  | ok r => exact ⟨r, rfl, Or.inl rfl⟩
  | error e =>
    obtain ⟨r, hr, hstatus, hreason, -⟩ :=
      handleInvoke_invalidOutput sha256 request (decode_eq_error sha256 request _ decoder h) true
    exact ⟨r, hr, Or.inr ⟨hstatus, hreason⟩⟩

/-- **Advisory evidence is real**: every line that is not blank has exactly one
identifier, the lists of the prompt divide the identifiers, and whatever the
output says, it is refused as invalid output or its evidence is made of such lines. -/
theorem fmAdvisory_evidence_real :
    ((sourceAtoms request).map Prod.fst).Nodup ∧
      (∀ d ∈ request.val.documents, ∀ line ∈ d.lines, strip line.1 ≠ [] →
        ∃! id, (sourceAtoms request).lookup id =
          some ⟨d.val.documentId, d.val.role, line.2, line.1⟩) ∧
      (∀ id a, (sourceAtoms request).lookup id = some a → a ∈ realLines request) ∧
      ((sourceDocuments request (sourceAtoms request)).flatMap SourceDocument.sourceAtomIds).Perm
        ((sourceAtoms request).map Prod.fst) ∧
      (∀ g ∈ sourceDocuments request (sourceAtoms request), ∀ id ∈ g.sourceAtomIds,
        ∃ a, (sourceAtoms request).lookup id = some a ∧ a.documentId = g.documentId) ∧
      ∀ payload,
        DecodedSoundly sha256 request (decode sha256 decoder request (sourceAtoms request) payload) := by
  refine ⟨sourceAtoms_nodup request, ?_, fun id a => realLine_of_lookup request,
    sourceDocuments_perm request, ?_, decode_sound sha256 request decoder⟩
  · intro d hd line hline hblank
    exact existsUnique_id request (mem_realLines.mpr ⟨d, hd, hline, hblank, rfl, rfl⟩)
  · intro g hg id hid
    obtain ⟨d, -, rfl⟩ := List.mem_map.mp hg
    obtain ⟨p, hp, rfl⟩ := List.mem_map.mp hid
    obtain ⟨hp, hdoc⟩ := List.mem_filter.mp hp
    exact ⟨p.2, (sourceAtoms_lookup request).mpr hp, of_decide_eq_true hdoc⟩

end SkillsSdk
