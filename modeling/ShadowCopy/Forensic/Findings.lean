import ShadowCopy.Forensic.Degraded

namespace ShadowCopy.Forensic

open ShadowCopy.Data
open ShadowCopy.Core

/-! Anomalies as findings of a report. -/

def analyzer : String := "vsc-forensic"

def packageVersion : String := "0.2.2"

/-- The FILETIME of the Unix epoch. -/
def filetimeEpochDiff : UInt64 := 116444736000000000

inductive Category where
  | history
  | residue
  | provenance
  deriving DecidableEq

structure Source where
  analyzer : String
  scope : String
  version : Option String

structure SubjectRef where
  scheme : String
  kind : String
  id : String
  label : Option String

structure Evidence where
  field : String
  value : String
  deriving DecidableEq

structure Timestamp where
  value : String
  kind : String

namespace AnomalyKind

def category : AnomalyKind → Category
  | .noShadowCopies => .history
  | .storePresent .. => .history
  | .sequenceGap .. => .residue
  | .storeNonPersistent .. => .provenance

def mitre : AnomalyKind → List String
  | .noShadowCopies => ["T1490"]
  | .sequenceGap .. => ["T1490"]
  | .storePresent .. => []
  | .storeNonPersistent .. => []

def shadowCopySubject (storeId : String) : SubjectRef where
  scheme := "vss"
  kind := "shadow_copy"
  id := storeId
  label := none

def subjects : AnomalyKind → List SubjectRef
  | .storePresent storeId _ _ _ => [shadowCopySubject storeId]
  | .storeNonPersistent storeId _ => [shadowCopySubject storeId]
  | .noShadowCopies => []
  | .sequenceGap .. => []

def evidence : AnomalyKind → List Evidence
  | .noShadowCopies => []
  | .storePresent storeId sequence volumeSize creationTime =>
      [ ⟨"store_id", storeId⟩, ⟨"sequence", toString sequence⟩,
        ⟨"volume_size", toString volumeSize⟩,
        ⟨"creation_time_filetime", toString creationTime⟩ ]
  | .sequenceGap previous next =>
      [ ⟨"previous_sequence", toString previous⟩,
        ⟨"next_sequence", toString next⟩ ]
  | .storeNonPersistent storeId attributeFlags =>
      [ ⟨"store_id", storeId⟩,
        ⟨"attribute_flags", "0x" ++ hexWord attributeFlags⟩ ]

end AnomalyKind

/-- What an anomaly lets a report observe. -/
structure Observation where
  severity : Option Severity
  code : String
  note : String
  category : Category
  subjects : List SubjectRef
  evidence : List Evidence
  mitre : List String

def Anomaly.observation (anomaly : Anomaly) : Observation where
  severity := some anomaly.severity
  code := anomaly.code
  note := anomaly.note
  category := anomaly.kind.category
  subjects := anomaly.kind.subjects
  evidence := anomaly.kind.evidence
  mitre := anomaly.kind.mitre

/-- The report crate: its findings, and a date for nanoseconds since the Unix
epoch where the calendar has one. -/
structure ReportCrate (φ : Type) where
  toFinding : Observation → Source → φ
  pushTimestamp : φ → Timestamp → φ
  rfc3339 : Int → Option String

/-- `i128` multiplication. -/
def mulI128 (a b : Int) : Outcome ε Int :=
  if -2 ^ 127 ≤ a * b ∧ a * b < 2 ^ 127 then .ok (a * b) else .panic

section Programs

variable {φ : Type} (crate : ReportCrate φ)

def filetimeToRfc3339 (filetime : UInt64) : Outcome ε (Option String) :=
  if filetime = 0 ∨ filetime < filetimeEpochDiff then
    return none
  else do
    let elapsed ← subU64 filetime filetimeEpochDiff
    let unixNanos ← mulI128 elapsed.toNat 100
    return crate.rfc3339 unixNanos

def AnomalyKind.timestamps : AnomalyKind → Outcome ε (List Timestamp)
  | .storePresent _ _ _ creationTime => do
      match ← filetimeToRfc3339 crate creationTime with
      | some value => return [⟨value, "created"⟩]
      | none => return []
  | .noShadowCopies => return []
  | .sequenceGap .. => return []
  | .storeNonPersistent .. => return []

/-- `Anomaly::to_finding`. -/
def Anomaly.toFinding (anomaly : Anomaly) (source : Source) :
    Outcome ε φ := do
  let finding := crate.toFinding anomaly.observation source
  let timestamps ← anomaly.kind.timestamps crate
  return timestamps.foldl crate.pushTimestamp finding

def auditFindings [Target] (formatGuid : Guid → String) (volume : VssVolume)
    (scope : String) : ReadM Empty (List φ) := do
  let source : Source :=
    { analyzer := analyzer, scope := scope, version := some packageVersion }
  let anomalies ← audit formatGuid volume
  ReadM.lift (anomalies.foldlM
    (fun out anomaly => do
      return out ++ [← anomaly.toFinding crate source]) [])

end Programs

/-! What the programs compute. -/

section Values

variable {φ : Type} (crate : ReportCrate φ)

/-- Nanoseconds since the Unix epoch; none before it. -/
def unixNanos (filetime : UInt64) : Option Int :=
  if filetime < filetimeEpochDiff then none
  else some (((filetime.toNat - filetimeEpochDiff.toNat : Nat) : Int) * 100)

theorem unixNanos_eq_some {filetime : UInt64} {nanos : Int} :
    unixNanos filetime = some nanos ↔ filetimeEpochDiff ≤ filetime ∧
      nanos = ((filetime.toNat - filetimeEpochDiff.toNat : Nat) : Int) *
        100 := by
  unfold unixNanos
  by_cases hbefore : filetime < filetimeEpochDiff
  · rw [if_pos hbefore]
    exact iff_of_false (Option.some_ne_none nanos).symm
      fun h => UInt64.not_le.mpr hbefore h.1
  · rw [if_neg hbefore, Option.some_inj, eq_comm]
    exact (and_iff_right (UInt64.not_lt.mp hbefore)).symm

theorem filetimeToRfc3339_ok (filetime : UInt64) :
    (filetimeToRfc3339 crate filetime : Outcome ε (Option String)) =
      .ok ((unixNanos filetime).bind crate.rfc3339) := by
  have hepoch : filetimeEpochDiff.toNat = 116444736000000000 := rfl
  unfold filetimeToRfc3339 unixNanos
  by_cases hbefore : filetime < filetimeEpochDiff
  · rw [if_pos (.inr hbefore), if_pos hbefore]
    rfl
  · have hle : filetimeEpochDiff.toNat ≤ filetime.toNat :=
      Nat.not_lt.mp (mt UInt64.lt_iff_toNat_lt.mpr hbefore)
    have hzero : filetime ≠ 0 := by
      rintro rfl
      exact hbefore (by decide)
    have hlt := filetime.toNat_lt
    obtain ⟨elapsed, hsub, helapsed⟩ := subU64_ok (ε := ε) hle
    have hmul : (mulI128 elapsed.toNat 100 : Outcome ε Int) =
        .ok (((filetime.toNat - filetimeEpochDiff.toNat : Nat) : Int) *
          100) := by
      rw [helapsed]
      exact if_pos (by omega)
    rw [if_neg (not_or.mpr ⟨hzero, hbefore⟩), if_neg hbefore, hsub,
      Outcome.ok_bind, hmul]
    rfl

/-- The one timestamp there can be: the creation of a store that is present. -/
def AnomalyKind.stamps : AnomalyKind → List Timestamp
  | .storePresent _ _ _ creationTime =>
      (((unixNanos creationTime).bind crate.rfc3339).map
        fun value => ⟨value, "created"⟩).toList
  | .noShadowCopies => []
  | .sequenceGap .. => []
  | .storeNonPersistent .. => []

def Anomaly.findingOf (anomaly : Anomaly) (source : Source) : φ :=
  (anomaly.kind.stamps crate).foldl crate.pushTimestamp
    (crate.toFinding anomaly.observation source)

theorem AnomalyKind.timestamps_ok (kind : AnomalyKind) :
    (kind.timestamps crate : Outcome ε (List Timestamp)) =
      .ok (kind.stamps crate) := by
  cases kind with
  | noShadowCopies => rfl
  | sequenceGap previous next => rfl
  | storeNonPersistent storeId attributeFlags => rfl
  | storePresent storeId sequence volumeSize creationTime =>
      rw [timestamps, stamps, filetimeToRfc3339_ok, Outcome.ok_bind]
      cases (unixNanos creationTime).bind crate.rfc3339 <;> rfl

theorem Anomaly.toFinding_ok (anomaly : Anomaly) (source : Source) :
    (anomaly.toFinding crate source : Outcome ε φ) =
      .ok (anomaly.findingOf crate source) := by
  rw [toFinding, AnomalyKind.timestamps_ok]
  rfl

theorem auditFindings_value [Target] (formatGuid : Guid → String)
    {volume : VssVolume} {reader : Reader} {anomalies : List Anomaly}
    (h : (audit formatGuid volume reader).1 = .ok anomalies)
    (scope : String) :
    (auditFindings crate formatGuid volume scope reader).1 =
      .ok (anomalies.map fun anomaly => anomaly.findingOf crate
        ⟨analyzer, scope, some packageVersion⟩) := by
  have hloop : (anomalies.foldlM (fun out anomaly => do
      return out ++ [← anomaly.toFinding crate
        ⟨analyzer, scope, some packageVersion⟩]) [] : Outcome Empty _) =
        .ok (anomalies.map fun anomaly => anomaly.findingOf crate
          ⟨analyzer, scope, some packageVersion⟩) := by
    rw [Outcome.foldlM_ok _ _ fun out anomaly _ => by
        rw [Anomaly.toFinding_ok]
        rfl, foldl_append_singleton, List.nil_append]
  change (ReadM.bind (audit formatGuid volume) _ reader).1 = _
  unfold ReadM.bind
  generalize audit formatGuid volume reader = finished at h
  obtain ⟨outcome, after⟩ := finished
  change outcome = _ at h
  subst outcome
  exact hloop

end Values

/-! What evidence tells apart. -/

theorem toString_injective {a b : UInt64} (h : toString a = toString b) :
    a = b := by
  have hdigits : Nat.toDigits 10 a.toNat = Nat.toDigits 10 b.toNat := by
    rw [← Nat.toList_repr, ← Nat.toList_repr]
    exact congrArg String.toList h
  have hvalue := congrArg (Nat.ofDigitChars 10 · 0) hdigits
  simp only [Nat.ofDigitChars_ten_toDigits] at hvalue
  exact UInt64.toNat_inj.mp hvalue

/-- A number below a power of the base is told by its digits. -/
theorem mod_pow_eq {base a b width : Nat}
    (h : ∀ n, n < width → a / base ^ n % base = b / base ^ n % base) :
    a % base ^ width = b % base ^ width := by
  induction width with
  | zero => rw [Nat.pow_zero, Nat.mod_one, Nat.mod_one]
  | succ width ih =>
      rw [Nat.mod_pow_succ, Nat.mod_pow_succ, h width (Nat.lt_succ_self _),
        ih fun n hn => h n (Nat.lt_succ_of_lt hn)]

theorem digitChar_injective : ∀ x < 16, ∀ y < 16,
    Nat.digitChar x = Nat.digitChar y → x = y := by
  decide

theorem hexWord_injective {a b : UInt32} (h : hexWord a = hexWord b) :
    a = b := by
  have hdigits : a.toNat % 16 ^ 8 = b.toNat % 16 ^ 8 := by
    apply mod_pow_eq
    intro n hn
    have hget := congrArg (fun digits : List Char => digits[7 - n]?)
      (String.ofList_injective h)
    have hplace : 7 - (7 - n) = n := by omega
    have hin : 7 - n < 8 := by omega
    simp only [List.getElem?_map, List.getElem?_range hin, hplace,
      Option.map_some, Option.some.injEq] at hget
    exact digitChar_injective _ (Nat.mod_lt _ (by decide)) _
      (Nat.mod_lt _ (by decide)) hget
  apply UInt32.toNat_inj.mp
  rwa [Nat.mod_eq_of_lt (show a.toNat < 16 ^ 8 from a.toNat_lt),
    Nat.mod_eq_of_lt (show b.toNat < 16 ^ 8 from b.toNat_lt)] at hdigits

/-- The code and the evidence tell the whole anomaly. -/
theorem AnomalyKind.eq_of_evidence {left right : AnomalyKind}
    (hcode : left.code = right.code) (h : left.evidence = right.evidence) :
    left = right := by
  cases left with
  | noShadowCopies =>
      cases right with
      | noShadowCopies => rfl
      | _ => simp [code] at hcode
  | storePresent storeId sequence volumeSize creationTime =>
      cases right with
      | storePresent =>
          simp only [evidence, List.cons.injEq, Evidence.mk.injEq, true_and,
            and_true] at h
          obtain ⟨rfl, hsequence, hsize, htime⟩ := h
          rw [toString_injective hsequence, toString_injective hsize,
            toString_injective htime]
      | _ => simp [code] at hcode
  | sequenceGap previous next =>
      cases right with
      | sequenceGap =>
          simp only [evidence, List.cons.injEq, Evidence.mk.injEq, true_and,
            and_true] at h
          rw [toString_injective h.1, toString_injective h.2]
      | _ => simp [code] at hcode
  | storeNonPersistent storeId attributeFlags =>
      cases right with
      | storeNonPersistent =>
          simp only [evidence, List.cons.injEq, Evidence.mk.injEq, true_and,
            and_true] at h
          obtain ⟨rfl, hflags⟩ := h
          rw [hexWord_injective ((String.append_right_inj _).mp hflags)]
      | _ => simp [code] at hcode

section Told

variable [Target] (formatGuid : Guid → String) {volume : VssVolume}
  {reader : Reader}

/-- Whatever is found is derived from its kind, and a store it is about is one
of the volume's. -/
structure FoundIn (volume : VssVolume) (anomaly : Anomaly) : Prop where
  derived : anomaly = .new anomaly.kind
  subjects : ∀ subject ∈ anomaly.kind.subjects,
    ∃ d ∈ volume.stores, subject.id = formatGuid d.storeId
  created : ∀ storeId sequence volumeSize creationTime,
    anomaly.kind = .storePresent storeId sequence volumeSize creationTime →
      ∃ d ∈ volume.stores, d.creationTime = creationTime

omit [Target] in
theorem foundIn_catalogFindings {anomaly : Anomaly}
    (h : anomaly ∈ catalogFindings formatGuid volume) :
    FoundIn formatGuid volume anomaly := by
  rcases catalogFindings_kind formatGuid h with
    rfl | ⟨d, hd, rfl⟩ | ⟨previous, next, rfl⟩
  · exact ⟨rfl, fun _ hmem => absurd hmem List.not_mem_nil,
      fun _ _ _ _ hkind => AnomalyKind.noConfusion hkind⟩
  · refine ⟨rfl, fun subject hmem => ⟨d, hd, ?_⟩,
      fun _ _ _ _ hkind => ⟨d, hd, ?_⟩⟩
    · rw [List.mem_singleton.mp hmem]
      rfl
    · injection hkind
  · exact ⟨rfl, fun _ hmem => absurd hmem List.not_mem_nil,
      fun _ _ _ _ hkind => AnomalyKind.noConfusion hkind⟩

theorem foundIn_heardFindings {anomaly : Anomaly}
    (h : anomaly ∈ heardFindings formatGuid volume reader) :
    FoundIn formatGuid volume anomaly := by
  obtain ⟨d, hd, attributeFlags, rfl⟩ := heardFindings_kind formatGuid h
  refine ⟨rfl, fun subject hmem => ⟨d, hd, ?_⟩,
    fun _ _ _ _ hkind => AnomalyKind.noConfusion hkind⟩
  rw [List.mem_singleton.mp hmem]
  rfl

end Told

/-- On any reader the audit's findings are reported one by one and in order.
Two that differ differ in code or evidence, a subject is a store of the volume,
and a timestamp is the creation of one, after 1970. -/
theorem audit_findings_tell_anomalies [Target] {φ : Type}
    (formatGuid : Guid → String) (crate : ReportCrate φ) (scope : String)
    (reader : Reader) :
    ∃ volume anomalies, openVolume.runOn reader.image = .ok volume ∧
      (audit formatGuid volume reader).1 = .ok anomalies ∧
      (auditFindings crate formatGuid volume scope reader).1 =
        .ok (anomalies.map fun anomaly => anomaly.findingOf crate
          ⟨analyzer, scope, some packageVersion⟩) ∧
      (∀ anomaly ∈ anomalies, ∀ other ∈ anomalies,
        anomaly.observation.code = other.observation.code →
        anomaly.observation.evidence = other.observation.evidence →
          anomaly = other) ∧
      ∀ anomaly ∈ anomalies,
        (∀ subject ∈ anomaly.observation.subjects,
          ∃ d ∈ volume.stores, subject.id = formatGuid d.storeId) ∧
        ∀ stamp ∈ anomaly.kind.stamps crate, ∃ d ∈ volume.stores,
          filetimeEpochDiff ≤ d.creationTime ∧
          crate.rfc3339 (((d.creationTime.toNat -
            filetimeEpochDiff.toNat : Nat) : Int) * 100) =
              some stamp.value := by
  have hsize : (volumeOf reader.image).volumeSize =
      UInt64.ofNat reader.image.size := rfl
  have haudit := congrArg Prod.fst (audit_faulty formatGuid hsize)
  have hfound : ∀ anomaly ∈ catalogFindings formatGuid (volumeOf reader.image) ++
      heardFindings formatGuid (volumeOf reader.image) reader,
        FoundIn formatGuid (volumeOf reader.image) anomaly := by
    intro anomaly hmem
    rcases List.mem_append.mp hmem with hcatalog | hheard
    · exact foundIn_catalogFindings formatGuid hcatalog
    · exact foundIn_heardFindings formatGuid hheard
  refine ⟨_, _, (openVolume_runs _).runOn, haudit,
    auditFindings_value crate formatGuid haudit scope, ?_, ?_⟩
  · intro anomaly hmem other hother hcode hevidence
    have hderived := (hfound anomaly hmem).derived
    have hotherDerived := (hfound other hother).derived
    rw [hderived, hotherDerived] at hcode
    rw [hderived, hotherDerived, AnomalyKind.eq_of_evidence hcode hevidence]
  · intro anomaly hmem
    have h := hfound anomaly hmem
    refine ⟨h.subjects, fun stamp hstamp => ?_⟩
    unfold AnomalyKind.stamps at hstamp
    split at hstamp
    · rename_i storeId sequence volumeSize creationTime hkind
      obtain ⟨d, hd, rfl⟩ := h.created _ _ _ _ hkind
      obtain ⟨value, hvalue, rfl⟩ :=
        Option.map_eq_some_iff.mp (Option.mem_toList.mp hstamp)
      obtain ⟨nanos, hnanos, hrendered⟩ := Option.bind_eq_some_iff.mp hvalue
      obtain ⟨hafter, rfl⟩ := unixNanos_eq_some.mp hnanos
      exact ⟨d, hd, hafter, hrendered⟩
    · contradiction
    · contradiction
    · contradiction

end ShadowCopy.Forensic
