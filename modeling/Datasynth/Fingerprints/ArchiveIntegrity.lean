import Datasynth.Fingerprints.ArchiveRoundTrip

/-!
What a verified archive says about the fingerprint that was signed.  The signature covers the
checksums of the manifest, and a checksum covers the file of its name if that file is there.
-/

namespace Datasynth.Fingerprints.ArchiveIntegrity

open Datasynth.Core.JournalEntries (Digest)
open Datasynth.Fingerprints.Archive
open Datasynth.Fingerprints.ArchiveRoundTrip
open Datasynth.Fingerprints.Models
open Datasynth.Fingerprints.Signing
open Datasynth.Lib.ExceptRuns
open Datasynth.Lib.SortedEntries

variable {P : Payloads} (env : Environment P) (readOptions : ReadOptions)

section Inversion

variable {env readOptions} {archive : ZipArchive} {name : String}
  {sums : OrderedMap String String}

theorem eq_of_verifyChecksum {text sum : String}
    (hoption : readOptions.verify_checksums = true) (hsum : sums.find? name = some sum)
    (h : verifyChecksum env readOptions sums name text = .ok ()) :
    compute_checksum env text = sum := by
  rw [verifyChecksum, hoption, hsum] at h
  by_contra hne
  have herror : verifyChecksum env readOptions sums name text =
      .error (.checksumMismatch name sum (compute_checksum env text)) := by
    rw [verifyChecksum, hoption, hsum]
    exact if_pos hne
  rw [verifyChecksum, hoption, hsum, h] at herror
  cases herror

/-- A component without a file is absent, one with a file is what the file holds. -/
theorem try_read_yaml_component_cases {α : Type} {serde : Serde α} {value? : Option α}
    (h : try_read_yaml_component env readOptions serde archive name sums = .ok value?) :
    (archive name = none ∧ value? = none) ∨
      ∃ text a, archive name = some (.contents text) ∧
        verifyChecksum env readOptions sums name text = .ok () ∧
        serde.from_str text = .ok a ∧ value? = some a := by
  rw [try_read_yaml_component] at h
  cases hfile : archive name with
  | none =>
      rw [hfile] at h
      cases h
      exact .inl ⟨rfl, rfl⟩
  | some entry =>
      rw [hfile] at h
      cases entry with
      | unopened error => cases h
      | unreadable error => cases h
      | contents text =>
          obtain ⟨⟨⟩, hcheck, h⟩ := bind_eq_ok_iff.mp h
          obtain ⟨a, hread, h⟩ := bind_eq_ok_iff.mp h
          cases h
          exact .inr ⟨text, a, rfl, hcheck, mapError_eq_ok_iff.mp hread, rfl⟩

theorem read_json_component_cases {α : Type} {serde : Serde α} {a : α}
    (h : read_json_component env readOptions serde archive name sums = .ok a) :
    ∃ text, archive name = some (.contents text) ∧
      verifyChecksum env readOptions sums name text = .ok () ∧ serde.from_str text = .ok a := by
  rw [read_json_component] at h
  cases hfile : archive name with
  | none =>
      rw [hfile] at h
      cases h
  | some entry =>
      rw [hfile] at h
      cases entry with
      | unopened error => cases h
      | unreadable error => cases h
      | contents text =>
          obtain ⟨⟨⟩, hcheck, h⟩ := bind_eq_ok_iff.mp h
          exact ⟨text, rfl, hcheck, mapError_eq_ok_iff.mp h⟩

end Inversion

section Components

variable {env readOptions} {archive : ZipArchive} {name : String}
  {sums : OrderedMap String String} {α : Type} {serde : Serde α}

variable (env) in
/-- No other text of the archive has the checksum of what was written. -/
def NoCollision (archive : ZipArchive) (name : String) (written? : Option String) : Prop :=
  ∀ text text', archive name = some (.contents text) → written? = some text' →
    compute_checksum env text = compute_checksum env text' → text = text'

/-- A file that is there under a listed checksum is the one that was written. -/
theorem eq_of_listed {text text' : String} {written? : Option String}
    (hoption : readOptions.verify_checksums = true)
    (hsum : sums.find? name = written?.map (compute_checksum env))
    (hcollision : NoCollision env archive name written?)
    (hfile : archive name = some (.contents text))
    (hcheck : verifyChecksum env readOptions sums name text = .ok ())
    (hwritten : written? = some text') : text = text' := by
  rw [hwritten] at hsum
  exact hcollision text text' hfile hwritten (eq_of_verifyChecksum hoption hsum hcheck)

/-- An optional component is the signed one exactly if its file is there when it should be. -/
theorem optional_eq_iff {signed? value? : Option α}
    (hoption : readOptions.verify_checksums = true)
    (hsum : sums.find? name = (signed?.map serde.to_string).map (compute_checksum env))
    (hcollision : NoCollision env archive name (signed?.map serde.to_string))
    (hserde : ∀ a ∈ signed?, RoundTrips serde serde.to_string a)
    (h : try_read_yaml_component env readOptions serde archive name sums = .ok value?) :
    value? = signed? ↔ ((archive name).isSome = true ↔ signed?.isSome = true) := by
  obtain ⟨hfile, rfl⟩ | ⟨text, a, hfile, hcheck, hread, rfl⟩ :=
    try_read_yaml_component_cases h
  · rw [hfile]
    cases signed? with
    | none => exact iff_of_true rfl Iff.rfl
    | some b =>
        apply iff_of_false
        · intro h
          cases h
        · intro h
          cases h.mpr rfl
  · rw [hfile]
    cases signed? with
    | none =>
        apply iff_of_false
        · intro h
          cases h
        · intro h
          cases h.mp rfl
    | some b =>
        have htext := eq_of_listed hoption hsum hcollision hfile hcheck rfl
        have hb : serde.from_str text = .ok b := htext ▸ hserde b rfl
        rw [hread] at hb
        cases hb
        exact iff_of_true rfl (iff_of_true rfl rfl)

/-- A component that is left out when it is the default: its file is there if it was written,
and a file that was not written holds what was left out. -/
def DefaultedIntact (serde : Serde α) (archive : ZipArchive) (name : String)
    (written? : Option String) (signed default : α) : Prop :=
  match written? with
  | some _ => (archive name).isSome = true
  | none =>
      (archive name = none ∧ signed = default) ∨
        ∃ text, archive name = some (.contents text) ∧ serde.from_str text = .ok signed

theorem defaulted_eq_iff {signed? value? : Option α} {signed default : α}
    (hoption : readOptions.verify_checksums = true)
    (hsigned : ∀ a ∈ signed?, a = signed) (hdefault : signed?.isSome = true → signed ≠ default)
    (hsum : sums.find? name = (signed?.map serde.to_string).map (compute_checksum env))
    (hcollision : NoCollision env archive name (signed?.map serde.to_string))
    (hserde : ∀ a ∈ signed?, RoundTrips serde serde.to_string a)
    (h : try_read_yaml_component env readOptions serde archive name sums = .ok value?) :
    value?.getD default = signed ↔
      DefaultedIntact serde archive name (signed?.map serde.to_string) signed default := by
  obtain ⟨hfile, rfl⟩ | ⟨text, a, hfile, hcheck, hread, rfl⟩ :=
    try_read_yaml_component_cases h
  · cases signed? with
    | none =>
        constructor
        · intro h
          exact .inl ⟨hfile, h.symm⟩
        · rintro (⟨-, h⟩ | ⟨text, hcontents, -⟩)
          · exact h.symm
          · rw [hfile] at hcontents
            cases hcontents
    | some b =>
        apply iff_of_false
        · exact fun h => hdefault rfl h.symm
        · intro h
          have hsome : (archive name).isSome = true := h
          rw [hfile] at hsome
          cases hsome
  · cases signed? with
    | none =>
        constructor
        · rintro rfl
          exact .inr ⟨text, hfile, hread⟩
        · rintro (⟨hnone, -⟩ | ⟨text', hcontents, hread'⟩)
          · rw [hfile] at hnone
            cases hnone
          · rw [hfile] at hcontents
            cases hcontents
            rw [hread] at hread'
            exact Except.ok.inj hread'
    | some b =>
        have htext := eq_of_listed hoption hsum hcollision hfile hcheck rfl
        have hb : serde.from_str text = .ok b := htext ▸ hserde b rfl
        rw [hread] at hb
        cases hb
        have hpresent : (archive name).isSome = true := by rw [hfile]; rfl
        exact iff_of_true (hsigned a rfl) hpresent

end Components

section Verified

variable {env readOptions} {archive : ZipArchive} {fingerprint : Fingerprint P}

/-- The reads of the components of a fingerprint. -/
structure ReadFrom (env : Environment P) (readOptions : ReadOptions) (archive : ZipArchive)
    (fingerprint : Fingerprint P) : Prop where
  schema : ∃ value?, try_read_yaml_component env readOptions env.codec.schema archive SCHEMA
    fingerprint.manifest.checksums = .ok value? ∧ fingerprint.schema = value?.getD (.new P)
  statistics : ∃ value?, try_read_yaml_component env readOptions env.codec.statistics archive
    STATISTICS fingerprint.manifest.checksums = .ok value? ∧
      fingerprint.statistics = value?.getD (.new P)
  correlations : try_read_yaml_component env readOptions env.codec.correlations archive
    CORRELATIONS fingerprint.manifest.checksums = .ok fingerprint.correlations
  integrity : try_read_yaml_component env readOptions env.codec.integrity archive INTEGRITY
    fingerprint.manifest.checksums = .ok fingerprint.integrity
  rules : try_read_yaml_component env readOptions env.codec.rules archive RULES
    fingerprint.manifest.checksums = .ok fingerprint.rules
  anomalies : try_read_yaml_component env readOptions env.codec.anomalies archive ANOMALIES
    fingerprint.manifest.checksums = .ok fingerprint.anomalies
  behavioral : try_read_yaml_component env readOptions env.codec.behavioral archive BEHAVIORAL
    fingerprint.manifest.checksums = .ok fingerprint.behavioral
  privacy_audit : read_json_component env readOptions env.codec.privacy_audit archive
    PRIVACY_AUDIT fingerprint.manifest.checksums = .ok fingerprint.privacy_audit
  banking : fingerprint.banking = none

theorem readFrom_of_readComponents {manifest : Manifest P}
    (h : readComponents env readOptions archive manifest = .ok fingerprint) :
    fingerprint.manifest = manifest ∧ ReadFrom env readOptions archive fingerprint := by
  cases hversion : acceptsVersion readOptions manifest.version with
  | false =>
      rw [readComponents_refused env readOptions hversion] at h
      cases h
  | true =>
      rw [readComponents, hversion] at h
      obtain ⟨schema, hschema, h⟩ := bind_eq_ok_iff.mp h
      obtain ⟨statistics, hstatistics, h⟩ := bind_eq_ok_iff.mp h
      obtain ⟨audit, haudit, h⟩ := bind_eq_ok_iff.mp h
      obtain ⟨correlations, hcorrelations, h⟩ := bind_eq_ok_iff.mp h
      obtain ⟨integrity, hintegrity, h⟩ := bind_eq_ok_iff.mp h
      obtain ⟨rules, hrules, h⟩ := bind_eq_ok_iff.mp h
      obtain ⟨anomalies, hanomalies, h⟩ := bind_eq_ok_iff.mp h
      obtain ⟨behavioral, hbehavioral, h⟩ := bind_eq_ok_iff.mp h
      cases h
      exact ⟨rfl, ⟨schema, hschema, rfl⟩, ⟨statistics, hstatistics, rfl⟩, hcorrelations,
        hintegrity, hrules, hanomalies, hbehavioral, haudit, rfl⟩

/-- A verified read: the manifest passed the check, and the components were read. -/
theorem read_verified_cases {key : SigningKey}
    (h : FingerprintReader.read_verified env readOptions key archive = .ok fingerprint) :
    readManifest env archive = .ok fingerprint.manifest ∧
      verify_manifest env.sha256 env.json key fingerprint.manifest = .ok true ∧
      ReadFrom env readOptions archive fingerprint := by
  rw [FingerprintReader.read_verified] at h
  obtain ⟨manifest, hmanifest, h⟩ := bind_eq_ok_iff.mp h
  obtain ⟨valid, hverify, h⟩ := bind_eq_ok_iff.mp h
  cases valid with
  | false => cases h
  | true =>
      obtain ⟨rfl, hread⟩ := readFrom_of_readComponents h
      exact ⟨hmanifest, hverify, hread⟩

end Verified

section Signed

/-- A fingerprint that was signed, and with which options. -/
structure Signing (P : Payloads) where
  options : WriteOptions
  now : P.DateTime
  fingerprint : Fingerprint P

variable (key : SigningKey) (archive : ZipArchive) (signing : Signing P)

def Signing.manifest : Manifest P :=
  signedManifest env signing.options key signing.now signing.fingerprint

def Signing.text? (name : String) : Option String :=
  written env signing.options signing.fingerprint name

/-- The key accepts a manifest only if it signed it. -/
def AcceptsOnlySigned (signings : Set (Signing P)) (manifest : Manifest P) : Prop :=
  verify_manifest env.sha256 env.json key manifest = .ok true →
    ∃ signing ∈ signings, Manifest.unsigned manifest =
      Manifest.unsigned (signing.manifest env key)

/-- No file of the archive has the checksum of another text that was signed under its name. -/
def CollisionFree (signings : Set (Signing P)) : Prop :=
  ∀ signing ∈ signings, ∀ name ∈ componentNames,
    NoCollision env archive name (signing.text? env name)

/-- The archive has the files that were written and no others, but that a file which holds the
default may stand for a part that was left out; and the archive could hold all of it. -/
structure Untouched : Prop where
  banking : signing.fingerprint.banking = none
  schema : DefaultedIntact env.codec.schema archive SCHEMA (signing.text? env SCHEMA)
    signing.fingerprint.schema (.new P)
  statistics : DefaultedIntact env.codec.statistics archive STATISTICS
    (signing.text? env STATISTICS) signing.fingerprint.statistics (.new P)
  optional : ∀ name ∈ [CORRELATIONS, INTEGRITY, RULES, ANOMALIES, BEHAVIORAL],
    ((archive name).isSome = true ↔ (signing.text? env name).isSome = true)

theorem withoutChecks_eq_iff (a b : Fingerprint P) : withoutChecks a = withoutChecks b ↔
    manifestWithoutChecks a.manifest = manifestWithoutChecks b.manifest ∧
      a.schema = b.schema ∧ a.statistics = b.statistics ∧ a.correlations = b.correlations ∧
      a.integrity = b.integrity ∧ a.rules = b.rules ∧ a.anomalies = b.anomalies ∧
      a.banking = b.banking ∧ a.behavioral = b.behavioral ∧ a.privacy_audit = b.privacy_audit :=
  by rw [withoutChecks, withoutChecks, Fingerprint.mk.injEq]

theorem manifestWithoutChecks_unsigned (manifest : Manifest P) :
    manifestWithoutChecks (Manifest.unsigned manifest) = manifestWithoutChecks manifest := rfl

theorem eq_of_mem_schema? {fingerprint : Fingerprint P} {a : SchemaFingerprint P}
    (h : a ∈ schema? fingerprint) : a = fingerprint.schema := by
  rw [schema?] at h
  split at h
  · cases h
  · exact (Option.some.inj h).symm

theorem ne_new_of_schema? {fingerprint : Fingerprint P}
    (h : (schema? fingerprint).isSome = true) : fingerprint.schema ≠ .new P := by
  intro hnew
  have hempty := ((SchemaFingerprint.eq_new_iff _).mp hnew).1
  rw [schema?, if_pos hempty] at h
  cases h

theorem eq_of_mem_statistics? {fingerprint : Fingerprint P} {a : StatisticsFingerprint P}
    (h : a ∈ statistics? fingerprint) : a = fingerprint.statistics := by
  rw [statistics?] at h
  split at h
  · cases h
  · exact (Option.some.inj h).symm

theorem ne_new_of_statistics? {fingerprint : Fingerprint P}
    (h : (statistics? fingerprint).isSome = true) : fingerprint.statistics ≠ .new P := by
  intro hnew
  have hempty := (StatisticsFingerprint.is_empty_iff _).mpr hnew
  rw [statistics?, if_pos hempty] at h
  cases h

variable {env readOptions key archive signing}

/-- What is read under a signed manifest is what was signed exactly if the archive is
untouched. -/
theorem withoutChecks_eq_iff_untouched {fingerprint : Fingerprint P}
    (hoption : readOptions.verify_checksums = true)
    (hread : ReadFrom env readOptions archive fingerprint)
    (hmanifest : Manifest.unsigned fingerprint.manifest =
      Manifest.unsigned (signing.manifest env key))
    (hcollision : ∀ name ∈ componentNames,
      NoCollision env archive name (signing.text? env name))
    (hserde : ComponentsRoundTrip env signing.options signing.fingerprint) :
    withoutChecks fingerprint = withoutChecks signing.fingerprint ↔
      Untouched env archive signing := by
  have hsums : ∀ name, fingerprint.manifest.checksums.find? name =
      (signing.text? env name).map (compute_checksum env) := by
    have hsame : fingerprint.manifest.checksums = (signing.manifest env key).checksums := by
      show (Manifest.unsigned fingerprint.manifest).checksums = _
      rw [hmanifest]
      rfl
    rw [hsame]
    exact find?_checksums env signing.options signing.fingerprint
  have hwithout : manifestWithoutChecks fingerprint.manifest =
      manifestWithoutChecks signing.fingerprint.manifest := by
    rw [← manifestWithoutChecks_unsigned, hmanifest]
    rfl
  obtain ⟨schema?, hschema, hschema_eq⟩ := hread.schema
  obtain ⟨statistics?, hstatistics, hstatistics_eq⟩ := hread.statistics
  have hschema_iff : fingerprint.schema = signing.fingerprint.schema ↔
      DefaultedIntact env.codec.schema archive SCHEMA (signing.text? env SCHEMA)
        signing.fingerprint.schema (.new P) := by
    have htext := written_schema env signing.options signing.fingerprint
    rw [hschema_eq, Signing.text?, htext]
    exact defaulted_eq_iff hoption (fun _ => eq_of_mem_schema?) ne_new_of_schema?
      (htext ▸ hsums SCHEMA) (htext ▸ hcollision SCHEMA (by decide)) hserde.schema hschema
  have hstatistics_iff : fingerprint.statistics = signing.fingerprint.statistics ↔
      DefaultedIntact env.codec.statistics archive STATISTICS (signing.text? env STATISTICS)
        signing.fingerprint.statistics (.new P) := by
    have htext := written_statistics env signing.options signing.fingerprint
    rw [hstatistics_eq, Signing.text?, htext]
    exact defaulted_eq_iff hoption (fun _ => eq_of_mem_statistics?) ne_new_of_statistics?
      (htext ▸ hsums STATISTICS) (htext ▸ hcollision STATISTICS (by decide)) hserde.statistics
      hstatistics
  have hoptional : ∀ {α : Type} (serde : Serde α) (name : String) (value? signed? : Option α),
      name ∈ componentNames → signing.text? env name = signed?.map serde.to_string →
      (∀ a ∈ signed?, RoundTrips serde serde.to_string a) →
      try_read_yaml_component env readOptions serde archive name
        fingerprint.manifest.checksums = .ok value? →
      (value? = signed? ↔
        ((archive name).isSome = true ↔ (signing.text? env name).isSome = true)) := by
    intro α serde name value? signed? hname htext hvalue h
    have hiff := optional_eq_iff hoption (htext ▸ hsums name) (htext ▸ hcollision name hname)
      hvalue h
    rwa [htext, Option.isSome_map]
  have hcorrelations := hoptional _ CORRELATIONS _ signing.fingerprint.correlations (by decide)
    rfl hserde.correlations hread.correlations
  have hintegrity := hoptional _ INTEGRITY _ signing.fingerprint.integrity (by decide)
    rfl hserde.integrity hread.integrity
  have hrules := hoptional _ RULES _ signing.fingerprint.rules (by decide)
    rfl hserde.rules hread.rules
  have hanomalies := hoptional _ ANOMALIES _ signing.fingerprint.anomalies (by decide)
    rfl hserde.anomalies hread.anomalies
  have hbehavioral := hoptional _ BEHAVIORAL _ signing.fingerprint.behavioral (by decide)
    rfl hserde.behavioral hread.behavioral
  have haudit : fingerprint.privacy_audit = signing.fingerprint.privacy_audit := by
    obtain ⟨text, hfile, hcheck, hread⟩ := read_json_component_cases hread.privacy_audit
    have htext := eq_of_listed hoption (hsums PRIVACY_AUDIT)
      (hcollision PRIVACY_AUDIT (by decide)) hfile hcheck rfl
    have haudit := hserde.privacy_audit
    rw [RoundTrips, ← htext, hread] at haudit
    exact Except.ok.inj haudit
  rw [withoutChecks_eq_iff, hschema_iff, hstatistics_iff, hcorrelations, hintegrity, hrules,
    hanomalies, hbehavioral, hread.banking]
  constructor
  · rintro ⟨-, hschema, hstatistics, hcorrelations, hintegrity, hrules, hanomalies, hbanking,
      hbehavioral, -⟩
    refine ⟨hbanking.symm, hschema, hstatistics, ?_⟩
    simp only [List.forall_mem_cons, List.not_mem_nil, false_imp_iff, implies_true, and_true]
    exact ⟨hcorrelations, hintegrity, hrules, hanomalies, hbehavioral⟩
  · rintro ⟨hbanking, hschema, hstatistics, hoptional⟩
    simp only [List.forall_mem_cons, List.not_mem_nil, false_imp_iff, implies_true, and_true]
      at hoptional
    obtain ⟨hcorrelations, hintegrity, hrules, hanomalies, hbehavioral⟩ := hoptional
    exact ⟨hwithout, hschema, hstatistics, hcorrelations, hintegrity, hrules, hanomalies,
      hbanking.symm, hbehavioral, haudit⟩

variable (env readOptions key archive)

/-- A verified read returns the components of a signed fingerprint exactly if no file of them
was removed from the archive or added to it. -/
theorem read_verified_components_iff (signings : Set (Signing P)) (fingerprint : Fingerprint P)
    (hoption : readOptions.verify_checksums = true)
    (hmac : ∀ manifest, readManifest env archive = .ok manifest →
      AcceptsOnlySigned env key signings manifest)
    (hcollision : CollisionFree env archive signings)
    (hserde : ∀ signing ∈ signings,
      ComponentsRoundTrip env signing.options signing.fingerprint)
    (h : FingerprintReader.read_verified env readOptions key archive = .ok fingerprint) :
    (∃ signing ∈ signings, Manifest.unsigned fingerprint.manifest =
        Manifest.unsigned (signing.manifest env key)) ∧
      ∀ signing ∈ signings, Manifest.unsigned fingerprint.manifest =
          Manifest.unsigned (signing.manifest env key) →
        (withoutChecks fingerprint = withoutChecks signing.fingerprint ↔
          Untouched env archive signing) := by
  obtain ⟨hmanifest, hverify, hread⟩ := read_verified_cases h
  refine ⟨hmac _ hmanifest hverify, ?_⟩
  intro signing hsigning hsame
  exact withoutChecks_eq_iff_untouched hoption hread hsame (hcollision signing hsigning)
    (hserde signing hsigning)

end Signed

section Sample

def sampleSigning : Signing emptyPayloads := ⟨⟨false⟩, (), sampleFingerprint none⟩

def sampleArchive : ZipArchive :=
  FingerprintWriter.write_signed sampleEnvironment ⟨false⟩ sampleKey () (sampleFingerprint none)

def withoutFile (archive : ZipArchive) (name : String) : ZipArchive :=
  fun name' => if name' = name then none else archive name'

theorem manifest_sampleSigning : sampleSigning.manifest sampleEnvironment sampleKey =
    sampleSigned := signedManifest_sample none

theorem files_sampleArchive : ∀ name ∈ componentNames, sampleArchive name =
    (written sampleEnvironment ⟨false⟩ (sampleFingerprint none) name).map Entry.contents :=
  fun name hname => archiveOf_componentFiles _ _ _ _
    (ne_manifest_of_mem_componentNames name hname)

theorem readManifest_sampleArchive :
    readManifest sampleEnvironment sampleArchive = .ok sampleSigned := by
  rw [← signedManifest_sample none]
  exact readManifest_archive _ _ _ (inputsRoundTrip_sample none).signed

theorem acceptsOnlySigned_sample {archive : ZipArchive} {manifest : Manifest emptyPayloads}
    (hfile : archive MANIFEST = sampleArchive MANIFEST)
    (h : readManifest sampleEnvironment archive = .ok manifest) :
    AcceptsOnlySigned sampleEnvironment sampleKey {sampleSigning} manifest := by
  intro _
  refine ⟨sampleSigning, rfl, ?_⟩
  rw [readManifest, hfile, ← readManifest, readManifest_sampleArchive] at h
  cases h
  rw [manifest_sampleSigning]

theorem collisionFree_sample {archive : ZipArchive}
    (hfiles : ∀ name text, archive name = some (.contents text) →
      sampleArchive name = some (.contents text)) :
    CollisionFree sampleEnvironment archive {sampleSigning} := by
  rintro signing rfl name hname text text' hfile hwritten -
  have hcontents := hfiles name text hfile
  rw [files_sampleArchive name hname] at hcontents
  have htext : written sampleEnvironment ⟨false⟩ (sampleFingerprint none) name = some text' :=
    hwritten
  rw [htext] at hcontents
  cases hcontents
  rfl

theorem componentsRoundTrip_sample : ∀ signing ∈ ({sampleSigning} : Set (Signing emptyPayloads)),
    ComponentsRoundTrip sampleEnvironment signing.options signing.fingerprint := by
  rintro signing rfl
  exact (inputsRoundTrip_sample none).components

theorem read_verified_sampleArchive :
    FingerprintReader.read_verified sampleEnvironment ⟨true, false⟩ sampleKey sampleArchive =
      .ok { sampleFingerprint none with manifest := sampleSigned } := by
  have hserde := inputsRoundTrip_sample none
  have hread : readComponents sampleEnvironment ⟨true, false⟩ sampleArchive
      (signedManifest sampleEnvironment ⟨false⟩ sampleKey () (sampleFingerprint none)) =
        .ok (restored (sampleFingerprint none)
          (signedManifest sampleEnvironment ⟨false⟩ sampleKey () (sampleFingerprint none))) :=
    readComponents_written _ ⟨false⟩ _ hserde.components files_sampleArchive rfl rfl
  rw [signedManifest_sample] at hread
  have hverified := read_verified_write_signed _ _ ⟨true, false⟩ _ _ _ hserde
  rw [signedManifest_sample] at hverified
  exact hverified.trans hread

theorem read_verified_components_iff_sample :
    (∃ signing ∈ ({sampleSigning} : Set (Signing emptyPayloads)),
      Manifest.unsigned sampleSigned =
        Manifest.unsigned (signing.manifest sampleEnvironment sampleKey)) ∧
      ∀ signing ∈ ({sampleSigning} : Set (Signing emptyPayloads)),
        Manifest.unsigned sampleSigned =
            Manifest.unsigned (signing.manifest sampleEnvironment sampleKey) →
          (withoutChecks { sampleFingerprint none with manifest := sampleSigned } =
              withoutChecks signing.fingerprint ↔
            Untouched sampleEnvironment sampleArchive signing) :=
  read_verified_components_iff sampleEnvironment ⟨true, false⟩ sampleKey sampleArchive
    {sampleSigning} { sampleFingerprint none with manifest := sampleSigned } rfl
    (fun _ h => acceptsOnlySigned_sample rfl h) (collisionFree_sample fun _ _ h => h)
    componentsRoundTrip_sample read_verified_sampleArchive

theorem verify_manifest_sampleSigned :
    verify_manifest sampleEnvironment.sha256 sampleEnvironment.json sampleKey sampleSigned =
      .ok true := by
  rw [← signedManifest_sample none]
  exact verify_manifest_sign_manifest _ _ _ _ _

/-- The components of the archive without its rules, under the manifest that lists them. -/
theorem readComponents_removed :
    (readComponents sampleEnvironment ⟨true, false⟩ (withoutFile sampleArchive RULES)
      sampleSigned).toOption.map (fun fingerprint => fingerprint.rules.isSome) =
        some false := by
  decide

theorem rules_of_removed :
    (FingerprintReader.read_verified sampleEnvironment ⟨true, false⟩ sampleKey
      (withoutFile sampleArchive RULES)).toOption.map
        (fun fingerprint => fingerprint.rules.isSome) = some false := by
  have hmanifest : readManifest sampleEnvironment (withoutFile sampleArchive RULES) =
      .ok sampleSigned := readManifest_sampleArchive
  rw [read_verified_of_accepted _ hmanifest verify_manifest_sampleSigned]
  exact readComponents_removed

/-- An archive from which the rules were removed is accepted, and has no rules. -/
theorem accepts_removed_rules :
    (∀ manifest, readManifest sampleEnvironment (withoutFile sampleArchive RULES) =
        .ok manifest → AcceptsOnlySigned sampleEnvironment sampleKey {sampleSigning} manifest) ∧
      CollisionFree sampleEnvironment (withoutFile sampleArchive RULES) {sampleSigning} ∧
      (∀ signing ∈ ({sampleSigning} : Set (Signing emptyPayloads)),
        ComponentsRoundTrip sampleEnvironment signing.options signing.fingerprint) ∧
      ∃ fingerprint, FingerprintReader.read_verified sampleEnvironment ⟨true, false⟩ sampleKey
          (withoutFile sampleArchive RULES) = .ok fingerprint ∧
        withoutChecks fingerprint ≠ withoutChecks sampleSigning.fingerprint := by
  refine ⟨fun _ h => acceptsOnlySigned_sample (if_neg (by decide)) h, ?_,
    componentsRoundTrip_sample, ?_⟩
  · apply collisionFree_sample
    intro name text hfile
    rw [withoutFile] at hfile
    split at hfile
    · cases hfile
    · exact hfile
  · have hrules := rules_of_removed
    cases hread : FingerprintReader.read_verified sampleEnvironment ⟨true, false⟩ sampleKey
        (withoutFile sampleArchive RULES) with
    | error e =>
        rw [hread] at hrules
        cases hrules
    | ok fingerprint =>
        rw [hread] at hrules
        refine ⟨fingerprint, rfl, ?_⟩
        intro hsame
        have hnone : fingerprint.rules.isSome = false := Option.some.inj hrules
        have hsome : fingerprint.rules = some () :=
          ((withoutChecks_eq_iff _ _).mp hsame).2.2.2.2.2.1
        rw [hsome] at hnone
        cases hnone

end Sample

end Datasynth.Fingerprints.ArchiveIntegrity
