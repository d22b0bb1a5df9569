import Datasynth.Fingerprints.Archive

/-!
Reading back what was written: every component that is written comes back, in both ways of
writing.
-/

namespace Datasynth.Fingerprints.ArchiveRoundTrip

open Datasynth.Core.JournalEntries (Digest digestOfNat)
open Datasynth.Fingerprints.Archive
open Datasynth.Fingerprints.Models
open Datasynth.Fingerprints.Signing
open Datasynth.Lib.ByteEncoding
open Datasynth.Lib.SortedEntries

section Slots

/-- The files of named slots that are filled, looked up. -/
theorem lookup_filterMap {slots : List (String × Option String)}
    (h : (slots.map Prod.fst).Nodup) (name : String) :
    (slots.filterMap fun slot => slot.2.map fun text => (slot.1, text)).lookup name =
      (slots.lookup name).join := by
  induction slots with
  | nil => rfl
  | cons slot slots ih =>
      obtain ⟨key, text?⟩ := slot
      rw [List.map_cons, List.nodup_cons] at h
      by_cases hname : name = key
      · subst hname
        have habsent : slots.lookup name = none := by
          rw [List.lookup_eq_none_iff]
          intro slot hslot
          have hne : name ≠ slot.1 := by
            intro heq
            apply h.1
            show name ∈ slots.map Prod.fst
            rw [heq]
            exact List.mem_map_of_mem hslot
          exact bne_iff_ne.mpr hne
        rw [List.lookup_cons_self]
        cases text? with
        | none =>
            rw [List.filterMap_cons_none (by rfl), ih h.2, habsent]
            rfl
        | some text => exact List.lookup_cons_self
      · have hbeq : (name == key) = false := beq_false_of_ne hname
        have hskip : List.lookup name ((key, text?) :: slots) = slots.lookup name := by
          rw [List.lookup_cons, hbeq]
        rw [hskip, ← ih h.2]
        cases text? with
        | none => rfl
        | some text =>
            show List.lookup name ((key, text) :: _) = _
            rw [List.lookup_cons, hbeq]

theorem mem_of_lookup {files : List (String × String)} {name text : String}
    (h : files.lookup name = some text) : (name, text) ∈ files := by
  obtain ⟨before, after, rfl, -⟩ := List.lookup_eq_some_iff.mp h
  exact List.mem_append_right _ List.mem_cons_self

variable {P : Payloads} (env : Environment P) (options : WriteOptions)
  (fingerprint : Fingerprint P)

def componentNames : List String :=
  [SCHEMA, STATISTICS, CORRELATIONS, INTEGRITY, RULES, ANOMALIES, BEHAVIORAL, PRIVACY_AUDIT]

theorem componentNames_nodup : componentNames.Nodup := by decide

theorem keys_slots : (slots env options fingerprint).map Prod.fst = componentNames := rfl

/-- The text a component is written as, if it is written. -/
def written (name : String) : Option String :=
  ((slots env options fingerprint).lookup name).join

theorem lookup_componentFiles (name : String) :
    (componentFiles env options fingerprint).lookup name =
      written env options fingerprint name := by
  apply lookup_filterMap
  rw [keys_slots]
  exact componentNames_nodup

theorem keys_componentFiles_nodup :
    ((componentFiles env options fingerprint).map Prod.fst).Nodup := by
  have hsublist : List.Sublist ((componentFiles env options fingerprint).map Prod.fst)
      ((slots env options fingerprint).map Prod.fst) := by
    rw [componentFiles]
    generalize slots env options fingerprint = entries
    induction entries with
    | nil => exact List.Sublist.slnil
    | cons slot entries ih =>
        obtain ⟨key, text?⟩ := slot
        cases text? with
        | none => exact ih.cons key
        | some text => exact ih.cons_cons key
  rw [keys_slots] at hsublist
  exact componentNames_nodup.sublist hsublist

/-- The manifest lists a checksum for what is written, and for nothing else. -/
theorem find?_checksums (name : String) :
    (checksums env options fingerprint).find? name =
      (written env options fingerprint name).map (compute_checksum env) := by
  rw [← lookup_componentFiles]
  have hkeys : (((componentFiles env options fingerprint).map fun file =>
      (file.1, compute_checksum env file.2)).map Prod.fst).Nodup := by
    rw [List.map_map]
    exact keys_componentFiles_nodup env options fingerprint
  cases hlookup : (componentFiles env options fingerprint).lookup name with
  | some text =>
      apply OrderedMap.find?_ofList_eq_some_of_nodup hkeys
      exact List.mem_map_of_mem (f := fun file => (file.1, compute_checksum env file.2))
        (mem_of_lookup hlookup)
  | none =>
      rw [Option.map_none, Option.eq_none_iff_forall_ne_some]
      intro sum hsum
      obtain ⟨⟨key, text⟩, hfile, heq⟩ :=
        List.mem_map.mp (OrderedMap.mem_of_find?_ofList hsum)
      obtain ⟨rfl, -⟩ := Prod.mk.inj heq
      have hne := List.lookup_eq_none_iff.mp hlookup _ hfile
      exact absurd rfl (bne_iff_ne.mp hne)

theorem archiveOf_componentFiles (manifestText : String) {name : String}
    (h : name ≠ MANIFEST) :
    archiveOf (componentFiles env options fingerprint ++ [(MANIFEST, manifestText)]) name =
      (written env options fingerprint name).map Entry.contents := by
  have hmanifest : List.lookup name [(MANIFEST, manifestText)] = none := by
    rw [List.lookup_cons, beq_false_of_ne h]
    rfl
  rw [archiveOf, List.lookup_append, hmanifest, Option.or_none, lookup_componentFiles]

theorem archiveOf_manifest (manifestText : String) :
    archiveOf (componentFiles env options fingerprint ++ [(MANIFEST, manifestText)]) MANIFEST =
      some (.contents manifestText) := by
  have habsent : written env options fingerprint MANIFEST = none := rfl
  rw [archiveOf, List.lookup_append, lookup_componentFiles, habsent, Option.none_or,
    List.lookup_cons_self]
  rfl

end Slots

section Restoring

variable {P : Payloads} (env : Environment P) (options : WriteOptions)
  (readOptions : ReadOptions)

/-- A value that is read back from the text it is written as. -/
def RoundTrips {α : Type} (serde : Serde α) (to_text : α → String) (a : α) : Prop :=
  serde.from_str (to_text a) = .ok a

theorem verifyChecksum_self {sums : OrderedMap String String} {name text : String}
    (h : sums.find? name = some (compute_checksum env text)) :
    verifyChecksum env readOptions sums name text = .ok () := by
  rw [verifyChecksum, h]
  split
  · rename_i expected heq
    cases heq
    exact if_neg (not_not_intro rfl)
  · rfl

/-- An optional component comes back if its file is the one that was written. -/
theorem try_read_yaml_component_eq {α : Type} {serde : Serde α} {archive : ZipArchive}
    {name : String} {sums : OrderedMap String String} {value? : Option α}
    (hfile : archive name = (value?.map serde.to_string).map Entry.contents)
    (hsum : sums.find? name = (value?.map serde.to_string).map (compute_checksum env))
    (hserde : ∀ a ∈ value?, RoundTrips serde serde.to_string a) :
    try_read_yaml_component env readOptions serde archive name sums = .ok value? := by
  rw [try_read_yaml_component, hfile]
  cases value? with
  | none => rfl
  | some a =>
      have hcheck := verifyChecksum_self env readOptions hsum
      have hread := hserde a rfl
      show (verifyChecksum env readOptions sums name (serde.to_string a)).bind _ = _
      rw [hcheck]
      show ((serde.from_str (serde.to_string a)).mapError _).bind _ = _
      rw [RoundTrips] at hread
      rw [hread]
      rfl

theorem read_json_component_eq {α : Type} {serde : Serde α} {archive : ZipArchive}
    {name : String} {sums : OrderedMap String String} {a : α}
    (hfile : archive name = some (.contents (jsonText options serde a)))
    (hsum : sums.find? name = some (compute_checksum env (jsonText options serde a)))
    (hserde : RoundTrips serde (jsonText options serde) a) :
    read_json_component env readOptions serde archive name sums = .ok a := by
  have hcheck := verifyChecksum_self env readOptions hsum
  rw [read_json_component, hfile]
  show (verifyChecksum env readOptions sums name (jsonText options serde a)).bind _ = _
  rw [hcheck]
  show (serde.from_str (jsonText options serde a)).mapError _ = _
  rw [RoundTrips] at hserde
  rw [hserde]
  rfl

variable (fingerprint : Fingerprint P)

/-- The schema as its file holds it, if there is one. -/
def schema? : Option (SchemaFingerprint P) :=
  if fingerprint.schema.is_empty then none else some fingerprint.schema

def statistics? : Option (StatisticsFingerprint P) :=
  if fingerprint.statistics.is_empty then none else some fingerprint.statistics

/-- The components that are written are read back from their texts. -/
structure ComponentsRoundTrip : Prop where
  schema : ∀ a ∈ schema? fingerprint,
    RoundTrips env.codec.schema env.codec.schema.to_string a
  statistics : ∀ a ∈ statistics? fingerprint,
    RoundTrips env.codec.statistics env.codec.statistics.to_string a
  correlations : ∀ a ∈ fingerprint.correlations,
    RoundTrips env.codec.correlations env.codec.correlations.to_string a
  integrity : ∀ a ∈ fingerprint.integrity,
    RoundTrips env.codec.integrity env.codec.integrity.to_string a
  rules : ∀ a ∈ fingerprint.rules, RoundTrips env.codec.rules env.codec.rules.to_string a
  anomalies : ∀ a ∈ fingerprint.anomalies,
    RoundTrips env.codec.anomalies env.codec.anomalies.to_string a
  behavioral : ∀ a ∈ fingerprint.behavioral,
    RoundTrips env.codec.behavioral env.codec.behavioral.to_string a
  privacy_audit : RoundTrips env.codec.privacy_audit (jsonText options env.codec.privacy_audit)
    fingerprint.privacy_audit

theorem written_schema : written env options fingerprint SCHEMA =
    (schema? fingerprint).map env.codec.schema.to_string := by
  show (if fingerprint.schema.is_empty then none
    else some (env.codec.schema.to_string fingerprint.schema)) = _
  rw [schema?]
  split <;> rfl

theorem written_statistics : written env options fingerprint STATISTICS =
    (statistics? fingerprint).map env.codec.statistics.to_string := by
  show (if fingerprint.statistics.is_empty then none
    else some (env.codec.statistics.to_string fingerprint.statistics)) = _
  rw [statistics?]
  split <;> rfl

theorem getD_schema?_eq_iff : (schema? fingerprint).getD (.new P) = fingerprint.schema ↔
    (fingerprint.schema.is_empty = true → fingerprint.schema.relationships = []) := by
  rw [schema?]
  split
  · rename_i h
    rw [Option.getD_none, eq_comm, SchemaFingerprint.eq_new_iff]
    constructor
    · rintro ⟨-, hrelationships⟩ -
      exact hrelationships
    · intro hrelationships
      exact ⟨h, hrelationships h⟩
  · rename_i h
    exact iff_of_true rfl fun hempty => absurd hempty h

theorem getD_statistics? : (statistics? fingerprint).getD (.new P) = fingerprint.statistics := by
  rw [statistics?]
  split
  · rename_i h
    exact ((fingerprint.statistics.is_empty_iff).mp h).symm
  · rfl

/-- What is read back: a schema without tables has lost its relationships, and the banking
part was never written. -/
def restored (manifest : Manifest P) : Fingerprint P :=
  { fingerprint with
    manifest := manifest
    schema := (schema? fingerprint).getD (.new P)
    banking := none }

variable {fingerprint} in
theorem readComponents_written {manifest : Manifest P} {archive : ZipArchive}
    (hserde : ComponentsRoundTrip env options fingerprint)
    (hfiles : ∀ name ∈ componentNames,
      archive name = (written env options fingerprint name).map Entry.contents)
    (hsums : manifest.checksums = checksums env options fingerprint)
    (hversion : acceptsVersion readOptions manifest.version = true) :
    readComponents env readOptions archive manifest = .ok (restored fingerprint manifest) := by
  have hsum : ∀ name, manifest.checksums.find? name =
      (written env options fingerprint name).map (compute_checksum env) := by
    rw [hsums]
    exact find?_checksums env options fingerprint
  have hyaml : ∀ {α : Type} (serde : Serde α) (name : String) (value? : Option α),
      name ∈ componentNames →
      written env options fingerprint name = value?.map serde.to_string →
      (∀ a ∈ value?, RoundTrips serde serde.to_string a) →
      try_read_yaml_component env readOptions serde archive name manifest.checksums =
        .ok value? := by
    intro α serde name value? hname hwritten hvalue
    apply try_read_yaml_component_eq env readOptions _ _ hvalue
    · rw [hfiles name hname, hwritten]
    · rw [hsum name, hwritten]
  have hschema := hyaml env.codec.schema SCHEMA (schema? fingerprint) (by decide)
    (written_schema env options fingerprint) hserde.schema
  have hstatistics := hyaml env.codec.statistics STATISTICS (statistics? fingerprint) (by decide)
    (written_statistics env options fingerprint) hserde.statistics
  have hcorrelations := hyaml env.codec.correlations CORRELATIONS fingerprint.correlations
    (by decide) rfl hserde.correlations
  have hintegrity := hyaml env.codec.integrity INTEGRITY fingerprint.integrity
    (by decide) rfl hserde.integrity
  have hrules := hyaml env.codec.rules RULES fingerprint.rules (by decide) rfl hserde.rules
  have hanomalies := hyaml env.codec.anomalies ANOMALIES fingerprint.anomalies
    (by decide) rfl hserde.anomalies
  have hbehavioral := hyaml env.codec.behavioral BEHAVIORAL fingerprint.behavioral
    (by decide) rfl hserde.behavioral
  have haudit := read_json_component_eq env options readOptions
    (hfiles PRIVACY_AUDIT (by decide)) (hsum PRIVACY_AUDIT) hserde.privacy_audit
  rw [readComponents]
  simp only [hversion, hschema, hstatistics, haudit, hcorrelations, hintegrity, hrules,
    hanomalies, hbehavioral, not_true_eq_false, if_false, bind, Except.bind, pure, Except.pure,
    getD_statistics?]
  rfl

theorem readComponents_refused {manifest : Manifest P} {archive : ZipArchive}
    (hversion : acceptsVersion readOptions manifest.version = false) :
    readComponents env readOptions archive manifest =
      .error (.unsupportedVersion manifest.version) := by
  rw [readComponents, hversion]
  rfl

end Restoring

section Survival

variable {P : Payloads} (env : Environment P) (options : WriteOptions)
  (readOptions : ReadOptions) (key : SigningKey) (now : P.DateTime)
  (fingerprint : Fingerprint P)

def manifestWithoutChecks (manifest : Manifest P) : Manifest P :=
  { manifest with checksums := .empty, signature := none }

/-- A fingerprint but for the checksums and the signature of its manifest. -/
def withoutChecks (fingerprint : Fingerprint P) : Fingerprint P :=
  { fingerprint with manifest := manifestWithoutChecks fingerprint.manifest }

/-- The components and both manifests are read back from their texts. -/
structure InputsRoundTrip : Prop where
  components : ComponentsRoundTrip env options fingerprint
  manifest : RoundTrips env.codec.manifest (jsonText options env.codec.manifest)
    (writtenManifest env options fingerprint)
  signed : RoundTrips env.codec.manifest (jsonText options env.codec.manifest)
    (signedManifest env options key now fingerprint)

/-- Reading the fingerprint succeeds and gives it back. -/
def GivesBack (result : Except FingerprintError (Fingerprint P)) : Prop :=
  result.map withoutChecks = .ok (withoutChecks fingerprint)

/-- What an archive can hold and a reader accepts. -/
structure Storable : Prop where
  banking : fingerprint.banking = none
  schema : fingerprint.schema.is_empty = true → fingerprint.schema.relationships = []
  version : acceptsVersion readOptions fingerprint.manifest.version = true

theorem readManifest_archive {manifest : Manifest P}
    (h : RoundTrips env.codec.manifest (jsonText options env.codec.manifest) manifest) :
    readManifest env (archiveOf (componentFiles env options fingerprint ++
      [(MANIFEST, jsonText options env.codec.manifest manifest)])) = .ok manifest := by
  rw [readManifest, archiveOf_manifest]
  show (env.codec.manifest.from_str _).mapError _ = _
  rw [RoundTrips] at h
  rw [h]
  rfl

theorem ne_manifest_of_mem_componentNames : ∀ name ∈ componentNames, name ≠ MANIFEST := by
  decide

/-- What reading the components gives back, by the version of the manifest. -/
theorem givesBack_readComponents_iff (manifest : Manifest P)
    (hserde : ComponentsRoundTrip env options fingerprint)
    (hsums : manifest.checksums = checksums env options fingerprint)
    (hmanifest : manifestWithoutChecks manifest = manifestWithoutChecks fingerprint.manifest)
    (manifestText : String) :
    GivesBack fingerprint (readComponents env readOptions
        (archiveOf (componentFiles env options fingerprint ++ [(MANIFEST, manifestText)]))
        manifest) ↔
      Storable readOptions fingerprint := by
  have hversion : manifest.version = fingerprint.manifest.version := by
    show (manifestWithoutChecks manifest).version =
      (manifestWithoutChecks fingerprint.manifest).version
    rw [hmanifest]
  cases haccepts : acceptsVersion readOptions manifest.version with
  | false =>
      rw [readComponents_refused env readOptions haccepts]
      constructor
      · intro h
        cases h
      · rintro ⟨-, -, h⟩
        rw [← hversion, haccepts] at h
        cases h
  | true =>
      rw [readComponents_written env options readOptions hserde
        (fun name hname => archiveOf_componentFiles env options fingerprint manifestText
          (ne_manifest_of_mem_componentNames name hname)) hsums haccepts]
      have hrestored : withoutChecks (restored fingerprint manifest) =
          { withoutChecks fingerprint with
            schema := (schema? fingerprint).getD (.new P)
            banking := none } := by
        rw [withoutChecks, restored, hmanifest]
        rfl
      show Except.ok (withoutChecks (restored fingerprint manifest)) = _ ↔ _
      rw [hrestored, Except.ok.injEq]
      constructor
      · intro h
        refine ⟨(congrArg Fingerprint.banking h).symm, ?_, hversion ▸ haccepts⟩
        exact (getD_schema?_eq_iff fingerprint).mp (congrArg Fingerprint.schema h)
      · rintro ⟨hbanking, hschema, -⟩
        rw [(getD_schema?_eq_iff fingerprint).mpr hschema, withoutChecks, hbanking]

theorem givesBack_read_write_iff
    (hserde : InputsRoundTrip env options key now fingerprint) :
    GivesBack fingerprint (FingerprintReader.read env readOptions
        (FingerprintWriter.write env options fingerprint)) ↔
      Storable readOptions fingerprint := by
  have hread : FingerprintReader.read env readOptions
      (FingerprintWriter.write env options fingerprint) =
        readComponents env readOptions (FingerprintWriter.write env options fingerprint)
          (writtenManifest env options fingerprint) := by
    rw [FingerprintReader.read, FingerprintWriter.write,
      readManifest_archive env options fingerprint hserde.manifest]
    rfl
  rw [hread]
  exact givesBack_readComponents_iff env options readOptions fingerprint
    (writtenManifest env options fingerprint) hserde.components rfl rfl _

variable {env key} in
/-- Under a manifest that the key accepts, a verified read reads the components. -/
theorem read_verified_of_accepted {archive : ZipArchive} {manifest : Manifest P}
    (hmanifest : readManifest env archive = .ok manifest)
    (hverify : verify_manifest env.sha256 env.json key manifest = .ok true) :
    FingerprintReader.read_verified env readOptions key archive =
      readComponents env readOptions archive manifest := by
  rw [FingerprintReader.read_verified, hmanifest]
  show (verify_manifest env.sha256 env.json key manifest).bind _ = _
  rw [hverify]
  rfl

theorem read_verified_write_signed
    (hserde : InputsRoundTrip env options key now fingerprint) :
    FingerprintReader.read_verified env readOptions key
        (FingerprintWriter.write_signed env options key now fingerprint) =
      readComponents env readOptions
        (FingerprintWriter.write_signed env options key now fingerprint)
        (signedManifest env options key now fingerprint) := by
  apply read_verified_of_accepted
  · exact readManifest_archive env options fingerprint hserde.signed
  · exact verify_manifest_sign_manifest env.sha256 env.json key _ now

theorem givesBack_read_verified_write_signed_iff
    (hserde : InputsRoundTrip env options key now fingerprint) :
    GivesBack fingerprint (FingerprintReader.read_verified env readOptions key
        (FingerprintWriter.write_signed env options key now fingerprint)) ↔
      Storable readOptions fingerprint := by
  rw [read_verified_write_signed env options readOptions key now fingerprint hserde]
  exact givesBack_readComponents_iff env options readOptions fingerprint
    (signedManifest env options key now fingerprint) hserde.components rfl rfl _

/-- Both ways of writing and reading give a fingerprint back. -/
def Survives : Prop :=
  GivesBack fingerprint (FingerprintReader.read env readOptions
      (FingerprintWriter.write env options fingerprint)) ∧
    GivesBack fingerprint (FingerprintReader.read_verified env readOptions key
      (FingerprintWriter.write_signed env options key now fingerprint))

theorem survives_iff (hserde : InputsRoundTrip env options key now fingerprint) :
    Survives env options readOptions key now fingerprint ↔ Storable readOptions fingerprint := by
  rw [Survives, givesBack_read_write_iff env options readOptions key now fingerprint hserde,
    givesBack_read_verified_write_signed_iff env options readOptions key now fingerprint hserde,
    and_self]

end Survival

section Sample

/-- A fingerprint whose opaque parts have no content, so that they are written as `null`. -/
def emptyPayloads : Payloads where
  TableSchema := Unit
  TableRelationship := Unit
  NumericStats := Unit
  CategoricalStats := Unit
  TemporalStats := Unit
  BenfordStats := Unit
  AccountClassStats := Unit
  CorrelationFingerprint := Unit
  IntegrityFingerprint := Unit
  RulesFingerprint := Unit
  AnomalyFingerprint := Unit
  BankingFingerprint := Unit
  BehavioralPriors := Unit
  PrivacyAudit := Unit
  SourceMetadata := Unit
  PrivacyMetadata := Unit
  DateTime := Unit

def nullText : String := "null"

def nullYaml : String := "null\n"

def sampleChecksums : OrderedMap String String := .ofList
  [(RULES, "38e0b9de817f645c4bec37c0d4a3e58baecccb040f5718dc069a72c7385a0bed"),
    (PRIVACY_AUDIT, "74234e98afe7498fb5daf1f36ac2d78acc339464f950703b8c019892f982b90b")]

def sampleManifest : Manifest emptyPayloads where
  version := "1.0.0"
  format := "dsf"
  created_at := ()
  source := ()
  privacy := ()
  checksums := .empty
  signature := none

def sampleSignature : SignatureMetadata emptyPayloads where
  algorithm := "HMAC-SHA256"
  key_id := "test-key"
  signature := "a42ceaac22e614e7d1a087a0c45c33f1e1c258de62cc556d4fafc5a48cad4f3a"
  signed_at := ()

def sampleWritten : Manifest emptyPayloads := { sampleManifest with checksums := sampleChecksums }

def sampleSigned : Manifest emptyPayloads :=
  { sampleManifest with checksums := sampleChecksums, signature := some sampleSignature }

/-- The JSON of both manifests up to the signature. -/
def manifestText : String :=
  "\x7b\"version\":\"1.0.0\",\"format\":\"dsf\",\"created_at\":null,\"source\":null,\"priva" ++
    "cy\":null,\"checksums\":\x7b\"privacy_audit.json\":\"74234e98afe7498fb5daf1f36ac2d78acc3" ++
    "39464f950703b8c019892f982b90b\",\"rules.yaml\":\"38e0b9de817f645c4bec37c0d4a3e58baecccb0" ++
    "40f5718dc069a72c7385a0bed\"\x7d"

def writtenText : String := manifestText ++ "\x7d"

def signedText : String := manifestText ++
  (",\"signature\":\x7b\"algorithm\":\"HMAC-SHA256\",\"key_id\":\"test-key\",\"signature\":" ++
    "\"a42ceaac22e614e7d1a087a0c45c33f1e1c258de62cc556d4fafc5a48cad4f3a\",\"signed_at\":null" ++
    "\x7d\x7d")

def canonicalText : String := "\x7b" ++
  ("\"checksums\":\x7b\"privacy_audit.json\":\"74234e98afe7498fb5daf1f36ac2d78acc339464f9507" ++
    "03b8c019892f982b90b\",\"rules.yaml\":\"38e0b9de817f645c4bec37c0d4a3e58baecccb040f5718dc0" ++
    "69a72c7385a0bed\"\x7d,\"created_at\":null,\"format\":\"dsf\",\"privacy\":null,\"source\"" ++
    ":null,\"version\":\"1.0.0\"\x7d")

def sampleKey : SigningKey := ⟨"test-key", utf8Bytes "0123456789abcdef0123456789abcdef"⟩

def innerNat : ℕ :=
  0xa24a442d09fa5aa56ad65352c56acd03c2a14cbc261df1307a55afe21d4c2dff

def outerNat : ℕ :=
  0xa42ceaac22e614e7d1a087a0c45c33f1e1c258de62cc556d4fafc5a48cad4f3a

/-- SHA-256 on the texts that are hashed here. -/
def sampleSha256 (bytes : List Byte) : Digest :=
  if bytes = utf8Bytes nullText then
    digestOfNat 0x74234e98afe7498fb5daf1f36ac2d78acc339464f950703b8c019892f982b90b
  else if bytes = utf8Bytes nullYaml then
    digestOfNat 0x38e0b9de817f645c4bec37c0d4a3e58baecccb040f5718dc069a72c7385a0bed
  else if bytes.drop 64 = utf8Bytes canonicalText then digestOfNat innerNat
  else digestOfNat outerNat

def jsonNull : Serde Unit where
  to_string _ := nullText
  to_string_pretty _ := nullText
  from_str _ := .ok ()

def yamlNull : Serde Unit where
  to_string _ := nullYaml
  to_string_pretty _ := nullYaml
  from_str _ := .ok ()

def unusedSerde (α : Type) : Serde α where
  to_string _ := ""
  to_string_pretty _ := ""
  from_str _ := .error "missing field"

def sampleManifestSerde : Serde (Manifest emptyPayloads) where
  to_string manifest := if manifest.signature.isSome then signedText else writtenText
  to_string_pretty manifest := if manifest.signature.isSome then signedText else writtenText
  from_str text := if text = signedText then .ok sampleSigned else .ok sampleWritten

def sampleEnvironment : Environment emptyPayloads where
  codec :=
    { manifest := sampleManifestSerde
      schema := unusedSerde _
      statistics := unusedSerde _
      correlations := yamlNull
      integrity := yamlNull
      rules := yamlNull
      anomalies := yamlNull
      behavioral := yamlNull
      privacy_audit := jsonNull }
  json :=
    { to_value := fun _ => .object
        [("version", .string "1.0.0"), ("format", .string "dsf"), ("created_at", .null),
          ("source", .null), ("privacy", .null),
          ("checksums", .object (sampleChecksums.entries.map fun e => (e.1, .string e.2)))]
      to_string := fun _ => canonicalText }
  sha256 := sampleSha256

/-- A fingerprint with rules, and perhaps a banking part. -/
def sampleFingerprint (banking : Option Unit) : Fingerprint emptyPayloads where
  manifest := sampleManifest
  schema := .new _
  statistics := .new _
  correlations := none
  integrity := none
  rules := some ()
  anomalies := none
  banking := banking
  behavioral := none
  privacy_audit := ()

theorem checksums_sample (banking : Option Unit) :
    checksums sampleEnvironment ⟨false⟩ (sampleFingerprint banking) = sampleChecksums := by
  have haudit : compute_checksum sampleEnvironment nullText =
      "74234e98afe7498fb5daf1f36ac2d78acc339464f950703b8c019892f982b90b" := by decide
  have hrules : compute_checksum sampleEnvironment nullYaml =
      "38e0b9de817f645c4bec37c0d4a3e58baecccb040f5718dc069a72c7385a0bed" := by decide
  show OrderedMap.ofList [(RULES, compute_checksum sampleEnvironment nullYaml),
    (PRIVACY_AUDIT, compute_checksum sampleEnvironment nullText)] = _
  rw [haudit, hrules]
  rfl

theorem writtenManifest_sample (banking : Option Unit) :
    writtenManifest sampleEnvironment ⟨false⟩ (sampleFingerprint banking) = sampleWritten := by
  rw [writtenManifest, checksums_sample]
  rfl

theorem sampleSha256_long {bytes : List Byte} (h : 8 < bytes.length) :
    sampleSha256 bytes =
      if bytes.drop 64 = utf8Bytes canonicalText then digestOfNat innerNat
      else digestOfNat outerNat := by
  have hnull : (utf8Bytes nullText).length = 4 ∧ (utf8Bytes nullYaml).length = 5 := by
    decide
  have hne : bytes ≠ utf8Bytes nullText ∧ bytes ≠ utf8Bytes nullYaml := by
    constructor
    · rintro rfl
      omega
    · rintro rfl
      omega
  rw [sampleSha256, if_neg hne.1, if_neg hne.2]

theorem length_blockKey_sample : (blockKey sampleSha256 sampleKey.secret).length = 64 := by
  decide

theorem innerNat_ne_canonicalText : (digestOfNat innerNat).bytes ≠ utf8Bytes canonicalText := by
  have hhead : (utf8Bytes "\x7b").head? = some 0x7b ∧
      (digestOfNat innerNat).bytes.head? ≠ some 0x7b := by
    decide
  intro h
  rw [h, canonicalText, utf8Bytes_append, List.head?_append, hhead.1] at hhead
  exact hhead.2 rfl

/-- The key of the sample under one of the masks. -/
def maskedKey (mask : Byte) : List Byte :=
  (blockKey sampleSha256 sampleKey.secret).map fun b => b ^^^ mask

theorem length_maskedKey (mask : Byte) : (maskedKey mask).length = 64 := by
  rw [maskedKey, List.length_map, length_blockKey_sample]

theorem sampleSha256_maskedKey_append (mask : Byte) (data : List Byte) :
    sampleSha256 (maskedKey mask ++ data) =
      if data = utf8Bytes canonicalText then digestOfNat innerNat else digestOfNat outerNat := by
  rw [sampleSha256_long, List.drop_left' (length_maskedKey mask)]
  rw [List.length_append, length_maskedKey]
  exact Nat.lt_of_lt_of_le (by decide) (Nat.le_add_right 64 _)

theorem compute_signature_sample :
    sampleKey.compute_signature sampleSha256 (utf8Bytes canonicalText) =
      (digestOfNat outerNat).bytes := by
  rw [SigningKey.compute_signature, ← maskedKey, ← maskedKey, sampleSha256_maskedKey_append 0x36,
    if_pos rfl, sampleSha256_maskedKey_append 0x5c, if_neg innerNat_ne_canonicalText]

theorem hexEncode_sample :
    String.ofList (hexEncode (digestOfNat outerNat).bytes) = sampleSignature.signature := by
  decide

theorem signedManifest_sample (banking : Option Unit) :
    signedManifest sampleEnvironment ⟨false⟩ sampleKey () (sampleFingerprint banking) =
      sampleSigned := by
  have hsign : ∀ manifest : Manifest emptyPayloads,
      sign_manifest sampleEnvironment.sha256 sampleEnvironment.json sampleKey manifest () =
        sampleSignature := by
    intro manifest
    show SignatureMetadata.mk _ _ (String.ofList (hexEncode
      (sampleKey.compute_signature sampleSha256 (utf8Bytes canonicalText)))) _ = _
    rw [compute_signature_sample, hexEncode_sample]
    rfl
  simp only [signedManifest, hsign, checksums_sample]
  rfl

theorem from_str_writtenText : sampleManifestSerde.from_str writtenText = .ok sampleWritten := by
  have hne : writtenText ≠ signedText := by
    intro h
    have htail := (String.append_right_inj manifestText).mp h
    exact absurd (congrArg String.length htail) (by decide_cbv)
  simp only [sampleManifestSerde, hne, if_false]

theorem from_str_signedText : sampleManifestSerde.from_str signedText = .ok sampleSigned := by
  simp only [sampleManifestSerde, if_true]

theorem inputsRoundTrip_sample (banking : Option Unit) :
    InputsRoundTrip sampleEnvironment ⟨false⟩ sampleKey () (sampleFingerprint banking) where
  components :=
    { schema := by rintro a ⟨⟩
      statistics := by rintro a ⟨⟩
      correlations := by rintro a ⟨⟩
      integrity := by rintro a ⟨⟩
      rules := fun _ _ => rfl
      anomalies := by rintro a ⟨⟩
      behavioral := by rintro a ⟨⟩
      privacy_audit := rfl }
  manifest := by
    rw [writtenManifest_sample]
    exact from_str_writtenText
  signed := by
    rw [signedManifest_sample]
    exact from_str_signedText

theorem survives_iff_sample :
    Survives sampleEnvironment ⟨false⟩ ⟨true, false⟩ sampleKey () (sampleFingerprint none) ↔
      Storable ⟨true, false⟩ (sampleFingerprint none) :=
  survives_iff _ _ _ _ _ _ (inputsRoundTrip_sample none)

/-- A banking part does not come back. -/
theorem not_survives_banking :
    InputsRoundTrip sampleEnvironment ⟨false⟩ sampleKey () (sampleFingerprint (some ())) ∧
      ¬ Survives sampleEnvironment ⟨false⟩ ⟨true, false⟩ sampleKey ()
          (sampleFingerprint (some ())) := by
  have hserde := inputsRoundTrip_sample (some ())
  refine ⟨hserde, ?_⟩
  rintro ⟨hread, -⟩
  have hstorable :=
    (givesBack_read_write_iff _ _ ⟨true, false⟩ sampleKey () _ hserde).mp hread
  cases hstorable.banking

end Sample

end Datasynth.Fingerprints.ArchiveRoundTrip
