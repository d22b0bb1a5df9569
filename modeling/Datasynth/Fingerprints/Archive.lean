import Datasynth.Core.CountryPacks
import Datasynth.Core.JournalEntries
import Datasynth.Core.TrialBalances
import Datasynth.Lib.SortedEntries
import Mathlib.Data.Nat.Bitwise
import Mathlib.Data.String.Basic

/-!
Fingerprints with their manifest.  What no reader or writer looks into, down to the columns of
the schema and the statistics, is opaque.
-/

namespace Datasynth.Fingerprints.Models

open Datasynth.Lib.SortedEntries

/-- The parts of a fingerprint that are written and read as a whole. -/
structure Payloads where
  TableSchema : Type
  TableRelationship : Type
  NumericStats : Type
  CategoricalStats : Type
  TemporalStats : Type
  BenfordStats : Type
  AccountClassStats : Type
  CorrelationFingerprint : Type
  IntegrityFingerprint : Type
  RulesFingerprint : Type
  AnomalyFingerprint : Type
  BankingFingerprint : Type
  BehavioralPriors : Type
  PrivacyAudit : Type
  SourceMetadata : Type
  PrivacyMetadata : Type
  DateTime : Type

def FINGERPRINT_VERSION : String := "1.0.0"

structure SignatureMetadata (P : Payloads) where
  algorithm : String
  key_id : String
  signature : String
  signed_at : P.DateTime

structure Manifest (P : Payloads) where
  version : String
  format : String
  created_at : P.DateTime
  source : P.SourceMetadata
  privacy : P.PrivacyMetadata
  checksums : OrderedMap String String
  signature : Option (SignatureMetadata P)

structure SchemaFingerprint (P : Payloads) where
  tables : OrderedMap String P.TableSchema
  relationships : List P.TableRelationship

def SchemaFingerprint.new (P : Payloads) : SchemaFingerprint P := ⟨.empty, []⟩

def SchemaFingerprint.is_empty {P : Payloads} (schema : SchemaFingerprint P) : Bool :=
  schema.tables.entries.isEmpty

structure StatisticsFingerprint (P : Payloads) where
  numeric_columns : OrderedMap String P.NumericStats
  categorical_columns : OrderedMap String P.CategoricalStats
  temporal_columns : OrderedMap String P.TemporalStats
  benford_analysis : Option P.BenfordStats
  account_class_stats : List P.AccountClassStats

def StatisticsFingerprint.new (P : Payloads) : StatisticsFingerprint P :=
  ⟨.empty, .empty, .empty, none, []⟩

def StatisticsFingerprint.is_empty {P : Payloads} (statistics : StatisticsFingerprint P) : Bool :=
  statistics.numeric_columns.entries.isEmpty && statistics.categorical_columns.entries.isEmpty &&
    statistics.temporal_columns.entries.isEmpty && statistics.benford_analysis.isNone &&
    statistics.account_class_stats.isEmpty

structure Fingerprint (P : Payloads) where
  manifest : Manifest P
  schema : SchemaFingerprint P
  statistics : StatisticsFingerprint P
  correlations : Option P.CorrelationFingerprint
  integrity : Option P.IntegrityFingerprint
  rules : Option P.RulesFingerprint
  anomalies : Option P.AnomalyFingerprint
  banking : Option P.BankingFingerprint
  behavioral : Option P.BehavioralPriors
  privacy_audit : P.PrivacyAudit

inductive FingerprintError where
  | io (text : String)
  | zip (text : String)
  | json (text : String)
  | yaml (text : String)
  | invalidFormat (text : String)
  | missingComponent (name : String)
  | checksumMismatch (file expected actual : String)
  | unsupportedVersion (version : String)

section Emptiness

variable {P : Payloads}

theorem entries_isEmpty_iff {ν : Type} (m : OrderedMap String ν) :
    m.entries.isEmpty = true ↔ m = .empty := by
  rw [List.isEmpty_iff]
  constructor
  · obtain ⟨entries, hsorted⟩ := m
    rintro rfl
    rfl
  · rintro rfl
    rfl

/-- A schema without tables may still have relationships. -/
theorem SchemaFingerprint.eq_new_iff (schema : SchemaFingerprint P) :
    schema = .new P ↔ schema.is_empty = true ∧ schema.relationships = [] := by
  rw [SchemaFingerprint.is_empty, entries_isEmpty_iff]
  constructor
  · rintro rfl
    exact ⟨rfl, rfl⟩
  · obtain ⟨tables, relationships⟩ := schema
    rintro ⟨rfl, rfl⟩
    rfl

theorem StatisticsFingerprint.is_empty_iff (statistics : StatisticsFingerprint P) :
    statistics.is_empty = true ↔ statistics = .new P := by
  rw [StatisticsFingerprint.is_empty, Bool.and_eq_true, Bool.and_eq_true, Bool.and_eq_true,
    Bool.and_eq_true, entries_isEmpty_iff, entries_isEmpty_iff, entries_isEmpty_iff,
    Option.isNone_iff_eq_none, List.isEmpty_iff]
  constructor
  · obtain ⟨numeric, categorical, temporal, benford, classes⟩ := statistics
    rintro ⟨⟨⟨⟨rfl, rfl⟩, rfl⟩, rfl⟩, rfl⟩
    rfl
  · rintro rfl
    exact ⟨⟨⟨⟨rfl, rfl⟩, rfl⟩, rfl⟩, rfl⟩

end Emptiness

end Datasynth.Fingerprints.Models

/-!
Signatures of manifests: HMAC-SHA256 over their canonical JSON.  SHA-256 and the JSON of a
manifest are parameters.
-/

namespace Datasynth.Fingerprints.Signing

open Datasynth.Core.CountryPacks (Json)
open Datasynth.Core.JournalEntries (Digest)
open Datasynth.Fingerprints.Models
open Datasynth.Lib.ByteEncoding
open Datasynth.Lib.SortedEntries

def ALGORITHM_HMAC_SHA256 : String := "HMAC-SHA256"

structure SigningKey where
  key_id : String
  secret : List Byte

section Hmac

variable (sha256 : List Byte → Digest)

/-- The secret, hashed if it is longer than a block, and padded with zeros to a block. -/
def blockKey (secret : List Byte) : List Byte :=
  let key := if 64 < secret.length then (sha256 secret).bytes else secret
  (key ++ List.replicate 64 0).take 64

def SigningKey.compute_signature (key : SigningKey) (data : List Byte) : List Byte :=
  let ipad := (blockKey sha256 key.secret).map fun b => b ^^^ 0x36
  let opad := (blockKey sha256 key.secret).map fun b => b ^^^ 0x5c
  (sha256 (opad ++ (sha256 (ipad ++ data)).bytes)).bytes

def SigningKey.sign {P : Payloads} (key : SigningKey) (data : List Byte) (now : P.DateTime) :
    SignatureMetadata P where
  algorithm := ALGORITHM_HMAC_SHA256
  key_id := key.key_id
  signature := String.ofList (hexEncode (key.compute_signature sha256 data))
  signed_at := now

/-- The bytes in which two strings of one length differ, gathered by `or`. -/
def differences : List Byte → List Byte → ℕ
  | x :: xs, y :: ys => (x.val ^^^ y.val) ||| differences xs ys
  | _, _ => 0

def constant_time_compare (a b : List Byte) : Bool :=
  if a.length ≠ b.length then false else differences a b = 0

/-- Why a text is not hexadecimal. -/
def hexErrorText (digits : List Char) : String :=
  if digits.length % 2 = 1 then "Odd number of digits"
  else
    match digits.zipIdx.find? fun digit => (hexValue? digit.1).isNone with
    | none => ""
    | some (c, index) => "Invalid character " ++ c.quote ++ " at position " ++ toString index

def SigningKey.verify {P : Payloads} (key : SigningKey) (data : List Byte)
    (signature : SignatureMetadata P) : Except FingerprintError Bool :=
  if signature.algorithm ≠ ALGORITHM_HMAC_SHA256 then
    .error (.invalidFormat ("Unsupported signature algorithm: " ++ signature.algorithm))
  else
    match hexDecode signature.signature.toList with
    | none =>
        .error (.invalidFormat
          ("Invalid signature encoding: " ++ hexErrorText signature.signature.toList))
    | some expected => .ok (constant_time_compare (key.compute_signature sha256 data) expected)

theorem differences_eq_zero_iff (a b : List Byte) (h : a.length = b.length) :
    differences a b = 0 ↔ a = b := by
  induction a generalizing b with
  | nil =>
      rw [List.eq_nil_of_length_eq_zero h.symm]
      exact iff_of_true rfl rfl
  | cons x xs ih =>
      cases b with
      | nil => cases h
      | cons y ys =>
          rw [differences, Nat.or_eq_zero_iff, Nat.xor_eq_zero_iff, ih ys (Nat.succ.inj h),
            List.cons.injEq, Fin.val_inj]

theorem constant_time_compare_iff (a b : List Byte) :
    constant_time_compare a b = true ↔ a = b := by
  by_cases hlength : a.length = b.length
  · rw [constant_time_compare, if_neg (not_not_intro hlength), decide_eq_true_eq]
    exact differences_eq_zero_iff a b hlength
  · rw [constant_time_compare, if_pos hlength]
    constructor
    · intro h
      cases h
    · rintro rfl
      exact absurd rfl hlength

theorem SigningKey.verify_sign {P : Payloads} (key : SigningKey) (data : List Byte)
    (now : P.DateTime) : key.verify sha256 data (key.sign (P := P) sha256 data now) = .ok true := by
  have hcompare : constant_time_compare (key.compute_signature sha256 data)
      (key.compute_signature sha256 data) = true := (constant_time_compare_iff _ _).mpr rfl
  rw [SigningKey.verify, SigningKey.sign, if_neg (not_not_intro rfl), String.toList_ofList,
    hexDecode_hexEncode]
  exact congrArg Except.ok hcompare

end Hmac

section Manifests

mutual

/-- All keys in order, at every depth. -/
def sort_json_value : Json → Json
  | .object fields => .object (OrderedMap.ofList (sortFields fields)).entries
  | .array items => .array (sortItems items)
  | value => value

def sortFields : List (String × Json) → List (String × Json)
  | [] => []
  | (key, value) :: fields => (key, sort_json_value value) :: sortFields fields

def sortItems : List Json → List Json
  | [] => []
  | item :: items => sort_json_value item :: sortItems items

end

variable {P : Payloads}

/-- A manifest as a JSON value, and the text of a JSON value. -/
structure ManifestJson (P : Payloads) where
  to_value : Manifest P → Json
  to_string : Json → String

def Manifest.unsigned (manifest : Manifest P) : Manifest P := { manifest with signature := none }

def canonical_manifest_json (json : ManifestJson P) (manifest : Manifest P) : String :=
  json.to_string (sort_json_value (json.to_value (Manifest.unsigned manifest)))

variable (sha256 : List Byte → Digest) (json : ManifestJson P)

def sign_manifest (key : SigningKey) (manifest : Manifest P) (now : P.DateTime) :
    SignatureMetadata P :=
  key.sign sha256 (utf8Bytes (canonical_manifest_json json manifest)) now

def verify_manifest (key : SigningKey) (manifest : Manifest P) : Except FingerprintError Bool :=
  match manifest.signature with
  | none => .ok false
  | some signature =>
      if signature.key_id ≠ key.key_id then .ok false
      else key.verify sha256 (utf8Bytes (canonical_manifest_json json manifest)) signature

/-- A signed manifest passes the check with the key that signed it. -/
theorem verify_manifest_sign_manifest (key : SigningKey) (manifest : Manifest P)
    (now : P.DateTime) :
    verify_manifest sha256 json key
        { manifest with signature := some (sign_manifest sha256 json key manifest now) } =
      .ok true := by
  have hkey : ¬ (sign_manifest sha256 json key manifest now).key_id ≠ key.key_id :=
    not_not_intro rfl
  rw [verify_manifest]
  exact (if_neg hkey).trans (key.verify_sign sha256 _ now)

end Manifests

end Datasynth.Fingerprints.Signing

/-!
Fingerprint archives: the files a fingerprint is written to, with or without a signature, and
how they are read.  The serializers are parameters, and an archive is what opening a file of a
name and reading it to its end yields.
-/

namespace Datasynth.Fingerprints.Archive

open Datasynth.Core.JournalEntries (Digest)
open Datasynth.Core.TrialBalances (parse_u32)
open Datasynth.Fingerprints.Models
open Datasynth.Fingerprints.Signing
open Datasynth.Lib.ByteEncoding
open Datasynth.Lib.SortedEntries

section FileNames

def MANIFEST : String := "manifest.json"

def SCHEMA : String := "schema.yaml"

def STATISTICS : String := "statistics.yaml"

def CORRELATIONS : String := "correlations.yaml"

def INTEGRITY : String := "integrity.yaml"

def RULES : String := "rules.yaml"

def ANOMALIES : String := "anomalies.yaml"

def BEHAVIORAL : String := "behavioral.yaml"

def PRIVACY_AUDIT : String := "privacy_audit.json"

end FileNames

section Environment

/-- The serializers and the deserializer of a type. -/
structure Serde (α : Type) where
  to_string : α → String
  to_string_pretty : α → String
  from_str : String → Except String α

structure Codec (P : Payloads) where
  manifest : Serde (Manifest P)
  schema : Serde (SchemaFingerprint P)
  statistics : Serde (StatisticsFingerprint P)
  correlations : Serde P.CorrelationFingerprint
  integrity : Serde P.IntegrityFingerprint
  rules : Serde P.RulesFingerprint
  anomalies : Serde P.AnomalyFingerprint
  behavioral : Serde P.BehavioralPriors
  privacy_audit : Serde P.PrivacyAudit

structure Environment (P : Payloads) where
  codec : Codec P
  json : ManifestJson P
  sha256 : List Byte → Digest

/-- A file that is there: its text, or why it cannot be opened or read. -/
inductive Entry where
  | contents (text : String)
  | unopened (error : String)
  | unreadable (error : String)

/-- The file of each name, if there is one. -/
abbrev ZipArchive := String → Option Entry

structure WriteOptions where
  pretty : Bool

structure ReadOptions where
  verify_checksums : Bool
  allow_version_mismatch : Bool

end Environment

variable {P : Payloads} (env : Environment P)

def compute_checksum (text : String) : String :=
  String.ofList (hexEncode (env.sha256 (utf8Bytes text)).bytes)

section Writing

variable (options : WriteOptions)

def jsonText {α : Type} (serde : Serde α) (a : α) : String :=
  if options.pretty then serde.to_string_pretty a else serde.to_string a

/-- The components in the order they are written, each with its text if it is written. -/
def slots (fingerprint : Fingerprint P) : List (String × Option String) :=
  [(SCHEMA,
      if fingerprint.schema.is_empty then none
      else some (env.codec.schema.to_string fingerprint.schema)),
    (STATISTICS,
      if fingerprint.statistics.is_empty then none
      else some (env.codec.statistics.to_string fingerprint.statistics)),
    (CORRELATIONS, fingerprint.correlations.map env.codec.correlations.to_string),
    (INTEGRITY, fingerprint.integrity.map env.codec.integrity.to_string),
    (RULES, fingerprint.rules.map env.codec.rules.to_string),
    (ANOMALIES, fingerprint.anomalies.map env.codec.anomalies.to_string),
    (BEHAVIORAL, fingerprint.behavioral.map env.codec.behavioral.to_string),
    (PRIVACY_AUDIT, some (jsonText options env.codec.privacy_audit fingerprint.privacy_audit))]

def componentFiles (fingerprint : Fingerprint P) : List (String × String) :=
  (slots env options fingerprint).filterMap fun slot => slot.2.map fun text => (slot.1, text)

def checksums (fingerprint : Fingerprint P) : OrderedMap String String :=
  .ofList ((componentFiles env options fingerprint).map fun file =>
    (file.1, compute_checksum env file.2))

/-- The archive of a list of files. -/
def archiveOf (files : List (String × String)) : ZipArchive :=
  fun name => (files.lookup name).map Entry.contents

def writtenManifest (fingerprint : Fingerprint P) : Manifest P :=
  { fingerprint.manifest with checksums := checksums env options fingerprint }

def FingerprintWriter.write (fingerprint : Fingerprint P) : ZipArchive :=
  archiveOf (componentFiles env options fingerprint ++
    [(MANIFEST, jsonText options env.codec.manifest (writtenManifest env options fingerprint))])

def signedManifest (key : SigningKey) (now : P.DateTime) (fingerprint : Fingerprint P) :
    Manifest P :=
  let manifest :=
    { fingerprint.manifest with
      checksums := checksums env options fingerprint
      signature := none }
  { manifest with signature := some (sign_manifest env.sha256 env.json key manifest now) }

def FingerprintWriter.write_signed (key : SigningKey) (now : P.DateTime)
    (fingerprint : Fingerprint P) : ZipArchive :=
  archiveOf (componentFiles env options fingerprint ++
    [(MANIFEST,
      jsonText options env.codec.manifest (signedManifest env options key now fingerprint))])

end Writing

section Reading

variable (options : ReadOptions)

def versionParts (version : String) : List ℕ :=
  (version.toList.splitOn '.').filterMap fun part => parse_u32 (String.ofList part)

def is_compatible_version (file_version current_version : String) : Bool :=
  match versionParts file_version, versionParts current_version with
  | [], _ => false
  | _, [] => false
  | file_major :: file_rest, current_major :: current_rest =>
      if file_major ≠ current_major then false
      else
        match file_rest, current_rest with
        | file_minor :: _, current_minor :: _ => file_minor ≤ current_minor
        | _, _ => true

def acceptsVersion (version : String) : Bool :=
  version = FINGERPRINT_VERSION || options.allow_version_mismatch ||
    is_compatible_version version FINGERPRINT_VERSION

/-- The checksum is compared if there is one for the file. -/
def verifyChecksum (checksums : OrderedMap String String) (name text : String) :
    Except FingerprintError Unit :=
  match options.verify_checksums, checksums.find? name with
  | true, some expected =>
      if compute_checksum env text ≠ expected then
        .error (.checksumMismatch name expected (compute_checksum env text))
      else .ok ()
  | _, _ => .ok ()

def read_json_component {α : Type} (serde : Serde α) (archive : ZipArchive) (name : String)
    (checksums : OrderedMap String String) : Except FingerprintError α :=
  match archive name with
  | none => .error (.missingComponent name)
  | some (.unopened _) => .error (.missingComponent name)
  | some (.unreadable error) => .error (.io error)
  | some (.contents text) => do
      verifyChecksum env options checksums name text
      (serde.from_str text).mapError .json

def try_read_yaml_component {α : Type} (serde : Serde α) (archive : ZipArchive) (name : String)
    (checksums : OrderedMap String String) : Except FingerprintError (Option α) :=
  match archive name with
  | none => .ok none
  | some (.unopened error) => .error (.zip error)
  | some (.unreadable error) => .error (.io error)
  | some (.contents text) => do
      verifyChecksum env options checksums name text
      let value ← (serde.from_str text).mapError .yaml
      return some value

def readManifest (archive : ZipArchive) : Except FingerprintError (Manifest P) :=
  match archive MANIFEST with
  | none => .error (.zip "specified file not found in archive")
  | some (.unopened error) => .error (.zip error)
  | some (.unreadable error) => .error (.io error)
  | some (.contents text) => (env.codec.manifest.from_str text).mapError .json

/-- The version check and the components, which both readers share. -/
def readComponents (archive : ZipArchive) (manifest : Manifest P) :
    Except FingerprintError (Fingerprint P) := do
  if ¬ acceptsVersion options manifest.version then
    throw (.unsupportedVersion manifest.version)
  let codec := env.codec
  let schema ←
    try_read_yaml_component env options codec.schema archive SCHEMA manifest.checksums
  let statistics ←
    try_read_yaml_component env options codec.statistics archive STATISTICS manifest.checksums
  let privacy_audit ←
    read_json_component env options codec.privacy_audit archive PRIVACY_AUDIT manifest.checksums
  let correlations ←
    try_read_yaml_component env options codec.correlations archive CORRELATIONS
      manifest.checksums
  let integrity ←
    try_read_yaml_component env options codec.integrity archive INTEGRITY manifest.checksums
  let rules ←
    try_read_yaml_component env options codec.rules archive RULES manifest.checksums
  let anomalies ←
    try_read_yaml_component env options codec.anomalies archive ANOMALIES manifest.checksums
  let behavioral ←
    try_read_yaml_component env options codec.behavioral archive BEHAVIORAL manifest.checksums
  return {
    manifest := manifest
    schema := schema.getD (.new P)
    statistics := statistics.getD (.new P)
    correlations := correlations
    integrity := integrity
    rules := rules
    anomalies := anomalies
    banking := none
    behavioral := behavioral
    privacy_audit := privacy_audit }

def FingerprintReader.read (archive : ZipArchive) : Except FingerprintError (Fingerprint P) := do
  let manifest ← readManifest env archive
  readComponents env options archive manifest

def FingerprintReader.read_verified (key : SigningKey) (archive : ZipArchive) :
    Except FingerprintError (Fingerprint P) := do
  let manifest ← readManifest env archive
  let is_valid ← verify_manifest env.sha256 env.json key manifest
  if ¬ is_valid then
    throw (.invalidFormat
      (if manifest.signature.isNone then "DSF file is not signed"
      else "Signature verification failed"))
  readComponents env options archive manifest

end Reading

end Datasynth.Fingerprints.Archive
