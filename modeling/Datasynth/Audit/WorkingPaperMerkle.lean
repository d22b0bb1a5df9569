import Mathlib.Data.List.Sort
import Mathlib.Data.String.Basic
import Datasynth.Core.JournalEntries
import Datasynth.Lib.ExceptRuns
import Datasynth.Lib.MerkleTree

/-!
Merkle roots and inclusion proofs over the hexadecimal hashes of working papers, and
the root of a bundle.
-/

namespace Datasynth.Audit.WorkingPaperMerkle

open Datasynth.Core.JournalEntries
open Datasynth.Lib.ByteEncoding
open Datasynth.Lib.ExceptRuns
open Datasynth.Lib.MerkleTree

inductive MerkleError where
  | emptyLeaves
  | indexOutOfRange (index len : ℕ)
  | notHexSha256 (s : String)
deriving DecidableEq, Repr

def is_ascii_hexdigit (c : Char) : Bool :=
  ('0' ≤ c && c ≤ '9') || ('a' ≤ c && c ≤ 'f') || ('A' ≤ c && c ≤ 'F')

def ascii_hex_to_nibble (c : Char) : Except MerkleError ℕ :=
  if '0' ≤ c ∧ c ≤ '9' then .ok (c.toNat - '0'.toNat)
  else if 'a' ≤ c ∧ c ≤ 'f' then .ok (c.toNat - 'a'.toNat + 10)
  else if 'A' ≤ c ∧ c ≤ 'F' then .ok (c.toNat - 'A'.toNat + 10)
  else .error (.notHexSha256 (String.ofList [c]))

def decodeNibbles : List Char → Except MerkleError (List Byte)
  | c :: c' :: rest => do
      let high ← ascii_hex_to_nibble c
      let low ← ascii_hex_to_nibble c'
      let bytes ← decodeNibbles rest
      return Fin.ofNat 256 (16 * high + low) :: bytes
  | _ => .ok []

/-- The bytes of a hexadecimal digest, whose digits may be of either case. -/
def hex_decode (s : String) : Except MerkleError (List Byte) :=
  if s.toList.length ≠ 64 ∨ ¬ s.toList.all is_ascii_hexdigit then .error (.notHexSha256 s)
  else decodeNibbles s.toList

def hex_encode (digest : Digest) : String := String.ofList (hexEncode digest.bytes)

def digest? (s : String) : Option Digest :=
  match hex_decode s with
  | .ok bytes => if h : bytes.length = 32 then some ⟨bytes, h⟩ else none
  | .error _ => none

theorem digest?_eq_some_iff {s : String} {digest : Digest} :
    digest? s = some digest ↔ hex_decode s = .ok digest.bytes := by
  rw [digest?]
  constructor
  · intro h
    split at h
    · rename_i bytes hbytes
      split at h
      · cases h
        exact hbytes
      · cases h
    · cases h
  · intro h
    rw [h]
    exact dif_pos digest.length_bytes

theorem length_decodeNibbles : ∀ {chars : List Char} {bytes : List Byte},
    decodeNibbles chars = .ok bytes → bytes.length = chars.length / 2
  | c :: c' :: rest, bytes, h => by
      obtain ⟨high, -, h⟩ := bind_eq_ok_iff.mp h
      obtain ⟨low, -, h⟩ := bind_eq_ok_iff.mp h
      obtain ⟨bytes', hbytes', h⟩ := bind_eq_ok_iff.mp h
      cases h
      rw [List.length_cons, length_decodeNibbles hbytes', List.length_cons, List.length_cons]
      omega
  | [], _, h => by
      cases h
      rfl
  | [_], _, h => by
      cases h
      simp

theorem exists_digest_of_hex_decode {s : String} {bytes : List Byte}
    (h : hex_decode s = .ok bytes) : ∃ digest : Digest, digest? s = some digest ∧
      digest.bytes = bytes := by
  have hlength : bytes.length = 32 := by
    rw [hex_decode] at h
    split at h
    · cases h
    · rename_i hvalid
      rw [not_or, not_not] at hvalid
      rw [length_decodeNibbles h, hvalid.1]
  exact ⟨⟨bytes, hlength⟩, digest?_eq_some_iff.mpr h, rfl⟩

theorem hexDigit_spec : ∀ n < 16, is_ascii_hexdigit (hexDigit n) = true ∧
    ascii_hex_to_nibble (hexDigit n) = .ok n := by
  decide

theorem decodeNibbles_hexEncode (bytes : List Byte) :
    decodeNibbles (hexEncode bytes) = .ok bytes := by
  induction bytes with
  | nil => rfl
  | cons b bytes ih =>
      have hb := b.isLt
      obtain ⟨-, hhigh⟩ := hexDigit_spec (b.val / 16) (by omega)
      obtain ⟨-, hlow⟩ := hexDigit_spec (b.val % 16) (by omega)
      have hbyte : Fin.ofNat 256 (16 * (b.val / 16) + b.val % 16) = b := by
        rw [Nat.div_add_mod]
        exact Fin.ofNat_val_eq_self b
      refine bind_eq_ok_iff.mpr ⟨_, hhigh, bind_eq_ok_iff.mpr ⟨_, hlow, ?_⟩⟩
      exact bind_eq_ok_iff.mpr ⟨bytes, ih, by rw [hbyte]; rfl⟩

theorem length_hexEncode (bytes : List Byte) : (hexEncode bytes).length = 2 * bytes.length := by
  induction bytes with
  | nil => rfl
  | cons b bytes ih =>
      rw [hexEncode, List.flatMap_cons, ← hexEncode, List.length_append, ih]
      simp only [List.length_cons, List.length_nil]
      omega

theorem all_hexEncode (bytes : List Byte) : (hexEncode bytes).all is_ascii_hexdigit = true := by
  induction bytes with
  | nil => rfl
  | cons b bytes ih =>
      have hb := b.isLt
      rw [hexEncode, List.flatMap_cons, ← hexEncode, List.all_append, ih, Bool.and_true]
      simp [(hexDigit_spec (b.val / 16) (by omega)).1, (hexDigit_spec (b.val % 16) (by omega)).1]

@[simp] theorem digest?_hex_encode (digest : Digest) :
    digest? (hex_encode digest) = some digest := by
  rw [digest?_eq_some_iff, hex_decode, hex_encode, String.toList_ofList, length_hexEncode,
    all_hexEncode, digest.length_bytes, if_neg (by decide), decodeNibbles_hexEncode]

inductive ProofDirection where
  | left
  | right
deriving DecidableEq, Repr

structure ProofStep where
  sibling : String
  direction : ProofDirection
deriving DecidableEq

section Hash

variable (sha256 : List Byte → Digest)

def leaf_hash (data : List Byte) : String := hex_encode (sha256 data)

def pair_hash (left right : String) : Except MerkleError String := do
  let l ← hex_decode left
  let r ← hex_decode right
  return hex_encode (sha256 (l ++ r))

/-- The level above; an odd level repeats its last node. -/
def nextLevel (level : List String) : Except MerkleError (List String) :=
  traverseRun (fun pair => pair_hash sha256 pair.1 pair.2) (rowPairs level)

/-- Go up until one node is left.  A level at least halves, so its length is fuel enough. -/
def climbLevels : ℕ → List String → Except MerkleError (List String)
  | 0, level => .ok level
  | fuel + 1, level =>
      if level.length ≤ 1 then .ok level
      else (nextLevel sha256 level).bind fun next => climbLevels fuel next

def merkle_root (leaves : List String) : Except MerkleError String :=
  if leaves = [] then .error .emptyLeaves
  else
    (climbLevels sha256 leaves.length leaves).bind fun level =>
      match level with
      | root :: _ => .ok root
      | [] => .error .emptyLeaves

/-- The sibling of a node of a level and the side it stands on. -/
def proofStep (level : List String) (idx : ℕ) : ProofStep :=
  if idx % 2 = 0 then ⟨(padLast level).getD (idx + 1) "", .right⟩
  else ⟨(padLast level).getD (idx - 1) "", .left⟩

def proofLoop : ℕ → List String → ℕ → Except MerkleError (List ProofStep)
  | 0, _, _ => .ok []
  | fuel + 1, level, idx =>
      if level.length ≤ 1 then .ok []
      else do
        let next ← nextLevel sha256 level
        let steps ← proofLoop fuel next (idx / 2)
        return proofStep level idx :: steps

def merkle_proof (leaves : List String) (index : ℕ) : Except MerkleError (List ProofStep) :=
  if leaves.length ≤ index then .error (.indexOutOfRange index leaves.length)
  else proofLoop sha256 leaves.length leaves index

def verifyStep (current sibling : String) (idx : ℕ) : Except MerkleError String :=
  if idx % 2 = 0 then pair_hash sha256 current sibling else pair_hash sha256 sibling current

def verifyLoop : String → List ProofStep → ℕ → Except MerkleError String
  | current, [], _ => .ok current
  | current, step :: proof, idx =>
      (verifyStep sha256 current step.sibling idx).bind fun next =>
        verifyLoop next proof (idx / 2)

/-- The stored directions are not read: the side comes from the index. -/
def verify_merkle_proof (leaf : String) (proof : List ProofStep) (index : ℕ) (root : String) :
    Except MerkleError Bool := do
  let current ← verifyLoop sha256 leaf proof index
  return current = root

end Hash

structure WorkingPaper where
  wp_id : String
  payload_hash : String
  retention_years : ℕ
deriving DecidableEq

structure EngagementBundle where
  working_papers : List WorkingPaper
deriving DecidableEq

inductive BundleError where
  | badPayloadHash (wp_id payload_hash : String)
  | retentionOutOfRange (wp_id : String) (years : ℕ)
  | merkle (error : MerkleError)
deriving DecidableEq, Repr

def EMPTY_BUNDLE_ROOT : String :=
  "0000000000000000000000000000000000000000000000000000000000000000"

def validatePaper (_ : Unit) (wp : WorkingPaper) : Except BundleError Unit :=
  if wp.payload_hash.toList.length ≠ 64 ∨ ¬ wp.payload_hash.toList.all is_ascii_hexdigit then
    .error (.badPayloadHash wp.wp_id wp.payload_hash)
  else if ¬ (5 ≤ wp.retention_years ∧ wp.retention_years ≤ 10) then
    .error (.retentionOutOfRange wp.wp_id wp.retention_years)
  else .ok ()

def validate (bundle : EngagementBundle) : Except BundleError Unit :=
  foldRun validatePaper () bundle.working_papers

def to_lowercase (s : String) : String := String.ofList (s.toList.map Char.toLower)

def orderedHashes (bundle : EngagementBundle) : List String :=
  (bundle.working_papers.insertionSort fun a b => a.wp_id ≤ b.wp_id).map fun wp =>
    to_lowercase wp.payload_hash

section Bundle

variable (sha256 : List Byte → Digest)

def bundle_root (bundle : EngagementBundle) : Except BundleError String :=
  (validate bundle).bind fun _ =>
    if bundle.working_papers = [] then .ok EMPTY_BUNDLE_ROOT
    else (merkle_root sha256 (orderedHashes bundle)).mapError .merkle

def verify_bundle_integrity (bundle : EngagementBundle) (claimed_root : String) :
    Except BundleError Bool := do
  let root ← bundle_root sha256 bundle
  return root = claimed_root

end Bundle

end Datasynth.Audit.WorkingPaperMerkle
