import Datasynth.Audit.MerkleProofs
import Datasynth.Lib.ListRearrangement

/-!
When two bundles of working papers have one root: their lists of hashes, written out
to the full row of a tree, are rows of the same tree.
-/

namespace Datasynth.Audit.BundleRoots

open Datasynth.Audit.MerkleProofs
open Datasynth.Audit.WorkingPaperMerkle
open Datasynth.Core.JournalEntries
open Datasynth.Lib.ByteEncoding
open Datasynth.Lib.ExceptRuns
open Datasynth.Lib.MerkleTree

theorem exists_hexDigit_toLower {c : Char} (h : is_ascii_hexdigit c = true) :
    ∃ n < 16, c.toLower = hexDigit n := by
  have hcode : ∀ n < 128, is_ascii_hexdigit (Char.ofNat n) = true →
      ∃ m < 16, (Char.ofNat n).toLower = hexDigit m := by
    decide
  have hsmall : c.toNat < 128 := by
    simp only [is_ascii_hexdigit, Bool.or_eq_true, Bool.and_eq_true, decide_eq_true_eq,
      Char.le_def, UInt32.le_iff_toNat_le] at h
    rcases h with (⟨-, h⟩ | ⟨-, h⟩) | ⟨-, h⟩
    · exact lt_of_le_of_lt h (by decide)
    · exact lt_of_le_of_lt h (by decide)
    · exact lt_of_le_of_lt h (by decide)
  have hchar := hcode c.toNat hsmall
  rw [Char.ofNat_toNat] at hchar
  exact hchar h

theorem exists_bytes_toLower {n : ℕ} {chars : List Char} (hlength : chars.length = 2 * n)
    (h : chars.all is_ascii_hexdigit = true) :
    ∃ bytes : List Byte, bytes.length = n ∧ chars.map Char.toLower = hexEncode bytes := by
  induction n generalizing chars with
  | zero =>
      rw [List.length_eq_zero_iff.mp hlength]
      exact ⟨[], rfl, rfl⟩
  | succ n ih =>
      match chars, hlength, h with
      | c :: c' :: rest, hlength, h =>
          rw [List.all_cons, List.all_cons, Bool.and_eq_true, Bool.and_eq_true] at h
          obtain ⟨high, hhigh, hc⟩ := exists_hexDigit_toLower h.1
          obtain ⟨low, hlow, hc'⟩ := exists_hexDigit_toLower h.2.1
          obtain ⟨bytes, hbytes, hrest⟩ := ih (by simpa [Nat.mul_succ] using hlength) h.2.2
          refine ⟨⟨16 * high + low, by omega⟩ :: bytes, congrArg Nat.succ hbytes, ?_⟩
          rw [List.map_cons, List.map_cons, hc, hc', hrest, hexEncode, hexEncode,
            List.flatMap_cons]
          have hdiv : (16 * high + low) / 16 = high := by omega
          have hmod : (16 * high + low) % 16 = low := by omega
          simp only [hdiv, hmod]
          rfl

theorem exists_digest_of_payload {s : String} (hlength : s.toList.length = 64)
    (h : s.toList.all is_ascii_hexdigit = true) : ∃ digest, to_lowercase s = hex_encode digest := by
  obtain ⟨bytes, hbytes, hlower⟩ := exists_bytes_toLower (n := 32) hlength h
  exact ⟨⟨bytes, hbytes⟩, by rw [to_lowercase, hlower, hex_encode]⟩

theorem validatePaper_eq_ok {wp : WorkingPaper} (h : validatePaper () wp = .ok ()) :
    wp.payload_hash.toList.length = 64 ∧ wp.payload_hash.toList.all is_ascii_hexdigit = true := by
  rw [validatePaper] at h
  split at h
  · cases h
  · rename_i hvalid
    rw [not_or, not_not, not_not] at hvalid
    exact hvalid

theorem forall_of_validate {bundle : EngagementBundle} (h : validate bundle = .ok ()) :
    ∀ wp ∈ bundle.working_papers, validatePaper () wp = .ok () := by
  intro wp hwp
  by_contra hwrong
  exact foldRun_ne_ok hwp (fun _ _ => hwrong) () () h

/-- The leaves of a bundle; an empty bundle has the root of one leaf of zeros. -/
def leavesOf (bundle : EngagementBundle) : List String :=
  if bundle.working_papers = [] then [EMPTY_BUNDLE_ROOT] else orderedHashes bundle

theorem exists_row_of_validate {bundle : EngagementBundle} (h : validate bundle = .ok ()) :
    ∃ row : List Digest, row ≠ [] ∧ leavesOf bundle = row.map hex_encode := by
  rw [leavesOf]
  split
  · exact ⟨[digestOfNat 0], List.cons_ne_nil _ _, by decide⟩
  · rename_i hne
    have hperm := List.perm_insertionSort (fun a b : WorkingPaper => a.wp_id ≤ b.wp_id)
      bundle.working_papers
    have hrow : ∀ papers : List WorkingPaper, (∀ wp ∈ papers, validatePaper () wp = .ok ()) →
        ∃ row : List Digest, (papers.map fun wp => to_lowercase wp.payload_hash) =
          row.map hex_encode := by
      intro papers
      induction papers with
      | nil => exact fun _ => ⟨[], rfl⟩
      | cons wp papers ih =>
          intro hpapers
          rw [List.forall_mem_cons] at hpapers
          obtain ⟨hlength, hdigits⟩ := validatePaper_eq_ok hpapers.1
          obtain ⟨digest, hdigest⟩ := exists_digest_of_payload hlength hdigits
          obtain ⟨row, hrow⟩ := ih hpapers.2
          exact ⟨digest :: row, by rw [List.map_cons, hdigest, hrow, List.map_cons]⟩
    obtain ⟨row, heq⟩ := hrow _ fun wp hwp => forall_of_validate h wp (hperm.mem_iff.mp hwp)
    refine ⟨row, ?_, heq⟩
    rintro rfl
    rw [List.map_nil, List.map_eq_nil_iff] at heq
    rw [heq] at hperm
    exact hne hperm.nil_eq.symm

section Roots

variable (sha256 : List Byte → Digest)

theorem bundle_root_eq {bundle : EngagementBundle} (h : validate bundle = .ok ()) :
    bundle_root sha256 bundle = (merkle_root sha256 (leavesOf bundle)).mapError .merkle := by
  refine (congrArg (fun x => Except.bind x _) h).trans ?_
  rw [leavesOf]
  show (if _ then _ else _) = _
  split
  · rfl
  · rfl

/-- A row of digests written out to the full length of its tree. -/
def fullRow (row : List Digest) : List (Option Digest) :=
  (List.range (2 ^ Nat.clog 2 row.length)).map fun j =>
    row[wrap (Nat.clog 2 row.length) row.length j]?

/-- The higher of two trees has, at the height of the lower one, the same full row. -/
def SameTree (row row' : List Digest) : Prop :=
  let height := Nat.clog 2 row.length
  let height' := Nat.clog 2 row'.length
  fullRow ((up (pairDigest sha256))^[height - height'] row) =
    fullRow ((up (pairDigest sha256))^[height' - height] row')

instance (row row' : List Digest) : Decidable (SameTree sha256 row row') := by
  unfold SameTree
  infer_instance

variable {sha256}

theorem fullRow_eq_iff {k : ℕ} {row row' : List Digest} {r r' : Digest}
    (hclimbs : Climbs (pairDigest sha256) k row r)
    (hclimbs' : Climbs (pairDigest sha256) k row' r') :
    fullRow row = fullRow row' ↔
      ∀ j < 2 ^ k, row[wrap k row.length j]? = row'[wrap k row'.length j]? := by
  rw [fullRow, fullRow, ← hclimbs.height_eq, ← hclimbs'.height_eq, List.map_inj_left]
  simp only [List.mem_range]

/-- Two trees have one root exactly when they are the same tree. -/
theorem root_eq_iff_sameTree {k k' : ℕ} {row row' : List Digest} {r r' : Digest}
    (hclimbs : Climbs (pairDigest sha256) k row r)
    (hclimbs' : Climbs (pairDigest sha256) k' row' r')
    (hinj : {p | p ∈ treePairs (pairDigest sha256) k row ∨
      p ∈ treePairs (pairDigest sha256) k' row'}.InjOn (pairDigest sha256)) :
    r = r' ↔ SameTree sha256 row row' := by
  have hheight := hclimbs.height_eq
  have hheight' := hclimbs'.height_eq
  simp only [SameTree, ← hheight, ← hheight']
  rcases Nat.le_total k k' with hle | hle
  · obtain ⟨m, rfl⟩ := Nat.exists_eq_add_of_le hle
    obtain ⟨hrise, hpairs⟩ := hclimbs'.rise
    rw [Nat.sub_eq_zero_of_le hle, Nat.add_sub_cancel_left]
    rw [root_eq_iff hclimbs hrise (hinj.mono fun p hp => hp.imp_right (hpairs p))]
    exact (fullRow_eq_iff hclimbs hrise).symm
  · obtain ⟨m, rfl⟩ := Nat.exists_eq_add_of_le hle
    obtain ⟨hrise, hpairs⟩ := hclimbs.rise
    rw [Nat.sub_eq_zero_of_le hle, Nat.add_sub_cancel_left]
    rw [root_eq_iff hrise hclimbs' (hinj.mono fun p hp => hp.imp_left (hpairs p))]
    exact (fullRow_eq_iff hrise hclimbs').symm

def leafRow (bundle : EngagementBundle) : List Digest := (digests? (leavesOf bundle)).getD []

variable (sha256)

/-- No two pairs that the roots of two bundles are made of have one hash. -/
def PairsCollisionFree (b b' : EngagementBundle) : Prop :=
  ∀ p ∈ leafPairs sha256 (leavesOf b) ++ leafPairs sha256 (leavesOf b'),
    ∀ q ∈ leafPairs sha256 (leavesOf b) ++ leafPairs sha256 (leavesOf b'),
      pairDigest sha256 p = pairDigest sha256 q → p = q

theorem exists_root_of_validate {bundle : EngagementBundle} (h : validate bundle = .ok ()) :
    ∃ k r, leavesOf bundle = (leafRow bundle).map hex_encode ∧
      Climbs (pairDigest sha256) k (leafRow bundle) r ∧
      leafPairs sha256 (leavesOf bundle) = treePairs (pairDigest sha256) k (leafRow bundle) ∧
      bundle_root sha256 bundle = .ok (hex_encode r) := by
  obtain ⟨row, hne, hleaves⟩ := exists_row_of_validate h
  have hdenote : Denote (leavesOf bundle) row := hleaves ▸ denote_map_hex_encode row
  have hrow : leafRow bundle = row := by
    rw [leafRow, digests?_eq_some_iff.mpr hdenote, Option.getD_some]
  obtain ⟨r, hclimbs⟩ := exists_climbs (pairDigest sha256) rfl hne
  obtain ⟨root, hroot, hdigest, hcases⟩ := merkle_root_eq hclimbs hdenote
  have htext : root = hex_encode r := by
    rcases hcases with ⟨-, hsingle⟩ | ⟨-, hencoded⟩
    · have hmem : root ∈ row.map hex_encode := by
        rw [← hleaves, hsingle]
        exact List.mem_singleton_self root
      obtain ⟨digest, -, rfl⟩ := List.mem_map.mp hmem
      rw [digest?_hex_encode] at hdigest
      rw [Option.some.inj hdigest]
    · exact hencoded
  rw [hrow]
  refine ⟨_, r, hleaves, hclimbs, leafPairs_eq hclimbs hdenote, ?_⟩
  rw [bundle_root_eq sha256 h, hroot, htext]
  rfl

/-- Two valid bundles have one root exactly when their rows are the same tree. -/
theorem exists_roots_eq_iff {b b' : EngagementBundle} (h : validate b = .ok ())
    (h' : validate b' = .ok ()) (hfree : PairsCollisionFree sha256 b b') :
    ∃ r r', bundle_root sha256 b = .ok (hex_encode r) ∧
      bundle_root sha256 b' = .ok (hex_encode r') ∧
      (r = r' ↔ SameTree sha256 (leafRow b) (leafRow b')) := by
  obtain ⟨k, r, -, hclimbs, hpairs, hroot⟩ := exists_root_of_validate sha256 h
  obtain ⟨k', r', -, hclimbs', hpairs', hroot'⟩ := exists_root_of_validate sha256 h'
  refine ⟨r, r', hroot, hroot', ?_⟩
  apply root_eq_iff_sameTree hclimbs hclimbs'
  intro p hp q hq heq
  rw [← hpairs, ← hpairs'] at hp hq
  exact hfree p (List.mem_append.mpr hp) q (List.mem_append.mpr hq) heq

theorem hex_encode_injective : Function.Injective hex_encode := by
  intro r r' heq
  have hdigests := congrArg digest? heq
  rw [digest?_hex_encode, digest?_hex_encode] at hdigests
  exact Option.some.inj hdigests

/-- Two valid bundles have different roots exactly when they are not the same tree. -/
theorem bundle_roots_differ_iff {b b' : EngagementBundle} (h : validate b = .ok ())
    (h' : validate b' = .ok ()) (hfree : PairsCollisionFree sha256 b b') :
    ∃ root root', bundle_root sha256 b = .ok root ∧ bundle_root sha256 b' = .ok root' ∧
      (root ≠ root' ↔ ¬ SameTree sha256 (leafRow b) (leafRow b')) := by
  obtain ⟨r, r', hroot, hroot', hiff⟩ := exists_roots_eq_iff sha256 h h' hfree
  refine ⟨_, _, hroot, hroot', not_congr ?_⟩
  rw [← hiff]
  exact hex_encode_injective.eq_iff

theorem eq_of_sameTree {row row' : List Digest} (hlength : row.length = row'.length)
    (h : SameTree sha256 row row') : row = row' := by
  simp only [SameTree, hlength, Nat.sub_self, Function.iterate_zero, id_eq] at h
  rw [fullRow, fullRow, hlength, List.map_inj_left] at h
  apply List.ext_getElem? fun i => ?_
  by_cases hi : i < row'.length
  · have hpow : row'.length ≤ 2 ^ Nat.clog 2 row'.length := Nat.le_pow_clog (by decide) _
    have hrow := h i (List.mem_range.mpr (lt_of_lt_of_le hi hpow))
    rwa [wrap_of_lt hi hpow] at hrow
  · rw [List.getElem?_eq_none (by omega), List.getElem?_eq_none (by omega)]

/-- With as many papers as before, any change of the ordered hashes changes the root. -/
theorem bundle_roots_differ_of_length_eq {b b' : EngagementBundle} (h : validate b = .ok ())
    (h' : validate b' = .ok ()) (hfree : PairsCollisionFree sha256 b b')
    (hlength : b.working_papers.length = b'.working_papers.length)
    (hdiffer : orderedHashes b ≠ orderedHashes b') :
    bundle_root sha256 b ≠ bundle_root sha256 b' := by
  obtain ⟨r, r', hroot, hroot', hiff⟩ := exists_roots_eq_iff sha256 h h' hfree
  obtain ⟨_, _, hleaves, -⟩ := exists_root_of_validate sha256 h
  obtain ⟨_, _, hleaves', -⟩ := exists_root_of_validate sha256 h'
  rw [hroot, hroot']
  intro heq
  have hsame := hiff.mp (hex_encode_injective (Except.ok.inj heq))
  have hne : b.working_papers ≠ [] ∧ b'.working_papers ≠ [] := by
    by_contra hempty
    have hnil : b.working_papers = [] ∧ b'.working_papers = [] := by
      simp only [ne_eq, ← List.length_eq_zero_iff] at hempty ⊢
      omega
    rw [orderedHashes, orderedHashes, hnil.1, hnil.2] at hdiffer
    exact hdiffer rfl
  rw [leavesOf, if_neg hne.1] at hleaves
  rw [leavesOf, if_neg hne.2] at hleaves'
  have hrows : (leafRow b).length = (leafRow b').length := by
    have hb := congrArg List.length hleaves
    have hb' := congrArg List.length hleaves'
    simp only [orderedHashes, List.length_map, List.length_insertionSort] at hb hb'
    omega
  rw [hleaves, hleaves', eq_of_sameTree sha256 hrows hsame] at hdiffer
  exact hdiffer rfl

end Roots

section Samples

def paper (wp_id : String) (digest : Digest) : WorkingPaper := ⟨wp_id, hex_encode digest, 7⟩

def bundleOf (entries : List (String × Digest)) : EngagementBundle :=
  ⟨entries.map fun e => paper e.1 e.2⟩

theorem validate_bundleOf (entries : List (String × Digest)) :
    validate (bundleOf entries) = .ok () := by
  induction entries with
  | nil => rfl
  | cons e entries ih =>
      have hpaper : validatePaper () (paper e.1 e.2) = .ok () := by
        rw [validatePaper, paper, hex_encode, String.toList_ofList, length_hexEncode,
          all_hexEncode, e.2.length_bytes]
        rfl
      exact bind_eq_ok_iff.mpr ⟨(), hpaper, ih⟩

theorem to_lowercase_hex_encode (digest : Digest) :
    to_lowercase (hex_encode digest) = hex_encode digest := by
  have hdigit : ∀ n < 16, (hexDigit n).toLower = hexDigit n := by decide
  have hlower : ∀ bytes : List Byte, (hexEncode bytes).map Char.toLower = hexEncode bytes := by
    intro bytes
    induction bytes with
    | nil => rfl
    | cons b bytes ih =>
        have hb := b.isLt
        rw [hexEncode, List.flatMap_cons, ← hexEncode, List.map_append, ih]
        simp only [List.map_cons, List.map_nil, hdigit (b.val / 16) (by omega),
          hdigit (b.val % 16) (by omega)]
  rw [to_lowercase, hex_encode, String.toList_ofList, hlower]

/-- The leaves of papers that come in the order of their identifiers. -/
theorem leavesOf_bundleOf (entries : List (String × Digest)) (hne : entries ≠ [])
    (hsorted : entries.Pairwise fun e e' => e.1 ≤ e'.1) :
    leavesOf (bundleOf entries) = (entries.map Prod.snd).map hex_encode := by
  have hpapers : (bundleOf entries).working_papers.Pairwise fun wp wp' => wp.wp_id ≤ wp'.wp_id :=
    List.pairwise_map.mpr hsorted
  rw [leavesOf, if_neg (by simpa [bundleOf] using hne), orderedHashes,
    List.Pairwise.insertionSort_eq hpapers, bundleOf, List.map_map, List.map_map]
  apply List.map_congr_left
  intro e _
  exact to_lowercase_hex_encode e.2

def twoPapers : EngagementBundle := ⟨[paper "WP-001" digestA, paper "WP-002" digestB]⟩

def threePapers : EngagementBundle :=
  ⟨[paper "WP-001" digestA, paper "WP-002" digestB, paper "WP-003" digestC]⟩

/-- The last paper filed a second time. -/
def lastPaperTwice : EngagementBundle :=
  ⟨[paper "WP-001" digestA, paper "WP-002" digestB, paper "WP-003" digestC,
    paper "WP-004" digestC]⟩

theorem validate_twoPapers : validate twoPapers = .ok () :=
  validate_bundleOf [("WP-001", digestA), ("WP-002", digestB)]

theorem validate_threePapers : validate threePapers = .ok () :=
  validate_bundleOf [("WP-001", digestA), ("WP-002", digestB), ("WP-003", digestC)]

theorem leavesOf_twoPapers : leavesOf twoPapers = [digestA, digestB].map hex_encode :=
  leavesOf_bundleOf [("WP-001", digestA), ("WP-002", digestB)] (by simp) (by decide)

theorem leavesOf_threePapers : leavesOf threePapers = [digestA, digestB, digestC].map hex_encode :=
  leavesOf_bundleOf [("WP-001", digestA), ("WP-002", digestB), ("WP-003", digestC)]
    (by simp) (by decide)

theorem leavesOf_lastPaperTwice :
    leavesOf lastPaperTwice = [digestA, digestB, digestC, digestC].map hex_encode :=
  leavesOf_bundleOf [("WP-001", digestA), ("WP-002", digestB), ("WP-003", digestC),
    ("WP-004", digestC)] (by simp) (by decide)

theorem pairsCollisionFree_of_leaves {b b' : EngagementBundle} {row row' : List Digest}
    (hrow : leavesOf b = row.map hex_encode) (hrow' : leavesOf b' = row'.map hex_encode)
    (h : ∀ p ∈ treePairs (pairDigest sampleSha) (Nat.clog 2 row.length) row ++
        treePairs (pairDigest sampleSha) (Nat.clog 2 row'.length) row',
      ∀ q ∈ treePairs (pairDigest sampleSha) (Nat.clog 2 row.length) row ++
        treePairs (pairDigest sampleSha) (Nat.clog 2 row'.length) row',
        pairDigest sampleSha p = pairDigest sampleSha q → p = q) :
    PairsCollisionFree sampleSha b b' := by
  rw [PairsCollisionFree, hrow, hrow', leafPairs_map_hex_encode, leafPairs_map_hex_encode]
  exact h

theorem third_paper_changes_root :
    ∃ root root', bundle_root sampleSha twoPapers = .ok root ∧
      bundle_root sampleSha threePapers = .ok root' ∧
      (root ≠ root' ↔ ¬ SameTree sampleSha (leafRow twoPapers) (leafRow threePapers)) :=
  bundle_roots_differ_iff sampleSha validate_twoPapers validate_threePapers
    (pairsCollisionFree_of_leaves leavesOf_twoPapers leavesOf_threePapers (by decide))

/-- A paper filed twice leaves the root as it is. -/
theorem duplicated_paper_keeps_root :
    PairsCollisionFree sampleSha threePapers lastPaperTwice ∧
      orderedHashes threePapers ≠ orderedHashes lastPaperTwice ∧
      bundle_root sampleSha threePapers = bundle_root sampleSha lastPaperTwice ∧
      (bundle_root sampleSha threePapers).isOk = true := by
  have hfree : PairsCollisionFree sampleSha threePapers lastPaperTwice :=
    pairsCollisionFree_of_leaves leavesOf_threePapers leavesOf_lastPaperTwice (by decide)
  have hvalid : validate lastPaperTwice = .ok () :=
    validate_bundleOf [("WP-001", digestA), ("WP-002", digestB), ("WP-003", digestC),
      ("WP-004", digestC)]
  obtain ⟨r, r', hroot, hroot', hiff⟩ :=
    exists_roots_eq_iff sampleSha validate_threePapers hvalid hfree
  have hrows : SameTree sampleSha (leafRow threePapers) (leafRow lastPaperTwice) := by
    rw [leafRow, leafRow, leavesOf_threePapers, leavesOf_lastPaperTwice,
      digests?_eq_some_iff.mpr (denote_map_hex_encode _),
      digests?_eq_some_iff.mpr (denote_map_hex_encode _)]
    decide
  refine ⟨hfree, ?_, ?_, ?_⟩
  · intro heq
    have hlength := congrArg List.length heq
    rw [orderedHashes, orderedHashes, List.length_map, List.length_map,
      List.length_insertionSort, List.length_insertionSort] at hlength
    exact absurd hlength (by decide)
  · rw [hroot, hroot', hiff.mpr hrows]
  · rw [hroot]
    rfl

end Samples

end Datasynth.Audit.BundleRoots

/-!
When the root of a bundle does not depend on the order in which its working papers are supplied:
papers of one identifier are hashed in the order in which they come.
-/

namespace Datasynth.Audit.BundleOrders

open Datasynth.Audit.BundleRoots
open Datasynth.Audit.MerkleProofs
open Datasynth.Audit.WorkingPaperMerkle
open Datasynth.Core.JournalEntries
open Datasynth.Lib.ByteEncoding
open Datasynth.Lib.ExceptRuns
open Datasynth.Lib.MerkleTree
open Datasynth.Lib.StableSorts

section Orders

variable {papers l l' : List WorkingPaper}

/-- Papers of one identifier have one hash. -/
def HashByIdentifier (papers : List WorkingPaper) : Prop :=
  ∀ wp ∈ papers, ∀ wp' ∈ papers, wp.wp_id = wp'.wp_id →
    to_lowercase wp.payload_hash = to_lowercase wp'.payload_hash

theorem orderedHashes_eq (papers : List WorkingPaper) : orderedHashes ⟨papers⟩ =
    sortedView (·.wp_id) (fun wp => to_lowercase wp.payload_hash) papers := rfl

theorem orderedHashes_eq_iff :
    (∀ l l', l.Perm papers → l'.Perm papers → orderedHashes ⟨l⟩ = orderedHashes ⟨l'⟩) ↔
      HashByIdentifier papers := by
  simp only [orderedHashes_eq]
  exact forall_sortedView_eq_iff

theorem validate_eq_ok_iff :
    validate ⟨papers⟩ = .ok () ↔ ∀ wp ∈ papers, validatePaper () wp = .ok () := by
  refine ⟨forall_of_validate, fun h => ?_⟩
  induction papers with
  | nil => rfl
  | cons wp papers ih =>
      rw [List.forall_mem_cons] at h
      exact bind_eq_ok_iff.mpr ⟨(), h.1, ih h.2⟩

theorem validate_of_perm (hperm : l.Perm l') (h : validate ⟨l⟩ = .ok ()) :
    validate ⟨l'⟩ = .ok () := by
  rw [validate_eq_ok_iff] at h ⊢
  exact fun wp hwp => h wp (hperm.mem_iff.mpr hwp)

theorem leavesOf_congr (hperm : l.Perm l') (h : orderedHashes ⟨l⟩ = orderedHashes ⟨l'⟩) :
    leavesOf ⟨l⟩ = leavesOf ⟨l'⟩ := by
  have hnil : l = [] ↔ l' = [] := by
    rw [← List.length_eq_zero_iff, ← List.length_eq_zero_iff, hperm.length_eq]
  simp only [leavesOf, hnil, h]

variable (sha256 : List Byte → Digest)

/-- The papers have one root in every order, or none in any. -/
def OrderFree (papers : List WorkingPaper) : Prop :=
  ∀ l l', l.Perm papers → l'.Perm papers →
    (bundle_root sha256 ⟨l⟩).toOption = (bundle_root sha256 ⟨l'⟩).toOption

/-- No two pairs that the roots of two orders are made of have one hash. -/
def OrdersCollisionFree (papers : List WorkingPaper) : Prop :=
  ∀ l l', l.Perm papers → l'.Perm papers → PairsCollisionFree sha256 ⟨l⟩ ⟨l'⟩

theorem toOption_bundle_root_of_invalid (h : validate ⟨papers⟩ ≠ .ok ()) :
    (bundle_root sha256 ⟨papers⟩).toOption = none := by
  rw [bundle_root]
  cases hvalid : validate ⟨papers⟩ with
  | error e => rfl
  | ok _ => exact absurd hvalid h

theorem bundle_root_congr (hperm : l.Perm l') (h : orderedHashes ⟨l⟩ = orderedHashes ⟨l'⟩) :
    (bundle_root sha256 ⟨l⟩).toOption = (bundle_root sha256 ⟨l'⟩).toOption := by
  by_cases hvalid : validate ⟨l⟩ = .ok ()
  · rw [bundle_root_eq sha256 hvalid, bundle_root_eq sha256 (validate_of_perm hperm hvalid),
      leavesOf_congr hperm h]
  · have hvalid' : validate ⟨l'⟩ ≠ .ok () := fun h => hvalid (validate_of_perm hperm.symm h)
    rw [toOption_bundle_root_of_invalid sha256 hvalid,
      toOption_bundle_root_of_invalid sha256 hvalid']

variable {sha256}

/-- Orders that are hashed differently have different roots. -/
theorem orderedHashes_eq_of_root_eq (hperm : l.Perm l') (hvalid : validate ⟨l⟩ = .ok ())
    (hfree : PairsCollisionFree sha256 ⟨l⟩ ⟨l'⟩)
    (h : (bundle_root sha256 ⟨l⟩).toOption = (bundle_root sha256 ⟨l'⟩).toOption) :
    orderedHashes ⟨l⟩ = orderedHashes ⟨l'⟩ := by
  by_contra hdiffer
  have hvalid' := validate_of_perm hperm hvalid
  obtain ⟨_, _, -, -, -, hroot⟩ := exists_root_of_validate sha256 hvalid
  obtain ⟨_, _, -, -, -, hroot'⟩ := exists_root_of_validate sha256 hvalid'
  apply bundle_roots_differ_of_length_eq sha256 hvalid hvalid' hfree hperm.length_eq hdiffer
  rw [hroot, hroot'] at h ⊢
  exact congrArg Except.ok (Option.some.inj h)

theorem bundle_orderFree_iff (hfree : OrdersCollisionFree sha256 papers) :
    OrderFree sha256 papers ↔ validate ⟨papers⟩ ≠ .ok () ∨ HashByIdentifier papers := by
  rw [← orderedHashes_eq_iff]
  constructor
  · intro h
    by_cases hvalid : validate ⟨papers⟩ = .ok ()
    · right
      intro l l' hl hl'
      exact orderedHashes_eq_of_root_eq (hl.trans hl'.symm) (validate_of_perm hl.symm hvalid)
        (hfree l l' hl hl') (h l l' hl hl')
    · exact .inl hvalid
  · rintro (hinvalid | hhashes) l l' hl hl'
    · have hnone : ∀ l, l.Perm papers → (bundle_root sha256 ⟨l⟩).toOption = none := fun l hl =>
        toOption_bundle_root_of_invalid sha256 fun h => hinvalid (validate_of_perm hl h)
      rw [hnone l hl, hnone l' hl']
    · exact bundle_root_congr sha256 (hl.trans hl'.symm) (hhashes l l' hl hl')

end Orders

section Samples

theorem hashByIdentifier_twoPapers : HashByIdentifier twoPapers.working_papers := by
  have hnodup : (twoPapers.working_papers.map (·.wp_id)).Nodup := by decide
  intro wp hwp wp' hwp' hid
  rw [List.inj_on_of_nodup_map hnodup hwp hwp' hid]

theorem ordersCollisionFree_twoPapers :
    OrdersCollisionFree sampleSha twoPapers.working_papers := by
  intro l l' hl hl'
  have hleaves : ∀ l, l.Perm twoPapers.working_papers → leavesOf ⟨l⟩ = leavesOf twoPapers := by
    intro l hl
    exact leavesOf_congr hl
      (orderedHashes_eq_iff.mpr hashByIdentifier_twoPapers l _ hl (List.Perm.refl _))
  exact pairsCollisionFree_of_leaves ((hleaves l hl).trans leavesOf_twoPapers)
    ((hleaves l' hl').trans leavesOf_twoPapers) (by decide)

theorem two_papers_orderFree :
    OrderFree sampleSha twoPapers.working_papers ↔
      validate twoPapers ≠ .ok () ∨ HashByIdentifier twoPapers.working_papers :=
  bundle_orderFree_iff ordersCollisionFree_twoPapers

/-- Two papers of one identifier have another root when they change places. -/
theorem shared_identifier_depends_on_order :
    ¬ OrderFree sampleSha [paper "WP-001" digestA, paper "WP-001" digestB] := by
  intro h
  have hleaves : leavesOf ⟨[paper "WP-001" digestA, paper "WP-001" digestB]⟩ =
      [digestA, digestB].map hex_encode :=
    leavesOf_bundleOf [("WP-001", digestA), ("WP-001", digestB)] (by simp) (by decide)
  have hleaves' : leavesOf ⟨[paper "WP-001" digestB, paper "WP-001" digestA]⟩ =
      [digestB, digestA].map hex_encode :=
    leavesOf_bundleOf [("WP-001", digestB), ("WP-001", digestA)] (by simp) (by decide)
  have hhashes : orderedHashes ⟨[paper "WP-001" digestA, paper "WP-001" digestB]⟩ =
      orderedHashes ⟨[paper "WP-001" digestB, paper "WP-001" digestA]⟩ :=
    orderedHashes_eq_of_root_eq (List.Perm.swap _ _ _)
      (validate_bundleOf [("WP-001", digestA), ("WP-001", digestB)])
      (pairsCollisionFree_of_leaves hleaves hleaves' (by decide))
      (h _ _ (List.Perm.refl _) (List.Perm.swap _ _ _))
  rw [leavesOf, if_neg (by simp), hhashes] at hleaves
  rw [leavesOf, if_neg (by simp), hleaves] at hleaves'
  have hsame := List.map_injective_iff.mpr hex_encode_injective hleaves'
  exact absurd hsame (by decide)

end Samples

end Datasynth.Audit.BundleOrders
