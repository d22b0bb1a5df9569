import Datasynth.Audit.WorkingPaperMerkle

/-!
Inclusion proofs against a Merkle root: the generated ones are accepted, and an accepted
one shows the leaf at its position as long as the position lies in the list.
-/

namespace Datasynth.Audit.MerkleProofs

open Datasynth.Audit.WorkingPaperMerkle
open Datasynth.Core.JournalEntries
open Datasynth.Lib.ByteEncoding
open Datasynth.Lib.ExceptRuns
open Datasynth.Lib.MerkleTree

/-- Texts and the digests they denote. -/
abbrev Denote (texts : List String) (row : List Digest) : Prop :=
  List.Forall₂ (fun s digest => digest? s = some digest) texts row

def digests? : List String → Option (List Digest)
  | [] => some []
  | s :: texts => (digest? s).bind fun digest => (digests? texts).map (digest :: ·)

theorem digests?_eq_some_iff {texts : List String} {row : List Digest} :
    digests? texts = some row ↔ Denote texts row := by
  induction texts generalizing row with
  | nil => cases row <;> simp [digests?]
  | cons s texts ih =>
      rw [digests?, Option.bind_eq_some_iff]
      constructor
      · rintro ⟨digest, hdigest, h⟩
        obtain ⟨row', hrow', rfl⟩ := Option.map_eq_some_iff.mp h
        exact .cons hdigest (ih.mp hrow')
      · intro h
        obtain ⟨digest, row', hdigest, hrow', rfl⟩ := List.forall₂_cons_left_iff.mp h
        exact ⟨digest, hdigest, by rw [ih.mpr hrow']; rfl⟩

theorem exists_digests_of_forall {texts : List String} (h : ∀ s ∈ texts, (digest? s).isSome) :
    ∃ row, Denote texts row := by
  induction texts with
  | nil => exact ⟨[], .nil⟩
  | cons s texts ih =>
      rw [List.forall_mem_cons] at h
      obtain ⟨digest, hdigest⟩ := Option.isSome_iff_exists.mp h.1
      obtain ⟨row, hrow⟩ := ih h.2
      exact ⟨digest :: row, .cons hdigest hrow⟩

theorem denote_map_hex_encode (row : List Digest) : Denote (row.map hex_encode) row := by
  induction row with
  | nil => exact .nil
  | cons digest row ih => exact .cons (digest?_hex_encode digest) ih

theorem digest?_of_getElem? {texts : List String} {row : List Digest} (h : Denote texts row) {i : ℕ}
    {s : String} {digest : Digest} (hs : texts[i]? = some s) (hdigest : row[i]? = some digest) :
    digest? s = some digest := by
  obtain ⟨hi, rfl⟩ := List.getElem?_eq_some_iff.mp hs
  obtain ⟨hi', rfl⟩ := List.getElem?_eq_some_iff.mp hdigest
  exact h.get hi hi'

section Hash

variable (sha256 : List Byte → Digest)

def pairDigest (pair : Digest × Digest) : Digest := sha256 (pair.1.bytes ++ pair.2.bytes)

theorem pair_hash_eq {left right : String} {a b : Digest} (ha : digest? left = some a)
    (hb : digest? right = some b) :
    pair_hash sha256 left right = .ok (hex_encode (pairDigest sha256 (a, b))) := by
  rw [digest?_eq_some_iff] at ha hb
  exact bind_eq_ok_iff.mpr ⟨_, ha, bind_eq_ok_iff.mpr ⟨_, hb, rfl⟩⟩

theorem exists_digests_of_pair_hash {left right s : String}
    (h : pair_hash sha256 left right = .ok s) :
    ∃ a b, digest? left = some a ∧ digest? right = some b ∧
      s = hex_encode (pairDigest sha256 (a, b)) := by
  obtain ⟨l, hl, h⟩ := bind_eq_ok_iff.mp h
  obtain ⟨r, hr, h⟩ := bind_eq_ok_iff.mp h
  obtain ⟨a, ha, rfl⟩ := exists_digest_of_hex_decode hl
  obtain ⟨b, hb, rfl⟩ := exists_digest_of_hex_decode hr
  cases h
  exact ⟨a, b, ha, hb, rfl⟩

theorem nextLevel_eq {level : List String} {row : List Digest} (h : Denote level row) :
    nextLevel sha256 level = .ok ((up (pairDigest sha256) row).map hex_encode) := by
  rw [nextLevel, traverseRun_eq_ok_iff, up, List.map_map, List.forall₂_map_right_iff]
  refine (forall₂_rowPairs h).imp ?_
  rintro ⟨left, right⟩ ⟨a, b⟩ ⟨ha, hb⟩
  exact pair_hash_eq sha256 ha hb

variable {sha256} {k : ℕ} {row : List Digest} {r : Digest}

/-- Going up ends in one text that denotes the root; above the leaves it is the root's
own text. -/
theorem climbLevels_eq (hclimbs : Climbs (pairDigest sha256) k row r) {fuel : ℕ} (hfuel : k ≤ fuel)
    {level : List String} (hlevel : Denote level row) :
    ∃ root, climbLevels sha256 fuel level = .ok [root] ∧ digest? root = some r ∧
      ((k = 0 ∧ level = [root]) ∨ (0 < k ∧ root = hex_encode r)) := by
  induction hclimbs generalizing fuel level with
  | single r =>
      obtain ⟨root, _, hroot, hnil, rfl⟩ := List.forall₂_cons_right_iff.mp hlevel
      cases hnil
      refine ⟨root, ?_, hroot, .inl ⟨rfl, rfl⟩⟩
      cases fuel <;> rfl
  | @step k row r hlength hup ih =>
      obtain ⟨fuel, rfl⟩ : ∃ n, fuel = n + 1 := ⟨fuel - 1, by omega⟩
      obtain ⟨root, hclimb, hroot, hcases⟩ := ih (show k ≤ fuel by omega)
        (denote_map_hex_encode (up (pairDigest sha256) row))
      have hlong : ¬ level.length ≤ 1 := by
        rw [hlevel.length_eq]
        omega
      refine ⟨root, ?_, hroot, .inr ⟨k.succ_pos, ?_⟩⟩
      · rw [climbLevels, if_neg hlong, nextLevel_eq sha256 hlevel]
        exact hclimb
      · rcases hcases with ⟨-, hsingle⟩ | ⟨-, hencoded⟩
        · have hmem : root ∈ (up (pairDigest sha256) row).map hex_encode := by
            rw [hsingle]
            exact List.mem_singleton_self root
          obtain ⟨digest, -, rfl⟩ := List.mem_map.mp hmem
          rw [digest?_hex_encode] at hroot
          rw [Option.some.inj hroot]
        · exact hencoded

theorem merkle_root_eq (hclimbs : Climbs (pairDigest sha256) k row r) {leaves : List String}
    (hleaves : Denote leaves row) :
    ∃ root, merkle_root sha256 leaves = .ok root ∧ digest? root = some r ∧
      ((k = 0 ∧ leaves = [root]) ∨ (0 < k ∧ root = hex_encode r)) := by
  have hfuel : k ≤ leaves.length := by
    rw [hclimbs.height_eq, hleaves.length_eq]
    exact Nat.clog_le_of_le_pow (Nat.lt_two_pow_self).le
  obtain ⟨root, hclimb, hroot, hcases⟩ := climbLevels_eq hclimbs hfuel hleaves
  refine ⟨root, ?_, hroot, hcases⟩
  have hne : leaves ≠ [] := by
    rw [← List.length_pos_iff, hleaves.length_eq]
    exact hclimbs.length_pos
  rw [merkle_root, if_neg hne, hclimb]
  rfl

abbrev SiblingsDenote (proof : List ProofStep) (siblings : List Digest) : Prop :=
  Denote (proof.map (·.sibling)) siblings

variable (sha256) in
theorem verifyLoop_eq {current : String} {x : Digest} (hx : digest? current = some x)
    {proof : List ProofStep} {siblings : List Digest} (hproof : SiblingsDenote proof siblings)
    (idx : ℕ) :
    ∃ s, verifyLoop sha256 current proof idx = .ok s ∧
      ((proof = [] ∧ s = current) ∨
        s = hex_encode (rollUp (pairDigest sha256) x siblings idx)) := by
  induction proof generalizing current x siblings idx with
  | nil => exact ⟨current, rfl, .inl ⟨rfl, rfl⟩⟩
  | cons step proof ih =>
      obtain ⟨sibling, siblings, hsibling, hrest, rfl⟩ := List.forall₂_cons_left_iff.mp hproof
      have hnext : verifyStep sha256 current step.sibling idx =
          .ok (hex_encode (pairDigest sha256 (joined idx x sibling))) := by
        rw [verifyStep, joined]
        split
        · exact pair_hash_eq sha256 hx hsibling
        · exact pair_hash_eq sha256 hsibling hx
      obtain ⟨s, hs, hcases⟩ := ih (digest?_hex_encode _) hrest (idx / 2)
      refine ⟨s, bind_eq_ok_iff.mpr ⟨_, hnext, hs⟩, .inr ?_⟩
      rcases hcases with ⟨rfl, rfl⟩ | hs
      · cases hrest
        rfl
      · exact hs

/-- What the verifier accepts denotes digests that roll up to the result. -/
theorem exists_path_of_verifyLoop {current s : String} {proof : List ProofStep} {idx : ℕ}
    (h : verifyLoop sha256 current proof idx = .ok s) (hs : digest? s = some r) :
    ∃ x siblings, digest? current = some x ∧ SiblingsDenote proof siblings ∧
      rollUp (pairDigest sha256) x siblings idx = r := by
  induction proof generalizing current idx with
  | nil =>
      cases h
      exact ⟨r, [], hs, .nil, rfl⟩
  | cons step proof ih =>
      obtain ⟨next, hnext, hrest⟩ := bind_eq_ok_iff.mp h
      obtain ⟨y, siblings, hy, hproof, hroll⟩ := ih hrest
      rw [verifyStep] at hnext
      split at hnext
      · rename_i heven
        obtain ⟨x, sibling, hx, hsibling, rfl⟩ := exists_digests_of_pair_hash sha256 hnext
        rw [digest?_hex_encode] at hy
        cases hy
        refine ⟨x, sibling :: siblings, hx, .cons hsibling hproof, ?_⟩
        rw [rollUp, joined, if_pos heven, hroll]
      · rename_i hodd
        obtain ⟨sibling, x, hsibling, hx, rfl⟩ := exists_digests_of_pair_hash sha256 hnext
        rw [digest?_hex_encode] at hy
        cases hy
        refine ⟨x, sibling :: siblings, hx, .cons hsibling hproof, ?_⟩
        rw [rollUp, joined, if_neg hodd, hroll]

theorem digest?_proofStep {level : List String} (hlevel : Denote level row) {idx : ℕ}
    (hidx : idx < level.length) (hlong : 1 < row.length) {a b : Digest}
    (ha : row[2 * (idx / 2)]? = some a)
    (hb : row[min (2 * (idx / 2) + 1) (row.length - 1)]? = some b) :
    ∃ x sibling, row[idx]? = some x ∧ digest? (proofStep level idx).sibling = some sibling ∧
      joined idx x sibling = (a, b) := by
  have hlength := hlevel.length_eq
  rcases Nat.mod_two_eq_zero_or_one idx with heven | hodd
  · have htext : (padLast level)[idx + 1]? = level[min (idx + 1) (level.length - 1)]? :=
      getElem?_padLast (by omega)
    rw [show 2 * (idx / 2) = idx by omega] at ha hb
    rw [← hlength] at hb
    have hlt : min (idx + 1) (level.length - 1) < level.length := by omega
    refine ⟨a, b, ha, ?_, if_pos heven⟩
    rw [proofStep, if_pos heven, List.getD_eq_getElem?_getD, htext, List.getElem?_eq_getElem hlt]
    exact digest?_of_getElem? hlevel (List.getElem?_eq_getElem hlt) hb
  · have htext : (padLast level)[idx - 1]? = level[idx - 1]? := by
      rw [getElem?_padLast (by omega), min_eq_left (by omega)]
    rw [show 2 * (idx / 2) = idx - 1 by omega] at ha
    rw [show min (2 * (idx / 2) + 1) (row.length - 1) = idx by omega] at hb
    have hlt : idx - 1 < level.length := by omega
    refine ⟨b, a, hb, ?_, if_neg (by omega)⟩
    rw [proofStep, if_neg (by omega), List.getD_eq_getElem?_getD, htext,
      List.getElem?_eq_getElem hlt]
    exact digest?_of_getElem? hlevel (List.getElem?_eq_getElem hlt) ha

/-- The generated proof rolls the leaf up to the root. -/
theorem proofLoop_eq (hclimbs : Climbs (pairDigest sha256) k row r) {fuel : ℕ} (hfuel : k ≤ fuel)
    {level : List String} (hlevel : Denote level row) {idx : ℕ} (hidx : idx < level.length) :
    ∃ proof x siblings, proofLoop sha256 fuel level idx = .ok proof ∧ row[idx]? = some x ∧
      SiblingsDenote proof siblings ∧ siblings.length = k ∧
      rollUp (pairDigest sha256) x siblings idx = r := by
  induction hclimbs generalizing fuel level idx with
  | single r =>
      obtain ⟨root, _, hroot, hnil, rfl⟩ := List.forall₂_cons_right_iff.mp hlevel
      cases hnil
      obtain rfl : idx = 0 := Nat.lt_one_iff.mp hidx
      refine ⟨[], r, [], ?_, rfl, .nil, rfl, rfl⟩
      cases fuel <;> rfl
  | @step k row r hlength hup ih =>
      obtain ⟨fuel, rfl⟩ : ∃ n, fuel = n + 1 := ⟨fuel - 1, by omega⟩
      have hlong : ¬ level.length ≤ 1 := by
        rw [hlevel.length_eq]
        omega
      have hhalf : idx / 2 < (row.length + 1) / 2 := by
        rw [← hlevel.length_eq]
        omega
      have hidx' : idx / 2 < ((up (pairDigest sha256) row).map hex_encode).length := by
        rw [List.length_map, length_up]
        exact hhalf
      obtain ⟨proof, y, siblings, hproof, hy, hdenote, hsiblings, hroll⟩ :=
        ih (show k ≤ fuel by omega) (denote_map_hex_encode _) hidx'
      obtain ⟨a, b, ha, hb, -, hab⟩ := getElem?_up (pairDigest sha256) hhalf
      obtain rfl : pairDigest sha256 (a, b) = y := Option.some.inj (hab.symm.trans hy)
      obtain ⟨x, sibling, hx, hsibling, hjoined⟩ := digest?_proofStep hlevel hidx hlength ha hb
      refine ⟨proofStep level idx :: proof, x, sibling :: siblings, ?_, hx,
        .cons hsibling hdenote, congrArg Nat.succ hsiblings, ?_⟩
      · rw [proofLoop, if_neg hlong, nextLevel_eq sha256 hlevel]
        exact bind_eq_ok_iff.mpr ⟨_, rfl, bind_eq_ok_iff.mpr ⟨proof, hproof, rfl⟩⟩
      · rw [rollUp, hjoined, hroll]

end Hash

section Claims

variable (sha256 : List Byte → Digest)

/-- The pairs hashed for the root of a list of leaves. -/
def leafPairs (leaves : List String) : List (Digest × Digest) :=
  match digests? leaves with
  | some row => treePairs (pairDigest sha256) (Nat.clog 2 row.length) row
  | none => []

def verifyPairs (leaf : String) (proof : List ProofStep) (index : ℕ) : List (Digest × Digest) :=
  match digest? leaf, digests? (proof.map (·.sibling)) with
  | some x, some siblings => pathPairs (pairDigest sha256) x siblings index
  | _, _ => []

/-- The hash of a pair is its own among these pairs and none of these leaves. -/
structure CollisionFree (pairs : List (Digest × Digest)) (leaves : List String) : Prop where
  injective : ∀ p ∈ pairs, ∀ q ∈ pairs, pairDigest sha256 p = pairDigest sha256 q → p = q
  separated : ∀ p ∈ pairs, ∀ leaf ∈ leaves, digest? leaf ≠ some (pairDigest sha256 p)

def ProofsAccepted (leaves : List String) : Prop :=
  ∃ root, merkle_root sha256 leaves = .ok root ∧
    ∀ i (hi : i < leaves.length), ∃ proof, merkle_proof sha256 leaves i = .ok proof ∧
      verify_merkle_proof sha256 leaves[i] proof i root = .ok true

/-- What is accepted at a position is the leaf of the list there. -/
def PositionBound (leaves : List String) (j : ℕ) : Prop :=
  ∀ leaf proof root, merkle_root sha256 leaves = .ok root →
    CollisionFree sha256 (leafPairs sha256 leaves ++ verifyPairs sha256 leaf proof j)
      (leaf :: leaves) →
    verify_merkle_proof sha256 leaf proof j root = .ok true →
      ∃ hj : j < leaves.length, digest? leaf = digest? leaves[j]

variable {sha256}

theorem leafPairs_eq {k : ℕ} {row : List Digest} {r : Digest}
    (hclimbs : Climbs (pairDigest sha256) k row r) {leaves : List String}
    (hleaves : Denote leaves row) :
    leafPairs sha256 leaves = treePairs (pairDigest sha256) k row := by
  rw [leafPairs, digests?_eq_some_iff.mpr hleaves]
  show treePairs (pairDigest sha256) (Nat.clog 2 row.length) row = _
  rw [← hclimbs.height_eq]

theorem verifyPairs_eq {leaf : String} {x : Digest} (hx : digest? leaf = some x)
    {proof : List ProofStep} {siblings : List Digest} (hproof : SiblingsDenote proof siblings)
    (j : ℕ) : verifyPairs sha256 leaf proof j = pathPairs (pairDigest sha256) x siblings j := by
  rw [verifyPairs, hx, digests?_eq_some_iff.mpr hproof]

variable (sha256) in
theorem exists_climbs_of_leaves {leaves : List String} (hne : leaves ≠ [])
    (hleaves : ∀ leaf ∈ leaves, (digest? leaf).isSome) :
    ∃ k row r, Denote leaves row ∧ Climbs (pairDigest sha256) k row r := by
  obtain ⟨row, hrow⟩ := exists_digests_of_forall hleaves
  have hrow_ne : row ≠ [] := by
    rw [← List.length_pos_iff, ← hrow.length_eq]
    exact List.length_pos_iff.mpr hne
  obtain ⟨r, hclimbs⟩ := exists_climbs (pairDigest sha256) rfl hrow_ne
  exact ⟨_, row, r, hrow, hclimbs⟩

/-- A path of the height of the tree that rolls a leaf up to the root is accepted. -/
theorem verify_of_rollUp {k : ℕ} {leaves : List String} {root leaf : String} {x r : Digest}
    (hroot : (k = 0 ∧ leaves = [root]) ∨ (0 < k ∧ root = hex_encode r)) (hleaf : leaf ∈ leaves)
    (hx : digest? leaf = some x) {proof : List ProofStep} {siblings : List Digest}
    (hproof : SiblingsDenote proof siblings) (hlength : siblings.length = k) {j : ℕ}
    (hroll : rollUp (pairDigest sha256) x siblings j = r) :
    verify_merkle_proof sha256 leaf proof j root = .ok true := by
  obtain ⟨s, hs, hend⟩ := verifyLoop_eq sha256 hx hproof j
  have hproof_length : proof.length = k := by
    rw [← hlength, ← hproof.length_eq, List.length_map]
  have heq : s = root := by
    rcases hroot with ⟨rfl, rfl⟩ | ⟨hk, rfl⟩
    · obtain rfl : proof = [] := List.length_eq_zero_iff.mp hproof_length
      cases hs
      exact List.mem_singleton.mp hleaf
    · rcases hend with ⟨rfl, -⟩ | rfl
      · rw [List.length_nil] at hproof_length
        omega
      · rw [hroll]
  refine bind_eq_ok_iff.mpr ⟨s, hs, ?_⟩
  rw [heq]
  exact congrArg Except.ok (decide_eq_true rfl)

theorem proofsAccepted_of_leaves {leaves : List String} (hne : leaves ≠ [])
    (hleaves : ∀ leaf ∈ leaves, (digest? leaf).isSome) : ProofsAccepted sha256 leaves := by
  obtain ⟨k, row, r, hrow, hclimbs⟩ := exists_climbs_of_leaves sha256 hne hleaves
  obtain ⟨root, hroot, -, hcases⟩ := merkle_root_eq hclimbs hrow
  refine ⟨root, hroot, fun i hi => ?_⟩
  have hfuel : k ≤ leaves.length := by
    rw [hclimbs.height_eq, hrow.length_eq]
    exact Nat.clog_le_of_le_pow (Nat.lt_two_pow_self).le
  obtain ⟨proof, x, siblings, hproof, hx, hdenote, hlength, hroll⟩ :=
    proofLoop_eq hclimbs hfuel hrow hi
  refine ⟨proof, ?_, ?_⟩
  · rw [merkle_proof, if_neg (by omega), hproof]
  · exact verify_of_rollUp hcases (List.getElem_mem hi)
      (digest?_of_getElem? hrow (List.getElem?_eq_getElem hi) hx) hdenote hlength hroll

/-- What is accepted at a position is the leaf that the tree repeats there. -/
theorem getElem?_of_verify {k : ℕ} {row : List Digest} {r : Digest}
    (hclimbs : Climbs (pairDigest sha256) k row r) {leaves : List String}
    (hrow : Denote leaves row) {leaf root : String} {proof : List ProofStep} {j : ℕ}
    (hroot : digest? root = some r)
    (hfree : CollisionFree sha256 (leafPairs sha256 leaves ++ verifyPairs sha256 leaf proof j)
      (leaf :: leaves))
    (hverify : verify_merkle_proof sha256 leaf proof j root = .ok true) :
    ∃ x, digest? leaf = some x ∧ row[wrap k row.length j]? = some x := by
  obtain ⟨s, hs, hend⟩ := bind_eq_ok_iff.mp hverify
  have heq : s = root := of_decide_eq_true (Except.ok.inj hend)
  subst heq
  obtain ⟨x, siblings, hx, hproof, hroll⟩ := exists_path_of_verifyLoop hs hroot
  rw [leafPairs_eq hclimbs hrow, verifyPairs_eq hx hproof] at hfree
  have hinj : Set.InjOn (pairDigest sha256) {p | p ∈ treePairs (pairDigest sha256) k row ++
      pathPairs (pairDigest sha256) x siblings j} :=
    fun p hp q hq h => hfree.injective p hp q hq h
  have hlength : siblings.length = k := by
    apply length_of_rollUp_eq hclimbs hinj (fun p hp => List.mem_append_left _ hp)
      (fun p hp => List.mem_append_right _ hp) hroll
    · rintro p hp rfl
      exact hfree.separated p hp leaf List.mem_cons_self hx
    · rintro p hp y hy rfl
      obtain ⟨i, hi, heq⟩ := List.getElem_of_mem hy
      have hi' : i < leaves.length := hrow.length_eq ▸ hi
      exact hfree.separated p hp leaves[i] (List.mem_cons_of_mem _ (List.getElem_mem hi'))
        (digest?_of_getElem? hrow (List.getElem?_eq_getElem hi')
          (by rw [List.getElem?_eq_getElem hi, heq]))
  exact ⟨x, hx, rollUp_sound hclimbs hinj (fun p hp => List.mem_append_left _ hp) hlength
    (fun p hp => List.mem_append_right _ hp) hroll⟩

variable (sha256)

/-- The proofs of all leaves are accepted, and a position binds the leaf exactly when it
lies in the list: beyond the end the repeated nodes and the unread bits of the position
let a leaf of the list pass. -/
theorem accepted_positions_iff {leaves : List String} (hne : leaves ≠ [])
    (hleaves : ∀ leaf ∈ leaves, (digest? leaf).isSome)
    (hfree : CollisionFree sha256 (leafPairs sha256 leaves) leaves) (j : ℕ) :
    ProofsAccepted sha256 leaves ∧ (PositionBound sha256 leaves j ↔ j < leaves.length) := by
  refine ⟨proofsAccepted_of_leaves hne hleaves, ?_⟩
  obtain ⟨k, row, r, hrow, hclimbs⟩ := exists_climbs_of_leaves sha256 hne hleaves
  obtain ⟨root, hroot, hdigest, hcases⟩ := merkle_root_eq hclimbs hrow
  constructor
  · intro hbound
    obtain ⟨x, siblings, hx, hlength, hroll, hpath⟩ := exists_rollUp hclimbs j
    -- the leaf that the tree repeats at `j`, with the siblings of that place
    have hi : wrap k row.length j < leaves.length := by
      rw [hrow.length_eq]
      exact wrap_lt hclimbs.length_pos
    have hleaf := digest?_of_getElem? hrow (List.getElem?_eq_getElem hi) hx
    have hproof : SiblingsDenote (siblings.map fun d => ⟨hex_encode d, .left⟩) siblings := by
      rw [SiblingsDenote, List.map_map]
      exact denote_map_hex_encode siblings
    have hpairs : ∀ p ∈ leafPairs sha256 leaves ++
        verifyPairs sha256 leaves[wrap k row.length j]
          (siblings.map fun d => ⟨hex_encode d, .left⟩) j, p ∈ leafPairs sha256 leaves := by
      intro p hp
      rcases List.mem_append.mp hp with hp | hp
      · exact hp
      · rw [verifyPairs_eq hleaf hproof] at hp
        rw [leafPairs_eq hclimbs hrow]
        exact hpath p hp
    obtain ⟨hj, -⟩ := hbound _ _ root hroot
      ⟨fun p hp q hq => hfree.injective p (hpairs p hp) q (hpairs q hq), fun p hp leaf hmem => by
        rcases List.mem_cons.mp hmem with rfl | hmem
        · exact hfree.separated p (hpairs p hp) _ (List.getElem_mem hi)
        · exact hfree.separated p (hpairs p hp) leaf hmem⟩
      (verify_of_rollUp hcases (List.getElem_mem hi) hleaf hproof hlength hroll)
    exact hj
  · intro hj leaf proof root' hroot' hfree' hverify
    obtain rfl : root = root' := Except.ok.inj (hroot.symm.trans hroot')
    obtain ⟨x, hx, hnode⟩ := getElem?_of_verify hclimbs hrow hdigest hfree' hverify
    rw [wrap_of_lt (by rw [← hrow.length_eq]; exact hj) hclimbs.length_le] at hnode
    exact ⟨hj, hx.trans (digest?_of_getElem? hrow (List.getElem?_eq_getElem hj) hnode).symm⟩

variable {sha256}

theorem leafPairs_map_hex_encode (row : List Digest) : leafPairs sha256 (row.map hex_encode) =
    treePairs (pairDigest sha256) (Nat.clog 2 row.length) row := by
  rw [leafPairs, digests?_eq_some_iff.mpr (denote_map_hex_encode row)]

theorem collisionFree_map_hex_encode {pairs : List (Digest × Digest)} {row : List Digest}
    (hinj : ∀ p ∈ pairs, ∀ q ∈ pairs, pairDigest sha256 p = pairDigest sha256 q → p = q)
    (hseparated : ∀ p ∈ pairs, pairDigest sha256 p ∉ row) :
    CollisionFree sha256 pairs (row.map hex_encode) where
  injective := hinj
  separated p hp leaf hleaf := by
    obtain ⟨digest, hdigest, rfl⟩ := List.mem_map.mp hleaf
    rw [digest?_hex_encode]
    intro heq
    exact hseparated p hp (Option.some.inj heq ▸ hdigest)

end Claims

def digestA : Digest :=
  digestOfNat 0xca978112ca1bbdcafac231b39a23dc4da786eff8147c4e72b9807785afee48bb

def digestB : Digest :=
  digestOfNat 0x3e23e8160039594a33894f6564e1b1348bbd7a0088d42c4acb73eeaed59c009d

def digestC : Digest :=
  digestOfNat 0x2e7d2c03a9507ae265ecf5b5356885a53393a2029d241394997265a1a25aefc6

def digestAB : Digest :=
  digestOfNat 0xe5a01fee14e0ed5c48714f22180f25ad8365b53f9779f79dc4a3d7e93963f94a

def digestCC : Digest :=
  digestOfNat 0xa3e333fbee455b9a054cf05077f0f9d45b91bd13db4cd4a3681ec47455af085c

/-- The hash function on what a tree over the three leaves hashes. -/
def sampleSha (input : List Byte) : Digest :=
  if input = digestA.bytes ++ digestB.bytes then digestAB
  else if input = digestC.bytes ++ digestC.bytes then digestCC
  else if input = digestAB.bytes ++ digestCC.bytes then
    digestOfNat 0xd31a37ef6ac14a2db1470c4316beb5592e6afd4465022339adafda76a18ffabe
  else digestOfNat 0

def threeLeaves : List String := [hex_encode digestA, hex_encode digestB, hex_encode digestC]

theorem threeLeaves_eq : threeLeaves = [digestA, digestB, digestC].map hex_encode := rfl

theorem pairDigest_leaves : pairDigest sampleSha (digestA, digestB) = digestAB := by
  rw [pairDigest, sampleSha, if_pos rfl]

theorem climbs_threeLeaves : Climbs (pairDigest sampleSha) 2 [digestA, digestB, digestC]
    (pairDigest sampleSha
      (pairDigest sampleSha (digestA, digestB), pairDigest sampleSha (digestC, digestC))) :=
  .step (by decide) (.step (by decide) (.single _))

theorem three_leaves_positions :
    ProofsAccepted sampleSha threeLeaves ∧
      (PositionBound sampleSha threeLeaves 1 ↔ 1 < threeLeaves.length) := by
  rw [threeLeaves_eq]
  refine accepted_positions_iff sampleSha ?_ ?_ ?_ 1
  · exact List.cons_ne_nil _ _
  · intro leaf hleaf
    obtain ⟨digest, -, rfl⟩ := List.mem_map.mp hleaf
    rw [digest?_hex_encode, Option.isSome_some]
  · rw [leafPairs_map_hex_encode]
    exact collisionFree_map_hex_encode (by decide) (by decide)

/-- The last of three leaves is accepted at position 3 as well. -/
theorem last_leaf_accepted_past_the_end : ¬ PositionBound sampleSha threeLeaves 3 := by
  rw [threeLeaves_eq]
  intro h
  have hrow := denote_map_hex_encode [digestA, digestB, digestC]
  let proof : List ProofStep :=
    [digestC, digestAB].map fun sibling => ⟨hex_encode sibling, .left⟩
  have hproof : SiblingsDenote proof [digestC, digestAB] := by
    rw [SiblingsDenote, List.map_map]
    exact denote_map_hex_encode _
  have hroll : rollUp (pairDigest sampleSha) digestC [digestC, digestAB] 3 =
      pairDigest sampleSha
        (pairDigest sampleSha (digestA, digestB), pairDigest sampleSha (digestC, digestC)) := by
    rw [pairDigest_leaves]
    rfl
  obtain ⟨root, hroot, -, hcases⟩ := merkle_root_eq climbs_threeLeaves hrow
  have hverify := verify_of_rollUp hcases (List.mem_map_of_mem (by simp))
    (digest?_hex_encode digestC) hproof rfl hroll
  obtain ⟨hj, -⟩ := h _ _ root hroot (by
    rw [leafPairs_eq climbs_threeLeaves hrow, verifyPairs_eq (digest?_hex_encode digestC) hproof,
      ← List.map_cons]
    exact collisionFree_map_hex_encode (by decide) (by decide)) hverify
  exact absurd hj (by simp)

end Datasynth.Audit.MerkleProofs
