import Mathlib.Data.List.Nodup
import Datasynth.Lib.MixedHashes

/-!
Identifiers made from a seed, the type of the generator that asks for them and a counter.
-/

namespace Datasynth.Core.UuidFactory

open Datasynth.Lib.MixedHashes

inductive GeneratorType where
  | journalEntry
  | documentFlow
  | vendor
  | customer
  | material
  | asset
  | employee
  | arSubledger
  | apSubledger
  | faSubledger
  | inventorySubledger
  | intercompany
  | anomaly
  | periodClose
  | fxRate
  | accrual
  | depreciation
  | control
  | openingBalance
  | trialBalance
  | purchaseOrder
  | goodsReceipt
  | vendorInvoice
  | payment
  | salesOrder
  | delivery
  | customerInvoice
  | customerReceipt
  | sourcingProject
  | rfxEvent
  | supplierBid
  | procurementContract
  | catalogItem
  | bankReconciliation
  | financialStatement
  | payrollRun
  | timeEntry
  | expenseReport
  | productionOrder
  | cycleCount
  | qualityInspection
  | salesQuote
  | budgetLine
  | revenueRecognition
  | impairmentTest
  | kpi
  | tax
  | projectAccounting
  | esg
  | supplierQualification
  | supplierScorecard
  | bomComponent
  | inventoryMovement
  | benefitEnrollment
  | disruption
  | businessCombination
  | segmentReport
  | expectedCreditLoss
  | pension
  | provision
  | stockCompensation
  | industryBenchmark
  | governance
  | organizationalProfile
  | itControls
  | managementReport
  | priorYear
  | legalDocument
deriving DecidableEq, Repr

/-- The byte that stands for the type of generator. -/
def GeneratorType.discriminant : GeneratorType → BitVec 8
  | .journalEntry => 0x01
  | .documentFlow => 0x02
  | .vendor => 0x03
  | .customer => 0x04
  | .material => 0x05
  | .asset => 0x06
  | .employee => 0x07
  | .arSubledger => 0x08
  | .apSubledger => 0x09
  | .faSubledger => 0x0A
  | .inventorySubledger => 0x0B
  | .intercompany => 0x0C
  | .anomaly => 0x0D
  | .periodClose => 0x0E
  | .fxRate => 0x0F
  | .accrual => 0x10
  | .depreciation => 0x11
  | .control => 0x12
  | .openingBalance => 0x13
  | .trialBalance => 0x14
  | .purchaseOrder => 0x20
  | .goodsReceipt => 0x21
  | .vendorInvoice => 0x22
  | .payment => 0x23
  | .salesOrder => 0x24
  | .delivery => 0x25
  | .customerInvoice => 0x26
  | .customerReceipt => 0x27
  | .sourcingProject => 0x28
  | .rfxEvent => 0x29
  | .supplierBid => 0x2A
  | .procurementContract => 0x2B
  | .catalogItem => 0x2C
  | .bankReconciliation => 0x2D
  | .financialStatement => 0x2E
  | .payrollRun => 0x2F
  | .timeEntry => 0x30
  | .expenseReport => 0x31
  | .productionOrder => 0x32
  | .cycleCount => 0x33
  | .qualityInspection => 0x34
  | .salesQuote => 0x35
  | .budgetLine => 0x36
  | .revenueRecognition => 0x37
  | .impairmentTest => 0x38
  | .kpi => 0x39
  | .tax => 0x3A
  | .projectAccounting => 0x3B
  | .esg => 0x3C
  | .supplierQualification => 0x3D
  | .supplierScorecard => 0x3E
  | .bomComponent => 0x3F
  | .inventoryMovement => 0x40
  | .benefitEnrollment => 0x41
  | .disruption => 0x42
  | .businessCombination => 0x43
  | .segmentReport => 0x44
  | .expectedCreditLoss => 0x45
  | .pension => 0x46
  | .provision => 0x47
  | .stockCompensation => 0x48
  | .industryBenchmark => 0x49
  | .governance => 0x4A
  | .organizationalProfile => 0x4B
  | .itControls => 0x4C
  | .managementReport => 0x4D
  | .priorYear => 0x4E
  | .legalDocument => 0x4F

/-- The sixteen bytes. -/
abbrev Uuid := List (BitVec 8)

/-- The atomic counter is the part that changes. -/
structure DeterministicUuidFactory where
  seed : BitVec 64
  generator_type : GeneratorType
  counter : BitVec 64
  sub_discriminator : BitVec 8
deriving DecidableEq, Repr

def fnvOffset : BitVec 64 := 14695981039346656037

def fnvPrime : BitVec 64 := 1099511628211

def toLeBytes (x : BitVec 64) : List (BitVec 8) :=
  (List.range 8).map fun i => x.extractLsb' (8 * i) 8

def mixBytes (hash : BitVec 64) (bytes : List (BitVec 8)) : BitVec 64 :=
  (bytes.map (BitVec.setWidth 64)).foldl (mix fnvPrime) hash

/-- The hash before the counter is mixed in. -/
def scopeHash (seed : BitVec 64) (generator_type : GeneratorType) (sub_discriminator : BitVec 8) :
    BitVec 64 :=
  mixBytes (mixBytes fnvOffset (toLeBytes seed)) [generator_type.discriminant, sub_discriminator]

/-- The second hash, for the last eight bytes. -/
def secondHash (seed counter hash : BitVec 64) : BitVec 64 :=
  mix fnvPrime (mix fnvPrime hash (seed.rotateLeft 32)) (counter.rotateLeft 32)

/-- The bytes of both hashes, with the version and the variant written over six bits. -/
def fromHashes (hash hash2 : BitVec 64) : Uuid :=
  ((toLeBytes hash ++ toLeBytes hash2).modify 6 fun byte => byte &&& 0x0f ||| 0x40).modify 8
    fun byte => byte &&& 0x3f ||| 0x80

namespace DeterministicUuidFactory

def new (seed : BitVec 64) (generator_type : GeneratorType) : DeterministicUuidFactory :=
  ⟨seed, generator_type, 0, 0⟩

def with_sub_discriminator (seed : BitVec 64) (generator_type : GeneratorType)
    (sub_discriminator : BitVec 8) : DeterministicUuidFactory :=
  ⟨seed, generator_type, 0, sub_discriminator⟩

def with_counter (seed : BitVec 64) (generator_type : GeneratorType) (start_counter : BitVec 64) :
    DeterministicUuidFactory :=
  ⟨seed, generator_type, start_counter, 0⟩

def for_partition (seed : BitVec 64) (generator_type : GeneratorType)
    (partition_index : BitVec 8) : DeterministicUuidFactory :=
  ⟨seed, generator_type, 0, partition_index⟩

def generate_uuid (factory : DeterministicUuidFactory) (counter : BitVec 64) : Uuid :=
  let hash := mixBytes
    (scopeHash factory.seed factory.generator_type factory.sub_discriminator) (toLeBytes counter)
  fromHashes hash (secondHash factory.seed counter hash)

def next (factory : DeterministicUuidFactory) : Uuid × DeterministicUuidFactory :=
  (factory.generate_uuid factory.counter, { factory with counter := factory.counter + 1 })

def generate_at (factory : DeterministicUuidFactory) (counter : BitVec 64) : Uuid :=
  factory.generate_uuid counter

def reset (factory : DeterministicUuidFactory) : DeterministicUuidFactory :=
  { factory with counter := 0 }

end DeterministicUuidFactory

/-- The factories that were asked for, each under its type. -/
structure UuidFactoryRegistry where
  seed : BitVec 64
  factories : GeneratorType → Option DeterministicUuidFactory

namespace UuidFactoryRegistry

def new (seed : BitVec 64) : UuidFactoryRegistry := ⟨seed, fun _ => none⟩

def get_factory (registry : UuidFactoryRegistry) (generator_type : GeneratorType) :
    DeterministicUuidFactory :=
  (registry.factories generator_type).getD (.new registry.seed generator_type)

def next_uuid (registry : UuidFactoryRegistry) (generator_type : GeneratorType) :
    Uuid × UuidFactoryRegistry :=
  let issued := (registry.get_factory generator_type).next
  (issued.1, { registry with
    factories := fun other =>
      if other = generator_type then some issued.2 else registry.factories other })

def reset_all (registry : UuidFactoryRegistry) : UuidFactoryRegistry :=
  { registry with factories := fun other => (registry.factories other).map (·.reset) }

def get_counter (registry : UuidFactoryRegistry) (generator_type : GeneratorType) :
    Option (BitVec 64) :=
  (registry.factories generator_type).map (·.counter)

/-- The identifiers of a sequence of requests, each for one type, and the registry after it. -/
def issue : UuidFactoryRegistry → List GeneratorType → List Uuid × UuidFactoryRegistry
  | registry, [] => ([], registry)
  | registry, generator_type :: requests =>
      let issued := registry.next_uuid generator_type
      let rest := issue issued.2 requests
      (issued.1 :: rest.1, rest.2)

end UuidFactoryRegistry

theorem discriminant_eq (t : GeneratorType) :
    t.discriminant.toNat = if t.ctorIdx < 20 then t.ctorIdx + 1 else t.ctorIdx + 12 := by
  cases t <;> rfl

theorem discriminant_injective : Function.Injective GeneratorType.discriminant := by
  intro t t' h
  have hnat := congrArg BitVec.toNat h
  rw [discriminant_eq, discriminant_eq] at hnat
  have hidx : t.ctorIdx = t'.ctorIdx := by
    split at hnat <;> split at hnat <;> omega
  rw [← GeneratorType.ofNat_ctorIdx t, ← GeneratorType.ofNat_ctorIdx t', hidx]

theorem fnvPrime_odd : fnvPrime.toNat % 2 = 1 := by decide

section Bytes

variable {hash hash2 other other2 : BitVec 64}

theorem getElem?_toLeBytes (x : BitVec 64) {j : ℕ} (hj : j < 8) :
    (toLeBytes x)[j]? = some (x.extractLsb' (8 * j) 8) := by
  rw [toLeBytes, List.getElem?_map, List.getElem?_range hj]
  rfl

theorem getLsbD_of_toLeBytes_eq {x y : BitVec 64} {i : ℕ}
    (h : (x.extractLsb' (8 * (i / 8)) 8).getLsbD (i % 8) =
      (y.extractLsb' (8 * (i / 8)) 8).getLsbD (i % 8)) : x.getLsbD i = y.getLsbD i := by
  simpa [Nat.mod_lt, Nat.div_add_mod] using h

/-- A bit that is neither masked out nor written over can be read back. -/
theorem getLsbD_of_marked {w : ℕ} {x y mask mark : BitVec w}
    (h : x &&& mask ||| mark = y &&& mask ||| mark) {i : ℕ} (hmask : mask.getLsbD i = true)
    (hmark : mark.getLsbD i = false) : x.getLsbD i = y.getLsbD i := by
  have hbit := congrArg (·.getLsbD i) h
  simpa [hmask, hmark] using hbit

theorem getElem?_fromHashes (j : ℕ) : (fromHashes hash hash2)[j]? =
    ((toLeBytes hash ++ toLeBytes hash2)[j]?).map fun byte =>
      if j = 6 then byte &&& 0x0f ||| 0x40 else if j = 8 then byte &&& 0x3f ||| 0x80
      else byte := by
  rw [fromHashes, List.getElem?_modify, List.getElem?_modify]
  cases (toLeBytes hash ++ toLeBytes hash2)[j]? with
  | none => rfl
  | some byte =>
      simp only [Option.map_eq_map, Option.map_some, Option.some.injEq]
      by_cases h6 : j = 6
      · simp [h6]
      · by_cases h8 : j = 8
        · simp [h8]
        · simp [h6, h8, Ne.symm h6, Ne.symm h8]

/-- The low 52 bits of the first hash are among the bits of the identifier. -/
theorem setWidth_of_fromHashes_eq (h : fromHashes hash hash2 = fromHashes other other2) :
    hash.setWidth 52 = other.setWidth 52 := by
  apply BitVec.eq_of_getLsbD_eq
  intro i hi
  rw [BitVec.getLsbD_setWidth, BitVec.getLsbD_setWidth, decide_eq_true hi, Bool.true_and,
    Bool.true_and]
  apply getLsbD_of_toLeBytes_eq
  have hbyte := congrArg (·[i / 8]?) h
  have hj : i / 8 < 8 := by omega
  have hlength : ∀ x : BitVec 64, i / 8 < (toLeBytes x).length := by
    intro x
    rwa [toLeBytes, List.length_map, List.length_range]
  simp only [getElem?_fromHashes, List.getElem?_append_left (hlength _), getElem?_toLeBytes _ hj,
    Option.map_some, Option.some.injEq] at hbyte
  rcases eq_or_ne (i / 8) 6 with h6 | h6
  · rw [if_pos h6, if_pos h6] at hbyte
    have hlow : i % 8 < 4 := by omega
    have hmask : ∀ j < 4, (0x0f : BitVec 8).getLsbD j = true := by decide
    have hmark : ∀ j < 4, (0x40 : BitVec 8).getLsbD j = false := by decide
    exact getLsbD_of_marked hbyte (hmask _ hlow) (hmark _ hlow)
  · rw [if_neg h6, if_neg h6, if_neg (by omega), if_neg (by omega)] at hbyte
    rw [hbyte]

/-- The upper bits of the second hash are among the bits of the identifier. -/
theorem getLsbD_of_fromHashes_eq (h : fromHashes hash hash2 = fromHashes other other2) {i : ℕ}
    (hi : i < 64) (hupper : 8 ≤ i) : hash2.getLsbD i = other2.getLsbD i := by
  apply getLsbD_of_toLeBytes_eq
  have hbyte := congrArg (·[8 + i / 8]?) h
  have hj : i / 8 < 8 := by omega
  have hlength : ∀ x : BitVec 64, (toLeBytes x).length = 8 := by
    intro x
    rw [toLeBytes, List.length_map, List.length_range]
  have hright : ∀ x y : BitVec 64, (toLeBytes x ++ toLeBytes y)[8 + i / 8]? =
      some (y.extractLsb' (8 * (i / 8)) 8) := by
    intro x y
    rw [List.getElem?_append_right (by rw [hlength]; omega), hlength, Nat.add_sub_cancel_left,
      getElem?_toLeBytes y hj]
  simp only [getElem?_fromHashes, hright, Option.map_some, Option.some.injEq] at hbyte
  rw [if_neg (by omega), if_neg (by omega), if_neg (by omega), if_neg (by omega)] at hbyte
  rw [hbyte]

end Bytes

section Collisions

variable {seed counter counter' : BitVec 64} {t t' : GeneratorType} {sub sub' : BitVec 8}

/-- What a type and a sub-discriminator add to the hash tells them apart. -/
theorem scopeHash_inj : scopeHash seed t sub = scopeHash seed t' sub' ↔ t = t' ∧ sub = sub' := by
  refine ⟨fun h => ?_, fun h => by rw [h.1, h.2]⟩
  have hbyte : ∀ byte : BitVec 8, (byte.setWidth 64).toNat / 2 ^ 8 = 0 := by
    intro byte
    rw [BitVec.toNat_setWidth_of_le (by decide)]
    exact Nat.div_eq_of_lt byte.isLt
  have hdiv : ∀ (x : BitVec 64) (byte : BitVec 8),
      (x ^^^ byte.setWidth 64).toNat / 2 ^ 8 = x.toNat / 2 ^ 8 := by
    intro x byte
    rw [BitVec.toNat_xor, Nat.xor_div_two_pow, hbyte, Nat.xor_zero]
  have hwiden : ∀ {byte byte' : BitVec 8}, byte.setWidth 64 = byte'.setWidth 64 →
      byte = byte' := by
    intro byte byte' heq
    have := congrArg (BitVec.setWidth 8) heq
    simpa using this
  simp only [scopeHash, mixBytes, List.map_cons, List.map_nil, List.foldl_cons,
    List.foldl_nil] at h
  rw [mix_eq_mix_iff fnvPrime_odd] at h
  have hmul := congrArg (fun x : BitVec 64 => x.toNat / 2 ^ 8) h
  rw [hdiv, hdiv] at hmul
  have hmixed := eq_of_mul_div_eq (k := 8) (by decide) (by decide)
    ((hdiv _ _).trans (hdiv _ _).symm) hmul
  have htype := discriminant_injective (hwiden ((BitVec.xor_right_inj _).mp hmixed))
  rw [htype, BitVec.xor_right_inj] at h
  exact ⟨htype, hwiden h⟩

theorem getLsbD_rotateLeft_low (x : BitVec 64) {i : ℕ} (hi : i < 32) :
    (x.rotateLeft 32).getLsbD i = x.getLsbD (32 + i) := by
  rw [BitVec.getLsbD_rotateLeft, decide_eq_true (show i < 32 % 64 from hi)]
  rfl

theorem getLsbD_rotateLeft_high (x : BitVec 64) {i : ℕ} (hi : i < 32) :
    (x.rotateLeft 32).getLsbD (32 + i) = x.getLsbD i := by
  rw [BitVec.getLsbD_rotateLeft, decide_eq_false (show ¬ 32 + i < 32 % 64 by omega),
    decide_eq_true (show 32 + i < 64 by omega)]
  simp

theorem setWidth_rotateLeft_eq (hupper : ∀ i, 32 ≤ i → counter.getLsbD i = counter'.getLsbD i) :
    (counter.rotateLeft 32).setWidth 32 = (counter'.rotateLeft 32).setWidth 32 := by
  apply BitVec.eq_of_getLsbD_eq
  intro i hi
  rw [BitVec.getLsbD_setWidth, BitVec.getLsbD_setWidth, getLsbD_rotateLeft_low _ hi,
    getLsbD_rotateLeft_low _ hi, hupper _ (by omega)]

theorem setWidth_of_rotateLeft_eq
    (h : (counter.rotateLeft 32).setWidth 52 = (counter'.rotateLeft 32).setWidth 52) :
    counter.setWidth 20 = counter'.setWidth 20 := by
  apply BitVec.eq_of_getLsbD_eq
  intro i hi
  have hbit := congrArg (·.getLsbD (32 + i)) h
  simp only [BitVec.getLsbD_setWidth, getLsbD_rotateLeft_high _ (show i < 32 by omega)] at hbit
  simpa [hi, show 32 + i < 52 by omega] using hbit

/-- For counters with the same upper half the second hashes of equal identifiers are equal, and
the counters agree on their low 20 bits. -/
theorem secondHash_eq_of_fromHashes_eq {hash hash' : BitVec 64}
    (hupper : ∀ i, 32 ≤ i → counter.getLsbD i = counter'.getLsbD i)
    (h : fromHashes hash (secondHash seed counter hash) =
      fromHashes hash' (secondHash seed counter' hash')) :
    secondHash seed counter hash = secondHash seed counter' hash' ∧
      counter.setWidth 20 = counter'.setWidth 20 := by
  have hlow := setWidth_of_fromHashes_eq h
  have hfirst : (mix fnvPrime hash (seed.rotateLeft 32)).setWidth 52 =
      (mix fnvPrime hash' (seed.rotateLeft 32)).setWidth 52 := by
    rw [setWidth_mix (by decide), setWidth_mix (by decide), hlow]
  have hhalf : hash.setWidth 32 = hash'.setWidth 32 := by
    have := congrArg (BitVec.setWidth 32) hlow
    rwa [BitVec.setWidth_setWidth_of_le _ (by decide),
      BitVec.setWidth_setWidth_of_le _ (by decide)] at this
  -- The two bits that the variant covers are low bits.
  have hsecond : secondHash seed counter hash = secondHash seed counter' hash' := by
    have hlow2 : (secondHash seed counter hash).setWidth 32 =
        (secondHash seed counter' hash').setWidth 32 := by
      simp only [secondHash, setWidth_mix (show 32 ≤ 64 by decide), hhalf,
        setWidth_rotateLeft_eq hupper]
    apply BitVec.eq_of_getLsbD_eq
    intro i hi
    rcases lt_or_ge i 8 with hbelow | habove
    · have hbit := congrArg (·.getLsbD i) hlow2
      simpa [show i < 32 by omega] using hbit
    · exact getLsbD_of_fromHashes_eq h hi habove
  refine ⟨hsecond, setWidth_of_rotateLeft_eq ?_⟩
  rw [secondHash, secondHash, mix_eq_mix_iff fnvPrime_odd] at hsecond
  have hxor := congrArg (BitVec.setWidth 52) hsecond
  rwa [BitVec.setWidth_xor, BitVec.setWidth_xor, hfirst, BitVec.xor_right_inj] at hxor

/-- Counters in one block of 2 ^ 20 with equal low 20 bits are equal. -/
theorem eq_of_setWidth_eq (hblock : counter.toNat / 2 ^ 20 = counter'.toNat / 2 ^ 20)
    (h : counter.setWidth 20 = counter'.setWidth 20) : counter = counter' := by
  have hlow := congrArg BitVec.toNat h
  rw [BitVec.toNat_setWidth, BitVec.toNat_setWidth] at hlow
  apply BitVec.eq_of_toNat_eq
  rw [← Nat.div_add_mod counter.toNat (2 ^ 20), ← Nat.div_add_mod counter'.toNat (2 ^ 20), hblock,
    hlow]

theorem getLsbD_eq_of_div_eq {k : ℕ} (h : counter.toNat / 2 ^ k = counter'.toNat / 2 ^ k) (i : ℕ)
    (hi : k ≤ i) : counter.getLsbD i = counter'.getLsbD i := by
  have hbit : ∀ x : BitVec 64, x.getLsbD i = (x.toNat / 2 ^ k).testBit (i - k) := by
    intro x
    rw [Nat.testBit_div_two_pow, Nat.sub_add_cancel hi]
    rfl
  rw [hbit, hbit, h]

theorem generate_uuid_inj (seed : BitVec 64)
    (hblock : counter.toNat / 2 ^ 20 = counter'.toNat / 2 ^ 20) (start start' : BitVec 64) :
    DeterministicUuidFactory.generate_uuid ⟨seed, t, start, sub⟩ counter =
        DeterministicUuidFactory.generate_uuid ⟨seed, t', start', sub'⟩ counter' ↔
      t = t' ∧ sub = sub' ∧ counter = counter' := by
  constructor
  · intro h
    have hupper : ∀ i, 32 ≤ i → counter.getLsbD i = counter'.getLsbD i :=
      fun i hi => getLsbD_eq_of_div_eq hblock i (by omega)
    obtain ⟨hsecond, hlow⟩ := secondHash_eq_of_fromHashes_eq hupper h
    obtain rfl := eq_of_setWidth_eq hblock hlow
    rw [secondHash, secondHash, mix_left_inj fnvPrime_odd, mix_left_inj fnvPrime_odd, mixBytes,
      mixBytes, foldl_mix_inj fnvPrime_odd] at hsecond
    obtain ⟨htype, hsub⟩ := scopeHash_inj.mp hsecond
    exact ⟨htype, hsub, rfl⟩
  · rintro ⟨rfl, rfl, rfl⟩
    rfl

/-- In a block of 2 ^ 32 counters equal identifiers agree on the low 20 bits of the counter. -/
theorem mod_eq_of_generate_uuid_eq (hblock : counter.toNat / 2 ^ 32 = counter'.toNat / 2 ^ 32)
    {start start' : BitVec 64}
    (h : DeterministicUuidFactory.generate_uuid ⟨seed, t, start, sub⟩ counter =
      DeterministicUuidFactory.generate_uuid ⟨seed, t', start', sub'⟩ counter') :
    counter.toNat % 2 ^ 20 = counter'.toNat % 2 ^ 20 := by
  obtain ⟨-, hlow⟩ := secondHash_eq_of_fromHashes_eq (getLsbD_eq_of_div_eq hblock) h
  have hnat := congrArg BitVec.toNat hlow
  rwa [BitVec.toNat_setWidth, BitVec.toNat_setWidth] at hnat

end Collisions

/-- Within a block of 2 ^ 20 counters an identifier tells the type, the sub-discriminator and the
counter; in a block of 2 ^ 32 it still tells the low 20 bits of the counter. -/
theorem generate_at_collisions (factory other : DeterministicUuidFactory)
    (counter counter' : BitVec 64) (hseed : factory.seed = other.seed) :
    (counter.toNat / 2 ^ 20 = counter'.toNat / 2 ^ 20 →
      (factory.generate_at counter = other.generate_at counter' ↔
        factory.generator_type = other.generator_type ∧
          factory.sub_discriminator = other.sub_discriminator ∧ counter = counter')) ∧
      (counter.toNat / 2 ^ 32 = counter'.toNat / 2 ^ 32 →
        factory.generate_at counter = other.generate_at counter' →
          counter.toNat % 2 ^ 20 = counter'.toNat % 2 ^ 20) := by
  obtain ⟨seed, t, start, sub⟩ := factory
  obtain ⟨seed', t', start', sub'⟩ := other
  obtain rfl : seed = seed' := hseed
  exact ⟨fun hblock => generate_uuid_inj seed hblock start start',
    fun hblock => mod_eq_of_generate_uuid_eq hblock⟩

/-- Two partitions of one generator, at the same counter. -/
theorem partitions_apart :
    (DeterministicUuidFactory.for_partition 42 .journalEntry 0).generate_at 5 ≠
      (DeterministicUuidFactory.for_partition 42 .journalEntry 1).generate_at 5 := by
  intro h
  have hcollisions := generate_at_collisions (.for_partition 42 .journalEntry 0)
    (.for_partition 42 .journalEntry 1) 5 5 rfl
  exact absurd ((hcollisions.1 rfl).mp h).2.1 (by decide)

namespace UuidFactoryRegistry

theorem get_factory_next_uuid (registry : UuidFactoryRegistry) (t other : GeneratorType) :
    (registry.next_uuid t).2.get_factory other =
      if other = t then (registry.get_factory t).next.2 else registry.get_factory other := by
  simp only [next_uuid, get_factory]
  split
  · rfl
  · rfl

theorem get_factory_reset_all (registry : UuidFactoryRegistry) (t : GeneratorType) :
    registry.reset_all.get_factory t = (registry.get_factory t).reset := by
  simp only [reset_all, get_factory]
  cases registry.factories t with
  | none => rfl
  | some factory => rfl

/-- A registry after the requests `done`, counting from the last reset. -/
structure Issued (seed : BitVec 64) (done : List GeneratorType) (registry : UuidFactoryRegistry) :
    Prop where
  seed_eq : registry.seed = seed
  factory_eq : ∀ t, registry.get_factory t = ⟨seed, t, BitVec.ofNat 64 (done.count t), 0⟩

section Issued

variable {seed : BitVec 64} {done : List GeneratorType} {registry : UuidFactoryRegistry}

theorem issued_new (seed : BitVec 64) : Issued seed [] (new seed) := ⟨rfl, fun _ => rfl⟩

theorem Issued.next_uuid (h : Issued seed done registry) (t : GeneratorType) :
    (registry.next_uuid t).1 =
        (DeterministicUuidFactory.new seed t).generate_at (BitVec.ofNat 64 (done.count t)) ∧
      Issued seed (done ++ [t]) (registry.next_uuid t).2 := by
  have hfactory := h.factory_eq t
  refine ⟨?_, h.seed_eq, fun other => ?_⟩
  · rw [UuidFactoryRegistry.next_uuid, hfactory]
    rfl
  · rw [get_factory_next_uuid, List.count_append]
    rcases eq_or_ne other t with rfl | hne
    · rw [if_pos rfl, hfactory, List.count_singleton_self, BitVec.ofNat_add]
      rfl
    · rw [if_neg hne, h.factory_eq, List.count_singleton, if_neg (by simpa using hne.symm),
        Nat.add_zero]

theorem Issued.reset_all (h : Issued seed done registry) : Issued seed [] registry.reset_all := by
  refine ⟨h.seed_eq, fun t => ?_⟩
  rw [get_factory_reset_all, h.factory_eq]
  rfl

theorem Issued.issue (h : Issued seed done registry) (requests : List GeneratorType) :
    Issued seed (done ++ requests) (registry.issue requests).2 := by
  induction requests generalizing done registry with
  | nil => rwa [List.append_nil]
  | cons t requests ih =>
      rw [List.append_cons]
      exact ih (h.next_uuid t).2

/-- Each identifier depends on how often its own type was asked for before, and on no other
request. -/
theorem Issued.getElem?_issue (h : Issued seed done registry) (requests : List GeneratorType)
    (i : ℕ) :
    (registry.issue requests).1[i]? =
      (requests[i]?).map fun t => (DeterministicUuidFactory.new seed t).generate_at
        (BitVec.ofNat 64 ((done ++ requests.take i).count t)) := by
  induction requests generalizing i done registry with
  | nil => rfl
  | cons t requests ih =>
      obtain ⟨hhead, hrest⟩ := h.next_uuid t
      cases i with
      | zero => simp [UuidFactoryRegistry.issue, hhead]
      | succ i =>
          rw [UuidFactoryRegistry.issue, List.getElem?_cons_succ, List.getElem?_cons_succ,
            ih hrest, List.take_succ_cons, List.append_assoc, List.singleton_append]

end Issued

theorem count_take_lt {requests : List GeneratorType} {i j : ℕ} {t : GeneratorType}
    (hi : requests[i]? = some t) (hij : i < j) :
    (requests.take i).count t < (requests.take j).count t := by
  obtain ⟨hlt, hget⟩ := List.getElem?_eq_some_iff.mp hi
  have hsucc : (requests.take (i + 1)).count t = (requests.take i).count t + 1 := by
    rw [List.take_succ_eq_append_getElem hlt, hget, List.count_append, List.count_singleton_self]
  have hprefix := List.take_prefix_take_left (l := requests) (show i + 1 ≤ j from hij)
  have hmono := hprefix.sublist.count_le t
  omega

/-- Up to 2 ^ 20 requests for each type, in any order, get identifiers of which no two are
equal; after a reset the same requests get the same identifiers. -/
theorem issue_nodup (seed : BitVec 64) (before requests : List GeneratorType)
    (hcount : ∀ t, requests.count t ≤ 2 ^ 20) :
    ((new seed).issue requests).1.Nodup ∧
      (((new seed).issue before).2.reset_all.issue requests).1 =
        ((new seed).issue requests).1 := by
  have hget := (issued_new seed).getElem?_issue requests
  constructor
  · rw [List.nodup_iff_getElem?_ne_getElem?]
    intro i j hij hj heq
    obtain ⟨uuid, huuid⟩ : ∃ uuid, ((new seed).issue requests).1[j]? = some uuid :=
      ⟨_, List.getElem?_eq_getElem hj⟩
    rw [huuid] at heq
    rw [hget] at heq huuid
    obtain ⟨t, ht, hi⟩ := Option.map_eq_some_iff.mp heq
    obtain ⟨t', ht', hj⟩ := Option.map_eq_some_iff.mp huuid
    have hsmall : ∀ k t, (requests.take k).count t < 2 ^ 20 → (BitVec.ofNat 64
        (([] ++ requests.take k).count t)).toNat = (requests.take k).count t := by
      intro k t hk
      rw [List.nil_append, BitVec.toNat_ofNat, Nat.mod_eq_of_lt (by omega)]
    have hi' := (count_take_lt ht hij).trans_le ((List.take_sublist j requests).count_le t)
    have hlti := hi'.trans_le (hcount t)
    have hltj : (requests.take j).count t' < 2 ^ 20 := by
      obtain ⟨hlt, -⟩ := List.getElem?_eq_some_iff.mp ht'
      have := count_take_lt ht' hlt
      rw [List.take_length] at this
      exact this.trans_le (hcount t')
    have hblock : (BitVec.ofNat 64 (([] ++ requests.take i).count t)).toNat / 2 ^ 20 =
        (BitVec.ofNat 64 (([] ++ requests.take j).count t')).toNat / 2 ^ 20 := by
      rw [hsmall i t hlti, hsmall j t' hltj, Nat.div_eq_of_lt hlti, Nat.div_eq_of_lt hltj]
    obtain ⟨rfl, -, hcounter⟩ := (generate_uuid_inj seed hblock 0 0).mp (hi.trans hj.symm)
    have hnat := congrArg BitVec.toNat hcounter
    rw [hsmall i t hlti, hsmall j t hltj] at hnat
    exact absurd hnat (count_take_lt ht hij).ne
  · apply List.ext_getElem?
    intro i
    rw [hget, (((issued_new seed).issue before).reset_all).getElem?_issue]

/-- The requests of the first entries of a run. -/
theorem two_entries_and_a_flow :
    ((new 12345).issue [.journalEntry, .documentFlow, .journalEntry]).1.Nodup ∧
      (((new 12345).issue [.vendor]).2.reset_all.issue
        [.journalEntry, .documentFlow, .journalEntry]).1 =
        ((new 12345).issue [.journalEntry, .documentFlow, .journalEntry]).1 := by
  refine issue_nodup 12345 [.vendor] [.journalEntry, .documentFlow, .journalEntry] fun t => ?_
  exact List.count_le_length.trans (by decide)

end UuidFactoryRegistry

end Datasynth.Core.UuidFactory
