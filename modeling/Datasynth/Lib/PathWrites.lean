import Mathlib.Data.List.Infix
import Mathlib.Data.List.Sort

/-!
Writes at paths of trees.  The laws of reading and writing at one place are the fields of
`Places`; what follows is reading and writing along paths, and runs of writes: when they
succeed, when their order does not matter, and what they leave behind.
-/

namespace Datasynth.Lib.PathWrites

universe u v

/-- Trees with places for children.  A place that a tree does not have refuses writes. -/
structure Places (ι : Type u) (τ : Type v) where
  child? : ι → τ → Option τ
  put : ι → τ → τ → Option τ
  Canonical : τ → Prop
  child?_put : ∀ {i c t t'}, put i c t = some t' → child? i t' = some c
  child?_put_ne : ∀ {i j c t t'}, j ≠ i → put i c t = some t' → child? j t' = child? j t
  put_put : ∀ {i c d t t'}, put i c t = some t' → put i d t' = put i d t
  put_comm : ∀ {i j c d t}, i ≠ j → (put i c t).bind (put j d) = (put j d t).bind (put i c)
  isSome_put : ∀ {i c d t}, child? i t = some c → (put i d t).isSome
  isSome_put_put : ∀ {i j c d t t'}, put i c t = some t' →
    (put j d t').isSome = (put j d t).isSome
  put_child? : ∀ {i c t}, Canonical t → child? i t = some c → put i c t = some t
  canonical_child? : ∀ {i c t}, Canonical t → child? i t = some c → Canonical c
  canonical_put : ∀ {i c t t'}, Canonical t → Canonical c → put i c t = some t' → Canonical t'

namespace Places

variable {ι : Type u} {τ : Type v} (P : Places ι τ)

/-- What is at a path of a tree, if there is a tree. -/
@[grind =] def valueAt : List ι → Option τ → Option τ
  | [], t => t
  | i :: p, t => valueAt p (t.bind (P.child? i))

/-- The last place of the path may be empty, the places before it may not. -/
@[grind =] def writeAt : List ι → τ → Option τ → Option τ
  | [], v, _ => some v
  | i :: p, v, t => t.bind fun t => (writeAt p v (P.child? i t)).bind fun c => P.put i c t

/-- A tree without places. -/
structure Leaf (v : τ) : Prop where
  child?_eq : ∀ i, P.child? i v = none
  put_eq : ∀ i c, P.put i c v = none

/-- A write at the path succeeds. -/
def Resolves (p : List ι) (t : τ) : Prop := ∀ v, (P.writeAt p v (some t)).isSome

/-- The paths part at some place. -/
inductive Apart : List ι → List ι → Prop
  | head {i j : ι} {p q : List ι} : i ≠ j → Apart (i :: p) (j :: q)
  | tail {i : ι} {p q : List ι} : Apart p q → Apart (i :: p) (i :: q)

/-- The second path leads below the first. -/
def Below (p q : List ι) : Prop := p <+: q ∧ p ≠ q

variable {P} {p q : List ι} {v w : τ} {t t' : τ} {o : Option τ}

theorem isSome_put_congr {i : ι} {c d : τ} (h : (P.put i c t).isSome) : (P.put i d t).isSome := by
  obtain ⟨t', ht'⟩ := Option.isSome_iff_exists.mp h
  rw [← P.isSome_put_put ht']
  exact P.isSome_put (P.child?_put ht')

theorem writeAt_cons_eq_some_iff {i : ι} :
    P.writeAt (i :: p) v o = some t' ↔
      ∃ t c, o = some t ∧ P.writeAt p v (P.child? i t) = some c ∧ P.put i c t = some t' := by
  rw [writeAt, Option.bind_eq_some_iff]
  simp only [Option.bind_eq_some_iff, exists_and_left]

@[simp] theorem valueAt_none : P.valueAt p none = none := by
  induction p with
  | nil => rfl
  | cons i p ih => exact ih

theorem valueAt_append : P.valueAt (p ++ q) o = P.valueAt q (P.valueAt p o) := by
  induction p generalizing o with
  | nil => rfl
  | cons i p ih => exact ih

theorem valueAt_leaf (hv : P.Leaf v) (hp : p ≠ []) : P.valueAt p (some v) = none := by
  obtain ⟨i, p, rfl⟩ := List.exists_cons_of_ne_nil hp
  rw [valueAt, Option.bind_some, hv.child?_eq, valueAt_none]

theorem Apart.symm (h : Apart p q) : Apart q p := by
  induction h with
  | head hij => exact .head hij.symm
  | tail _ ih => exact .tail ih

theorem Apart.not_prefix (h : Apart p q) : ¬ p <+: q := by
  induction h with
  | head hij => exact fun hp => hij (List.cons_prefix_cons.mp hp).1
  | tail _ ih => exact fun hp => ih (List.cons_prefix_cons.mp hp).2

theorem prefix_or_apart (p q : List ι) : p <+: q ∨ q <+: p ∨ Apart p q := by
  induction p generalizing q with
  | nil => exact .inl List.nil_prefix
  | cons i p ih =>
      cases q with
      | nil => exact .inr (.inl List.nil_prefix)
      | cons j q =>
          by_cases hij : i = j
          · subst hij
            rw [List.cons_prefix_cons, List.cons_prefix_cons]
            exact (ih q).imp (.intro rfl) (.imp (.intro rfl) .tail)
          · exact .inr (.inr (.head hij))

theorem Below.exists_append (h : Below p q) : ∃ r, r ≠ [] ∧ q = p ++ r := by
  obtain ⟨⟨r, rfl⟩, hne⟩ := h
  refine ⟨r, fun hr => hne ?_, rfl⟩
  rw [hr, List.append_nil]

section OneWrite

variable (h : P.writeAt p v o = some t')

include h

theorem valueAt_writeAt : P.valueAt p (some t') = some v := by
  induction p generalizing o t' with
  | nil => exact h.symm
  | cons i p ih =>
      obtain ⟨t, c, -, hc, hput⟩ := writeAt_cons_eq_some_iff.mp h
      rw [valueAt, Option.bind_some, P.child?_put hput]
      exact ih hc

theorem valueAt_writeAt_of_apart (hpq : Apart p q) :
    P.valueAt q (some t') = P.valueAt q o := by
  induction hpq generalizing o t' with
  | head hij =>
      obtain ⟨t, c, rfl, -, hput⟩ := writeAt_cons_eq_some_iff.mp h
      rw [valueAt, valueAt, Option.bind_some, Option.bind_some, P.child?_put_ne hij.symm hput]
  | tail _ ih =>
      obtain ⟨t, c, rfl, hc, hput⟩ := writeAt_cons_eq_some_iff.mp h
      rw [valueAt, valueAt, Option.bind_some, Option.bind_some, P.child?_put hput]
      exact ih hc

/-- A write at a path replaces all that is at the path and below it. -/
theorem writeAt_writeAt_of_start (hqp : q <+: p) :
    P.writeAt q w (some t') = P.writeAt q w o := by
  induction p generalizing o t' q with
  | nil =>
      rw [List.prefix_nil.mp hqp]
      rfl
  | cons i p ih =>
      cases q with
      | nil => rfl
      | cons j q =>
          obtain ⟨rfl, htail⟩ := List.cons_prefix_cons.mp hqp
          obtain ⟨t, c, rfl, hc, hput⟩ := writeAt_cons_eq_some_iff.mp h
          rw [writeAt, writeAt, Option.bind_some, Option.bind_some, P.child?_put hput, ih hc htail]
          congr 1
          funext d
          exact P.put_put hput

theorem isSome_writeAt_of_start (hqp : q <+: p) : (P.writeAt q w o).isSome := by
  induction p generalizing o t' q with
  | nil =>
      rw [List.prefix_nil.mp hqp]
      rfl
  | cons i p ih =>
      cases q with
      | nil => rfl
      | cons j q =>
          obtain ⟨rfl, htail⟩ := List.cons_prefix_cons.mp hqp
          obtain ⟨t, c, rfl, hc, hput⟩ := writeAt_cons_eq_some_iff.mp h
          obtain ⟨d, hd⟩ := Option.isSome_iff_exists.mp (ih hc htail)
          rw [writeAt, Option.bind_some, hd, Option.bind_some]
          exact isSome_put_congr (by rw [hput, Option.isSome_some])

theorem isSome_writeAt_of_apart (hpq : Apart p q) :
    (P.writeAt q w (some t')).isSome = (P.writeAt q w o).isSome := by
  induction hpq generalizing o t' with
  | @head i j p q hij =>
      obtain ⟨t, c, rfl, -, hput⟩ := writeAt_cons_eq_some_iff.mp h
      rw [writeAt, writeAt, Option.bind_some, Option.bind_some, P.child?_put_ne hij.symm hput]
      cases P.writeAt q w (P.child? j t) with
      | none => rfl
      | some d => exact P.isSome_put_put hput
  | @tail i p q _ ih =>
      obtain ⟨t, c, rfl, hc, hput⟩ := writeAt_cons_eq_some_iff.mp h
      have hchild := ih hc
      rw [writeAt, writeAt, Option.bind_some, Option.bind_some, P.child?_put hput]
      revert hchild
      cases P.writeAt q w (some c) <;> cases P.writeAt q w (P.child? i t)
      · exact fun _ => rfl
      · exact nofun
      · exact nofun
      · intro _
        rw [Option.bind_some, Option.bind_some, P.isSome_put_put hput]
        exact Bool.eq_iff_iff.mpr ⟨isSome_put_congr, isSome_put_congr⟩

theorem canonical_writeAt (ht : ∀ t ∈ o, P.Canonical t) (hv : P.Canonical v) :
    P.Canonical t' := by
  induction p generalizing o t' with
  | nil =>
      cases h
      exact hv
  | cons i p ih =>
      obtain ⟨t, c, rfl, hc, hput⟩ := writeAt_cons_eq_some_iff.mp h
      have hcanonical := ht t rfl
      exact P.canonical_put hcanonical
        (ih hc fun c hchild => P.canonical_child? hcanonical hchild) hput

theorem writeAt_eq_none_of_below (hv : P.Leaf v) (hpq : Below p q) :
    P.writeAt q w (some t') = none := by
  obtain ⟨r, hr, rfl⟩ := hpq.exists_append
  clear hpq
  induction p generalizing o t' with
  | nil =>
      cases h
      obtain ⟨i, r, rfl⟩ := List.exists_cons_of_ne_nil hr
      rw [List.nil_append, writeAt, Option.bind_some, Option.bind_eq_none_iff]
      exact fun c _ => hv.put_eq i c
  | cons i p ih =>
      obtain ⟨t, c, -, hc, hput⟩ := writeAt_cons_eq_some_iff.mp h
      rw [List.cons_append, writeAt, Option.bind_some, P.child?_put hput, ih hc]
      rfl

end OneWrite

/-- A place that takes one child takes another in its stead. -/
theorem put_bind_put {i : ι} (c d : τ) :
    ((P.put i c t).bind fun t' => P.put i d t') = P.put i d t := by
  cases hc : P.put i c t with
  | some t' => exact P.put_put hc
  | none =>
      cases hd : P.put i d t with
      | none => rfl
      | some t' =>
          have hsome : (P.put i c t).isSome := isSome_put_congr (by rw [hd, Option.isSome_some])
          rw [hc] at hsome
          cases hsome

theorem writeAt_comm (hpq : Apart p q) :
    ((P.writeAt p v o).bind fun t => P.writeAt q w (some t)) =
      (P.writeAt q w o).bind fun t => P.writeAt p v (some t) := by
  induction hpq generalizing o with
  | @head i j p q hij =>
      obtain _ | t := o
      · rfl
      have hleft : ∀ c, ((P.put i c t).bind fun t => P.writeAt (j :: q) w (some t)) =
          (P.writeAt q w (P.child? j t)).bind fun d => (P.put i c t).bind (P.put j d) := by
        intro c
        cases hput : P.put i c t with
        | none => simp
        | some t' =>
            rw [Option.bind_some, writeAt, Option.bind_some, P.child?_put_ne hij.symm hput]
            rfl
      have hright : ∀ d, ((P.put j d t).bind fun t => P.writeAt (i :: p) v (some t)) =
          (P.writeAt p v (P.child? i t)).bind fun c => (P.put i c t).bind (P.put j d) := by
        intro d
        simp only [P.put_comm hij]
        cases hput : P.put j d t with
        | none => simp
        | some t' =>
            rw [Option.bind_some, writeAt, Option.bind_some, P.child?_put_ne hij hput]
            rfl
      rw [writeAt, writeAt, Option.bind_some, Option.bind_some, Option.bind_assoc,
        Option.bind_assoc]
      simp only [hleft, hright]
      exact Option.bind_comm ..
  | @tail i p q hpq ih =>
      obtain _ | t := o
      · rfl
      have hnested : ∀ {p q : List ι} {v w : τ},
          (P.writeAt (i :: p) v (some t)).bind (fun t => P.writeAt (i :: q) w (some t)) =
            ((P.writeAt p v (P.child? i t)).bind fun c => P.writeAt q w (some c)).bind
              fun d => P.put i d t := by
        intro p q v w
        rw [writeAt, Option.bind_some, Option.bind_assoc, Option.bind_assoc]
        congr 1
        funext c
        cases hput : P.put i c t with
        | none =>
            rw [Option.bind_none, eq_comm, Option.bind_eq_none_iff]
            intro d _
            rw [← put_bind_put c d, hput, Option.bind_none]
        | some t' =>
            rw [Option.bind_some, writeAt, Option.bind_some, P.child?_put hput]
            congr 1
            funext d
            exact P.put_put hput
      rw [hnested, hnested, ih]

/-- What a path holds can be written there. -/
theorem writeAt_valueAt (ht : P.Canonical t) (h : P.valueAt p (some t) = some v) :
    P.writeAt p v (some t) = some t := by
  induction p generalizing t with
  | nil => exact h.symm
  | cons i p ih =>
      rw [valueAt, Option.bind_some] at h
      obtain ⟨c, hc⟩ : ∃ c, P.child? i t = some c := by
        rw [← Option.ne_none_iff_exists']
        intro hnone
        rw [hnone, valueAt_none] at h
        cases h
      rw [hc] at h
      rw [writeAt, Option.bind_some, hc, ih (P.canonical_child? ht hc) h, Option.bind_some]
      exact P.put_child? ht hc

/-- A leaf that is read at a path was there before the write at another path. -/
theorem valueAt_of_valueAt_writeAt {x : τ} (hv : P.Leaf v) (hx : P.Leaf x)
    (h : P.writeAt p v o = some t') (hpq : p ≠ q) (hvalue : P.valueAt q (some t') = some x) :
    P.valueAt q o = some x := by
  obtain hstart | hstart | hapart := prefix_or_apart p q
  · obtain ⟨r, hr, rfl⟩ := Below.exists_append ⟨hstart, hpq⟩
    rw [valueAt_append, valueAt_writeAt h, valueAt_leaf hv hr] at hvalue
    cases hvalue
  · obtain ⟨r, hr, rfl⟩ := Below.exists_append ⟨hstart, hpq.symm⟩
    have hbelow := valueAt_writeAt h
    rw [valueAt_append, hvalue, valueAt_leaf hx hr] at hbelow
    cases hbelow
  · rw [← valueAt_writeAt_of_apart h hapart, hvalue]

/-- A new leaf that is read at a path, with nothing changed aside of it, was written there. -/
theorem eq_of_valueAt_writeAt (hv : P.Leaf v) (h : P.writeAt p v (some t) = some t')
    (hnew : P.valueAt p (some t) ≠ some v) (hvalue : P.valueAt q (some t') = some v)
    (hapart : ∀ r, Apart q r → P.valueAt r (some t') = P.valueAt r (some t)) : p = q := by
  have hwritten := valueAt_writeAt h
  obtain hstart | hstart | hpq := prefix_or_apart p q
  · by_contra hne
    obtain ⟨r, hr, rfl⟩ := Below.exists_append ⟨hstart, hne⟩
    rw [valueAt_append, hwritten, valueAt_leaf hv hr] at hvalue
    cases hvalue
  · by_contra hne
    obtain ⟨r, hr, rfl⟩ := Below.exists_append ⟨hstart, fun heq => hne heq.symm⟩
    rw [valueAt_append, hvalue, valueAt_leaf hv hr] at hwritten
    cases hwritten
  · rw [hapart p hpq.symm] at hwritten
    exact absurd hwritten hnew

section Resolves

theorem resolves_of_isSome (h : (P.writeAt p v (some t)).isSome) : P.Resolves p t := by
  obtain ⟨t', ht'⟩ := Option.isSome_iff_exists.mp h
  exact fun w => isSome_writeAt_of_start ht' (List.prefix_refl p)

/-- A leaf takes away what is below it, and nothing else. -/
theorem resolves_writeAt_iff (hv : P.Leaf v) (h : P.writeAt p v (some t) = some t') :
    P.Resolves q t' ↔ P.Resolves q t ∧ ¬ Below p q := by
  constructor
  · intro hq
    have hbelow : ¬ Below p q := by
      intro hbelow
      have hsome := hq v
      rw [writeAt_eq_none_of_below h hv hbelow] at hsome
      cases hsome
    refine ⟨fun w => ?_, hbelow⟩
    obtain hstart | hstart | hapart := prefix_or_apart p q
    · obtain rfl : p = q := not_not.mp fun hne => hbelow ⟨hstart, hne⟩
      exact isSome_writeAt_of_start h hstart
    · exact isSome_writeAt_of_start h hstart
    · rw [← isSome_writeAt_of_apart h hapart]
      exact hq w
  · rintro ⟨hq, hbelow⟩ w
    obtain hstart | hstart | hapart := prefix_or_apart p q
    · obtain rfl : p = q := not_not.mp fun hne => hbelow ⟨hstart, hne⟩
      rw [writeAt_writeAt_of_start h hstart]
      exact hq w
    · rw [writeAt_writeAt_of_start h hstart]
      exact hq w
    · rw [isSome_writeAt_of_apart h hapart]
      exact hq w

end Resolves

/-- A write replaced by the same write is made once. -/
theorem writeAt_bind_self :
    ((P.writeAt p v o).bind fun t => P.writeAt p v (some t)) = P.writeAt p v o := by
  cases h : P.writeAt p v o with
  | none => rfl
  | some t' => rw [Option.bind_some, writeAt_writeAt_of_start h (List.prefix_refl p), h]

section Runs

variable (P) in
/-- The writes one after the other, until one fails. -/
def writeAll : List (List ι × τ) → τ → Option τ
  | [], t => some t
  | (p, v) :: writes, t => (P.writeAt p v (some t)).bind (writeAll writes)

/-- The writes do not disturb each other. -/
def Compatible (a b : List ι × τ) : Prop := a = b ∨ Apart a.1 b.1

variable {writes writes' : List (List ι × τ)}

theorem writeAll_cons_eq_some_iff :
    P.writeAll ((p, v) :: writes) t = some t' ↔
      ∃ s, P.writeAt p v (some t) = some s ∧ P.writeAll writes s = some t' :=
  Option.bind_eq_some_iff

theorem writeAll_append :
    P.writeAll (writes ++ writes') t = (P.writeAll writes t).bind (P.writeAll writes') := by
  induction writes generalizing t with
  | nil => rfl
  | cons a writes ih =>
      rw [List.cons_append, writeAll, writeAll, Option.bind_assoc]
      congr 1
      funext s
      exact ih

theorem canonical_writeAll (h : P.writeAll writes t = some t') (ht : P.Canonical t)
    (hwrites : ∀ a ∈ writes, P.Canonical a.2) : P.Canonical t' := by
  induction writes generalizing t with
  | nil =>
      cases h
      exact ht
  | cons a writes ih =>
      rw [List.forall_mem_cons] at hwrites
      obtain ⟨s, hs, hrest⟩ := writeAll_cons_eq_some_iff.mp h
      refine ih hrest (canonical_writeAt hs (fun _ heq => ?_) hwrites.1) hwrites.2
      cases heq
      exact ht

theorem resolves_of_writeAll (hleaf : ∀ a ∈ writes, P.Leaf a.2)
    (h : P.writeAll writes t = some t') : ∀ a ∈ writes, P.Resolves a.1 t := by
  induction writes generalizing t with
  | nil => exact nofun
  | cons a writes ih =>
      rw [List.forall_mem_cons] at hleaf
      obtain ⟨s, hs, hrest⟩ := writeAll_cons_eq_some_iff.mp h
      refine List.forall_mem_cons.mpr ⟨resolves_of_isSome (by rw [hs, Option.isSome_some]), ?_⟩
      intro b hb
      exact ((resolves_writeAt_iff hleaf.1 hs).mp (ih hleaf.2 hrest b hb)).1

theorem isSome_writeAll (hleaf : ∀ a ∈ writes, P.Leaf a.2)
    (hresolves : ∀ a ∈ writes, P.Resolves a.1 t)
    (hbelow : writes.Pairwise fun a b => ¬ Below a.1 b.1) : (P.writeAll writes t).isSome := by
  induction writes generalizing t with
  | nil => rfl
  | cons a writes ih =>
      rw [List.forall_mem_cons] at hleaf hresolves
      rw [List.pairwise_cons] at hbelow
      obtain ⟨s, hs⟩ := Option.isSome_iff_exists.mp (hresolves.1 a.2)
      rw [writeAll, hs, Option.bind_some]
      apply ih hleaf.2 _ hbelow.2
      intro b hb
      exact (resolves_writeAt_iff hleaf.1 hs).mpr ⟨hresolves.2 b hb, hbelow.1 b hb⟩

/-- With the longer paths first, all writes succeed that succeed by themselves. -/
theorem exists_perm_isSome_writeAll {α : Type*} (write : α → List ι × τ) {l : List α}
    (hleaf : ∀ a ∈ l, P.Leaf (write a).2) (hresolves : ∀ a ∈ l, P.Resolves (write a).1 t) :
    ∃ l' : List α, l'.Perm l ∧ (P.writeAll (l'.map write) t).isSome := by
  let longer (a b : α) : Prop := (write b).1.length ≤ (write a).1.length
  have hperm := List.perm_insertionSort longer l
  have : Std.Total longer := ⟨fun a b => le_total (write b).1.length (write a).1.length⟩
  have : IsTrans _ longer := ⟨fun a b c hab hbc => le_trans hbc hab⟩
  refine ⟨l.insertionSort longer, hperm, isSome_writeAll ?_ ?_ ?_⟩
  · rw [List.forall_mem_map]
    exact fun a ha => hleaf a (hperm.mem_iff.mp ha)
  · rw [List.forall_mem_map]
    exact fun a ha => hresolves a (hperm.mem_iff.mp ha)
  · rw [List.pairwise_map]
    refine (List.pairwise_insertionSort longer l).imp fun {a b} hlonger hbelow => ?_
    exact hbelow.2 (hbelow.1.eq_of_length_le hlonger)

theorem writeAll_perm (hperm : writes.Perm writes')
    (hcompatible : ∀ a ∈ writes, ∀ b ∈ writes, Compatible a b) :
    P.writeAll writes t = P.writeAll writes' t := by
  induction hperm generalizing t with
  | nil => rfl
  | cons a _ ih =>
      rw [writeAll, writeAll]
      congr 1
      funext s
      exact ih fun b hb c hc =>
        hcompatible b (List.mem_cons_of_mem _ hb) c (List.mem_cons_of_mem _ hc)
  | swap a b writes =>
      simp only [writeAll, ← Option.bind_assoc]
      congr 1
      obtain rfl | hapart := hcompatible b (by simp) a (by simp)
      · rfl
      · exact writeAt_comm hapart
  | trans hleft _ ihleft ihright =>
      rw [ihleft hcompatible]
      exact ihright fun a ha b hb =>
        hcompatible a (hleft.mem_iff.mpr ha) b (hleft.mem_iff.mpr hb)

/-- What compatible writes store is there in the end. -/
theorem valueAt_writeAll (hcompatible : ∀ a ∈ writes, ∀ b ∈ writes, Compatible a b)
    (h : P.writeAll writes t = some t') (ha : (p, v) ∈ writes) :
    P.valueAt p (some t') = some v := by
  obtain ⟨before, after, rfl⟩ := List.append_of_mem ha
  have hperm : (before ++ (p, v) :: after).Perm (before ++ after ++ [(p, v)]) :=
    List.perm_middle.trans (List.perm_append_singleton _ _).symm
  rw [writeAll_perm hperm hcompatible, writeAll_append] at h
  obtain ⟨s, -, hlast⟩ := Option.bind_eq_some_iff.mp h
  obtain ⟨_, hs, hnil⟩ := writeAll_cons_eq_some_iff.mp hlast
  cases hnil
  exact valueAt_writeAt hs

theorem valueAt_of_valueAt_writeAll {x : τ} (hleaf : ∀ a ∈ writes, P.Leaf a.2) (hx : P.Leaf x)
    (h : P.writeAll writes t = some t') (hne : ∀ a ∈ writes, a.1 ≠ q)
    (hvalue : P.valueAt q (some t') = some x) : P.valueAt q (some t) = some x := by
  induction writes generalizing t with
  | nil =>
      cases h
      exact hvalue
  | cons a writes ih =>
      rw [List.forall_mem_cons] at hleaf hne
      obtain ⟨s, hs, hrest⟩ := writeAll_cons_eq_some_iff.mp h
      exact valueAt_of_valueAt_writeAt hleaf.1 hx hs hne.1 (ih hleaf.2 hrest hne.2)

/-- Writes that are made already, or that store what is there, add nothing. -/
theorem writeAll_append_eq_self (ht : P.Canonical t)
    (hcompatible : ∀ a ∈ writes ++ writes', ∀ b ∈ writes ++ writes', Compatible a b)
    (hidle : ∀ a ∈ writes', a ∈ writes ∨ P.valueAt a.1 (some t) = some a.2) :
    P.writeAll (writes ++ writes') t = P.writeAll writes t := by
  induction writes' with
  | nil => rw [List.append_nil]
  | cons a writes' ih =>
      rw [List.forall_mem_cons] at hidle
      have hsub : ∀ b ∈ writes ++ writes', b ∈ writes ++ a :: writes' := by
        intro b hb
        rw [List.mem_append] at hb ⊢
        exact hb.imp_right (List.mem_cons_of_mem a)
      have hrest : ∀ b ∈ writes ++ writes', ∀ c ∈ writes ++ writes', Compatible b c :=
        fun b hb c hc => hcompatible b (hsub b hb) c (hsub c hc)
      rw [← ih hrest hidle.2, writeAll_perm List.perm_middle hcompatible, writeAll]
      rcases hidle.1 with hmem | hvalue
      · obtain ⟨before, after, happend⟩ := List.append_of_mem (List.mem_append_left writes' hmem)
        have hfirst : (writes ++ writes').Perm (a :: (before ++ after)) := by
          rw [happend]
          exact List.perm_middle
        have hwhole : P.writeAll (writes ++ writes') =
            fun t => (P.writeAt a.1 a.2 (some t)).bind (P.writeAll (before ++ after)) := by
          funext t
          rw [writeAll_perm hfirst hrest, writeAll]
        rw [hwhole, ← Option.bind_assoc, writeAt_bind_self]
      · rw [writeAt_valueAt ht hvalue, Option.bind_some]

end Runs

end Places

end Datasynth.Lib.PathWrites
