import Mathlib.Data.List.Perm.Basic
import Datasynth.Lib.SortedEntries

/-!
Updates of a map, each of the value at one key and each of which may fail.  What is left
at a key depends on the updates of that key and their order only.
-/

namespace Datasynth.Lib.KeyedUpdates

open Datasynth.Lib.SortedEntries

universe u v w

variable {κ : Type u} {V : Type v} {α : Type w}

section Interleaving

variable [DecidableEq κ]

def updatesOf (key : α → Option κ) (l : List α) (k : κ) : List α := l.filter (key · = some k)

variable {key : α → Option κ} {l : List α}

theorem mem_updatesOf_iff {k : κ} {a : α} : a ∈ updatesOf key l k ↔ a ∈ l ∧ key a = some k := by
  rw [updatesOf, List.mem_filter, decide_eq_true_eq]

theorem updatesOf_cons_self {a : α} {k : κ} (h : key a = some k) :
    updatesOf key (a :: l) k = a :: updatesOf key l k :=
  List.filter_cons_of_pos (by simpa using h)

theorem updatesOf_cons_ne {a : α} {k : κ} (h : key a ≠ some k) :
    updatesOf key (a :: l) k = updatesOf key l k :=
  List.filter_cons_of_neg (by simpa using h)

theorem updatesOf_append (l l' : List α) (k : κ) :
    updatesOf key (l ++ l') k = updatesOf key l k ++ updatesOf key l' k :=
  List.filter_append ..

theorem perm_updatesOf {l l' : List α} (h : l.Perm l') (k : κ) :
    (updatesOf key l k).Perm (updatesOf key l' k) := h.filter _

theorem updatesOf_eq_self {k : κ} (h : ∀ a ∈ l, key a = some k) : updatesOf key l k = l :=
  List.filter_eq_self.mpr fun a ha => decide_eq_true (h a ha)

theorem updatesOf_eq_nil {k : κ} (h : ∀ a ∈ l, key a ≠ some k) : updatesOf key l k = [] :=
  List.filter_eq_nil_iff.mpr fun a ha => by simpa using h a ha

/-- The updates of each key can be put into any order of their own. -/
theorem exists_perm_updatesOf_eq (hkeys : ∀ a ∈ l, (key a).isSome) (g : κ → List α)
    (hg : ∀ k, (g k).Perm (updatesOf key l k)) :
    ∃ l', l'.Perm l ∧ ∀ k, updatesOf key l' k = g k := by
  induction hn : l.length using Nat.strong_induction_on generalizing l g with
  | _ n ih =>
      cases l with
      | nil =>
          refine ⟨[], List.Perm.refl _, fun k => ?_⟩
          exact (List.perm_nil.mp (hg k)).symm
      | cons a rest =>
          -- The updates of the first key come first, then the others.
          obtain ⟨k, hk⟩ := Option.isSome_iff_exists.mp (hkeys a List.mem_cons_self)
          let others := rest.filter fun b => key b ≠ some k
          have hothers : others.length < n := by
            rw [← hn, List.length_cons]
            exact Nat.lt_succ_of_le (List.length_filter_le _ _)
          have hsplit : (updatesOf key (a :: rest) k ++ others).Perm (a :: rest) := by
            have hfilter : others = (a :: rest).filter fun b => !decide (key b = some k) := by
              rw [List.filter_cons_of_neg (by simp [hk])]
              simp only [others, ne_eq, decide_not]
            rw [hfilter]
            exact List.filter_append_perm _ _
          have hmem : ∀ b ∈ others, key b ≠ some k := fun b hb =>
            of_decide_eq_true (List.mem_filter.mp hb).2
          obtain ⟨l', hperm, hl'⟩ := ih others.length hothers (l := others)
            (fun b hb => hkeys b (List.mem_cons_of_mem _ (List.mem_of_mem_filter hb)))
            (fun k' => if k' = k then [] else g k') (fun k' => by
              split
              · rename_i heq
                rw [heq, updatesOf_eq_nil hmem]
              · rename_i hne
                have hkept : updatesOf key others k' = updatesOf key (a :: rest) k' := by
                  rw [updatesOf_cons_ne (by rw [hk]; exact fun h => hne (Option.some.inj h).symm),
                    updatesOf, updatesOf, List.filter_filter]
                  apply List.filter_congr
                  intro b _
                  by_cases hb : key b = some k'
                  · simp [hb, hne]
                  · simp [hb]
                rw [hkept]
                exact hg k') rfl
          refine ⟨g k ++ l', ?_, fun k' => ?_⟩
          · exact ((hg k).append hperm).trans hsplit
          · have hself : ∀ b ∈ g k, key b = some k := fun b hb =>
              (mem_updatesOf_iff.mp ((hg k).subset hb)).2
            rw [updatesOf_append, hl']
            split
            · rename_i heq
              rw [heq, updatesOf_eq_self hself, List.append_nil]
            · rename_i hne
              have hothers : ∀ b ∈ g k, key b ≠ some k' := by
                intro b hb h
                exact hne (Option.some.inj ((hself b hb).symm.trans h)).symm
              rw [updatesOf_eq_nil hothers, List.nil_append]

end Interleaving

section Updates

variable [LinearOrder κ] (key : α → Option κ) (update : α → Option V → Option V)

/-- The updates of one key, from what is there. -/
def updateAt : List α → Option V → Option (Option V)
  | [], x => some x
  | a :: as, x => (update a x).bind fun v => updateAt as (some v)

def updateAll : List α → OrderedMap κ V → Option (OrderedMap κ V)
  | [], m => some m
  | a :: as, m =>
      (key a).bind fun k => (update a (m.find? k)).bind fun v => updateAll as (m.insert k v)

variable {key update} {l : List α} {m m' : OrderedMap κ V}

/-- An update leaves a value. -/
theorem isSome_of_updateAt {x y : Option V} (h : updateAt update l x = some y)
    (hne : l ≠ [] ∨ x.isSome) : y.isSome := by
  induction l generalizing x with
  | nil =>
      cases Option.some.inj h
      exact hne.resolve_left fun hnil => hnil rfl
  | cons a as ih =>
      obtain ⟨v, -, hrest⟩ := Option.bind_eq_some_iff.mp h
      exact ih hrest (.inr rfl)

/-- The first update, and the others from the map it leaves. -/
theorem forall_updateAt_cons {a : α} {as : List α} {k : κ} (hkey : key a = some k)
    {P : κ → Option (Option V) → Prop} (hP : ¬ P k none) :
    (∀ k', P k' (updateAt update (updatesOf key (a :: as) k') (m.find? k'))) ↔
      ∃ v, update a (m.find? k) = some v ∧
        ∀ k', P k' (updateAt update (updatesOf key as k') ((m.insert k v).find? k')) := by
  have hself := updatesOf_cons_self (l := as) hkey
  have hothers : ∀ k' ≠ k, updatesOf key (a :: as) k' = updatesOf key as k' := by
    intro k' hne
    apply updatesOf_cons_ne
    rw [hkey]
    exact fun h => hne (Option.some.inj h).symm
  have hinsert : ∀ v, update a (m.find? k) = some v → ∀ k',
      updateAt update (updatesOf key (a :: as) k') (m.find? k') =
        updateAt update (updatesOf key as k') ((m.insert k v).find? k') := by
    intro v hv k'
    rw [OrderedMap.find?_insert]
    split
    · rename_i heq
      rw [heq, hself, updateAt, hv, Option.bind_some]
    · rename_i hne
      rw [hothers k' hne]
  constructor
  · intro h
    cases hv : update a (m.find? k) with
    | none =>
        have hfails := h k
        rw [hself, updateAt, hv] at hfails
        exact absurd hfails hP
    | some v => exact ⟨v, rfl, fun k' => hinsert v hv k' ▸ h k'⟩
  · rintro ⟨v, hv, h⟩ k'
    rw [hinsert v hv]
    exact h k'

theorem updateAll_eq_some_iff :
    updateAll key update l m = some m' ↔
      (∀ a ∈ l, (key a).isSome) ∧
        ∀ k, updateAt update (updatesOf key l k) (m.find? k) = some (m'.find? k) := by
  induction l generalizing m with
  | nil =>
      rw [updateAll, Option.some.injEq]
      constructor
      · rintro rfl
        exact ⟨by simp, fun k => rfl⟩
      · rintro ⟨-, h⟩
        exact OrderedMap.ext_find? fun k => Option.some.inj (h k)
  | cons a as ih =>
      rw [updateAll, List.forall_mem_cons]
      cases hkey : key a with
      | none => simp
      | some k =>
          rw [Option.bind_some, Option.bind_eq_some_iff,
            forall_updateAt_cons (P := fun k o => o = some (m'.find? k)) hkey
              (Option.some_ne_none _).symm]
          simp only [ih, Option.isSome_some, true_and]
          tauto

theorem isSome_updateAll_iff :
    (updateAll key update l m).isSome ↔
      (∀ a ∈ l, (key a).isSome) ∧
        ∀ k, (updateAt update (updatesOf key l k) (m.find? k)).isSome := by
  induction l generalizing m with
  | nil => simp [updateAll, updatesOf, updateAt]
  | cons a as ih =>
      rw [updateAll, List.forall_mem_cons]
      cases hkey : key a with
      | none => simp
      | some k =>
          rw [Option.bind_some, Option.isSome_bind, Option.any_eq_true,
            forall_updateAt_cons (P := fun _ o => o.isSome) hkey (by simp)]
          simp only [ih, Option.isSome_some, true_and]
          tauto

variable (key update m) in
/-- Some order of the updates of the key succeeds. -/
def Possible (l : List α) (k : κ) : Prop :=
  ∃ l', l'.Perm (updatesOf key l k) ∧ (updateAt update l' (m.find? k)).isSome

variable (key update m) in
/-- All orders of the updates of the key do the same. -/
def Confluent (l : List α) (k : κ) : Prop :=
  ∀ l₁ l₂, l₁.Perm (updatesOf key l k) → l₂.Perm (updatesOf key l k) →
    updateAt update l₁ (m.find? k) = updateAt update l₂ (m.find? k)

theorem exists_isSome_updateAll_iff :
    (∃ l', l'.Perm l ∧ (updateAll key update l' m).isSome) ↔
      (∀ a ∈ l, (key a).isSome) ∧ ∀ k, Possible key update m l k := by
  simp only [isSome_updateAll_iff]
  constructor
  · rintro ⟨l', hperm, hkeys, hgroups⟩
    refine ⟨fun a ha => hkeys a (hperm.mem_iff.mpr ha), fun k => ?_⟩
    exact ⟨updatesOf key l' k, perm_updatesOf hperm k, hgroups k⟩
  · rintro ⟨hkeys, hpossible⟩
    choose g hperm hsome using hpossible
    obtain ⟨l', hl', hgroups⟩ := exists_perm_updatesOf_eq hkeys g hperm
    refine ⟨l', hl', fun a ha => hkeys a (hl'.mem_iff.mp ha), fun k => ?_⟩
    rw [hgroups]
    exact hsome k

/-- If the updates are confluent at every key, their order does not matter. -/
theorem updateAll_congr (h : ∀ k, Confluent key update m l k) {l₁ l₂ : List α}
    (h₁ : l₁.Perm l) (h₂ : l₂.Perm l) :
    updateAll key update l₁ m = updateAll key update l₂ m := by
  have hkeys : (∀ a ∈ l₁, (key a).isSome) ↔ ∀ a ∈ l₂, (key a).isSome := by
    simp only [h₁.mem_iff, h₂.mem_iff]
  apply Option.ext
  intro m'
  rw [updateAll_eq_some_iff, updateAll_eq_some_iff, hkeys]
  simp only [fun k => h k _ _ (perm_updatesOf h₁ k) (perm_updatesOf h₂ k)]

/-- Where some order succeeds, the order of the updates matters unless they are
confluent at every key. -/
theorem confluent_of_updateAll_congr (hkeys : ∀ a ∈ l, (key a).isSome)
    (hpossible : ∀ k, Possible key update m l k)
    (h : ∀ l₁ l₂, l₁.Perm l → l₂.Perm l → updateAll key update l₁ m = updateAll key update l₂ m)
    (k : κ) : Confluent key update m l k := by
  obtain ⟨l', hl', hsome⟩ := exists_isSome_updateAll_iff.mpr ⟨hkeys, hpossible⟩
  obtain ⟨m', hm'⟩ := Option.isSome_iff_exists.mp hsome
  -- Any order of the updates of `k`, with those of the other keys as in `l'`.
  have hany : ∀ l₁, l₁.Perm (updatesOf key l k) →
      updateAt update l₁ (m.find? k) = some (m'.find? k) := by
    intro l₁ h₁
    obtain ⟨l₂, hl₂, hgroups⟩ := exists_perm_updatesOf_eq hkeys
      (fun k' => if k' = k then l₁ else updatesOf key l' k') (fun k' => by
        split
        · rename_i heq
          rw [heq]
          exact h₁
        · exact perm_updatesOf hl' k')
    have hsame := updateAll_eq_some_iff.mp ((h l₂ l' hl₂ hl').trans hm')
    rw [← hsame.2 k, hgroups, if_pos rfl]
  intro l₁ l₂ h₁ h₂
  rw [hany l₁ h₁, hany l₂ h₂]

/-- A single update of a key is confluent. -/
theorem confluent_of_length_le_one {k : κ} (h : (updatesOf key l k).length ≤ 1) :
    Confluent key update m l k := by
  intro l₁ l₂ h₁ h₂
  cases hgroup : updatesOf key l k with
  | nil =>
      rw [hgroup, List.perm_nil] at h₁ h₂
      rw [h₁, h₂]
  | cons a rest =>
      have hrest : rest = [] := by
        rw [hgroup, List.length_cons] at h
        exact List.eq_nil_of_length_eq_zero (by omega)
      rw [hgroup, hrest, List.perm_singleton] at h₁ h₂
      rw [h₁, h₂]

end Updates

end Datasynth.Lib.KeyedUpdates
