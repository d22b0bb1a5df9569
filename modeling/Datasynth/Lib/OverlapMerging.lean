import Mathlib.Data.List.Pairwise
import Mathlib.Data.List.Perm.Basic
import Mathlib.Data.Set.Lattice
import Mathlib.Logic.Relation

/-!
Sets that have a member in common are merged, two at a time. No merge changes what is connected, so
that sets without a member in common are the connected components of the sets at the start.
-/

namespace Datasynth.Lib.OverlapMerging

universe u v

variable {α : Type u} {β : Type v}

section Components

variable (members : β → Set α) (l : List β)

structure Shares (a b : β) : Prop where
  left : a ∈ l
  right : b ∈ l
  common : ∃ x ∈ members a, x ∈ members b

/-- From one set to another by sets each of which shares a member with the next one. -/
def Reaches : β → β → Prop := Relation.ReflTransGen (Shares members l)

/-- The members of all sets that can be reached. -/
def component (a : β) : Set α := {x | ∃ b, Reaches members l a b ∧ x ∈ members b}

/-- The connected components of the sets with a member. -/
def components : Set (Set α) := {s | ∃ a ∈ l, (members a).Nonempty ∧ component members l a = s}

def Covers (x : α) : Prop := ∃ a ∈ l, x ∈ members a

def Together (x y : α) : Prop := ∃ a ∈ l, x ∈ members a ∧ y ∈ members a

def Connected : α → α → Prop := Relation.ReflTransGen (Together members l)

variable {members l} {a : β} {x y : α}

theorem connected_of_reaches {b : β} (h : Reaches members l a b) (ha : a ∈ l)
    (hx : x ∈ members a) : ∀ y ∈ members b, Connected members l x y := by
  induction h with
  | refl => exact fun y hy => .single ⟨a, ha, hx, hy⟩
  | tail _ hstep ih =>
      obtain ⟨-, hc, z, hz, hz'⟩ := hstep
      exact fun y hy => (ih z hz).tail ⟨_, hc, hz', hy⟩

theorem reaches_of_connected (h : Connected members l x y) (ha : a ∈ l) (hx : x ∈ members a) :
    ∃ b ∈ l, Reaches members l a b ∧ y ∈ members b := by
  induction h with
  | refl => exact ⟨a, ha, .refl, hx⟩
  | tail _ hstep ih =>
      obtain ⟨b, hb, hreaches, hy⟩ := ih
      obtain ⟨c, hc, hy', hz⟩ := hstep
      exact ⟨c, hc, hreaches.tail ⟨hb, hc, _, hy, hy'⟩, hz⟩

/-- A component has the members that are connected with any of its own. -/
theorem component_eq (ha : a ∈ l) (hx : x ∈ members a) :
    component members l a = {y | Connected members l x y} := by
  ext y
  constructor
  · rintro ⟨b, hreaches, hy⟩
    exact connected_of_reaches hreaches ha hx y hy
  · intro h
    obtain ⟨b, -, hreaches, hy⟩ := reaches_of_connected h ha hx
    exact ⟨b, hreaches, hy⟩

theorem mem_components_iff {s : Set α} : s ∈ components members l ↔
    ∃ x, Covers members l x ∧ {y | Connected members l x y} = s := by
  constructor
  · rintro ⟨a, ha, ⟨x, hx⟩, hs⟩
    exact ⟨x, ⟨a, ha, hx⟩, (component_eq ha hx).symm.trans hs⟩
  · rintro ⟨x, ⟨a, ha, hx⟩, hs⟩
    exact ⟨a, ha, ⟨x, hx⟩, (component_eq ha hx).trans hs⟩

theorem components_congr {l' : List β} (hcovers : ∀ x, Covers members l' x ↔ Covers members l x)
    (hconnected : ∀ x y, Connected members l' x y ↔ Connected members l x y) :
    components members l' = components members l := by
  ext s
  rw [mem_components_iff, mem_components_iff]
  simp only [hcovers, hconnected]

theorem components_perm {l' : List β} (h : l'.Perm l) :
    components members l' = components members l := by
  have htogether : Together members l' = Together members l := by
    funext x y
    apply propext
    simp only [Together, h.mem_iff]
  apply components_congr
  · intro x
    simp only [Covers, h.mem_iff]
  · intro x y
    rw [Connected, Connected, htogether]

/-- Without a member in two sets, each of the sets is connected with itself only. -/
theorem components_of_pairwise
    (h : l.Pairwise fun a b => ¬∃ x ∈ members a, x ∈ members b) :
    components members l = {s | ∃ a ∈ l, (members a).Nonempty ∧ members a = s} := by
  have hequal : ∀ a ∈ l, ∀ b ∈ l, ∀ x ∈ members a, x ∈ members b → members a = members b := by
    intro a ha b hb x hx hx'
    by_contra hne
    have hsymm : Std.Symm fun a b => ¬∃ x ∈ members a, x ∈ members b :=
      ⟨fun a b hab ⟨x, hxb, hxa⟩ => hab ⟨x, hxa, hxb⟩⟩
    exact h.forall ha hb (fun hab => hne (congrArg members hab)) ⟨x, hx, hx'⟩
  have hreaches : ∀ a b, Reaches members l a b → a ∈ l → members b = members a := by
    intro a b hab ha
    induction hab with
    | refl => rfl
    | tail _ hstep ih =>
        obtain ⟨hb, hc, x, hx, hx'⟩ := hstep
        rw [← ih, hequal _ hb _ hc x hx hx']
  have hcomponent : ∀ a ∈ l, component members l a = members a := by
    intro a ha
    ext x
    constructor
    · rintro ⟨b, hab, hx⟩
      rwa [← hreaches a b hab ha]
    · exact fun hx => ⟨a, .refl, hx⟩
  ext s
  constructor
  · rintro ⟨a, ha, hne, hs⟩
    exact ⟨a, ha, hne, (hcomponent a ha).symm.trans hs⟩
  · rintro ⟨a, ha, hne, hs⟩
    exact ⟨a, ha, hne, (hcomponent a ha).trans hs⟩

end Components

section Merging

variable {members : β → Set α} {l l' : List β}

/-- Two sets with a member in common are merged, the others stay. -/
inductive Merges (members : β → Set α) (l l' : List β) : Prop
  | fuse {a b c : β} {rest : List β} (before : l.Perm (a :: b :: rest))
      (after : l'.Perm (c :: rest)) (common : ∃ x ∈ members a, x ∈ members b)
      (union : members c = members a ∪ members b)

theorem Merges.covers_iff (h : Merges members l l') (x : α) :
    Covers members l' x ↔ Covers members l x := by
  obtain ⟨hbefore, hafter, -, hunion⟩ := h
  simp only [Covers, hbefore.mem_iff, hafter.mem_iff, List.exists_mem_cons_iff, hunion,
    Set.mem_union, or_assoc]

theorem Merges.connected_iff (h : Merges members l l') (x y : α) :
    Connected members l' x y ↔ Connected members l x y := by
  obtain ⟨hbefore, hafter, ⟨z, hza, hzb⟩, hunion⟩ := h
  rename_i a b c rest
  have hmem : ∀ d, d ∈ l ↔ d = a ∨ d = b ∨ d ∈ rest := by
    intro d
    rw [hbefore.mem_iff, List.mem_cons, List.mem_cons]
  have hmem' : ∀ d, d ∈ l' ↔ d = c ∨ d ∈ rest := by
    intro d
    rw [hafter.mem_iff, List.mem_cons]
  have ha : a ∈ l := (hmem a).mpr (.inl rfl)
  have hb : b ∈ l := (hmem b).mpr (.inr (.inl rfl))
  -- Two members of the merged sets are connected by the common one.
  have hcommon : ∀ w ∈ members a ∪ members b, Together members l w z ∧ Together members l z w := by
    rintro w (hw | hw)
    · exact ⟨⟨a, ha, hw, hza⟩, ⟨a, ha, hza, hw⟩⟩
    · exact ⟨⟨b, hb, hw, hzb⟩, ⟨b, hb, hzb, hw⟩⟩
  have hstep : ∀ x y, Together members l' x y → Connected members l x y := by
    rintro x y ⟨d, hd, hx, hy⟩
    rcases (hmem' d).mp hd with rfl | hrest
    · rw [hunion] at hx hy
      exact (Relation.ReflTransGen.single (hcommon x hx).1).tail (hcommon y hy).2
    · exact .single ⟨d, (hmem d).mpr (.inr (.inr hrest)), hx, hy⟩
  constructor
  · intro h
    induction h with
    | refl => exact .refl
    | tail _ hlast ih => exact ih.trans (hstep _ _ hlast)
  · apply Relation.ReflTransGen.mono
    rintro x y ⟨d, hd, hx, hy⟩
    have hc : c ∈ l' := (hmem' c).mpr (.inl rfl)
    rcases (hmem d).mp hd with rfl | rfl | hrest
    · exact ⟨c, hc, hunion ▸ .inl hx, hunion ▸ .inl hy⟩
    · exact ⟨c, hc, hunion ▸ .inr hx, hunion ▸ .inr hy⟩
    · exact ⟨d, (hmem' d).mpr (.inr hrest), hx, hy⟩

/-- What is covered and what is connected stays over a run of merges. -/
theorem covers_components_of_merges (h : Relation.ReflTransGen (Merges members) l l') :
    (∀ x, Covers members l' x ↔ Covers members l x) ∧
      components members l' = components members l := by
  induction h with
  | refl => exact ⟨fun _ => Iff.rfl, rfl⟩
  | tail _ hstep ih =>
      constructor
      · exact fun x => (hstep.covers_iff x).trans (ih.1 x)
      · exact (components_congr hstep.covers_iff hstep.connected_iff).trans ih.2

end Merging

end Datasynth.Lib.OverlapMerging
