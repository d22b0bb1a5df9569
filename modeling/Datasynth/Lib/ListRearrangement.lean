import Mathlib.Data.List.Lex
import Mathlib.Data.List.Nodup
import Mathlib.Data.List.Perm.Basic
import Mathlib.Data.List.Rotate
import Mathlib.Data.List.Sort
import Mathlib.Tactic.Common

/-!
Rearrangements of nested traversals and selections from lists without duplicates.
-/

namespace Datasynth.Lib.ListRearrangement

universe u v w

variable {α : Type u} {β : Type v} {γ : Type w}

theorem flatMap_comm_perm (as : List α) (bs : List β) (f : α → β → List γ) :
    (as.flatMap fun a => bs.flatMap fun b => f a b).Perm
      (bs.flatMap fun b => as.flatMap fun a => f a b) := by
  induction as with
  | nil => simp
  | cons a as ih =>
      simp only [List.flatMap_cons]
      exact (List.Perm.append_left _ ih).trans (List.flatMap_append_perm bs _ _)

theorem flatMap_sublist {f g : α → List β} (h : ∀ a, (f a).Sublist (g a)) (as : List α) :
    (as.flatMap f).Sublist (as.flatMap g) := by
  induction as with
  | nil => exact List.Sublist.refl _
  | cons a as ih => exact (h a).append ih

/-- Only the occurrence of `a` contributes. -/
theorem flatMap_ite_eq [DecidableEq α] {as : List α} (hnodup : as.Nodup) {a : α} (ha : a ∈ as)
    (x : List β) : (as.flatMap fun c => if a = c then x else []) = x := by
  induction as with
  | nil => cases ha
  | cons c as ih =>
      obtain ⟨hc, hnodup⟩ := List.nodup_cons.mp hnodup
      rw [List.flatMap_cons]
      by_cases hac : a = c
      · subst hac
        have hrest : (as.flatMap fun c => if a = c then x else []) = [] := by
          refine List.flatMap_eq_nil_iff.mpr fun c hmem => if_neg ?_
          rintro rfl
          exact hc hmem
        rw [if_pos rfl, hrest, List.append_nil]
      · rw [if_neg hac, List.nil_append]
        exact ih hnodup ((List.mem_cons.mp ha).resolve_left hac)

/-- Two distinct members each contribute once. -/
theorem flatMap_ite_ite_perm [DecidableEq α] {as : List α} (hnodup : as.Nodup) {a b : α}
    (ha : a ∈ as) (hb : b ∈ as) (hab : a ≠ b) (x y : List β) :
    (as.flatMap fun c => if a = c then x else if b = c then y else []).Perm (x ++ y) := by
  have hsplit : (fun c => if a = c then x else if b = c then y else []) =
      fun c => (if a = c then x else []) ++ if b = c then y else [] := by
    funext c
    by_cases hac : a = c
    · have hbc : ¬ b = c := fun h => hab (hac.trans h.symm)
      rw [if_pos hac, if_pos hac, if_neg hbc, List.append_nil]
    · rw [if_neg hac, if_neg hac, List.nil_append]
  have hperm := (List.flatMap_append_perm as (fun c => if a = c then x else [])
    (fun c => if b = c then y else [])).symm
  rw [flatMap_ite_eq hnodup ha, flatMap_ite_eq hnodup hb] at hperm
  rw [hsplit]
  exact hperm

/-- Selecting by a key that is injective on the list selects one element. -/
theorem filter_key_eq [DecidableEq β] {key : α → β} {as : List α} (hnodup : (as.map key).Nodup)
    {a : α} (ha : a ∈ as) : as.filter (key · = key a) = [a] := by
  induction as with
  | nil => cases ha
  | cons c as ih =>
      rw [List.map_cons, List.nodup_cons] at hnodup
      obtain ⟨hc, hnodup⟩ := hnodup
      rcases List.mem_cons.mp ha with rfl | ha
      · have hrest : as.filter (key · = key a) = [] := by
          refine List.filter_eq_nil_iff.mpr fun c hmem => ?_
          simp only [decide_eq_true_eq]
          intro heq
          exact hc (heq ▸ List.mem_map_of_mem hmem)
        rw [List.filter_cons_of_pos (by simp), hrest]
      · have hne : ¬ key c = key a := fun heq => hc (heq ▸ List.mem_map_of_mem ha)
        rw [List.filter_cons_of_neg (by simpa using hne)]
        exact ih hnodup ha

theorem perm_pair {l : List α} {a b : α} (h : l.Perm [a, b]) : l = [a, b] ∨ l = [b, a] := by
  match l, h.length_eq with
  | [x, y], _ =>
      rcases List.mem_pair.mp (h.subset (List.mem_cons_self ..)) with rfl | rfl
      · have htail := List.singleton_perm.mp ((List.perm_cons x).mp h)
        exact .inl (by rw [htail])
      · have htail := List.singleton_perm.mp
          ((List.perm_cons x).mp (h.trans (List.Perm.swap x a [])))
        exact .inr (by rw [htail])

theorem modify_length_append (before after : List α) (a : α) (f : α → α) :
    (before ++ a :: after).modify before.length f = before ++ f a :: after := by
  induction before with
  | nil => rfl
  | cons b before ih => rw [List.cons_append, List.length_cons, List.modify_succ_cons, ih]; rfl

theorem exists_forall₂ {R : α → β → Prop} {as : List α} (h : ∀ a ∈ as, ∃ b, R a b) :
    ∃ bs, List.Forall₂ R as bs := by
  induction as with
  | nil => exact ⟨[], .nil⟩
  | cons a as ih =>
      obtain ⟨b, hb⟩ := h a (by simp)
      obtain ⟨bs, hbs⟩ := ih fun a' ha' => h a' (by simp [ha'])
      exact ⟨b :: bs, .cons hb hbs⟩

theorem pairwise_iff_of_forall₂ {P : α → α → Prop} {Q : β → β → Prop} {R : α → β → Prop}
    (hPQ : ∀ a b a' b', R a b → R a' b' → (P a a' ↔ Q b b')) {as : List α} {bs : List β}
    (h : List.Forall₂ R as bs) : as.Pairwise P ↔ bs.Pairwise Q := by
  induction h with
  | nil => exact iff_of_true .nil .nil
  | @cons a b as bs hab hrest ih =>
      rw [List.pairwise_cons, List.pairwise_cons, ih]
      apply and_congr_left
      rintro -
      clear ih
      induction hrest with
      | nil => simp
      | cons hab' _ ih =>
          rw [List.forall_mem_cons, List.forall_mem_cons, ih, hPQ _ _ _ _ hab hab']

theorem exists_left_of_forall₂ {R : α → β → Prop} {as : List α} {bs : List β}
    (h : List.Forall₂ R as bs) {b : β} (hb : b ∈ bs) : ∃ a ∈ as, R a b := by
  induction h with
  | nil => cases hb
  | @cons a b' as bs hab _ ih =>
      rcases List.mem_cons.mp hb with rfl | hb
      · exact ⟨a, List.mem_cons_self .., hab⟩
      · obtain ⟨a', ha', hab'⟩ := ih hb
        exact ⟨a', List.mem_cons_of_mem _ ha', hab'⟩

theorem exists_right_of_forall₂ {R : α → β → Prop} {as : List α} {bs : List β}
    (h : List.Forall₂ R as bs) {a : α} (ha : a ∈ as) : ∃ b ∈ bs, R a b :=
  exists_left_of_forall₂ h.flip ha

end Datasynth.Lib.ListRearrangement

/-!
Keeping the first item of each key.
-/

namespace Datasynth.Lib.FirstOfKey

universe u v

variable {α : Type u} {κ : Type v} [DecidableEq κ] {key : α → κ} {seen : List κ} {l l' : List α}

/-- The items whose keys were not seen before. -/
def keepFirst (key : α → κ) : List κ → List α → List α
  | _, [] => []
  | seen, a :: l =>
      if key a ∈ seen then keepFirst key seen l else a :: keepFirst key (key a :: seen) l

theorem mem_of_mem_keepFirst {a : α} (h : a ∈ keepFirst key seen l) :
    a ∈ l ∧ key a ∉ seen := by
  induction l generalizing seen with
  | nil => cases h
  | cons b l ih =>
      rw [keepFirst] at h
      split_ifs at h with hseen
      · exact (ih h).imp_left (List.mem_cons_of_mem b)
      · rcases List.mem_cons.mp h with rfl | h
        · exact ⟨List.mem_cons_self .., hseen⟩
        · obtain ⟨hmem, hnot⟩ := ih h
          exact ⟨List.mem_cons_of_mem b hmem, fun hkey => hnot (List.mem_cons_of_mem _ hkey)⟩

theorem exists_mem_keepFirst {a : α} (ha : a ∈ l) (hseen : key a ∉ seen) :
    ∃ b ∈ keepFirst key seen l, key b = key a := by
  induction l generalizing seen with
  | nil => cases ha
  | cons b l ih =>
      rw [keepFirst]
      split_ifs with hb
      · rcases List.mem_cons.mp ha with rfl | ha
        · exact absurd hb hseen
        · exact ih ha hseen
      · by_cases hkey : key b = key a
        · exact ⟨b, List.mem_cons_self .., hkey⟩
        · rcases List.mem_cons.mp ha with rfl | ha
          · exact absurd rfl hkey
          · have hnew : key a ∉ key b :: seen := by
              rw [List.mem_cons, not_or]
              exact ⟨Ne.symm hkey, hseen⟩
            obtain ⟨c, hc, hkeys⟩ := ih ha hnew
            exact ⟨c, List.mem_cons_of_mem b hc, hkeys⟩

theorem nodup_keepFirst : ((keepFirst key seen l).map key).Nodup := by
  induction l generalizing seen with
  | nil => exact List.nodup_nil
  | cons a l ih =>
      rw [keepFirst]
      split_ifs
      · exact ih
      · refine List.nodup_cons.mpr ⟨fun hmem => ?_, ih⟩
        obtain ⟨b, hb, hkey⟩ := List.mem_map.mp hmem
        exact (mem_of_mem_keepFirst hb).2 (hkey ▸ List.mem_cons_self ..)

/-- Every key is kept once. -/
theorem countP_keepFirst {a : α} (ha : a ∈ l) (hseen : key a ∉ seen) :
    (keepFirst key seen l).countP (fun b => key b = key a) = 1 := by
  obtain ⟨b, hb, hkey⟩ := exists_mem_keepFirst ha hseen
  have hcount : ((keepFirst key seen l).map key).count (key a) = 1 := by
    rw [← hkey]
    exact List.nodup_iff_count_eq_one.mp nodup_keepFirst _ (List.mem_map_of_mem hb)
  rw [List.count, List.countP_map] at hcount
  rw [← hcount]
  refine List.countP_congr fun b _ => ?_
  rw [decide_eq_true_iff, Function.comp_apply, beq_iff_eq]

end Datasynth.Lib.FirstOfKey

/-!
Stable sorts by a key that elements may share: what they show of the elements of a list is the
same for every order of the list exactly when the key determines it.
-/

namespace Datasynth.Lib.StableSorts

universe u v w

variable {α : Type u} {β : Type v} {κ : Type w} [LinearOrder κ] {key : α → κ} {shown : α → β}
  {l l' : List α}

variable (key shown) in
/-- What is shown of the elements in the order of their keys. -/
def sortedView (l : List α) : List β := (l.insertionSort fun a b => key a ≤ key b).map shown

theorem sortedView_eq_of_perm (h : ∀ a ∈ l, ∀ b ∈ l, key a = key b → shown a = shown b)
    (hperm : l'.Perm l) : sortedView key shown l' = sortedView key shown l := by
  let entry : α → κ × β := fun a => (key a, shown a)
  have hentries : ∀ l : List α, sortedView key shown l =
      ((l.insertionSort fun a b => key a ≤ key b).map entry).map Prod.snd := by
    intro l
    rw [sortedView, List.map_map]
    rfl
  have hsorted : ∀ l : List α, ((l.insertionSort fun a b => key a ≤ key b).map entry).Pairwise
      fun x y => x.1 ≤ y.1 := by
    intro l
    rw [List.pairwise_map]
    exact List.pairwise_insertionSort _ l
  have hmem : ∀ l : List α, l.Perm l' → ∀ x ∈ (l.insertionSort fun a b => key a ≤ key b).map entry,
      ∃ a ∈ l', entry a = x := by
    intro m hm x hx
    obtain ⟨a, ha, rfl⟩ := List.mem_map.mp hx
    exact ⟨a, ((List.perm_insertionSort _ m).trans hm).mem_iff.mp ha, rfl⟩
  rw [hentries, hentries]
  congr 1
  refine List.Perm.eq_of_pairwise ?_ (hsorted l') (hsorted l) ?_
  · intro x y hx hy hxy hyx
    obtain ⟨a, ha, rfl⟩ := hmem l' (List.Perm.refl _) x hx
    obtain ⟨b, hb, rfl⟩ := hmem l hperm.symm y hy
    have hkey : key a = key b := le_antisymm hxy hyx
    exact Prod.ext hkey (h a (hperm.mem_iff.mp ha) b (hperm.mem_iff.mp hb) hkey)
  · exact ((List.perm_insertionSort _ l').trans
      (hperm.trans (List.perm_insertionSort _ l).symm)).map entry

/-- Elements of one key keep the order in which they come. -/
theorem insertionSort_cons_cons {a b : α} (hkey : key a = key b) (rest : List α) :
    ((a :: b :: rest).insertionSort fun x y => key x ≤ key y) =
      ((rest.insertionSort fun x y => key x ≤ key y).takeWhile fun x => ¬ key b ≤ key x) ++ a :: b ::
        (rest.insertionSort fun x y => key x ≤ key y).dropWhile fun x => ¬ key b ≤ key x := by
  have hfront : ∀ x ∈ (rest.insertionSort fun x y => key x ≤ key y).takeWhile
      fun x => decide (¬ key b ≤ key x), decide (¬ key b ≤ key x) = true := by
    intro x hx
    exact List.all_eq_true.mp List.all_takeWhile x hx
  rw [List.insertionSort_cons_eq_take_drop, List.insertionSort_cons_eq_take_drop, hkey,
    List.takeWhile_append_of_pos hfront, List.dropWhile_append_of_pos hfront,
    List.takeWhile_cons_of_neg (by simp), List.dropWhile_cons_of_neg (by simp), List.append_nil]

/-- A sort shows the same of every order of a list exactly when the key determines what it
shows of the elements. -/
theorem forall_sortedView_eq_iff :
    (∀ l' l'', l'.Perm l → l''.Perm l → sortedView key shown l' = sortedView key shown l'') ↔
      ∀ a ∈ l, ∀ b ∈ l, key a = key b → shown a = shown b := by
  constructor
  · intro h a ha b hb hkey
    by_cases hab : a = b
    · rw [hab]
    · obtain ⟨rest, hrest⟩ : ∃ rest, (a :: b :: rest).Perm l := by
        obtain ⟨before, after, rfl⟩ := List.append_of_mem ha
        obtain ⟨before', after', hothers⟩ := List.append_of_mem (show b ∈ before ++ after by
          simpa [Ne.symm hab] using hb)
        refine ⟨before' ++ after', ?_⟩
        refine .trans (.cons a ?_) List.perm_middle.symm
        rw [hothers]
        exact List.perm_middle.symm
      have hview := h _ _ hrest ((List.Perm.swap a b rest).trans hrest)
      rw [sortedView, sortedView, insertionSort_cons_cons hkey, insertionSort_cons_cons hkey.symm,
        hkey] at hview
      simp only [List.map_append, List.map_cons, List.append_cancel_left_eq, List.cons.injEq]
        at hview
      exact hview.1
  · intro h l' l'' hl' hl''
    rw [sortedView_eq_of_perm h hl', sortedView_eq_of_perm h hl'']

end Datasynth.Lib.StableSorts

/-!
Forms of cycles.  A list without duplicates is read as a cycle; the form starts with the
smallest entry and goes on in the direction that gives the smaller list.  Two cycles have
one form if and only if one is a rotation of the other or of its reverse.
-/

namespace Datasynth.Lib.CycleForms

universe u

variable {α : Type u} [LinearOrder α] {a b : α} {l l' p q : List α}

def orientedForm (a : α) (l : List α) : List α :=
  if a :: l.reverse < a :: l then a :: l.reverse else a :: l

theorem orientedForm_reverse (a : α) (l : List α) :
    orientedForm a l.reverse = orientedForm a l := by
  rw [orientedForm, orientedForm, List.reverse_reverse]
  rcases lt_trichotomy (a :: l) (a :: l.reverse) with hlt | heq | hlt
  · rw [if_pos hlt, if_neg hlt.asymm]
  · rw [heq]
  · rw [if_pos hlt, if_neg hlt.asymm]

theorem isRotated_orientedForm (a : α) (l : List α) :
    (a :: l) ~r orientedForm a l ∨ (a :: l).reverse ~r orientedForm a l := by
  rw [orientedForm]
  split_ifs
  · refine .inr ?_
    rw [List.reverse_cons]
    exact List.isRotated_append
  · exact .inl (List.IsRotated.refl _)

omit [LinearOrder α] in
/-- A cycle is read from an entry in one way only. -/
theorem eq_of_isRotated_cons (h : (a :: l) ~r (a :: l')) (hnodup : (a :: l).Nodup) : l = l' := by
  obtain ⟨n, hrotate⟩ := h
  have hlt : n % (a :: l).length < (a :: l).length := Nat.mod_lt _ (List.length_pos_of_ne_nil nofun)
  rw [← List.rotate_mod] at hrotate
  have hhead : (a :: l)[n % (a :: l).length]? = some a := by
    rw [← List.head?_rotate hlt, hrotate, List.head?_cons]
  obtain ⟨_, hget⟩ := List.getElem?_eq_some_iff.mp hhead
  have hfirst : (a :: l)[n % (a :: l).length] = (a :: l)[0] := hget
  have hzero : n % (a :: l).length = 0 := hnodup.getElem_inj_iff.mp hfirst
  rw [hzero, List.rotate_zero] at hrotate
  exact List.tail_eq_of_cons_eq hrotate

/-- The smallest entry of a cycle is the same wherever the cycle is cut. -/
theorem eq_of_perm_cons (h : (a :: l).Perm (b :: l')) (ha : ∀ x ∈ l, a ≤ x)
    (hb : ∀ x ∈ l', b ≤ x) : a = b := by
  have hle : ∀ x ∈ a :: l, a ≤ x := List.forall_mem_cons.mpr ⟨le_rfl, ha⟩
  have hle' : ∀ x ∈ b :: l', b ≤ x := List.forall_mem_cons.mpr ⟨le_rfl, hb⟩
  apply le_antisymm
  · exact hle b (h.mem_iff.mpr (List.mem_cons_self ..))
  · exact hle' a (h.mem_iff.mp (List.mem_cons_self ..))

/-- A form that begins with the smallest entry of the cycle. -/
def IsForm (form : List α → List α) : Prop :=
  ∀ p, p ≠ [] → ∃ a l, p ~r (a :: l) ∧ (∀ x ∈ l, a ≤ x) ∧ form p = orientedForm a l

variable {form : List α → List α}

theorem form_eq_of_isRotated (hform : IsForm form) (hp : p.Nodup) (hne : p ≠ []) (h : p ~r q) :
    form p = form q := by
  have hqne : q ≠ [] := by
    rintro rfl
    exact hne (List.isRotated_nil_iff.mp h)
  obtain ⟨a, l, hpl, ha, hpform⟩ := hform p hne
  obtain ⟨b, l', hql, hb, hqform⟩ := hform q hqne
  have hrotated : (a :: l) ~r (b :: l') := hpl.symm.trans (h.trans hql)
  obtain rfl := eq_of_perm_cons hrotated.perm ha hb
  rw [hpform, hqform, eq_of_isRotated_cons hrotated (hpl.nodup_iff.mp hp)]

theorem form_reverse (hform : IsForm form) (hp : p.Nodup) (hne : p ≠ []) :
    form p.reverse = form p := by
  obtain ⟨a, l, hpl, ha, hpform⟩ := hform p hne
  obtain ⟨b, l', hql, hb, hqform⟩ := hform p.reverse (by simpa using hne)
  have hreverse : (a :: l.reverse) ~r (b :: l') := by
    refine (List.IsRotated.trans ?_ hpl.reverse.symm).trans hql
    rw [List.reverse_cons]
    exact List.IsRotated.symm List.isRotated_append
  obtain rfl := eq_of_perm_cons hreverse.perm (fun x hx => ha x (List.mem_reverse.mp hx)) hb
  have hnodup : (a :: l.reverse).Nodup :=
    hreverse.symm.nodup_iff.mp (hql.nodup_iff.mp (List.nodup_reverse.mpr hp))
  rw [hpform, hqform, ← eq_of_isRotated_cons hreverse hnodup, orientedForm_reverse]

theorem isRotated_form (hform : IsForm form) (hne : p ≠ []) :
    p ~r form p ∨ p.reverse ~r form p := by
  obtain ⟨a, l, hpl, -, hpform⟩ := hform p hne
  rw [hpform]
  exact (isRotated_orientedForm a l).imp hpl.trans hpl.reverse.trans

theorem form_eq_iff (hform : IsForm form) (hp : p.Nodup) (hpne : p ≠ []) (hq : q.Nodup)
    (hqne : q ≠ []) : form p = form q ↔ p ~r q ∨ p ~r q.reverse := by
  constructor
  · intro h
    have hpform := isRotated_form hform hpne
    have hqform := isRotated_form hform hqne
    rw [← h] at hqform
    rcases hpform with hpform | hpform <;> rcases hqform with hqform | hqform
    · exact .inl (hpform.trans hqform.symm)
    · exact .inr (hpform.trans hqform.symm)
    · refine .inr ?_
      have := (hpform.trans hqform.symm).reverse
      rwa [List.reverse_reverse] at this
    · refine .inl ?_
      have := (hpform.trans hqform.symm).reverse
      rwa [List.reverse_reverse, List.reverse_reverse] at this
  · rintro (h | h)
    · exact form_eq_of_isRotated hform hp hpne h
    · rw [form_eq_of_isRotated hform hp hpne h, form_reverse hform hq hqne]

end Datasynth.Lib.CycleForms
