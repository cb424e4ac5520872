import Mathlib.Data.List.Forall2

/-!
# Related values

A relation between values carries over to values that may be absent (`Option.Rel`), to lists, item by item
(`List.Forall₂`), and to the results of steps that may fail: steps that agree on related states agree in the long
run (`rel_foldlM`), also when one item is replaced (`rel_foldlM_replaced`) or the items are reordered
(`rel_foldlM_perm`).
-/

namespace ApiCatalog

variable {α β : Type}

/-! ## Values that may be absent -/

section Absent
variable {R : β → β → Prop}

theorem rel_refl (hrefl : ∀ x, R x x) (a : Option β) : Option.Rel R a a := by
  cases a with
  | some a => exact .some (hrefl a)
  | none => exact .none

theorem rel_symm (hsymm : ∀ {x y}, R x y → R y x) {a b : Option β} (h : Option.Rel R a b) : Option.Rel R b a := by
  cases h with
  | some h => exact .some (hsymm h)
  | none => exact .none

theorem rel_trans (htrans : ∀ {x y z}, R x y → R y z → R x z) {a b c : Option β} (hab : Option.Rel R a b)
    (hbc : Option.Rel R b c) : Option.Rel R a c := by
  cases hab with
  | some hab =>
    cases hbc with
    | some hbc => exact .some (htrans hab hbc)
  | none => exact hbc

theorem rel_mono {S : β → β → Prop} (hS : ∀ {x y}, S x y → R x y) {a b : Option β} (h : Option.Rel S a b) :
    Option.Rel R a b := by
  cases h with
  | some h => exact .some (hS h)
  | none => exact .none

theorem rel_some_left {x : β} {b : Option β} (h : Option.Rel R (some x) b) : ∃ y, b = some y ∧ R x y := by
  cases h with
  | some hxy => exact ⟨_, rfl, hxy⟩

theorem rel_some_right {y : β} {a : Option β} (h : Option.Rel R a (some y)) : ∃ x, a = some x ∧ R x y := by
  cases h with
  | some hxy => exact ⟨_, rfl, hxy⟩

theorem rel_map {S : α → α → Prop} {f g : α → β} {a b : Option α} (h : Option.Rel S a b)
    (hfg : ∀ {x y}, S x y → R (f x) (g y)) : Option.Rel R (a.map f) (b.map g) := by
  cases h with
  | some h => exact .some (hfg h)
  | none => exact .none

theorem map_eq_of_rel {f : β → α} {a b : Option β} (h : Option.Rel R a b) (hf : ∀ {x y}, R x y → f x = f y) :
    a.map f = b.map f := by
  cases h with
  | some h => exact congrArg some (hf h)
  | none => rfl

theorem rel_bind {f g : β → Option β} {a b : Option β} (h : Option.Rel R a b)
    (hfg : ∀ {x y}, R x y → Option.Rel R (f x) (g y)) : Option.Rel R (a.bind f) (b.bind g) := by
  cases h with
  | some h => exact hfg h
  | none => exact .none

end Absent

/-! ## Lists -/

theorem forall₂_trans {R : α → α → Prop} (htrans : ∀ {a b c}, R a b → R b c → R a c) {as bs cs : List α}
    (hab : List.Forall₂ R as bs) (hbc : List.Forall₂ R bs cs) : List.Forall₂ R as cs := by
  induction hab generalizing cs with
  | nil => exact hbc
  | cons hhead _ ih =>
    cases hbc with
    | cons hhead' htail' => exact .cons (htrans hhead hhead') (ih htail')

theorem exists_of_forall₂ {R : α → β → Prop} {as : List α} {bs : List β} (h : List.Forall₂ R as bs) :
    ∀ b ∈ bs, ∃ a ∈ as, R a b := by
  induction h with
  | nil => simp
  | @cons a b as bs hab _ ih =>
    refine List.forall_mem_cons.2 ⟨⟨a, List.mem_cons_self, hab⟩, fun other hother => ?_⟩
    obtain ⟨found, hfound, hrel⟩ := ih other hother
    exact ⟨found, List.mem_cons_of_mem _ hfound, hrel⟩

theorem forall₂_filterMap {R : α → β → Prop} {f : α → Option β} {elements : List α}
    (h : ∀ element ∈ elements, ∃ found, f element = some found ∧ R element found) :
    List.Forall₂ R elements (elements.filterMap f) := by
  induction elements with
  | nil => exact .nil
  | cons element rest ih =>
    obtain ⟨⟨found, hfound, hrel⟩, hrest⟩ := List.forall_mem_cons.1 h
    rw [List.filterMap_cons_some hfound]
    exact .cons hrel (ih hrest)

/-! ## Steps that may fail -/

section Steps
variable {R : β → β → Prop} {step : β → α → Option β}
  (hstep : ∀ a {x y}, R x y → Option.Rel R (step x a) (step y a))
include hstep

theorem rel_foldlM (items : List α) {x y : β} (h : R x y) : Option.Rel R (items.foldlM step x) (items.foldlM step y) := by
  induction items generalizing x y with
  | nil => exact .some h
  | cons a items ih =>
    rw [List.foldlM_cons, List.foldlM_cons]
    exact rel_bind (hstep a h) ih

theorem rel_foldlM_replaced (before after : List α) {a b : α}
    (hab : ∀ {x y}, R x y → Option.Rel R (step x a) (step y b)) {x y : β} (h : R x y) :
    Option.Rel R ((before ++ a :: after).foldlM step x) ((before ++ b :: after).foldlM step y) := by
  rw [List.foldlM_append, List.foldlM_append]
  refine rel_bind (rel_foldlM hstep before h) fun hxy => ?_
  rw [List.foldlM_cons, List.foldlM_cons]
  exact rel_bind (hab hxy) (rel_foldlM hstep after)

theorem rel_foldlM_perm (hrefl : ∀ x, R x x) (htrans : ∀ {x y z}, R x y → R y z → R x z)
    (hcomm : ∀ a b x, Option.Rel R ((step x a).bind (step · b)) ((step x b).bind (step · a))) {items items' : List α}
    (h : items.Perm items') (x : β) : Option.Rel R (items.foldlM step x) (items'.foldlM step x) := by
  induction h generalizing x with
  | nil => exact .some (hrefl x)
  | cons a _ ih =>
    rw [List.foldlM_cons, List.foldlM_cons]
    cases step x a with
    | some y => exact ih y
    | none => exact .none
  | swap a b items =>
    have hswap := rel_bind (hcomm b a x) (rel_foldlM hstep items)
    rwa [Option.bind_assoc, Option.bind_assoc] at hswap
  | trans _ _ ih ih' => exact rel_trans (R := R) htrans (ih x) (ih' x)

end Steps

end ApiCatalog
