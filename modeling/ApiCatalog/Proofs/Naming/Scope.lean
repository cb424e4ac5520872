import ApiCatalog.Naming.Scope
import Mathlib.Algebra.Group.Nat.Defs
import Mathlib.Data.List.Nodup

/-!
# Scopes with room

A name is refused only when all of its numbered forms are taken. These are as many different names, so a scope
with fewer names has a free one among them: a scope that has `Room` for a number of names accepts a first one,
whatever it is, and has room for the others behind it.
-/

namespace ApiCatalog.Naming.NameScope
variable {scope : NameScope} {candidate name text : String} {count suffix : Nat}

/-- So many more names can be taken before any name is refused. -/
def Room (scope : NameScope) (count : Nat) : Prop := scope.size + count ≤ maxSuffix

theorem numbered_injective (candidate : String) : Function.Injective (numbered candidate) := by
  intro a b h
  have hdigits : (toString a).toList = (toString b).toList := by
    have htoList := congrArg String.toList h
    simpa only [numbered, String.toList_append, List.append_cancel_left_eq] using htoList
  have hdigits' : Nat.toDigits 10 a = Nat.toDigits 10 b := by
    simpa only [Nat.toString_eq_repr, Nat.toList_repr] using hdigits
  rw [← Nat.ofDigitChars_ten_toDigits (n := a), hdigits', Nat.ofDigitChars_ten_toDigits]

theorem contains_eq_true : scope.contains name = true ↔ name ∈ scope.names := List.contains_iff_mem

theorem firstFree_eq_none :
    firstFree scope candidate count suffix = none ↔ ∀ k < count, numbered candidate (suffix + k) ∈ scope.names := by
  induction count generalizing suffix with
  | zero => simp [firstFree]
  | succ count ih =>
    rw [firstFree, Nat.forall_lt_succ_left]
    split
    · next htaken =>
      refine ih.trans (Iff.trans ?_ (and_iff_right (contains_eq_true.1 htaken)).symm)
      refine forall₂_congr fun k _ => ?_
      rw [show suffix + (k + 1) = suffix + 1 + k by omega]
    · next hfree =>
      have hfree : numbered candidate suffix ∉ scope.names := fun hmem => hfree (contains_eq_true.2 hmem)
      simp [hfree]

theorem firstFree_eq_some :
    firstFree scope candidate count suffix = some name ↔
      ∃ k < count, name = numbered candidate (suffix + k) ∧ name ∉ scope.names ∧
        ∀ j < k, numbered candidate (suffix + j) ∈ scope.names := by
  induction count generalizing suffix with
  | zero => simp [firstFree]
  | succ count ih =>
    rw [firstFree]
    split
    · next htaken =>
      have htaken := contains_eq_true.1 htaken
      have hshift (k : Nat) : suffix + (k + 1) = suffix + 1 + k := by omega
      rw [ih]
      constructor
      · rintro ⟨k, hk, hname, hnew, hbefore⟩
        refine ⟨k + 1, by omega, by rw [hshift, hname], hnew, ?_⟩
        rw [Nat.forall_lt_succ_left]
        exact ⟨htaken, fun j hj => by rw [hshift]; exact hbefore j hj⟩
      · rintro ⟨k, hk, rfl, hnew, hbefore⟩
        cases k with
        | zero => exact absurd htaken hnew
        | succ k =>
          rw [hshift] at hnew ⊢
          refine ⟨k, by omega, rfl, hnew, fun j hj => ?_⟩
          rw [← hshift]
          exact hbefore (j + 1) (by omega)
    · next hfree =>
      have hfree : numbered candidate suffix ∉ scope.names := fun hmem => hfree (contains_eq_true.2 hmem)
      constructor
      · intro h
        cases h
        exact ⟨0, by omega, rfl, hfree, by simp⟩
      · rintro ⟨k, hk, rfl, hnew, hbefore⟩
        cases k with
        | zero => rfl
        | succ k => exact absurd (hbefore 0 (by omega)) hfree

theorem nodup_numbered (candidate : String) (count suffix : Nat) :
    ((List.range count).map fun k => numbered candidate (suffix + k)).Nodup := by
  refine List.Nodup.map ?_ List.nodup_range
  intro a b hab
  have hsame := numbered_injective candidate hab
  omega

theorem exists_firstFree (h : scope.size < count) : ∃ name, firstFree scope candidate count suffix = some name := by
  by_contra hnone
  have htaken : firstFree scope candidate count suffix = none := by
    cases hfree : firstFree scope candidate count suffix with
    | none => rfl
    | some name => exact absurd ⟨name, hfree⟩ hnone
  have hsubset : ((List.range count).map fun k => numbered candidate (suffix + k)) ⊆ scope.names := by
    intro name hname
    obtain ⟨k, hk, rfl⟩ := List.mem_map.1 hname
    exact firstFree_eq_none.1 htaken k (List.mem_range.1 hk)
  have hlength := List.Nodup.length_le_of_subset (nodup_numbered candidate count suffix) hsubset
  rw [List.length_map, List.length_range] at hlength
  exact absurd h (Nat.not_lt.2 hlength)

theorem room_empty (h : count < 2 ^ 32) : empty.Room count := by
  rw [Room, maxSuffix]
  show 0 + count ≤ 0xFFFFFFFF
  omega

/-- **A scope with room** gives a name for every text, and has room for one name less. -/
theorem Room.claimFor (h : scope.Room (count + 1)) (text : String) :
    ∃ name, scope.claimFor text = .ok (name, scope.insert name) ∧ (scope.insert name).Room count := by
  have hroom (name : String) : (scope.insert name).Room count := by
    simp only [Room, size, insert, List.length_cons] at h ⊢
    omega
  unfold NameScope.claimFor claim
  split
  · have hsize : scope.size < maxSuffix := by
      unfold Room at h
      omega
    have hfree : ∃ name, firstFree scope (identifier text) maxSuffix 1 = some name := exists_firstFree hsize
    obtain ⟨name, hname⟩ := hfree
    rw [hname]
    exact ⟨name, rfl, hroom name⟩
  · exact ⟨_, rfl, hroom _⟩

theorem claimFor_error {e : LoadError} (h : scope.claimFor text = .error e) :
    e = .namingExhausted (identifier text) := by
  unfold NameScope.claimFor claim at h
  split at h
  · split at h
    · cases h
    · cases h
      rfl
  · cases h

end ApiCatalog.Naming.NameScope
