import ApiCatalog.Proofs.Naming.Scope
import ApiCatalog.Proofs.Performing

/-!
# Claiming names

What a claim gives is said by the names that are taken: the candidate when it is free, and otherwise the candidate
with the least number behind it that makes a free name (`Offers`). A claim is refused exactly when the candidate is
taken and so is every numbered form of it (`Exhausted`); that takes 2^32 names, so smaller scopes never refuse one.

Nothing is left behind by the forms that are tried and found taken. To say so, `claimInPlace` tries a name by taking
it: it is one loop that changes the scope as it goes, and it ends in the scope that `claim` gives (`claimInPlace_eq`).
Claims in a row therefore leave a scope that holds one name for each of them (`claimAll_ok`).
-/

namespace ApiCatalog.Naming.NameScope
variable {scope grown : NameScope} {candidate name : String} {count suffix : Nat} {e : LoadError}

/-! ## What is given -/

/-- The name that a claim of the candidate gives: the candidate, or else its first free numbered form. -/
inductive Offers (scope : NameScope) (candidate : String) : String → Prop
  | plain (hfree : candidate ∉ scope.names) : Offers scope candidate candidate
  | numbered {k : Nat} (htaken : candidate ∈ scope.names) (hlow : 1 ≤ k) (hhigh : k ≤ 2 ^ 32 - 1)
      (hfree : candidate ++ toString k ∉ scope.names)
      (hleast : ∀ j, 1 ≤ j → j < k → candidate ++ toString j ∈ scope.names) :
      Offers scope candidate (candidate ++ toString k)

/-- The candidate is taken, and so is each of its numbered forms. -/
structure Exhausted (scope : NameScope) (candidate : String) : Prop where
  plain : candidate ∈ scope.names
  numbered : ∀ k, 1 ≤ k → k ≤ 2 ^ 32 - 1 → candidate ++ toString k ∈ scope.names

/-- One name more is taken, which was free before. -/
structure Adds (scope : NameScope) (name : String) (grown : NameScope) : Prop where
  new : scope.contains name = false
  contains_iff : ∀ other, grown.contains other = true ↔ other = name ∨ scope.contains other = true
  size : grown.size = scope.size + 1

theorem Offers.adds (h : scope.Offers candidate name) : scope.Adds name (scope.insert name) where
  new := by
    have hnew : name ∉ scope.names := by
      cases h with
      | plain hfree => exact hfree
      | numbered _ _ _ hfree => exact hfree
    rw [← Bool.not_eq_true, contains_eq_true]
    exact hnew
  contains_iff other := by
    rw [contains_eq_true, contains_eq_true]
    exact List.mem_cons
  size := List.length_cons

theorem claim_of_free (h : candidate ∉ scope.names) : scope.claim candidate = .ok (candidate, scope.insert candidate) := by
  rw [claim, if_neg fun hcontains => h (contains_eq_true.1 hcontains)]

theorem claim_of_taken (h : candidate ∈ scope.names) :
    scope.claim candidate =
      match firstFree scope candidate maxSuffix 1 with
      | some name => .ok (name, scope.insert name)
      | none => .error (.namingExhausted candidate) := by
  unfold claim
  exact if_pos (contains_eq_true.2 h)

theorem offers_iff_firstFree (h : candidate ∈ scope.names) :
    scope.Offers candidate name ↔ firstFree scope candidate maxSuffix 1 = some name := by
  rw [firstFree_eq_some]
  constructor
  · intro hoffers
    cases hoffers with
    | plain hfree => exact absurd h hfree
    | @numbered k _ hlow hhigh hfree hleast =>
      have hshift : 1 + (k - 1) = k := by omega
      refine ⟨k - 1, ?_, by rw [hshift, NameScope.numbered], hfree, fun j hj => hleast (1 + j) (by omega) (by omega)⟩
      rw [maxSuffix]
      omega
  · rintro ⟨k, hk, rfl, hfree, hbefore⟩
    refine .numbered h (by omega) ?_ hfree fun j hlow hj => ?_
    · rw [maxSuffix] at hk
      omega
    · have hshift : 1 + (j - 1) = j := by omega
      have htaken := hbefore (j - 1) (by omega)
      rwa [hshift] at htaken

theorem exhausted_iff_firstFree (h : candidate ∈ scope.names) :
    scope.Exhausted candidate ↔ firstFree scope candidate maxSuffix 1 = none := by
  rw [firstFree_eq_none]
  constructor
  · intro hexhausted k hk
    refine hexhausted.numbered (1 + k) (by omega) ?_
    rw [maxSuffix] at hk
    omega
  · intro hall
    refine ⟨h, fun k hlow hhigh => ?_⟩
    have hshift : 1 + (k - 1) = k := by omega
    have hbound : k - 1 < maxSuffix := by
      rw [maxSuffix]
      omega
    have htaken := hall (k - 1) hbound
    rwa [hshift] at htaken

theorem claim_ok_iff :
    scope.claim candidate = .ok (name, grown) ↔ scope.Offers candidate name ∧ grown = scope.insert name := by
  by_cases h : candidate ∈ scope.names
  · rw [claim_of_taken h, offers_iff_firstFree h]
    cases firstFree scope candidate maxSuffix 1 with
    | none => simp
    | some found =>
      simp only [Except.ok.injEq, Prod.mk.injEq, Option.some.injEq]
      constructor
      · rintro ⟨rfl, rfl⟩
        exact ⟨rfl, rfl⟩
      · rintro ⟨rfl, rfl⟩
        exact ⟨rfl, rfl⟩
  · rw [claim_of_free h, Except.ok.injEq, Prod.mk.injEq]
    constructor
    · rintro ⟨rfl, rfl⟩
      exact ⟨.plain h, rfl⟩
    · rintro ⟨hoffers, rfl⟩
      cases hoffers with
      | plain => exact ⟨rfl, rfl⟩
      | numbered htaken => exact absurd htaken h

theorem claim_error_iff :
    scope.claim candidate = .error e ↔ scope.Exhausted candidate ∧ e = .namingExhausted candidate := by
  by_cases h : candidate ∈ scope.names
  · rw [claim_of_taken h, exhausted_iff_firstFree h]
    cases firstFree scope candidate maxSuffix 1 with
    | none => simp [eq_comm]
    | some found => simp
  · rw [claim_of_free h]
    constructor
    · intro hclaim
      cases hclaim
    · rintro ⟨hexhausted, -⟩
      exact absurd hexhausted.plain h

/-- All forms of a candidate are 2^32 different names. -/
theorem Exhausted.size_ge (h : scope.Exhausted candidate) : 2 ^ 32 ≤ scope.size := by
  -- the number is kept apart, so that nothing evaluates the list
  obtain ⟨count, hcount⟩ : ∃ count, count = 2 ^ 32 - 1 := ⟨_, rfl⟩
  have hnodup : (candidate :: (List.range count).map fun k => NameScope.numbered candidate (1 + k)).Nodup := by
    refine List.nodup_cons.2 ⟨fun hmem => ?_, nodup_numbered candidate count 1⟩
    obtain ⟨k, -, hsame⟩ := List.mem_map.1 hmem
    have hlength := congrArg String.length hsame
    have hdigits : (toString (1 + k)).length ≠ 0 := by
      rw [Nat.toString_eq_repr, ← String.length_toList, Nat.toList_repr, Ne, List.length_eq_zero_iff]
      exact Nat.toDigits_ne_nil
    rw [NameScope.numbered, String.length_append] at hlength
    omega
  have hsubset : (candidate :: (List.range count).map fun k => NameScope.numbered candidate (1 + k)) ⊆ scope.names := by
    refine List.cons_subset.2 ⟨h.plain, fun name hname => ?_⟩
    obtain ⟨k, hk, rfl⟩ := List.mem_map.1 hname
    have hk := List.mem_range.1 hk
    exact h.numbered (1 + k) (by omega) (by omega)
  have hlength := List.Nodup.length_le_of_subset hnodup hsubset
  rw [List.length_cons, List.length_map, List.length_range, hcount] at hlength
  exact hlength

theorem exists_claim_of_small (h : scope.size < 2 ^ 32) (candidate : String) :
    ∃ name, scope.claim candidate = .ok (name, scope.insert name) := by
  cases hclaim : scope.claim candidate with
  | ok given =>
    obtain ⟨name, grown⟩ := given
    obtain ⟨-, rfl⟩ := claim_ok_iff.1 hclaim
    exact ⟨name, rfl⟩
  | error e =>
    have hsize := (claim_error_iff.1 hclaim).1.size_ge
    omega

/-! ## In place -/

/-- Takes a name unless it is taken, and says whether it was free. -/
def take (scope : NameScope) (name : String) : Bool × NameScope :=
  if scope.contains name then (false, scope) else (true, scope.insert name)

/-- Tries to take the next `count` numbered forms of a candidate, up to the first that is free. -/
def probe (scope : NameScope) (candidate : String) : (count suffix : Nat) → Option String × NameScope
  | 0, _ => (none, scope)
  | count + 1, suffix =>
    match scope.take (NameScope.numbered candidate suffix) with
    | (true, grown) => (some (NameScope.numbered candidate suffix), grown)
    | (false, scope) => scope.probe candidate count (suffix + 1)

/-- Claims a candidate by trying one form of it after the other. -/
def claimInPlace (scope : NameScope) (candidate : String) : Except LoadError String × NameScope :=
  match scope.take candidate with
  | (true, grown) => (.ok candidate, grown)
  | (false, scope) =>
    match scope.probe candidate maxSuffix 1 with
    | (some name, grown) => (.ok name, grown)
    | (none, scope) => (.error (.namingExhausted candidate), scope)

/-- What a claim leaves: its result and the scope, which a claim that is refused leaves as it was. -/
def afterClaim (scope : NameScope) : Except LoadError (String × NameScope) → Except LoadError String × NameScope
  | .ok (name, grown) => (.ok name, grown)
  | .error e => (.error e, scope)

theorem take_of_taken (h : scope.contains name = true) : scope.take name = (false, scope) := if_pos h

theorem take_of_free (h : ¬scope.contains name = true) : scope.take name = (true, scope.insert name) := if_neg h

theorem probe_eq (scope : NameScope) (candidate : String) (count suffix : Nat) :
    scope.probe candidate count suffix =
      match firstFree scope candidate count suffix with
      | some name => (some name, scope.insert name)
      | none => (none, scope) := by
  induction count generalizing suffix with
  | zero => rfl
  | succ count ih =>
    rw [probe, firstFree]
    by_cases h : scope.contains (NameScope.numbered candidate suffix) = true
    · rw [take_of_taken h, if_pos h]
      exact ih (suffix + 1)
    · rw [take_of_free h, if_neg h]

/-- **In place, a claim is the same.** -/
theorem claimInPlace_eq (scope : NameScope) (candidate : String) :
    scope.claimInPlace candidate = scope.afterClaim (scope.claim candidate) := by
  rw [claimInPlace, claim]
  by_cases h : scope.contains candidate = true
  · rw [take_of_taken h, if_pos h]
    dsimp only
    rw [probe_eq]
    cases firstFree scope candidate maxSuffix 1 with
    | none => rfl
    | some name => rfl
  · rw [take_of_free h, if_neg h]
    rfl

/-! ## In a row -/

/-- Claims candidates one after the other; the names that are given and the last scope come out. -/
def claimAll (scope : NameScope) : List String → Except LoadError (List String × NameScope)
  | [] => .ok ([], scope)
  | candidate :: rest => do
    let (name, scope) ← scope.claim candidate
    let (names, scope) ← scope.claimAll rest
    return (name :: names, scope)

/-- The names that were given in a row are different and new, and the scope holds them and no others besides its
own. -/
structure Given (scope : NameScope) (names : List String) (grown : NameScope) : Prop where
  names_eq : grown.names = names.reverse ++ scope.names
  nodup : names.Nodup
  new : ∀ name ∈ names, name ∉ scope.names

theorem claimAll_ok {candidates names : List String} (h : scope.claimAll candidates = .ok (names, grown)) :
    names.length = candidates.length ∧ scope.Given names grown := by
  induction candidates generalizing scope names with
  | nil =>
    cases h
    exact ⟨rfl, rfl, List.nodup_nil, by simp⟩
  | cons candidate rest ih =>
    simp only [claimAll, except_bind_ok, Prod.exists] at h
    obtain ⟨name, next, hclaim, more, last, hrest, hnames⟩ := h
    cases hnames
    obtain ⟨hoffers, rfl⟩ := claim_ok_iff.1 hclaim
    obtain ⟨hlength, heq, hnodup, hnew⟩ := ih hrest
    have hfree : name ∉ scope.names := fun hmem => by
      have hcontains := hoffers.adds.new
      rw [contains_eq_true.2 hmem] at hcontains
      cases hcontains
    -- the first name is taken when the others are given
    have hothers (other : String) (hother : other ∈ more) : other ≠ name ∧ other ∉ scope.names := by
      simpa [insert] using hnew other hother
    refine ⟨by rw [List.length_cons, List.length_cons, hlength], ?_, ?_, ?_⟩
    · rw [heq, List.reverse_cons, List.append_assoc]
      rfl
    · exact List.nodup_cons.2 ⟨fun hmem => (hothers name hmem).1 rfl, hnodup⟩
    · exact List.forall_mem_cons.2 ⟨hfree, fun other hother => (hothers other hother).2⟩

theorem Given.size_eq {names : List String} (h : scope.Given names grown) : grown.size = names.length + scope.size := by
  rw [size, h.names_eq, List.length_append, List.length_reverse, size]

/-- **Claims are exact.** A claim gives the name that is offered, which it adds to the scope and nothing else; it is
refused exactly when all forms of the candidate are taken, and in place it then leaves the scope as it was. A scope of
fewer than 2^32 names refuses nothing. After claims in a row from the empty scope, the scope holds as many different
names as there were claims, and these are the names that were given. -/
theorem claim_exact (scope : NameScope) (candidate : String) :
    (∀ name grown, scope.claim candidate = .ok (name, grown) ↔
      scope.Offers candidate name ∧ grown = scope.insert name) ∧
    (∀ name, scope.Offers candidate name → scope.Adds name (scope.insert name)) ∧
    (∀ e, scope.claim candidate = .error e ↔ scope.Exhausted candidate ∧ e = .namingExhausted candidate) ∧
    scope.claimInPlace candidate = scope.afterClaim (scope.claim candidate) ∧
    (scope.size < 2 ^ 32 → ∃ name, scope.claim candidate = .ok (name, scope.insert name)) ∧
    ∀ candidates names grown, empty.claimAll candidates = .ok (names, grown) →
      grown.size = candidates.length ∧ empty.Given names grown := by
  refine ⟨fun _ _ => claim_ok_iff, fun _ hoffers => hoffers.adds, fun _ => claim_error_iff,
    claimInPlace_eq scope candidate, fun hsmall => exists_claim_of_small hsmall candidate, ?_⟩
  intro candidates names grown hclaims
  obtain ⟨hlength, hgiven⟩ := claimAll_ok hclaims
  refine ⟨?_, hgiven⟩
  rw [hgiven.size_eq, hlength]
  rfl

/-- `Task1` is taken as it stands and then passed over when a second `Task` asks for a number. -/
theorem task_claim_exact :
    empty.claimAll ["Task1", "Task", "Task"] = .ok (["Task1", "Task", "Task2"], ⟨["Task2", "Task", "Task1"]⟩) ∧
      (⟨["Task", "Task1"]⟩ : NameScope).Offers "Task" "Task2" ∧
      (⟨["Task2", "Task", "Task1"]⟩ : NameScope).size = 3 ∧
      ∃ name, (⟨["Task", "Task1"]⟩ : NameScope).claim "Task" = .ok (name, ⟨[name, "Task", "Task1"]⟩) := by
  have hclaims : empty.claimAll ["Task1", "Task", "Task"] =
      .ok (["Task1", "Task", "Task2"], ⟨["Task2", "Task", "Task1"]⟩) := by
    decide +kernel
  have hclaim : (⟨["Task", "Task1"]⟩ : NameScope).claim "Task" = .ok ("Task2", ⟨["Task2", "Task", "Task1"]⟩) := by
    decide +kernel
  obtain ⟨hok, -, -, -, hsmall, hrow⟩ := claim_exact ⟨["Task", "Task1"]⟩ "Task"
  exact ⟨hclaims, ((hok _ _).1 hclaim).1, (hrow _ _ _ hclaims).1, hsmall (by decide)⟩

end ApiCatalog.Naming.NameScope
