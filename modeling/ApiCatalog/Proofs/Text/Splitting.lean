import Mathlib.Data.List.Basic

/-!
# Telling parts of a text apart

Where several things are written one behind the other, a reader has to know where each of them ends. `Unambiguous` says
that this is so for one way of writing, for instance when certain characters end it (`Unambiguous.of_stops`). From there it goes on
to sequences that end with a character of their own (`Unambiguous.flatMap`), and to lists with a separator
(`Unambiguous.intercalate`).
-/

namespace ApiCatalog

theorem takeWhile_append_of_head {α : Type} {p : α → Bool} {before after : List α} (hbefore : ∀ a ∈ before, p a = true)
    (hafter : ∀ a ∈ after.head?, p a = false) :
    (before ++ after).takeWhile p = before ∧ (before ++ after).dropWhile p = after := by
  rw [List.takeWhile_append_of_pos hbefore, List.dropWhile_append_of_pos hbefore]
  cases after with
  | nil => simp
  | cons a after =>
    have ha : ¬p a = true := by simp [hafter a rfl]
    rw [List.takeWhile_cons_of_neg ha, List.dropWhile_cons_of_neg ha, List.append_nil]
    exact ⟨rfl, rfl⟩

theorem append_inj_of_head {α : Type} {p : α → Bool} {before before' after after' : List α}
    (hbefore : ∀ a ∈ before, p a = true) (hbefore' : ∀ a ∈ before', p a = true) (hafter : ∀ a ∈ after.head?, p a = false)
    (hafter' : ∀ a ∈ after'.head?, p a = false) (heq : before ++ after = before' ++ after') :
    before = before' ∧ after = after' := by
  obtain ⟨htake, hdrop⟩ := takeWhile_append_of_head hbefore hafter
  obtain ⟨htake', hdrop'⟩ := takeWhile_append_of_head hbefore' hafter'
  rw [heq] at htake hdrop
  exact ⟨htake.symm.trans htake', hdrop.symm.trans hdrop'⟩

theorem takeWhile_ne {c : Char} {before after : List Char} (hbefore : c ∉ before) (hafter : ∀ d ∈ after.head?, d = c) :
    (before ++ after).takeWhile (· ≠ c) = before ∧ (before ++ after).dropWhile (· ≠ c) = after :=
  takeWhile_append_of_head (fun _ hd => decide_eq_true fun hdc => hbefore (hdc ▸ hd))
    fun d hd => decide_eq_false fun hne => hne (hafter d hd)

theorem split_at_first {c : Char} {before before' after after' : List Char} (h : c ∉ before) (h' : c ∉ before')
    (heq : before ++ c :: after = before' ++ c :: after') : before = before' ∧ after = after' := by
  have hhead (rest : List Char) : ∀ d ∈ (c :: rest).head?, d = c := by
    rintro d ⟨⟩
    rfl
  obtain ⟨htake, hdrop⟩ := takeWhile_ne h (hhead after)
  obtain ⟨htake', hdrop'⟩ := takeWhile_ne h' (hhead after')
  rw [heq] at htake hdrop
  exact ⟨htake.symm.trans htake', (List.cons.inj (hdrop.symm.trans hdrop')).2⟩

namespace Text
variable {α : Type} {write : α → List Char} {Follows : List Char → Prop}

/-- What is written can be told from the text, and so can its end, as long as what follows is as `Follows` says. -/
def Unambiguous (write : α → List Char) (Follows : List Char → Prop) : Prop :=
  ∀ ⦃a b : α⦄ ⦃rest rest' : List Char⦄, Follows rest → Follows rest' → write a ++ rest = write b ++ rest' →
    a = b ∧ rest = rest'

theorem intercalate_map_cons (separator : List Char) (a : α) (items : List α) :
    separator.intercalate ((a :: items).map write) = write a ++ items.flatMap fun b => separator ++ write b := by
  induction items generalizing a with
  | nil => simp
  | cons b items ih =>
    rw [List.map_cons, List.map_cons, List.intercalate_cons_cons, ← List.map_cons, ih b, List.flatMap_cons]
    simp only [List.append_assoc]

theorem not_mem_intercalate {c : Char} {separator : List Char} (hseparator : c ∉ separator) {items : List α}
    (hitems : ∀ a ∈ items, c ∉ write a) : c ∉ separator.intercalate (items.map write) := by
  cases items with
  | nil => simp
  | cons a items =>
    rw [intercalate_map_cons, List.mem_append, List.mem_flatMap]
    rintro (hfirst | ⟨b, hb, hmem⟩)
    · exact hitems a List.mem_cons_self hfirst
    · rcases List.mem_append.1 hmem with hmem | hmem
      · exact hseparator hmem
      · exact hitems b (List.mem_cons_of_mem a hb) hmem

theorem follows_flatMap (hnil : Follows []) {separator : List Char} (hfollows : ∀ rest, Follows (separator ++ rest))
    (items : List α) : Follows (items.flatMap fun a => separator ++ write a) := by
  cases items with
  | nil => exact hnil
  | cons a items =>
    rw [List.flatMap_cons, List.append_assoc]
    exact hfollows _

namespace Unambiguous

/-- **What ends at the first of some characters** is told apart when it is written in one way only. -/
theorem of_stops {stops : List Char} (hinjective : Function.Injective write) (hwrite : ∀ a, ∀ c ∈ write a, c ∉ stops) :
    Unambiguous write fun rest => ∀ c ∈ rest.head?, c ∈ stops := by
  have hstops (rest : List Char) (hrest : ∀ c ∈ rest.head?, c ∈ stops) : ∀ c ∈ rest.head?, decide (c ∉ stops) = false :=
    fun c hc => decide_eq_false (not_not_intro (hrest c hc))
  intro a b rest rest' hrest hrest' heq
  obtain ⟨hwritten, hbehind⟩ := append_inj_of_head (fun c hc => decide_eq_true (hwrite a c hc))
    (fun c hc => decide_eq_true (hwrite b c hc)) (hstops rest hrest) (hstops rest' hrest') heq
  exact ⟨hinjective hwritten, hbehind⟩

theorem flatMap (h : Unambiguous write fun _ => True) {close : Char}
    (hclose : ∀ (a : α) (rest rest' : List Char), write a ++ rest ≠ close :: rest') :
    Unambiguous (fun items : List α => items.flatMap write ++ [close]) fun _ => True := by
  intro items
  induction items with
  | nil =>
    rintro (_ | ⟨b, others⟩) rest rest' - - heq
    · exact ⟨rfl, (List.cons.inj heq).2⟩
    · simp only [List.flatMap_nil, List.nil_append, List.flatMap_cons, List.append_assoc] at heq
      exact absurd heq.symm (hclose b _ _)
  | cons a items ih =>
    rintro (_ | ⟨b, others⟩) rest rest' - - heq
    · simp only [List.flatMap_nil, List.nil_append, List.flatMap_cons, List.append_assoc] at heq
      exact absurd heq (hclose a _ _)
    · simp only [List.flatMap_cons, List.append_assoc] at heq
      obtain ⟨rfl, hbehind⟩ := h trivial trivial heq
      rw [← List.append_assoc, ← List.append_assoc] at hbehind
      obtain ⟨rfl, hrest⟩ := ih trivial trivial hbehind
      exact ⟨rfl, hrest⟩

theorem behindSeparator (h : Unambiguous write Follows) (hnil : Follows []) {separator : List Char}
    (hseparator : separator ≠ []) (hfollows : ∀ rest, Follows (separator ++ rest)) {items others : List α}
    (heq : (items.flatMap fun a => separator ++ write a) = others.flatMap fun a => separator ++ write a) :
    items = others := by
  induction items generalizing others with
  | nil =>
    cases others with
    | nil => rfl
    | cons b others =>
      rw [List.flatMap_nil, List.flatMap_cons, List.append_assoc] at heq
      exact absurd (List.append_eq_nil_iff.1 heq.symm).1 hseparator
  | cons a items ih =>
    cases others with
    | nil =>
      rw [List.flatMap_nil, List.flatMap_cons, List.append_assoc] at heq
      exact absurd (List.append_eq_nil_iff.1 heq).1 hseparator
    | cons b others =>
      rw [List.flatMap_cons, List.flatMap_cons, List.append_assoc, List.append_assoc] at heq
      obtain ⟨rfl, hbehind⟩ := h (follows_flatMap hnil hfollows items) (follows_flatMap hnil hfollows others)
        (List.append_cancel_left heq)
      rw [ih hbehind]

theorem intercalate (h : Unambiguous write Follows) (hnil : Follows []) (hnonempty : ∀ a, write a ≠ [])
    {separator : List Char} (hseparator : separator ≠ []) (hfollows : ∀ rest, Follows (separator ++ rest)) :
    Function.Injective fun items : List α => separator.intercalate (items.map write) := by
  rintro (_ | ⟨a, items⟩) (_ | ⟨b, others⟩) heq
  · rfl
  · dsimp only at heq
    rw [intercalate_map_cons] at heq
    exact absurd (List.append_eq_nil_iff.1 heq.symm).1 (hnonempty b)
  · dsimp only at heq
    rw [intercalate_map_cons] at heq
    exact absurd (List.append_eq_nil_iff.1 heq).1 (hnonempty a)
  · dsimp only at heq
    rw [intercalate_map_cons, intercalate_map_cons] at heq
    obtain ⟨rfl, hbehind⟩ := h (follows_flatMap hnil hfollows items) (follows_flatMap hnil hfollows others) heq
    rw [h.behindSeparator hnil hseparator hfollows hbehind]

end Unambiguous
end Text
end ApiCatalog
