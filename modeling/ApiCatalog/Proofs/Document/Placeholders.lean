import ApiCatalog.Document.Basic
import ApiCatalog.Proofs.Text.Splitting

/-!
# The placeholders of a route

A route can be taken apart into its placeholders, each with the text in front of it, and the text behind the last one
(`RouteParts`). The parts *split* the route when every placeholder starts at the first `<` and ends at the first `>`
behind it, and when none is left in the text at the end. There is exactly one way to split a route, and its names are the
placeholders (`ApiEntry.placeholders_eq_names`).

All of this rests on one fact: where a character stands for the first time, a text falls into two parts in one way only
(`split_at_first`). A reader that looks for `<` and for `>` in turns therefore meets the parts one by one.
-/

namespace ApiCatalog

/-! ## Parts of a route -/

/-- A route in parts: its placeholders, each behind the text in front of it, and the text behind the last one. -/
structure RouteParts where
  pieces : List (String × String) := []
  tail : String
  deriving DecidableEq, Repr

namespace RouteParts

def route (parts : RouteParts) : String :=
  parts.pieces.foldr (fun piece rest => piece.1 ++ "<" ++ piece.2 ++ ">" ++ rest) parts.tail

def names (parts : RouteParts) : List String := parts.pieces.map Prod.snd

/-- No placeholder is in the text: it has no `<`, or no `>` behind the first one. -/
def NoneLeft (text : String) : Prop :=
  '<' ∉ text.toList ∨ ∃ before after, text.toList = before ++ '<' :: after ∧ '<' ∉ before ∧ '>' ∉ after

/-- Every placeholder starts at the first `<` that is left, and ends at the first `>` behind it. -/
structure Splits (parts : RouteParts) (route : String) : Prop where
  joined : parts.route = route
  literal : ∀ piece ∈ parts.pieces, '<' ∉ piece.1.toList
  name : ∀ piece ∈ parts.pieces, '>' ∉ piece.2.toList
  tail : NoneLeft parts.tail

theorem toList_route_cons (literal name : String) (pieces : List (String × String)) (tail : String) :
    (route ⟨(literal, name) :: pieces, tail⟩).toList =
      literal.toList ++ '<' :: (name.toList ++ '>' :: (route ⟨pieces, tail⟩).toList) := by
  simp [route]

theorem splits_cons {literal name tail text : String} {pieces : List (String × String)} :
    Splits ⟨(literal, name) :: pieces, tail⟩ text ↔ ∃ rest, Splits ⟨pieces, tail⟩ rest ∧
      '<' ∉ literal.toList ∧ '>' ∉ name.toList ∧
        text.toList = literal.toList ++ '<' :: (name.toList ++ '>' :: rest.toList) := by
  constructor
  · rintro ⟨rfl, hliteral, hname, htail⟩
    obtain ⟨hliteral, hliterals⟩ := List.forall_mem_cons.1 hliteral
    obtain ⟨hname, hnames⟩ := List.forall_mem_cons.1 hname
    exact ⟨_, ⟨rfl, hliterals, hnames, htail⟩, hliteral, hname, toList_route_cons literal name pieces tail⟩
  · rintro ⟨rest, ⟨rfl, hliterals, hnames, htail⟩, hliteral, hname, htext⟩
    have hjoined : route ⟨(literal, name) :: pieces, tail⟩ = text :=
      String.toList_inj.1 ((toList_route_cons literal name pieces tail).trans htext.symm)
    exact ⟨hjoined, List.forall_mem_cons.2 ⟨hliteral, hliterals⟩, List.forall_mem_cons.2 ⟨hname, hnames⟩, htail⟩

theorem splits_nil {tail text : String} : Splits ⟨[], tail⟩ text ↔ tail = text ∧ NoneLeft tail :=
  ⟨fun h => ⟨h.joined, h.tail⟩, fun h => ⟨h.1, by simp, by simp, h.2⟩⟩

/-! ## One way to split a route -/

theorem NoneLeft.ne_piece {text : String} (h : NoneLeft text) {literal name rest : List Char} (hliteral : '<' ∉ literal) :
    text.toList ≠ literal ++ '<' :: (name ++ '>' :: rest) := by
  intro htext
  rcases h with hopen | ⟨before, after, hsplit, hbefore, hafter⟩
  · rw [htext] at hopen
    simp at hopen
  · obtain ⟨-, rfl⟩ := split_at_first hbefore hliteral (hsplit.symm.trans htext)
    simp at hafter

theorem Splits.unique {parts other : RouteParts} {text : String} (h : parts.Splits text) (hother : other.Splits text) :
    parts = other := by
  obtain ⟨pieces, tail⟩ := parts
  obtain ⟨pieces', tail'⟩ := other
  induction pieces generalizing pieces' text with
  | nil =>
    obtain ⟨rfl, hnone⟩ := splits_nil.1 h
    cases pieces' with
    | nil => rw [(splits_nil.1 hother).1]
    | cons piece' pieces' =>
      obtain ⟨rest, -, hliteral, -, htext⟩ := splits_cons.1 hother
      exact absurd htext (hnone.ne_piece hliteral)
  | cons piece pieces ih =>
    obtain ⟨literal, name⟩ := piece
    obtain ⟨rest, hrest, hliteral, hname, htext⟩ := splits_cons.1 h
    cases pieces' with
    | nil =>
      obtain ⟨rfl, hnone⟩ := splits_nil.1 hother
      exact absurd htext (hnone.ne_piece hliteral)
    | cons piece' pieces' =>
      obtain ⟨literal', name'⟩ := piece'
      obtain ⟨rest', hrest', hliteral', hname', htext'⟩ := splits_cons.1 hother
      -- the first bracket stands at the same place in both, and so does the one behind it
      obtain ⟨hliterals, hbehind⟩ := split_at_first hliteral hliteral' (htext.symm.trans htext')
      obtain ⟨hnames, hrests⟩ := split_at_first hname hname' hbehind
      obtain rfl := String.toList_inj.1 hliterals
      obtain rfl := String.toList_inj.1 hnames
      obtain rfl := String.toList_inj.1 hrests
      cases ih hrest pieces' hrest'
      rfl

theorem exists_splits (text : String) : ∃ parts : RouteParts, parts.Splits text := by
  generalize hlength : text.toList.length = length
  induction length using Nat.strongRecOn generalizing text with
  | ind length ih =>
    by_cases hopen : '<' ∈ text.toList
    · obtain ⟨literal, behind, htext, hliteral⟩ := List.eq_append_cons_of_mem hopen
      by_cases hclosed : '>' ∈ behind
      · obtain ⟨name, rest, rfl, hname⟩ := List.eq_append_cons_of_mem hclosed
        have hshorter : rest.length < length := by
          rw [← hlength, htext]
          simp only [List.length_append, List.length_cons]
          omega
        obtain ⟨⟨pieces, tail⟩, hrest⟩ := ih _ hshorter (String.ofList rest) (by rw [String.toList_ofList])
        exact ⟨⟨(String.ofList literal, String.ofList name) :: pieces, tail⟩,
          splits_cons.2 ⟨_, hrest, by simpa using hliteral, by simpa using hname, by simpa using htext⟩⟩
      · exact ⟨⟨[], text⟩, splits_nil.2 ⟨rfl, .inr ⟨literal, behind, htext, hliteral, hclosed⟩⟩⟩
    · exact ⟨⟨[], text⟩, splits_nil.2 ⟨rfl, .inl hopen⟩⟩

end RouteParts

/-! ## Reading a route -/

section Reading
variable {literal name text : List Char}

theorem placeholdersFrom_literal (h : '<' ∉ literal) (rest : List Char) :
    placeholdersFrom none (literal ++ rest) = placeholdersFrom none rest := by
  induction literal with
  | nil => rfl
  | cons c literal ih =>
    obtain ⟨hc, hliteral⟩ := not_or.1 (List.mem_cons.not.1 h)
    rw [List.cons_append, placeholdersFrom, if_neg (Ne.symm hc), ih hliteral]

theorem placeholdersFrom_name (h : '>' ∉ name) (read rest : List Char) :
    placeholdersFrom (some read) (name ++ rest) = placeholdersFrom (some (read ++ name)) rest := by
  induction name generalizing read with
  | nil => rw [List.nil_append, List.append_nil]
  | cons c name ih =>
    obtain ⟨hc, hname⟩ := not_or.1 (List.mem_cons.not.1 h)
    rw [List.cons_append, placeholdersFrom, if_neg (Ne.symm hc), ih hname, List.append_assoc, List.singleton_append]

theorem placeholdersFrom_piece (hliteral : '<' ∉ literal) (hname : '>' ∉ name) (rest : List Char) :
    placeholdersFrom none (literal ++ '<' :: (name ++ '>' :: rest)) =
      String.ofList name :: placeholdersFrom none rest := by
  rw [placeholdersFrom_literal hliteral, placeholdersFrom, if_pos rfl, placeholdersFrom_name hname, placeholdersFrom,
    if_pos rfl, List.nil_append]

theorem placeholdersFrom_noneLeft {text : String} (h : RouteParts.NoneLeft text) :
    placeholdersFrom none text.toList = [] := by
  rcases h with hopen | ⟨before, after, htext, hbefore, hafter⟩
  · have hread := placeholdersFrom_literal hopen []
    rwa [List.append_nil] at hread
  · have hread := placeholdersFrom_name hafter [] []
    rw [List.append_nil] at hread
    rw [htext, placeholdersFrom_literal hbefore, placeholdersFrom, if_pos rfl, hread]
    rfl

end Reading

theorem RouteParts.Splits.placeholdersFrom_eq {parts : RouteParts} {text : String} (h : parts.Splits text) :
    placeholdersFrom none text.toList = parts.names := by
  obtain ⟨pieces, tail⟩ := parts
  induction pieces generalizing text with
  | nil =>
    obtain ⟨rfl, hnone⟩ := splits_nil.1 h
    exact placeholdersFrom_noneLeft hnone
  | cons piece pieces ih =>
    obtain ⟨literal, name⟩ := piece
    obtain ⟨rest, hrest, hliteral, hname, htext⟩ := splits_cons.1 h
    rw [htext, placeholdersFrom_piece hliteral hname, ih hrest, String.ofList_toList]
    rfl

/-- **The placeholders of a route** are the names in the only parts that split it. -/
theorem ApiEntry.placeholders_eq_names (entry : ApiEntry) :
    ∃ parts : RouteParts, (∀ other : RouteParts, other.Splits entry.route ↔ other = parts) ∧
      entry.placeholders = parts.names := by
  obtain ⟨parts, hsplits⟩ := RouteParts.exists_splits entry.route
  refine ⟨parts, fun other => ⟨fun hother => hother.unique hsplits, ?_⟩, hsplits.placeholdersFrom_eq⟩
  rintro rfl
  exact hsplits

/-- A `<` within a placeholder and a `>` outside of one are characters like others, and the last `<` is never closed. -/
example : ({ route := "/a>b/<x<y>/<>/é<z" } : ApiEntry).placeholders = ["x<y", ""] := by decide

end ApiCatalog
