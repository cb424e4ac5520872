import ApiCatalog.Proofs.Json.Conforming
import ApiCatalog.Proofs.Json.Skipping

/-!
# Reading what is written

What a reader of a shape makes of a text is said by its tree: `Tree.conform` is what `conform` is for values, and fails
where a kept text has a surrogate without its other half or a kept number is out of range. The text is read from its
first character to its last, whatever white space stands between its tokens, and the result is the value that the tree
conforms to, or a failure where it conforms to none (`Reads`). Each loop of the reader is followed over the elements it
meets; what a whole tree is read as follows by recursion on the depth that is left, as the reader has it
(`reads_any`, `reads_shape`).

So nothing that is shown about conforming trees needs to be shown again about texts (`read_isWritten`).
-/

namespace ApiCatalog.Json

/-! ## Trees of a shape -/

/-- A step over the members of an object, each with the key that is meant. -/
def withKey {α β : Type} (step : β → String × α → Option β) (before : β) (member : List Glyph × α) : Option β :=
  (textMeant member.1).bind fun key => step before (key, member.2)

/-- Adds an entry to those before, or replaces the one with its key. -/
def conformEntry {α : Type} (item : α → Option Json) (seen : List (String × Json)) (member : String × α) :
    Option (List (String × Json)) :=
  (item member.2).map (putMember seen member.1)

/-- The members of a record, if none that is required is missing. -/
def complete {ρ : Type} (record : Record ρ) (seen : List (String × Json)) : Option Json :=
  match record.members.find? fun m => m.required && !seen.any (·.1 == m.key) with
  | some _ => none
  | none => some (.object seen)

namespace Tree

def text? : Tree → Option String
  | .text glyphs => textMeant glyphs
  | _ => none

def bool? : Tree → Option Bool
  | .bool value => some value
  | _ => none

def conformAny : (depth : Nat) → Tree → Option Json
  | depth, tree =>
    match tree with
    | .null => some .null
    | .bool value => some (.bool value)
    | .number negative numeral => (numeral.number negative).map .number
    | .text glyphs => (textMeant glyphs).map .text
    | .list items =>
      match depth with
      | 0 => none
      | depth + 1 => (items.mapM (conformAny depth)).map .list
    | .object members =>
      match depth with
      | 0 => none
      | depth + 1 => (members.foldlM (withKey (conformEntry (conformAny depth))) []).map .object

def conformNullable (value : Tree → Option Json) : Tree → Option Json
  | .null => some .null
  | tree => value tree

def conformAs (nullable : Bool) (value : Tree → Option Json) : Tree → Option Json :=
  if nullable then conformNullable value else value

def conform {ρ : Type} (layout : Layout ρ) : (depth : Nat) → Shape ρ → Tree → Option Json
  | depth, shape, tree =>
    match shape with
    | .any => tree.conformAny depth
    | .textOrTexts _ => (tree.conformAny depth).filter isTextOrTexts
    | .text => tree.text?.map .text
    | .flag => tree.bool?.map .bool
    | .list item =>
      match tree with
      | .list items =>
        match depth with
        | 0 => none
        | depth + 1 => (items.mapM (conform layout depth item)).map .list
      | _ => none
    | .map item =>
      match tree with
      | .object members =>
        match depth with
        | 0 => none
        | depth + 1 => (members.foldlM (withKey (conformEntry (conform layout depth item))) []).map .object
      | _ => none
    | .record name =>
      match tree with
      | .object members =>
        match depth with
        | 0 => none
        | depth + 1 =>
          (members.foldlM (withKey (conformMember (layout name) fun member =>
            conformAs member.nullable (conform layout depth member.shape))) []).bind (complete (layout name))
      | .list items =>
        match depth with
        | 0 => none
        | depth + 1 =>
          (conformPositional (fun member => conformAs member.nullable (conform layout depth member.shape))
            (layout name).members items).map .object
      | _ => none

end Tree

/-- The reader gives this result for a tree in a text, and stops right behind it. -/
def Reads {α : Type} (reader : List Char → Outcome α) (tree : Tree) (result : Option α) : Prop :=
  ∀ ⦃input rest : List Char⦄, Stands tree input rest → Delimited rest → Gives (reader input) result rest

/-! ## Between the brackets -/

theorem nextItem_closing (first : Bool) {input rest : List Char} (h : Gap input (']' :: rest)) :
    nextItem first input = .ok none := by
  rw [nextItem, h.skipSpace_token rfl]
  rfl

theorem nextItem_item (first : Bool) {item : Tree} {input start value more : List Char}
    (hseparates : Separates first input start) (hgap : Gap start value) (hitem : Spells item value more) :
    nextItem first input = .ok (some value) := by
  obtain ⟨c, chars, rfl, hstarts⟩ := exists_starts hitem
  have hspace := hgap.skipSpace_token hstarts.isJsonSpace
  cases hseparates with
  | first =>
    rw [nextItem, hspace]
    dsimp only
    rw [if_neg hstarts.ne_closing, if_pos rfl]
  | comma h =>
    rw [nextItem, h.skipSpace_token rfl]
    dsimp only
    rw [if_neg (by decide), if_neg Bool.false_ne_true, if_pos rfl, hspace]
    dsimp only
    rw [if_neg hstarts.ne_closing]

theorem nextKey_closing (first : Bool) {input rest : List Char} (h : Gap input ('\x7d' :: rest)) :
    nextKey first input = .ok none := by
  rw [nextKey, h.skipSpace_token rfl]
  rfl

theorem nextKey_key (first : Bool) {input key rest : List Char} (hseparates : Separates first input key)
    (hquote : Gap key ('"' :: rest)) : nextKey first input = .ok (some rest) := by
  cases hseparates with
  | first =>
    rw [nextKey, hquote.skipSpace_token rfl]
    rfl
  | comma h =>
    rw [nextKey, h.skipSpace_token rfl]
    dsimp only
    rw [if_neg (by decide), if_neg Bool.false_ne_true, if_pos rfl, hquote.skipSpace_token rfl]
    rfl

theorem readColon_gap {input rest : List Char} (h : Gap input (':' :: rest)) : readColon input = .ok rest := by
  rw [readColon, h.skipSpace_token rfl]
  rfl

theorem close_gap (bracket : Bracket) {input rest : List Char} (h : Gap input (bracket.closing :: rest)) :
    close bracket input = .ok rest := by
  have hspace : skipSpace input = bracket.closing :: rest := h.skipSpace_token (by cases bracket <;> rfl)
  rw [close, hspace]
  exact if_pos rfl

def thenClose {α : Type} (bracket : Bracket) (outcome : Outcome α) : Outcome α :=
  match outcome with
  | .error failure => .error failure
  | .ok (value, rest) =>
    match close bracket rest with
    | .error failure => .error failure
    | .ok rest => .ok (value, rest)

theorem gives_thenClose {α : Type} (bracket : Bracket) {value : α} {input rest : List Char}
    (h : Gap input (bracket.closing :: rest)) : Gives (thenClose bracket (.ok (value, input))) (some value) rest := by
  unfold thenClose
  dsimp only
  rw [close_gap bracket h]
  exact .ok

theorem result_of_error {α : Type} {failure : Failure} {result : Option α} {rest : List Char}
    (h : Gives (.error failure) result rest) : result = none := by
  rcases h.cases with ⟨_, hread, -⟩ | ⟨_, -, hnone⟩
  · cases hread
  · exact hnone

theorem result_of_thenClose_ok {α : Type} {bracket : Bracket} {value : α} {input rest : List Char} {result : Option α}
    (h : Gives (thenClose bracket (.ok (value, input))) result rest) : result = some value ∨ result = none := by
  rcases h.cases with ⟨value', hread, hsome⟩ | ⟨_, -, hnone⟩
  · unfold thenClose at hread
    dsimp only at hread
    split at hread
    · cases hread
    · obtain ⟨rfl, -⟩ := Prod.mk.inj (Except.ok.inj hread)
      exact .inl hsome
  · exact .inr hnone

theorem thenClose_map {α β : Type} (bracket : Bracket) (outcome : Outcome α) (f : α → β) :
    thenClose bracket (outcome.map fun (value, rest) => (f value, rest)) =
      (thenClose bracket outcome).map fun (value, rest) => (f value, rest) := by
  rcases outcome with failure | ⟨value, rest⟩
  · rfl
  · show (match close bracket rest with
      | .error failure => Except.error failure
      | .ok rest => .ok (f value, rest)) = Except.map _ (match close bracket rest with
      | .error failure => Except.error failure
      | .ok rest => .ok (value, rest))
    cases close bracket rest <;> rfl

/-- A bracket gives its value when it closes behind it; only the place of a failure changes. -/
theorem gives_enclosed (bracket : Bracket) {body : List Char → Outcome Json} {input rest : List Char}
    {result : Option Json} (h : Gives (thenClose bracket (body input)) result rest) :
    Gives (enclosed bracket body input) result rest := by
  unfold enclosed
  unfold thenClose at h
  generalize body input = outcome at h ⊢
  rcases outcome with failure | ⟨value, rest'⟩
  · obtain rfl := result_of_error h
    exact .error
  · exact h

/-! ## Loops -/

theorem mapM_cons {α β : Type} (f : α → Option β) (a : α) (rest : List α) :
    (a :: rest).mapM f = (f a).bind fun b => (rest.mapM f).map (b :: ·) := by
  rw [List.mapM_cons]
  cases f a with
  | none => rfl
  | some b => cases rest.mapM f <;> rfl

theorem gives_readItems {item : List Char → Outcome Json} {value : Tree → Option Json} {items : List Tree}
    (h : ∀ tree ∈ items, Reads item tree (value tree)) {budget : Nat} (hbudget : items.length < budget) {first : Bool}
    {input rest : List Char} (hitems : SpellsItems first items input (']' :: rest)) :
    Gives (thenClose .list (readItems item budget first input)) (items.mapM value) rest := by
  induction items generalizing budget first input with
  | nil =>
    obtain ⟨budget, rfl⟩ := Nat.exists_eq_add_one_of_ne_zero (Nat.ne_zero_of_lt hbudget)
    cases hitems with
    | nil hgap =>
      rw [readItems, nextItem_closing first hgap]
      exact gives_thenClose .list hgap
  | cons tree items ih =>
    obtain ⟨htree, htrees⟩ := List.forall_mem_cons.1 h
    obtain ⟨budget, rfl⟩ := Nat.exists_eq_add_one_of_ne_zero (Nat.ne_zero_of_lt hbudget)
    cases hitems with
    | cons hseparates hgap hitem hitems =>
      rw [readItems, nextItem_item first hseparates hgap hitem, mapM_cons]
      dsimp only
      rcases (htree hitem.stands hitems.delimited).cases with ⟨value, hread, hvalue⟩ | ⟨failure, hread, hvalue⟩
      · rw [hvalue, hread]
        dsimp only
        rw [thenClose_map]
        exact (ih htrees (Nat.lt_of_succ_lt_succ hbudget) hitems).map (value :: ·)
      · rw [hvalue, hread]
        exact .error

theorem gives_readEntries {item : List Char → Outcome Json} {value : Tree → Option Json}
    {members : List (List Glyph × Tree)} (h : ∀ member ∈ members, Reads item member.2 (value member.2)) {budget : Nat}
    (hbudget : members.length < budget) {first : Bool} (seen : List (String × Json)) {input rest : List Char}
    (hmembers : SpellsMembers first members input ('\x7d' :: rest)) :
    Gives (thenClose .object (readEntries item budget first seen input))
      (members.foldlM (withKey (conformEntry value)) seen) rest := by
  induction members generalizing budget first seen input with
  | nil =>
    obtain ⟨budget, rfl⟩ := Nat.exists_eq_add_one_of_ne_zero (Nat.ne_zero_of_lt hbudget)
    cases hmembers with
    | nil hgap =>
      rw [readEntries, nextKey_closing first hgap]
      exact gives_thenClose .object hgap
  | cons member members ih =>
    obtain ⟨hmember, hrest⟩ := List.forall_mem_cons.1 h
    obtain ⟨budget, rfl⟩ := Nat.exists_eq_add_one_of_ne_zero (Nat.ne_zero_of_lt hbudget)
    cases hmembers with
    | @cons _ glyphs tree _ _ _ start _ more _ hseparates hkey hgap htree hmembers =>
      obtain ⟨colon, hquote, hcolon⟩ := hkey
      rw [readEntries, nextKey_key first hseparates hquote, List.foldlM_cons, withKey]
      dsimp only
      rcases (gives_readText glyphs colon).cases with ⟨key, hread, hkey⟩ | ⟨failure, hread, hkey⟩
      · rw [hread, hkey, Option.bind_some, conformEntry]
        dsimp only
        rw [readColon_gap hcolon]
        dsimp only
        rcases (hmember ⟨_, hgap, htree⟩ hmembers.delimited).cases with ⟨json, hread, hvalue⟩ | ⟨failure, hread, hvalue⟩
        · rw [hread, hvalue]
          exact ih hrest (Nat.lt_of_succ_lt_succ hbudget) (putMember seen key json) hmembers
        · rw [hread, hvalue]
          exact .error
      · rw [hread, hkey]
        exact .error

section Records
variable {ρ : Type} (record : Record ρ) {reader : Member ρ → List Char → Outcome Json}
  {value : Member ρ → Tree → Option Json}

theorem gives_readMembers {members : List (List Glyph × Tree)}
    (h : ∀ known, ∀ member ∈ members, Reads (reader known) member.2 (value known member.2)) {budget : Nat}
    (hbudget : members.length < budget) {first : Bool} (seen : List (String × Json)) {input rest : List Char}
    (hmembers : SpellsMembers first members input ('\x7d' :: rest)) :
    Gives (thenClose .object (readMembers record reader budget first seen input))
      (members.foldlM (withKey (conformMember record value)) seen) rest := by
  induction members generalizing budget first seen input with
  | nil =>
    obtain ⟨budget, rfl⟩ := Nat.exists_eq_add_one_of_ne_zero (Nat.ne_zero_of_lt hbudget)
    cases hmembers with
    | nil hgap =>
      rw [readMembers, nextKey_closing first hgap]
      exact gives_thenClose .object hgap
  | cons member members ih =>
    have hrest : ∀ known, ∀ member ∈ members, Reads (reader known) member.2 (value known member.2) :=
      fun known member hmember => h known member (List.mem_cons_of_mem _ hmember)
    obtain ⟨budget, rfl⟩ := Nat.exists_eq_add_one_of_ne_zero (Nat.ne_zero_of_lt hbudget)
    cases hmembers with
    | @cons _ glyphs tree _ _ _ start _ more _ hseparates hkey hgap htree hmembers =>
      have hnext (seen : List (String × Json)) := ih hrest (Nat.lt_of_succ_lt_succ hbudget) seen hmembers
      have hdelimited := hmembers.delimited
      obtain ⟨colon, hquote, hcolon⟩ := hkey
      rw [readMembers, nextKey_key first hseparates hquote, List.foldlM_cons, withKey]
      dsimp only
      rcases (gives_readText glyphs colon).cases with ⟨key, hread, hkey⟩ | ⟨failure, hread, hkey⟩
      · rw [hread, hkey, Option.bind_some, conformMember]
        simp only [readColon_gap hcolon]
        cases record.find? key with
        | none =>
          dsimp only
          rw [skipValue_stands ⟨_, hgap, htree⟩ hdelimited]
          exact hnext seen
        | some known =>
          dsimp only
          split
          · exact .error
          · rcases (h known (glyphs, tree) List.mem_cons_self ⟨_, hgap, htree⟩ hdelimited).cases with
              ⟨json, hread, hvalue⟩ | ⟨failure, hread, hvalue⟩
            · rw [hread, hvalue]
              exact hnext _
            · rw [hread, hvalue]
              exact .error
      · rw [hread, hkey]
        exact .error

theorem gives_readRecordObject {members : List (List Glyph × Tree)}
    (h : ∀ known, ∀ member ∈ members, Reads (reader known) member.2 (value known member.2)) {input rest : List Char}
    (hmembers : SpellsMembers true members input ('\x7d' :: rest)) :
    Gives (thenClose .object (readRecordObject record reader input))
      ((members.foldlM (withKey (conformMember record value)) []).bind (complete record)) rest := by
  have hle := hmembers.length_le
  have hread := gives_readMembers record h (by omega : members.length < input.length + 1) [] hmembers
  unfold readRecordObject
  generalize readMembers record reader (input.length + 1) true [] input = outcome at hread ⊢
  generalize members.foldlM (withKey (conformMember record value)) [] = result at hread ⊢
  rcases outcome with failure | ⟨seen, input'⟩
  · obtain rfl := result_of_error hread
    exact .error
  · have hmap := hread.map Json.object
    rw [← thenClose_map] at hmap
    rcases result_of_thenClose_ok hread with rfl | rfl
    · rw [Option.bind_some, complete]
      dsimp only
      cases record.members.find? fun m => m.required && !seen.any (·.1 == m.key) with
      | none => exact hmap
      | some missing => exact .error
    · dsimp only
      cases record.members.find? fun m => m.required && !seen.any (·.1 == m.key) with
      | none => exact hmap
      | some missing => exact .error

theorem close_item {first : Bool} {item : Tree} {input start value more : List Char}
    (hseparates : Separates first input start) (hgap : Gap start value) (hitem : Spells item value more) :
    ∃ failure, close .list input = .error failure := by
  have hother {c : Char} {input chars : List Char} (hspace : skipSpace input = c :: chars) (hc : c ≠ ']') :
      ∃ failure, close .list input = .error failure := by
    unfold close
    rw [hspace]
    dsimp only
    rw [if_neg (show ¬c = Bracket.list.closing from hc)]
    split
    · split <;> exact ⟨_, rfl⟩
    · exact ⟨_, rfl⟩
  obtain ⟨c, chars, rfl, hstarts⟩ := exists_starts hitem
  cases hseparates with
  | first => exact hother (hgap.skipSpace_token hstarts.isJsonSpace) hstarts.ne_closing
  | comma h => exact hother (h.skipSpace_token rfl) (by decide)

/-- The members of a record that was written as a list, up to the end of the list: more items than there are members
are a failure. -/
theorem gives_readPositional {items : List Tree} (known : List (Member ρ)) (index : Nat)
    (h : ∀ known, ∀ item ∈ items, Reads (reader known) item (value known item)) {input rest : List Char}
    (hitems : SpellsItems (index == 0) items input (']' :: rest)) :
    Gives (thenClose .list (readPositional record reader known index input)) (conformPositional value known items) rest := by
  induction known generalizing index items input with
  | nil =>
    cases hitems with
    | nil hgap => exact gives_thenClose .list hgap
    | cons hseparates hgap hitem _ =>
      obtain ⟨failure, hfailure⟩ := close_item hseparates hgap hitem
      unfold readPositional thenClose
      dsimp only
      rw [hfailure]
      exact .error
  | cons member more ih =>
    cases hitems with
    | nil hgap =>
      have hnext : Gives (thenClose .list (readPositional record reader more (index + 1) input))
          (conformPositional value more []) rest := ih (index + 1) (by simp) (.nil hgap)
      rw [readPositional, nextItem_closing _ hgap, conformPositional]
      dsimp only
      split
      · exact .error
      · exact hnext
    | @cons _ item items _ _ _ _ _ hseparates hgap hitem hitems =>
      have hrest : ∀ known, ∀ item ∈ items, Reads (reader known) item (value known item) :=
        fun known item hitem => h known item (List.mem_cons_of_mem _ hitem)
      rw [readPositional, nextItem_item _ hseparates hgap hitem, conformPositional]
      dsimp only
      rcases (h member item List.mem_cons_self hitem.stands hitems.delimited).cases with
        ⟨value, hread, hvalue⟩ | ⟨failure, hread, hvalue⟩
      · rw [hvalue, hread]
        dsimp only
        rw [thenClose_map]
        exact (ih (index + 1) hrest hitems).map ((member.key, value) :: ·)
      · rw [hvalue, hread]
        exact .error

theorem gives_readRecordList {items : List Tree}
    (h : ∀ known, ∀ item ∈ items, Reads (reader known) item (value known item)) {input rest : List Char}
    (hitems : SpellsItems true items input (']' :: rest)) :
    Gives (thenClose .list (readRecordList record reader input))
      ((conformPositional value record.members items).map Json.object) rest := by
  rw [readRecordList, thenClose_map]
  exact (gives_readPositional record record.members 0 h hitems).map Json.object

end Records

theorem gives_readList {item : List Char → Outcome Json} {value : Tree → Option Json} {items : List Tree}
    (h : ∀ tree ∈ items, Reads item tree (value tree)) {input rest : List Char}
    (hitems : SpellsItems true items input (']' :: rest)) :
    Gives (thenClose .list (readList item input)) ((items.mapM value).map Json.list) rest := by
  have hle := hitems.length_le
  rw [readList, thenClose_map]
  exact (gives_readItems h (by omega) hitems).map Json.list

theorem gives_readMap {item : List Char → Outcome Json} {value : Tree → Option Json} {members : List (List Glyph × Tree)}
    (h : ∀ member ∈ members, Reads item member.2 (value member.2)) {input rest : List Char}
    (hmembers : SpellsMembers true members input ('\x7d' :: rest)) :
    Gives (thenClose .object (readMap item input)) ((members.foldlM (withKey (conformEntry value)) []).map Json.object)
      rest := by
  have hle := hmembers.length_le
  rw [readMap, thenClose_map]
  exact (gives_readEntries h (by omega) [] hmembers).map Json.object

/-! ## Values -/

theorem reads_any_number (depth : Nat) (negative : Bool) (numeral : Numeral) :
    Reads (readAny depth) (.number negative numeral) ((numeral.number negative).map Json.number) := by
  intro input rest hstands hrest
  obtain ⟨c, more, hspace, hstarts, hspells⟩ := hstands.exists_starts
  have hread := (numeral.gives_readNumber negative hrest).map Json.number
  rw [readAny, hspace]
  have hchars := hspells.eq_of_number
  cases hstarts with
  | minus =>
    obtain rfl := (List.cons.inj hchars).2
    exact hread
  | digit hdigit =>
    replace hchars : c :: more = numeral.chars ++ rest := hchars
    dsimp only
    rw [if_neg (ne_of_isDigit hdigit rfl), if_neg (ne_of_isDigit hdigit rfl), if_neg (ne_of_isDigit hdigit rfl),
      if_neg (ne_of_isDigit hdigit rfl), if_pos hdigit, hchars]
    exact hread

theorem reads_any : ∀ (depth : Nat) (tree : Tree), Reads (readAny depth) tree (tree.conformAny depth)
  | depth, .number negative numeral => by
    unfold Tree.conformAny
    exact reads_any_number depth negative numeral
  | depth, .null => fun _ _ hstands _ => by
    obtain ⟨_, _, hspace, -, ⟨⟩⟩ := hstands.exists_starts
    rw [readAny, hspace, Tree.conformAny]
    exact .ok
  | depth, .bool true => fun _ _ hstands _ => by
    obtain ⟨_, _, hspace, -, ⟨⟩⟩ := hstands.exists_starts
    rw [readAny, hspace, Tree.conformAny]
    exact .ok
  | depth, .bool false => fun _ _ hstands _ => by
    obtain ⟨_, _, hspace, -, ⟨⟩⟩ := hstands.exists_starts
    rw [readAny, hspace, Tree.conformAny]
    exact .ok
  | depth, .text glyphs => fun _ rest hstands _ => by
    obtain ⟨_, _, hspace, -, ⟨⟩⟩ := hstands.exists_starts
    rw [readAny, hspace, Tree.conformAny]
    exact (gives_readText glyphs rest).map Json.text
  | 0, .list items => fun _ _ hstands _ => by
    obtain ⟨_, _, hspace, -, ⟨⟩⟩ := hstands.exists_starts
    rw [readAny, hspace, Tree.conformAny]
    exact .error
  | depth + 1, .list items => fun _ _ hstands _ => by
    obtain ⟨_, _, hspace, -, hspells⟩ := hstands.exists_starts
    cases hspells with
    | list hitems =>
      rw [readAny, hspace, Tree.conformAny]
      exact gives_enclosed .list (gives_readList (fun tree _ => reads_any depth tree) hitems)
  | 0, .object members => fun _ _ hstands _ => by
    obtain ⟨_, _, hspace, -, ⟨⟩⟩ := hstands.exists_starts
    rw [readAny, hspace, Tree.conformAny]
    exact .error
  | depth + 1, .object members => fun _ _ hstands _ => by
    obtain ⟨_, _, hspace, -, hspells⟩ := hstands.exists_starts
    cases hspells with
    | object hmembers =>
      rw [readAny, hspace, Tree.conformAny]
      exact gives_enclosed .object (gives_readMap (fun member _ => reads_any depth member.2) hmembers)

theorem Reads.nullable {reader : List Char → Outcome Json} {value : Tree → Option Json} {tree : Tree}
    (h : Reads reader tree (value tree)) : Reads (readNullable reader) tree (Tree.conformNullable value tree) := by
  intro input rest hstands hrest
  obtain ⟨c, more, hspace, hstarts, hspells⟩ := hstands.exists_starts
  have hread := h hspells.stands hrest
  unfold readNullable
  rw [hspace]
  cases hstarts with
  | null =>
    cases hspells
    exact .ok
  | digit hdigit =>
    split
    · next heq => exact absurd (List.cons.inj heq).1 (ne_of_isDigit hdigit rfl)
    · exact hread
  | _ => exact hread

/-! ## Shapes -/

theorem Gives.textOrTexts {outcome : Outcome Json} {result : Option Json} {rest : List Char} (h : Gives outcome result rest)
    (name : String) :
    Gives
      (match outcome with
        | .error failure => .error failure
        | .ok (value, rest) =>
          if isTextOrTexts value then .ok (value, rest) else .error (.unplaced (.noVariant name) rest))
      (result.filter isTextOrTexts) rest := by
  obtain ⟨value, rfl, rfl⟩ | ⟨failure, rfl, rfl⟩ := h.cases
  · rw [Option.filter_some]
    dsimp only
    split
    · exact .ok
    · exact .error
  · exact .error

section Kinds
variable {tree : Tree} {c : Char} {more rest : List Char} {failure : Failure}

theorem gives_quoted (hstarts : Starts tree c) (hspells : Spells tree (c :: more) rest) :
    Gives (if c = '"' then (readText more).map fun (value, rest) => (.text value, rest) else .error failure)
      (tree.text?.map Json.text) rest := by
  cases hstarts with
  | @text glyphs =>
    cases hspells
    exact (gives_readText glyphs rest).map Json.text
  | digit h =>
    rw [if_neg (ne_of_isDigit h rfl)]
    exact .error
  | _ => exact .error

theorem gives_flag (hstarts : Starts tree c) (hspells : Spells tree (c :: more) rest) :
    Gives
      (if c = 't' then readMeaning ['r', 'u', 'e'] (.bool true) more
        else if c = 'f' then readMeaning ['a', 'l', 's', 'e'] (.bool false) more
        else .error failure)
      (tree.bool?.map Json.bool) rest := by
  cases hstarts with
  | yes =>
    cases hspells
    exact .ok
  | no =>
    cases hspells
    exact .ok
  | digit h =>
    rw [if_neg (ne_of_isDigit h rfl), if_neg (ne_of_isDigit h rfl)]
    exact .error
  | _ => exact .error

-- what is made of a tree must not depend on how it starts, so the facts about that stand behind the colon from here on

theorem gives_items {outcome : Outcome Json} {result : List Tree → Option Json} :
    Starts tree c → Spells tree (c :: more) rest →
      (∀ items, SpellsItems true items more (']' :: rest) → Gives outcome (result items) rest) →
        Gives (if c = '[' then outcome else .error failure)
          (match tree with
            | .list items => result items
            | _ => none) rest := by
  intro hstarts hspells hitems
  cases hstarts with
  | list =>
    cases hspells with
    | list h => exact hitems _ h
  | digit h =>
    rw [if_neg (ne_of_isDigit h rfl)]
    exact .error
  | _ => exact .error

theorem gives_members {outcome : Outcome Json} {result : List (List Glyph × Tree) → Option Json} :
    Starts tree c → Spells tree (c :: more) rest →
      (∀ members, SpellsMembers true members more ('\x7d' :: rest) → Gives outcome (result members) rest) →
        Gives (if c = '\x7b' then outcome else .error failure)
          (match tree with
            | .object members => result members
            | _ => none) rest := by
  intro hstarts hspells hmembers
  cases hstarts with
  | object =>
    cases hspells with
    | object h => exact hmembers _ h
  | digit h =>
    rw [if_neg (ne_of_isDigit h rfl)]
    exact .error
  | _ => exact .error

theorem gives_record {asObject asList : Outcome Json} {ofMembers : List (List Glyph × Tree) → Option Json}
    {ofItems : List Tree → Option Json} :
    Starts tree c → Spells tree (c :: more) rest →
      (∀ members, SpellsMembers true members more ('\x7d' :: rest) → Gives asObject (ofMembers members) rest) →
      (∀ items, SpellsItems true items more (']' :: rest) → Gives asList (ofItems items) rest) →
        Gives (if c = '\x7b' then asObject else if c = '[' then asList else .error failure)
          (match tree with
            | .object members => ofMembers members
            | .list items => ofItems items
            | _ => none) rest := by
  intro hstarts hspells hmembers hitems
  cases hstarts with
  | object =>
    cases hspells with
    | object h => exact hmembers _ h
  | list =>
    cases hspells with
    | list h => exact hitems _ h
  | digit h =>
    rw [if_neg (ne_of_isDigit h rfl), if_neg (ne_of_isDigit h rfl)]
    exact .error
  | _ => exact .error

end Kinds

section Shapes
variable {ρ : Type} (layout : Layout ρ)

theorem reads_member {depth : Nat}
    (h : ∀ shape tree, Reads (readShape layout depth shape) tree (tree.conform layout depth shape)) (member : Member ρ)
    (tree : Tree) :
    Reads
      (if member.nullable then readNullable (readShape layout depth member.shape)
        else readShape layout depth member.shape)
      tree (Tree.conformAs member.nullable (Tree.conform layout depth member.shape) tree) := by
  unfold Tree.conformAs
  split
  · exact Reads.nullable (h member.shape tree)
  · exact h member.shape tree

/-- A shape is read with the readers of the level below, if there is one. -/
theorem reads_shape_of_lower {depth : Nat}
    (hlower : ∀ lower, depth = lower + 1 →
      ∀ shape tree, Reads (readShape layout lower shape) tree (tree.conform layout lower shape))
    (shape : Shape ρ) (tree : Tree) : Reads (readShape layout depth shape) tree (tree.conform layout depth shape) := by
  intro input rest hstands hrest
  obtain ⟨c, more, hspace, hstarts, hspells⟩ := hstands.exists_starts
  rw [readShape, hspace]
  unfold Tree.conform
  cases shape with
  | any => exact reads_any depth tree hspells.stands hrest
  | textOrTexts name => exact (reads_any depth tree hspells.stands hrest).textOrTexts name
  | text => exact gives_quoted hstarts hspells
  | flag => exact gives_flag hstarts hspells
  | list item =>
    refine gives_items hstarts hspells fun items hitems => ?_
    cases depth with
    | zero => exact .error
    | succ depth => exact gives_enclosed .list (gives_readList (fun tree _ => hlower depth rfl item tree) hitems)
  | map item =>
    refine gives_members hstarts hspells fun members hmembers => ?_
    cases depth with
    | zero => exact .error
    | succ depth => exact gives_enclosed .object (gives_readMap (fun member _ => hlower depth rfl item member.2) hmembers)
  | record name =>
    refine gives_record hstarts hspells (fun members hmembers => ?_) fun items hitems => ?_
    · cases depth with
      | zero => exact .error
      | succ depth =>
        exact gives_enclosed .object (gives_readRecordObject (layout name)
          (fun known member _ => reads_member layout (hlower depth rfl) known member.2) hmembers)
    · cases depth with
      | zero => exact .error
      | succ depth =>
        exact gives_enclosed .list (gives_readRecordList (layout name)
          (fun known item _ => reads_member layout (hlower depth rfl) known item) hitems)

/-- **A value is read by a shape** as the value it conforms to. -/
theorem reads_shape (depth : Nat) :
    ∀ (shape : Shape ρ) (tree : Tree), Reads (readShape layout depth shape) tree (tree.conform layout depth shape) := by
  induction depth with
  | zero => exact reads_shape_of_lower layout (by simp)
  | succ depth ih => exact reads_shape_of_lower layout (by rintro _ ⟨⟩; exact ih)

/-- **Reading a text is conforming its tree.** -/
theorem read_isWritten {shape : Shape ρ} {tree : Tree} {text : String} {value : Json} (h : tree.IsWritten text) :
    Json.read layout shape text = .ok value ↔ tree.conform layout depthLimit shape = some value := by
  obtain ⟨rest, hstands, hgap⟩ := h
  have hspace : skipSpace rest = [] := hgap.skipSpace
  have hread := reads_shape layout depthLimit shape tree hstands hgap.delimited_nil
  unfold Json.read Json.readWhole
  rcases hread.cases with ⟨value', hread, hvalue⟩ | ⟨failure, hread, hvalue⟩
  · rw [hvalue, hread]
    dsimp only
    rw [hspace]
    show Except.ok value' = .ok value ↔ _
    rw [Except.ok.injEq, Option.some.injEq]
  · rw [hvalue, hread]
    simp [Except.mapError]

end Shapes

end ApiCatalog.Json
