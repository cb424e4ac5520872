import ApiCatalog.Dump
import ApiCatalog.Proofs.Json.Unambiguous
import ApiCatalog.Proofs.Text.Quoting

/-!
# Lines of a dump

What a line of a node shows is a `Row`: a text of the node, the names it requires, its values, the name of a property,
or that items follow. The first three characters of a line tell which of these it is, and none of them is a space, so
the indent of a line can be told as well (`PlacedRow.line_injective`). Only what is shown as it is can break a line
(`Row.newline_not_mem_line`); where nothing does, the lines can be told from the text (`text_inj`).
-/

namespace ApiCatalog.Dump

/-! ## Rows -/

inductive TextField where
  | title | description | type | format | reference

/-- What a line of a node shows. -/
inductive Row where
  | text (textField : TextField) (value : String)
  | required (names : List String)
  | allowed (values : List Json)
  | property (name : String)
  | items

namespace Row

/-- What a line is about. -/
inductive Kind where
  | text (textField : TextField)
  | required | allowed | property | items

def kind : Row → Kind
  | .text textField _ => .text textField
  | .required _ => .required
  | .allowed _ => .allowed
  | .property _ => .property
  | .items => .items

/-- What a line starts with. -/
def Kind.label : Kind → String
  | .text .title => "Title        "
  | .text .description => "Description  "
  | .text .type => "Type         "
  | .text .format => "Format       "
  | .text .reference => "Reference    "
  | .required => "Required     "
  | .allowed => "Enum         "
  | .property => "Property '"
  | .items => "Items ="

/-- What comes behind the label. -/
def shown : Row → String
  | .text _ value => " = '" ++ value ++ "'"
  | .required names => " = '" ++ texts names ++ "'"
  | .allowed values => " = '" ++ ", ".intercalate (values.map Json.compact) ++ "'"
  | .property name => name ++ "' ="
  | .items => ""

/-- The line without its indent. -/
def line (row : Row) : String := row.kind.label ++ row.shown

theorem field_eq_line (row : Row) {value : String} (h : row.shown = " = '" ++ value ++ "'") :
    field row.kind.label value = row.line := by
  rw [line, h, field, String.append_assoc, String.append_assoc, String.append_assoc]

/-- What is shown as it is. -/
def plainTexts : Row → List String
  | .text _ value => [value]
  | .property name => [name]
  | .required _ | .allowed _ | .items => []

/-- Whether a line is about the node itself, and not about a part of it. -/
def isOwn : Row → Bool
  | .text .. | .required _ | .allowed _ => true
  | .property _ | .items => false

/-! ## Telling rows apart -/

/-- The first three characters of a line. -/
def Kind.start (kind : Kind) : List Char := kind.label.toList.take 3

theorem Kind.start_injective : Function.Injective start := by
  rintro ((_ | _) | _) ((_ | _) | _) h <;> first | rfl | exact absurd h (by decide)

theorem take_line (row : Row) : row.line.toList.take 3 = row.kind.start := by
  have hlength (kind : Kind) : 3 ≤ kind.label.toList.length := by rcases kind with (_ | _) | _ <;> decide
  rw [line, String.toList_append, List.take_append_of_le_length (hlength row.kind)]
  rfl

theorem enclosed_inj {before after a b : String} (h : before ++ a ++ after = before ++ b ++ after) : a = b :=
  (String.append_right_inj _).1 ((String.append_left_inj _).1 h)

theorem line_injective : Function.Injective line := by
  intro a b heq
  have hkind : a.kind = b.kind := Kind.start_injective (by rw [← take_line a, ← take_line b, heq])
  rw [line, line, hkind] at heq
  have hshown : a.shown = b.shown := (String.append_right_inj _).1 heq
  cases a with
  | text textField value =>
    cases b with
    | text textField' value' =>
      cases hkind
      have hvalue : value = value' := enclosed_inj hshown
      rw [hvalue]
    | _ => cases hkind
  | required names =>
    cases b with
    | required names' =>
      have hnames : texts names = texts names' := enclosed_inj hshown
      rw [Text.bracketed_quoted_injective hnames]
    | _ => cases hkind
  | allowed values =>
    cases b with
    | allowed values' => rw [Json.intercalate_compact_injective (enclosed_inj hshown)]
    | _ => cases hkind
  | property name =>
    cases b with
    | property name' => rw [(String.append_left_inj _).1 hshown]
    | _ => cases hkind
  | items =>
    cases b with
    | items => rfl
    | _ => cases hkind

theorem head?_line (row : Row) : ∀ c ∈ row.line.toList.head?, decide (c = ' ') = false := by
  have hhead : row.line.toList.head? = row.kind.start.head? := by
    rw [← take_line row, List.head?_take, if_neg (by decide)]
  have hstart (kind : Kind) : ' ' ∉ kind.start := by rcases kind with (_ | _) | _ <;> decide
  intro c hc
  rw [hhead] at hc
  exact decide_eq_false fun hspace => hstart row.kind (hspace ▸ List.mem_of_mem_head? hc)

/-! ## Line feeds -/

theorem newline_not_mem_enclosed {text : String} (h : '\n' ∉ text.toList) : '\n' ∉ (" = '" ++ text ++ "'").toList := by
  simp only [String.toList_append, List.mem_append, not_or]
  exact ⟨⟨by decide, h⟩, by decide⟩

theorem newline_not_mem_line {row : Row} (h : ∀ text ∈ row.plainTexts, '\n' ∉ text.toList) :
    '\n' ∉ row.line.toList := by
  have hlabel (kind : Kind) : '\n' ∉ kind.label.toList := by rcases kind with (_ | _) | _ <;> decide
  have hshown : '\n' ∉ row.shown.toList := by
    cases row with
    | text textField value => exact newline_not_mem_enclosed (h value (List.mem_singleton_self value))
    | required names => exact newline_not_mem_enclosed (Text.newline_not_mem_bracketed names)
    | allowed values => exact newline_not_mem_enclosed (Json.newline_not_mem_intercalate_compact values)
    | property name =>
      rw [shown, String.toList_append, List.mem_append, not_or]
      exact ⟨h name (List.mem_singleton_self name), by decide⟩
    | items => exact List.not_mem_nil
  rw [line, String.toList_append, List.mem_append, not_or]
  exact ⟨hlabel row.kind, hshown⟩

end Row

/-! ## Indents -/

/-- A row of a node that lies so many levels deep. -/
structure PlacedRow where
  depth : ℕ
  row : Row

def PlacedRow.line (placed : PlacedRow) : String := indented placed.depth placed.row.line

theorem toList_pushn (text : String) (c : Char) (n : ℕ) :
    (text.pushn c n).toList = text.toList ++ List.replicate n c := by
  induction n with
  | zero => exact (List.append_nil _).symm
  | succ n ih =>
    have hstep : text.pushn c (n + 1) = (text.pushn c n).push c := rfl
    rw [hstep, String.toList_push, ih, List.replicate_succ', List.append_assoc]

theorem toList_indented (depth : ℕ) (line : String) :
    (indented depth line).toList = List.replicate (4 * depth) ' ' ++ line.toList := by
  rw [indented, String.toList_append, toList_pushn]
  rfl

/-- **What a line shows, and how deep it lies,** is told from the line. -/
theorem PlacedRow.line_injective : Function.Injective line := by
  rintro ⟨depth, row⟩ ⟨depth', row'⟩ heq
  have hlists := congrArg String.toList heq
  simp only [line, toList_indented] at hlists
  have hspaces (n : ℕ) : ∀ c ∈ List.replicate n ' ', decide (c = ' ') = true :=
    fun c hc => decide_eq_true (List.eq_of_mem_replicate hc)
  obtain ⟨hindent, hline⟩ := append_inj_of_head (hspaces _) (hspaces _) row.head?_line row'.head?_line hlists
  have hdepth : 4 * depth = 4 * depth' := by simpa using congrArg List.length hindent
  rw [Row.line_injective (String.toList_inj.1 hline), (by omega : depth = depth')]

theorem PlacedRow.newline_not_mem_line {placed : PlacedRow} (h : ∀ text ∈ placed.row.plainTexts, '\n' ∉ text.toList) :
    '\n' ∉ placed.line.toList := by
  rw [line, toList_indented, List.mem_append]
  rintro (hspace | hline)
  · exact absurd (List.eq_of_mem_replicate hspace) (by decide)
  · exact Row.newline_not_mem_line h hline

/-! ## Texts -/

theorem toList_text (lines : List String) : (text lines).toList = lines.flatMap fun line => line.toList ++ ['\n'] := by
  simp [text, String.toList_join, List.flatMap_map]

theorem text_inj {lines others : List String} (hlines : ∀ line ∈ lines, '\n' ∉ line.toList)
    (hothers : ∀ line ∈ others, '\n' ∉ line.toList) (heq : text lines = text others) : lines = others := by
  have hlists := congrArg String.toList heq
  rw [toList_text, toList_text] at hlists
  clear heq
  induction lines generalizing others with
  | nil =>
    cases others with
    | nil => rfl
    | cons other others => exact absurd hlists (by simp)
  | cons line lines ih =>
    cases others with
    | nil => exact absurd hlists (by simp)
    | cons other others =>
      simp only [List.flatMap_cons, List.append_assoc, List.singleton_append] at hlists
      obtain ⟨hline, hrest⟩ := split_at_first (hlines line List.mem_cons_self) (hothers other List.mem_cons_self) hlists
      rw [String.toList_inj.1 hline, ih (fun l hl => hlines l (List.mem_cons_of_mem line hl))
        (fun l hl => hothers l (List.mem_cons_of_mem other hl)) hrest]

end ApiCatalog.Dump
