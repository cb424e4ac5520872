import ApiCatalog.Error

/-!
# Libraries

A library holds the texts that a load can fetch, one for a location. A location that holds nothing is an error
of transport.
-/

namespace ApiCatalog

structure Library where
  documents : List (String × String) := []
  deriving Repr, Inhabited

namespace Library

def find? (library : Library) (location : String) : Option String := library.documents.lookup location

def locations (library : Library) : List String := library.documents.map Prod.fst

/-- Puts a text at a location, in place of the text that was there. -/
def put (library : Library) (location body : String) : Library :=
  ⟨(location, body) :: library.documents.filter (·.1 ≠ location)⟩

/-- The library of some texts; of two for one location, the later one is kept. -/
def ofList (documents : List (String × String)) : Library :=
  documents.foldl (fun library (location, body) => library.put location body) {}

def answer (library : Library) (location : String) : Except LoadError String :=
  match library.find? location with
  | some body => .ok body
  | none => .error (.transport location "404 Not Found")

theorem mem_locations_of_find? {library : Library} {location body : String}
    (h : library.find? location = some body) : location ∈ library.locations := by
  obtain ⟨documents⟩ := library
  simp only [find?, locations] at *
  induction documents with
  | nil => simp at h
  | cons document rest ih =>
    obtain ⟨known, text⟩ := document
    by_cases same : location = known
    · simp [same]
    · rw [List.lookup_cons, beq_false_of_ne same] at h
      exact List.mem_cons_of_mem _ (ih h)

theorem mem_locations_of_answer {library : Library} {location body : String}
    (h : library.answer location = .ok body) : location ∈ library.locations := by
  unfold answer at h
  split at h
  · next found => exact mem_locations_of_find? found
  · cases h

end Library

end ApiCatalog
