import BuildManifest.Manifest.Entry

/-!
# Sections

The named entries of a section in order.  A name may occur more than once, so that what two
shorthands declare twice can still be reported; everything that goes by name means the first
entry of that name.

## What is here

* `Section` — the entries, with `push`, `insert`, `get?`, `update`, `retain` and `ofList`.
* `SectionKind` — the two sections of a manifest, with their words.
-/

set_option autoImplicit false

namespace BuildManifest

/-- Named entries in order. -/
structure Section where
  /-- The names with their entries. -/
  entries : List (String × Entry) := []
  deriving Repr, Inhabited

namespace Section

/-- The section of the given entries. -/
def ofList (entries : List (String × Entry)) : Section := ⟨entries⟩

/-- The names in order. -/
def names (s : Section) : List String := s.entries.map (·.1)

/-- The number of entries. -/
def size (s : Section) : Nat := s.entries.length

/-- Whether there are no entries. -/
def isEmpty (s : Section) : Bool := s.entries.isEmpty

/-- Add an entry at the end, whether or not its name is taken. -/
def push (s : Section) (name : String) (entry : Entry) : Section := ⟨s.entries ++ [(name, entry)]⟩

/-- The first entry of a name among entries. -/
def findEntry : List (String × Entry) → String → Option Entry
  | [], _ => none
  | (present, entry) :: rest, name => if present = name then some entry else findEntry rest name

/-- The first entry of a name. -/
def get? (s : Section) (name : String) : Option Entry := findEntry s.entries name

/-- Whether a name has an entry. -/
def contains (s : Section) (name : String) : Bool := (s.get? name).isSome

/-- Change the first entry of a name among entries. -/
def updateFirst (name : String) (change : Entry → Entry) :
    List (String × Entry) → List (String × Entry)
  | [] => []
  | (present, entry) :: rest =>
    if present = name then (present, change entry) :: rest
    else (present, entry) :: updateFirst name change rest

/-- Change the first entry of a name. -/
def update (s : Section) (name : String) (change : Entry → Entry) : Section :=
  ⟨updateFirst name change s.entries⟩

/-- Replace the first entry of a name, or add it at the end. -/
def insert (s : Section) (name : String) (entry : Entry) : Section :=
  if s.contains name then s.update name fun _ => entry else s.push name entry

/-- Change every entry. -/
def map (s : Section) (change : String → Entry → Entry) : Section :=
  ⟨s.entries.map fun entry => (entry.1, change entry.1 entry.2)⟩

/-- Keep the entries that pass a test. -/
def retain (s : Section) (keep : String → Entry → Bool) : Section :=
  ⟨s.entries.filter fun entry => keep entry.1 entry.2⟩

/-! ## Small laws -/

theorem findEntry_updateFirst (name wanted : String) (change : Entry → Entry)
    (entries : List (String × Entry)) :
    findEntry (updateFirst name change entries) wanted =
      if name = wanted then (findEntry entries wanted).map change
      else findEntry entries wanted := by
  induction entries with
  | nil => simp [updateFirst, findEntry]
  | cons first rest ih =>
    obtain ⟨present, entry⟩ := first
    by_cases here : present = name
    · subst here
      by_cases want : present = wanted <;> simp [updateFirst, findEntry, want]
    · by_cases want : present = wanted
      · subst want
        simp [updateFirst, findEntry, here, Ne.symm here]
      · simp [updateFirst, findEntry, here, want, ih]

/-- Changing an entry keeps the names. -/
theorem names_update (s : Section) (name : String) (change : Entry → Entry) :
    (s.update name change).names = s.names := by
  have go (entries : List (String × Entry)) :
      (updateFirst name change entries).map (·.1) = entries.map (·.1) := by
    induction entries with
    | nil => rfl
    | cons first rest ih =>
      obtain ⟨present, entry⟩ := first
      simp only [updateFirst]
      split <;> simp [ih]
  exact go s.entries

end Section

/-- The two sections that hold named entries. -/
inductive SectionKind where
  | projects
  | libraries
  deriving DecidableEq, Repr

namespace SectionKind

/-- Both sections, in the order they are written in. -/
def all : List SectionKind := [.projects, .libraries]

/-- The key of a section. -/
def name : SectionKind → String
  | .projects => "projects"
  | .libraries => "libraries"

/-- The word for one entry. -/
def singular : SectionKind → String
  | .projects => "project"
  | .libraries => "library"

/-- The section of a key. -/
def ofName? (name : String) : Option SectionKind := all.find? fun kind => kind.name == name

end SectionKind

end BuildManifest
