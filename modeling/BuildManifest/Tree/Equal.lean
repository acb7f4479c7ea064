import BuildManifest.Tree.Basic

/-!
# Equality of trees

Whether two trees are one and the same can be decided.  This is finer than being the same key: the
order of a mapping and the sign of zero matter.
-/

set_option autoImplicit false

namespace BuildManifest.Tree

mutual

/-- Whether two trees are equal. -/
def equal : Tree → Tree → Bool
  | .null, .null => true
  | .bool a, .bool b => a == b
  | .number a, .number b => decide (a = b)
  | .string a, .string b => a == b
  | .sequence as, .sequence bs => equalItems as bs
  | .mapping as, .mapping bs => equalEntries as bs
  | .tagged n a, .tagged m b => n == m && equal a b
  | _, _ => false

/-- Items that are equal one by one. -/
def equalItems : List Tree → List Tree → Bool
  | [], [] => true
  | a :: as, b :: bs => equal a b && equalItems as bs
  | _, _ => false

/-- Entries that are equal one by one. -/
def equalEntries : List (Tree × Tree) → List (Tree × Tree) → Bool
  | [], [] => true
  | (key, value) :: as, (key', value') :: bs =>
    (equal key key' && equal value value') && equalEntries as bs
  | _, _ => false

end

mutual

theorem equal_iff : (tree other : Tree) → (equal tree other = true ↔ tree = other)
  | .null, other => by cases other <;> simp [equal]
  | .bool _, other => by cases other <;> simp [equal]
  | .number _, other => by cases other <;> simp [equal]
  | .string _, other => by cases other <;> simp [equal]
  | .sequence items, other => by cases other <;> simp [equal, equalItems_iff items]
  | .mapping entries, other => by cases other <;> simp [equal, equalEntries_iff entries]
  | .tagged _ content, other => by cases other <;> simp [equal, equal_iff content]

theorem equalItems_iff :
    (items others : List Tree) → (equalItems items others = true ↔ items = others)
  | [], others => by cases others <;> simp [equalItems]
  | item :: items, others => by
    cases others <;> simp [equalItems, equal_iff item, equalItems_iff items]

theorem equalEntries_iff :
    (entries others : List (Tree × Tree)) → (equalEntries entries others = true ↔ entries = others)
  | [], others => by cases others <;> simp [equalEntries]
  | (key, value) :: entries, others => by
    rcases others with _ | ⟨⟨key', value'⟩, others⟩
    · simp [equalEntries]
    · simp [equalEntries, equal_iff key, equal_iff value, equalEntries_iff entries]

end

instance : DecidableEq Tree := fun tree other => decidable_of_iff _ (equal_iff tree other)

end BuildManifest.Tree
