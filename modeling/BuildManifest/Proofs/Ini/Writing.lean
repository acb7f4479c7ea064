import BuildManifest.Proofs.Ini.Leaves
import BuildManifest.Proofs.Text.Lines

/-!
# Trees written as lines

A tree is written as one line for each of its leaves, in their order.  Comments and blank lines may
stand between these, and space within them; whatever way of writing a text follows, reading it
gives the tree.

## What is here

* `Skipped` — comments and blank lines.
* `SpeltLines` — the lines that write leaves, one after the other.
* `readLines_of_spelt` — what reading such lines does: each leaf gets its place.
* `readIni_of_made`, `readIni_of_spelt` — **a tree that was written is read again**, with its keys
  in their order.
* `writeIni`, `readIni_writeIni` — the plainest way of writing, and the same for it.
-/

set_option autoImplicit false

namespace BuildManifest.Ini

open Text
open BuildManifest.Tree (leavesOf)

variable {entries done result : Mapping} {line text : List Char} {lines : List (List Char)}
  {list : List (List Tree × Tree)} {keys : List Tree} {key value : Tree}

/-! ## Lines without an assignment -/

/-- The lines that assign nothing: blank ones and comments. -/
inductive Skipped : List Char → Prop
  | blank {line : List Char} (space : Space line) : Skipped line
  | comment {lead text : List Char} {mark : Char} (space : Space lead)
      (marks : mark = ';' ∨ mark = '#') (oneLine : '\n' ∉ text) : Skipped (lead ++ mark :: text)

theorem Skipped.oneLine (h : Skipped line) : '\n' ∉ line := by
  cases h with
  | blank space => exact fun member => (space _ member).2 rfl
  | comment space marks oneLine =>
    rw [List.mem_append, List.mem_cons, not_or, not_or]
    exact ⟨fun member => (space _ member).2 rfl, by rcases marks with rfl | rfl <;> decide, oneLine⟩

theorem Skipped.readLine (h : Skipped line) : readLine line = .ok none := by
  cases h with
  | blank space => exact readLine_of_blank space.allBlank
  | comment space marks _ => exact readLine_of_comment space.allBlank marks

/-! ## Lines one after the other -/

/-- The lines that write leaves, in their order, with comments and blank lines anywhere. -/
inductive SpeltLines : List (List Tree × Tree) → List (List Char) → Prop
  | nil : SpeltLines [] []
  | skipped {list : List (List Tree × Tree)} {line : List Char} {lines : List (List Char)}
      (skipped : Skipped line) (more : SpeltLines list lines) : SpeltLines list (line :: lines)
  | leaf {keys : List Tree} {value : Tree} {list : List (List Tree × Tree)} {line : List Char}
      {lines : List (List Char)} (spelt : SpeltLine keys value line)
      (more : SpeltLines list lines) : SpeltLines ((keys, value) :: list) (line :: lines)

theorem applyLine_of_skipped (skipped : Skipped line) : applyLine entries line = .ok entries := by
  rw [applyLine, skipped.readLine]
  rfl

theorem applyLine_of_spelt (spelt : SpeltLine keys value line) (path : ValidPath keys)
    (scalar : Scalar value) : applyLine entries line = putLeaf entries (keys, value) := by
  rw [applyLine, readLine_of_spelt spelt path scalar]
  rfl

/-- **Reading lines gives the leaves they write their places**, one after the other. -/
theorem readLines_of_spelt (h : SpeltLines list lines)
    (valid : ∀ leaf ∈ list, ValidPath leaf.1 ∧ Scalar leaf.2)
    (made : list.foldlM putLeaf entries = .ok result) (number : Nat) :
    readLines entries number lines = .ok result := by
  induction h generalizing entries number with
  | nil => exact congrArg Except.ok (Except.ok.inj made)
  | skipped skipped more ih =>
    rw [readLines, applyLine_of_skipped skipped]
    exact ih valid made _
  | @leaf keys value list line lines spelt more ih =>
    obtain ⟨⟨path, scalar⟩, later⟩ := List.forall_mem_cons.1 valid
    rw [readLines, applyLine_of_spelt spelt path scalar]
    rw [List.foldlM_cons] at made
    cases put : putLeaf entries (keys, value) with
    | error fault =>
      rw [put] at made
      cases made
    | ok grown =>
      rw [put] at made
      exact ih later made _

theorem SpeltLines.oneLine (h : SpeltLines list lines)
    (valid : ∀ leaf ∈ list, ValidPath leaf.1 ∧ Scalar leaf.2) : ∀ line ∈ lines, '\n' ∉ line := by
  induction h with
  | nil => exact nofun
  | skipped skipped more ih => exact List.forall_mem_cons.2 ⟨skipped.oneLine, ih valid⟩
  | leaf spelt more ih =>
    obtain ⟨⟨path, scalar⟩, later⟩ := List.forall_mem_cons.1 valid
    exact List.forall_mem_cons.2 ⟨spelt.oneLine path scalar, ih later⟩

/-! ## Lines in a text -/

/-- The carriage return that a line break takes with it does not matter. -/
theorem applyLine_withoutReturn (line : List Char) :
    applyLine entries (withoutReturn line) = applyLine entries line := by
  have same : readLine (withoutReturn line) = readLine line := by
    simp only [readLine, trim_withoutReturn]
  rw [applyLine, applyLine, same]

/-- A text of lines is read line by line.  An empty line at its end is not there for the reader,
but it would assign nothing. -/
theorem readLines_intercalate (oneLine : ∀ line ∈ lines, '\n' ∉ line) (number : Nat) :
    readLines entries number (Text.lines (['\n'].intercalate lines)) =
      readLines entries number lines := by
  induction lines generalizing entries number with
  | nil => rfl
  | cons first rest ih =>
    obtain ⟨one, later⟩ := List.forall_mem_cons.1 oneLine
    cases rest with
    | nil =>
      rw [List.intercalate_singleton, lines_of_not_mem one]
      split
      · next none_ =>
        have nothing : Skipped first := .blank (none_ ▸ List.forall_mem_nil _)
        rw [readLines.eq_2, applyLine_of_skipped nothing]
        rfl
      · rfl
    | cons second rest =>
      rw [List.intercalate_cons_cons, List.append_assoc, List.singleton_append, lines_append one,
        readLines, readLines, applyLine_withoutReturn]
      cases applyLine entries first with
      | error fault => rfl
      | ok grown => exact ih later _

/-- Lines that write leaves, in any order in which these make a mapping, are read as this
mapping. -/
theorem readIni_of_made (spelt : SpeltLines list lines)
    (valid : ∀ leaf ∈ list, ValidPath leaf.1 ∧ Scalar leaf.2)
    (made : list.foldlM putLeaf [] = .ok result) :
    readIni (String.ofList (['\n'].intercalate lines)) = .ok (.mapping result) := by
  rw [readIni, String.toList_ofList, readLines_intercalate (spelt.oneLine valid),
    readLines_of_spelt spelt valid made]
  rfl

/-- **A tree that was written is read again**, with its keys in their order: one line for each leaf
in any way of spelling it, with comments and blank lines between them. -/
theorem readIni_of_spelt (writable : WritableRoot entries)
    (spelt : SpeltLines (leavesOf entries) lines) :
    readIni (String.ofList (['\n'].intercalate lines)) = .ok (.mapping entries) :=
  readIni_of_made spelt writable.of_mem_leaves (foldlM_leavesOf writable)

/-- Keys and values that look like other things. -/
def assorted : Mapping :=
  [(.string "api", .number (.int (-2))),
    (.string "projects", .mapping [(.string "a[b", .mapping
      [(.number (.int 7), .string "x = \"1\" ; #"), (.string "'", .bool true)])]),
    (.string "x.y", .string "]")]

/-- One of the ways to write them. -/
def assortedLines : List (List Char) :=
  ["; the odd ones", "api=-2", "", "\tprojects[a[b][ 7 ] = \"x = \"1\" ; #\" \r",
    "projects[a[b ]['] = TRUE", " # done", "x.y =\"]\""].map String.toList

theorem readIni_of_spelt_assorted :
    WritableRoot assorted ∧ SpeltLines (leavesOf assorted) assortedLines ∧
      readIni (String.ofList (['\n'].intercalate assortedLines)) = .ok (.mapping assorted) := by
  have deep : Writable (.mapping
      [(.number (.int 7), .string "x = \"1\" ; #"), (.string "'", .bool true)]) := by
    refine .mapping (by decide) (by decide) ?_ ?_
    · simp only [List.forall_mem_cons]
      exact ⟨.index (by decide), .name (by decide) (by decide), nofun⟩
    · simp only [List.forall_mem_cons]
      exact ⟨.scalar (.text (by decide)), .scalar (.truth _), nofun⟩
  have inner : Writable (.mapping [(.string "a[b", .mapping
      [(.number (.int 7), .string "x = \"1\" ; #"), (.string "'", .bool true)])]) := by
    refine .mapping (by decide) (by decide) ?_ ?_
    · exact List.forall_mem_singleton.2 (.name (by decide) (by decide))
    · exact List.forall_mem_singleton.2 deep
  have writable : WritableRoot assorted := by
    refine ⟨by decide, ?_, ?_⟩
    · simp only [assorted, List.forall_mem_cons]
      exact ⟨⟨_, rfl, by decide⟩, ⟨_, rfl, by decide⟩, ⟨_, rfl, by decide⟩, nofun⟩
    · simp only [assorted, List.forall_mem_cons]
      exact ⟨.scalar (.integer (by decide) (by decide)), inner, .scalar (.text (by decide)), nofun⟩
  have spelt : SpeltLines (leavesOf assorted) assortedLines := by
    have first : SpeltLine [.string "api"] (.number (.int (-2))) "api=-2".toList :=
      @SpeltLine.mk "api" [] _ [] [] [] [] _ [] .nil (.integer (-2)) (by decide) (by decide)
        (by decide) (by decide)
    have second : SpeltLine [.string "projects", .string "a[b", .number (.int 7)]
        (.string "x = \"1\" ; #") "\tprojects[a[b][ 7 ] = \"x = \"1\" ; #\" \r".toList :=
      @SpeltLine.mk "projects" _ _ ['\t'] _ [' '] [' '] _ [' ', '\r']
        (@Brackets.cons _ _ [] [] _ (by decide) (by decide)
          (@Brackets.cons _ _ [' '] [' '] _ (by decide) (by decide) .nil))
        (.text _) (by decide) (by decide) (by decide) (by decide)
    have third : SpeltLine [.string "projects", .string "a[b", .string "'"] (.bool true)
        "projects[a[b ]['] = TRUE".toList :=
      @SpeltLine.mk "projects" _ _ [] _ [' '] [' '] "TRUE".toList []
        (@Brackets.cons _ _ [] [' '] _ (by decide) (by decide)
          (@Brackets.cons _ _ [] [] _ (by decide) (by decide) .nil))
        (.truth (by decide)) (by decide) (by decide) (by decide) (by decide)
    have last : SpeltLine [.string "x.y"] (.string "]") "x.y =\"]\"".toList :=
      @SpeltLine.mk "x.y" [] _ [] [] [' '] [] _ [] .nil (.text _) (by decide) (by decide)
        (by decide) (by decide)
    exact .skipped (@Skipped.comment [] _ ';' (by decide) (.inl rfl) (by decide))
      (.leaf first (.skipped (.blank (by decide)) (.leaf second (.leaf third
        (.skipped (@Skipped.comment [' '] _ '#' (by decide) (.inr rfl) (by decide))
          (.leaf last .nil))))))
  exact ⟨writable, spelt, readIni_of_spelt writable spelt⟩

/-! ## The plainest way of writing -/

/-- A value with its truth values in small letters. -/
def plainValue : Tree → List Char
  | .string text => ['"'] ++ (text.toList ++ ['"'])
  | .number (.int n) => (toString n).toList
  | .bool truth => (Tree.boolWord truth).toList
  | _ => []

/-- Keys in brackets, without space. -/
def plainBrackets (keys : List Tree) : List Char :=
  keys.flatMap fun key => '[' :: (keyChars key ++ [']'])

/-- The line for a leaf, with one space on each side of the equals sign. -/
def plainLine (leaf : List Tree × Tree) : List Char :=
  match leaf.1 with
  | base :: keys => (keyChars base ++ plainBrackets keys) ++ (" = ".toList ++ plainValue leaf.2)
  | [] => []

/-- The text of a mapping: a line for each leaf. -/
def writeIni (entries : Mapping) : String :=
  String.ofList (['\n'].intercalate ((leavesOf entries).map plainLine))

theorem valueChars_plainValue (scalar : Scalar value) : ValueChars value (plainValue value) := by
  cases scalar with
  | text _ => exact .text _
  | integer _ _ => exact .integer _
  | truth truth => exact .truth (by cases truth <;> decide)

theorem brackets_plainBrackets (keys : List Tree) : Brackets keys (plainBrackets keys) := by
  induction keys with
  | nil => exact .nil
  | cons key keys ih =>
    have plain : plainBrackets (key :: keys) =
        '[' :: (([] ++ (keyChars key ++ [])) ++ ']' :: plainBrackets keys) := by
      simp [plainBrackets]
    rw [plain]
    exact .cons (List.forall_mem_nil _) (List.forall_mem_nil _) ih

theorem speltLine_plainLine {leaf : List Tree × Tree} (path : ValidPath leaf.1)
    (scalar : Scalar leaf.2) : SpeltLine leaf.1 leaf.2 (plainLine leaf) := by
  obtain ⟨keys, value⟩ := leaf
  obtain @⟨base, keys, -, -⟩ := path
  have plain : plainLine (.string base :: keys, value) = [] ++ (((base.toList ++
      plainBrackets keys) ++ ([' '] ++ '=' :: ([' '] ++ plainValue value))) ++ []) := by
    rw [List.nil_append, List.append_nil]
    rfl
  rw [plain]
  exact .mk (brackets_plainBrackets keys) (valueChars_plainValue scalar) (by decide) (by decide)
    (by decide) (by decide)

theorem speltLines_map_plainLine (valid : ∀ leaf ∈ list, ValidPath leaf.1 ∧ Scalar leaf.2) :
    SpeltLines list (list.map plainLine) := by
  induction list with
  | nil => exact .nil
  | cons leaf rest ih =>
    obtain ⟨⟨path, scalar⟩, later⟩ := List.forall_mem_cons.1 valid
    exact .leaf (speltLine_plainLine path scalar) (ih later)

/-- **Writing and reading is the identity** on trees that can be written. -/
theorem readIni_writeIni (writable : WritableRoot entries) :
    readIni (writeIni entries) = .ok (.mapping entries) :=
  readIni_of_made (speltLines_map_plainLine writable.of_mem_leaves) writable.of_mem_leaves
    (foldlM_leavesOf writable)

example : writeIni [(.string "api", .number (.int 2)),
    (.string "projects", .mapping
      [(.string "views", .mapping [(.string "version", .string "3.0")])])] =
      "api = 2\nprojects[views][version] = \"3.0\"" := by decide

end BuildManifest.Ini
