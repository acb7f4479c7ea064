import BuildManifest.Proofs.Ini.Spelling
import BuildManifest.Proofs.Ini.Standing

/-!
# Which lines can be read

Whether a line can be read depends on its spelling and on what the lines before it have built: a
path may not lead through a value that is no mapping.  The reader finds out by taking the line
apart; here the lines that it accepts are put together, without taking anything apart.

A line is cut at its first equals sign, also if this stands between brackets.  Between brackets
there may be anything else but a closing one, even opening ones, and nothing at all.

## What is here

* `KeyText`, `readKey_eq_ok_iff` — which keys can be read, and as which path.
* `HalfOpen`, `exists_readValue_iff` — which values cannot.
* `Passable`, `exists_assign_iff` — **which paths an assignment can follow** in given entries.
* `Acceptable`, `exists_applyLine_iff` — **which lines can be read** on top of given entries.
-/

set_option autoImplicit false

namespace BuildManifest.Ini

open Text
open BuildManifest.Mapping (find?)

variable {entries : Mapping} {key value : Tree} {steps : List Segment} {text line : List Char}
  {inners : List (List Char)}

/-! ## Keys -/

/-- Pairs of brackets, each right after the one before it, with what is in them. -/
inductive InBrackets : List (List Char) → List Char → Prop
  | nil : InBrackets [] []
  | cons {inner rest : List Char} {inners : List (List Char)} (closed : ']' ∉ inner)
      (more : InBrackets inners rest) :
      InBrackets (inner :: inners) ('[' :: (inner ++ ']' :: rest))

/-- A name with space around it and brackets behind it, with the path that they give. -/
inductive KeyText : List Segment → List Char → Prop
  | mk {lead base gap brackets : List Char} {inners : List (List Char)} (leadSpace : AllBlank lead)
      (named : IsBase base) (gapSpace : AllBlank gap) (path : InBrackets inners brackets) :
      KeyText (.named (.string (String.ofList base)) :: inners.map segmentOf)
        (lead ++ (base ++ (gap ++ brackets)))

theorem InBrackets.readSegments (h : InBrackets inners text) (name : String) :
    readSegments name text = .ok (inners.map segmentOf) := by
  induction h with
  | nil => rw [Ini.readSegments, List.map_nil]
  | cons closed more ih =>
    rw [readSegments_cons closed, ih]
    rfl

theorem exists_inBrackets {name : String} (h : readSegments name text = .ok steps) :
    ∃ inners, InBrackets inners text ∧ steps = inners.map segmentOf := by
  induction text using readSegments.induct generalizing steps with
  | case1 =>
    rw [Ini.readSegments] at h
    cases h
    exact ⟨[], .nil, rfl⟩
  | case2 body none_ =>
    rw [Ini.readSegments] at h
    split at h
    · cases h
    · next some_ =>
      rw [none_] at some_
      cases some_
  | case3 body bracket rest some_ ih =>
    -- The brackets end at the first closing one.
    obtain ⟨closed, stop⟩ : ']' ∉ body.takeWhile (· != ']') ∧ bracket = ']' := by
      constructor
      · intro member
        have := List.all_eq_true.1 List.all_takeWhile _ member
        simp at this
      · have := List.head?_dropWhile_not (· != ']') body
        rw [some_] at this
        simpa using this
    have split : body = body.takeWhile (· != ']') ++ ']' :: rest := by
      rw [stop] at some_
      rw [← some_, List.takeWhile_append_dropWhile]
    generalize body.takeWhile (· != ']') = inner at closed split
    rw [split, readSegments_cons closed] at h
    obtain ⟨more, read, rfl⟩ := map_eq_ok_iff.1 h
    obtain ⟨inners, path, rfl⟩ := ih read
    rw [split]
    exact ⟨inner :: inners, .cons closed path, rfl⟩
  | case4 rest plain other =>
    rw [Ini.readSegments] at h
    · cases h
    · exact plain
    · exact other

theorem InBrackets.bare (h : InBrackets inners text) : Bare text := by
  induction h with
  | nil => exact ⟨nofun, nofun⟩
  | cons _ _ ih =>
    have opening : Bare ['['] := by decide
    exact bare_append opening (List.cons_ne_nil _ _) (bare_cons (by decide) ih)
      (List.cons_ne_nil _ _) _

theorem InBrackets.head?_eq (h : InBrackets inners text) : ∀ c ∈ text.head?, c = '[' := by
  cases h with
  | nil => exact nofun
  | cons _ _ => exact fun _ first => (Option.some.inj first).symm

/-- **A key is read exactly if it is a name with space around it and brackets behind it.** -/
theorem readKey_eq_ok_iff : readKey text = .ok steps ↔ KeyText steps text := by
  constructor
  · intro h
    rw [readKey] at h
    split at h
    · cases h
    · next valid =>
      obtain ⟨more, read, h⟩ := bind_eq_ok_iff.1 h
      cases h
      obtain ⟨inners, path, rfl⟩ := exists_inBrackets read
      obtain ⟨lead, gap, leadSpace, gapSpace, split⟩ := exists_trim (text.takeWhile (· != '['))
      have named : IsBase (trim (text.takeWhile (· != '['))) := by
        simpa [IsBase, List.isEmpty_iff] using valid
      have whole : text = lead ++ (trim (text.takeWhile (· != '[')) ++
          (gap ++ text.dropWhile (· != '['))) := by
        rw [← List.append_assoc, ← List.append_assoc, List.append_assoc lead, ← split,
          List.takeWhile_append_dropWhile]
      have key := KeyText.mk leadSpace named gapSpace path
      rwa [← whole] at key
  · rintro @⟨lead, base, gap, brackets, inners, leadSpace, named, gapSpace, path⟩
    have free : '[' ∉ lead ++ (base ++ gap) := by
      simp [leadSpace.not_mem (c := '[') (by decide), gapSpace.not_mem (c := '[') (by decide),
        named.ne_of_mem (c := '[') (by decide)]
    obtain ⟨taken, dropped⟩ := cut_append free path.head?_eq
    rw [List.append_assoc, List.append_assoc] at taken dropped
    have trimmed : trim (lead ++ (base ++ gap)) = base := by
      rw [trim_surround leadSpace _ gapSpace, trim_eq_self (bare_of_forall named.visible)]
    have kept : ¬(base.isEmpty = true ∨ (!base.all isBaseChar) = true) := by
      simpa [named.1] using named.2
    rw [readKey, taken, dropped, trimmed, if_neg kept, path.readSegments]
    rfl

/-- Space at its ends belongs to no key. -/
theorem KeyText.trim (h : KeyText steps text) : KeyText steps (trim text) := by
  obtain @⟨lead, base, gap, brackets, inners, leadSpace, named, gapSpace, path⟩ := h
  have bare : Bare base := bare_of_forall named.visible
  rw [trim_append leadSpace]
  cases path with
  | nil =>
    rw [List.append_nil, trim_append_blank _ gapSpace, trim_eq_self bare]
    simpa using KeyText.mk (List.forall_mem_nil _) named (List.forall_mem_nil _) .nil
  | @cons inner rest inners closed more =>
    have path := InBrackets.cons closed more
    rw [trim_eq_self (bare_append bare named.1 path.bare (List.cons_ne_nil _ _) gap)]
    exact .mk (List.forall_mem_nil _) named gapSpace path

/-- **The text before an equals sign is read as a key exactly if it is one, with space behind
it.** -/
theorem readKey_trim_eq_ok_iff : readKey (Text.trim text) = .ok steps ↔
    ∃ key trail, KeyText steps key ∧ AllBlank trail ∧ text = key ++ trail := by
  rw [readKey_eq_ok_iff]
  constructor
  · intro h
    obtain ⟨lead, trail, leadSpace, trailSpace, split⟩ := exists_trim text
    generalize Text.trim text = inner at h split
    obtain @⟨lead', base, gap, brackets, inners, leadSpace', named, gapSpace, path⟩ := h
    refine ⟨(lead ++ lead') ++ (base ++ (gap ++ brackets)), trail, ?_, trailSpace, ?_⟩
    · exact .mk (List.forall_mem_append.2 ⟨leadSpace, leadSpace'⟩) named gapSpace path
    · simp [split]
  · rintro ⟨key, trail, h, trailSpace, rfl⟩
    rw [trim_append_blank _ trailSpace]
    exact h.trim

/-! ## Values -/

/-- A text that begins with a quote and is not enclosed in it. -/
def HalfOpen (text : List Char) : Prop :=
  ∃ quote ∈ ['"', '\''], text.head? = some quote ∧ ¬Enclosed quote text

theorem inside?_of_enclosed {quote : Char} (enclosed : Enclosed quote text) :
    ∃ content, inside? quote text = some content := by
  obtain ⟨long, first, last⟩ := enclosed
  obtain ⟨rest, rfl⟩ := List.head?_eq_some_iff.1 first
  obtain ⟨second, rest, rfl⟩ : ∃ second more, rest = second :: more :=
    List.exists_cons_of_ne_nil (by rintro rfl; simp at long)
  rw [List.getLast?_cons_cons] at last
  exact ⟨_, if_pos ⟨rfl, last⟩⟩

/-- **A value is read unless it opens a quote and does not close it.** -/
theorem exists_readValue_iff : (∃ value, readValue text = .ok value) ↔ ¬HalfOpen text := by
  cases text with
  | nil => exact iff_of_true ⟨_, rfl⟩ (by simp [HalfOpen])
  | cons first rest =>
    rw [readValue]
    by_cases quoted : first = '"' ∨ first = '\''
    · rw [if_pos quoted]
      by_cases enclosed : Enclosed first (first :: rest)
      · obtain ⟨content, inside⟩ := inside?_of_enclosed enclosed
        rw [inside]
        refine iff_of_true ⟨_, rfl⟩ ?_
        rintro ⟨quote, -, head, open_⟩
        cases head
        exact open_ enclosed
      · rw [inside?_eq_none enclosed]
        refine iff_of_false (by rintro ⟨_, ⟨⟩⟩) fun closed => closed ⟨first, ?_, rfl, enclosed⟩
        simpa using quoted
    · rw [if_neg quoted]
      refine iff_of_true ⟨_, rfl⟩ ?_
      rintro ⟨quote, member, head, -⟩
      cases head
      exact quoted (by simpa using member)

/-! ## Paths -/

/-- A path leads on through mappings only: where there is a value before its end, this is a
mapping. -/
def Passable (tree : Tree) (steps : List Segment) : Prop :=
  ∀ keys rest, steps = keys.map .named ++ rest → rest ≠ [] →
    ∀ value, tree.valueAt? keys = some value → value.isMapping = true

theorem passable_nil (tree : Tree) : Passable tree [] := by
  intro keys rest split more
  simp [(List.append_eq_nil_iff.1 split.symm).2] at more

theorem passable_append : Passable (.mapping entries) (.append :: steps) := by
  intro keys rest split _ value found
  cases keys with
  | nil =>
    cases found
    rfl
  | cons key keys => simp at split

/-- A path that begins with a key leads on through what stands there. -/
theorem passable_named : Passable (.mapping entries) (.named key :: steps) ↔
    ∀ child, find? entries key = some child → Passable child steps := by
  constructor
  · intro h child found keys rest split more value below
    refine h (key :: keys) rest (by simp [split]) more value ?_
    simp [Tree.valueAt?, Tree.topEntries, found, below]
  · intro h keys rest split more value found
    cases keys with
    | nil =>
      cases found
      rfl
    | cons key' keys =>
      obtain ⟨same, split⟩ : key = key' ∧ steps = keys.map .named ++ rest := by
        simpa using split
      obtain ⟨child, here, below⟩ := Option.bind_eq_some_iff.1 found
      exact h child (same ▸ here) keys rest split more value below

theorem passable_empty : Passable (.mapping []) steps := by
  cases steps with
  | nil => exact passable_nil _
  | cons step rest =>
    cases step with
    | named key => exact passable_named.2 nofun
    | append => exact passable_append

/-- **An assignment can be carried out exactly if its path leads through mappings only.** -/
theorem exists_assign_iff : (∃ result, assign entries steps value = .ok result) ↔
    Passable (.mapping entries) steps := by
  induction steps generalizing entries with
  | nil => exact iff_of_true ⟨_, rfl⟩ (passable_nil _)
  | cons step rest ih =>
    by_cases last : rest = []
    · subst last
      refine iff_of_true ⟨_, rfl⟩ ?_
      cases step with
      | named key => exact passable_named.2 fun child _ => passable_nil child
      | append => exact passable_append
    · rw [assign.eq_3 _ _ _ _ last]
      cases step with
      | append =>
        -- The next index is not taken, so that there is nothing in the way.
        have free : find? entries (Segment.append.keyIn entries) = none :=
          find?_index_eq_none (Nat.le_refl _)
        rw [free]
        exact iff_of_true (exists_map_eq_ok_iff.2 (ih.2 passable_empty)) passable_append
      | named key =>
        rw [passable_named, Segment.keyIn]
        cases found : find? entries key with
        | none => exact iff_of_true (exists_map_eq_ok_iff.2 (ih.2 passable_empty)) (by simp)
        | some current =>
          have through : (∀ child, some current = some child → Passable child rest) ↔
              Passable current rest := by simp
          rw [through]
          cases current with
          | mapping child => exact exists_map_eq_ok_iff.trans ih
          | _ =>
            refine iff_of_false (by rintro ⟨_, ⟨⟩⟩) fun passes => ?_
            simpa [Tree.isMapping] using passes [] rest rfl last _ rfl

/-! ## Lines -/

/-- The lines that can be read on top of given entries: blank ones, comments, and assignments, each
with a key before the first equals sign, with a value that is not half open behind it, and with a
path that leads through mappings only. -/
inductive Acceptable (entries : Mapping) : List Char → Prop
  | blank {line : List Char} (space : AllBlank line) : Acceptable entries line
  | comment {lead text : List Char} {mark : Char} (space : AllBlank lead)
      (marks : mark = ';' ∨ mark = '#') : Acceptable entries (lead ++ mark :: text)
  | assignment {steps : List Segment} {key trail value : List Char} (path : KeyText steps key)
      (space : AllBlank trail) (first : '=' ∉ key) (closed : ¬HalfOpen (trim value))
      (passes : Passable (.mapping entries) steps) :
      Acceptable entries (key ++ (trail ++ '=' :: value))

/-- A line is taken apart at its first equals sign, unless it is a comment. -/
theorem readLine_append_cons {key value : List Char} (first : '=' ∉ key)
    (plain : ∀ c ∈ (trimStart key).head?, c ≠ ';' ∧ c ≠ '#') :
    readLine (key ++ '=' :: value) = do
      let path ← readKey (trim key)
      let value ← readValue (trim value)
      return some ⟨path, value⟩ := by
  have trimmed := trim_append_cons (c := '=') (by decide) key value
  have free : '=' ∉ trimStart key := fun member => first ((List.dropWhile_sublist _).mem member)
  rw [← trim_trimStart key, ← trim_trimEnd value]
  cases front : trimStart key with
  | nil =>
    -- There is no key, and the reader of keys says so.
    rw [front, List.nil_append] at trimmed
    rw [readLine, trimmed]
    rfl
  | cons c rest =>
    rw [front] at trimmed plain free
    exact readLine_of_trim trimmed (List.cons_ne_nil _ _) plain free

/-- What is neither blank nor a comment has an equals sign. -/
theorem readLine_of_not_mem {c : Char} {rest : List Char} (trimmed : trim line = c :: rest)
    (plain : ¬(c = ';' ∨ c = '#')) (none_ : '=' ∉ line) :
    readLine line = .error (.notAssignment (String.ofList (trim line))) := by
  have free : '=' ∉ trim line := fun member => by
    obtain ⟨lead, trail, -, -, split⟩ := exists_trim line
    rw [split] at none_
    simp [member] at none_
  have next : ∀ c ∈ ([] : List Char).head?, c = '=' := nofun
  have nothing := (cut_append free next).2
  rw [List.append_nil] at nothing
  rw [readLine]
  rw [trimmed] at nothing ⊢
  simp only [if_neg plain, nothing]

/-- A key does not begin like a comment. -/
theorem KeyText.ne_of_mem_head? (h : KeyText steps text) (rest : List Char) :
    ∀ c ∈ (trimStart (text ++ rest)).head?, c ≠ ';' ∧ c ≠ '#' := by
  obtain @⟨lead, base, gap, brackets, inners, leadSpace, named, gapSpace, path⟩ := h
  rw [List.append_assoc, List.append_assoc, trimStart_append leadSpace]
  have plain := named.ne_of_mem_head? (gap ++ brackets ++ rest)
  have visible := named.visible
  obtain ⟨first, more, rfl⟩ := List.exists_cons_of_ne_nil named.1
  rw [List.cons_append, trimStart_cons (visible first List.mem_cons_self)]
  exact plain

/-- **A line that is neither blank nor a comment is read as an assignment**: as a key in front of
the first equals sign, and a value behind it. -/
theorem exists_assignment_of_readLine {c : Char} {rest : List Char} {given : Option Assignment}
    (trimmed : trim line = c :: rest) (plain : ¬(c = ';' ∨ c = '#'))
    (read : readLine line = .ok given) :
    ∃ steps key trail text value, given = some ⟨steps, value⟩ ∧
      line = key ++ (trail ++ '=' :: text) ∧ KeyText steps key ∧ AllBlank trail ∧ '=' ∉ key ∧
      readValue (trim text) = .ok value := by
  by_cases equals : '=' ∈ line
  · obtain ⟨front, text, rfl, first⟩ := List.eq_append_cons_of_mem equals
    rw [trim_append_cons (by decide)] at trimmed
    have marked : ∀ d ∈ (trimStart front).head?, d ≠ ';' ∧ d ≠ '#' := by
      intro d head
      obtain ⟨more, eq⟩ := List.head?_eq_some_iff.1 head
      rw [eq, List.cons_append, List.cons.injEq] at trimmed
      rw [trimmed.1]
      exact not_or.1 plain
    rw [readLine_append_cons first marked] at read
    obtain ⟨steps, readPath, read⟩ := bind_eq_ok_iff.1 read
    obtain ⟨value, readValue, read⟩ := bind_eq_ok_iff.1 read
    cases read
    obtain ⟨key, trail, keyText, space, rfl⟩ := readKey_trim_eq_ok_iff.1 readPath
    have free : '=' ∉ key := fun member => first (List.mem_append_left _ member)
    exact ⟨steps, key, trail, text, value, rfl, by simp, keyText, space, free, readValue⟩
  · rw [readLine_of_not_mem trimmed plain equals] at read
    cases read

/-- **A line can be read exactly if it is acceptable.** -/
theorem exists_applyLine_iff :
    (∃ result, applyLine entries line = .ok result) ↔ Acceptable entries line := by
  constructor
  · rintro ⟨result, h⟩
    obtain ⟨given, read, applied⟩ := bind_eq_ok_iff.1 h
    cases trimmed : trim line with
    | nil => exact .blank (trim_eq_nil_iff.1 trimmed)
    | cons c rest =>
      by_cases marks : c = ';' ∨ c = '#'
      · obtain ⟨lead, trail, leadSpace, -, split⟩ := exists_trim line
        rw [split, trimmed]
        exact .comment leadSpace marks
      · obtain ⟨steps, key, trail, text, value, rfl, rfl, path, space, first, readValue⟩ :=
          exists_assignment_of_readLine trimmed marks read
        exact .assignment path space first (exists_readValue_iff.1 ⟨value, readValue⟩)
          (exists_assign_iff.1 ⟨result, applied⟩)
  · intro h
    cases h with
    | blank space =>
      rw [applyLine, readLine_of_blank space]
      exact ⟨entries, rfl⟩
    | comment space marks =>
      rw [applyLine, readLine_of_comment space marks]
      exact ⟨entries, rfl⟩
    | @assignment steps key trail value path space first closed passes =>
      obtain ⟨given, readValue⟩ := exists_readValue_iff.2 closed
      obtain ⟨result, applied⟩ := exists_assign_iff.2 passes
      have readPath := readKey_trim_eq_ok_iff.2 ⟨key, trail, path, space, rfl⟩
      have free : '=' ∉ key ++ trail := by
        simp [first, space.not_mem (c := '=') (by decide)]
      rw [applyLine, ← List.append_assoc,
        readLine_append_cons free (path.ne_of_mem_head? trail), readPath, readValue]
      exact ⟨result, applied⟩

end BuildManifest.Ini
