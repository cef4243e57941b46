import Mathlib.Data.List.Forall2
import VolatilityDesk.Proofs.Json.Numeral
import VolatilityDesk.Proofs.Json.Text
/-!
# Reading back what was written

A value over several lines is read back as it was, provided that the texts of its numbers are
numbers. Lists and objects are both read by a loop over entries between two brackets, so the loop is
treated once, for entries of any kind. The fuel of the reader, twice the length of the text, is
enough: every level of nesting and every entry has a bracket or a margin of its own.

* `read?_indented` — a value over several lines is read back as it was.
* `Bracketed.loop_intercalate` — the entries between two brackets are.
-/

namespace VolatilityDesk.Json

/-! ### Blanks -/

section Blanks

variable {margin rest : List Char}

theorem skipBlanks_of_stopsAt (stops : StopsAt isBlank rest) : skipBlanks rest = rest :=
  dropWhile_of_stopsAt stops

theorem skipBlanks_append (blank : ∀ c ∈ margin, isBlank c = true)
    (stops : StopsAt isBlank rest) : skipBlanks (margin ++ rest) = rest := by
  rw [skipBlanks, List.dropWhile_append_of_pos blank]
  exact dropWhile_of_stopsAt stops

theorem continuesNumber_of_isBlank {c : Char} (blank : isBlank c = true) :
    continuesNumber c = false := by
  simp only [isBlank, Bool.or_eq_true, beq_iff_eq] at blank
  rcases blank with ((rfl | rfl) | rfl) | rfl <;> decide

end Blanks

/-! ### Entries -/

/-- A reader takes a text off the front as an entry, whatever stands behind it, unless that
continues a number. The text does not open with what stands before or behind entries. -/
structure Reads {β : Type} (front? : Nat → List Char → Option (β × List Char)) (text : String)
    (entry : β) : Prop where
  opening : ∃ c others, text.toList = c :: others ∧ isBlank c = false ∧ c ≠ ']' ∧ c ≠ '\x7d'
  read : ∀ {fuel : Nat} {rest : List Char}, StopsAt continuesNumber rest →
    2 * text.length < fuel → front? fuel (text.toList ++ rest) = some (entry, rest)

theorem Reads.stopsAt {β : Type} {front? : Nat → List Char → Option (β × List Char)}
    {text : String} {entry : β} (reads : Reads front? text entry) (rest : List Char) :
    StopsAt isBlank (text.toList ++ rest) := by
  obtain ⟨c, others, opens, solid, -⟩ := reads.opening
  rw [opens]
  exact stopsAt_cons solid

/-- A loop reads entries between two brackets. -/
structure Bracketed {β : Type} (opening closing : Char) (wrap : List β → Json)
    (front? : Nat → List Char → Option (β × List Char))
    (loop : Nat → List β → List Char → Option (Json × List Char)) : Prop where
  opens : isBlank opening = false ∧ opening ≠ ']' ∧ opening ≠ '\x7d'
  closes : closing = ']' ∨ closing = '\x7d'
  empty : ∀ fuel rest, value? (fuel + 1) (opening :: closing :: rest) = some (wrap [], rest)
  filled : ∀ fuel s c others, skipBlanks s = c :: others → c ≠ closing →
    value? (fuel + 1) (opening :: s) = loop fuel [] (skipBlanks s)
  step : ∀ fuel read s, loop (fuel + 1) read s = (do
    let (entry, rest) ← front? fuel s
    match ← turn? closing rest with
    | .more rest => loop fuel (entry :: read) rest
    | .finished rest => some (wrap (entry :: read).reverse, rest))

/-- The items of a list stand between brackets. -/
theorem bracketed_list : Bracketed '[' ']' list value? items? where
  opens := by decide
  closes := .inl rfl
  empty := fun fuel rest => rfl
  filled := fun fuel s c others opens other => by
    simp only [value?, opens]
    split
    · rename_i same
      exact absurd (List.cons.inj same).1 other
    · rfl
  step := fun fuel read s => rfl

/-- A member at the front. -/
def memberAt? (fuel : Nat) (s : List Char) : Option ((String × Json) × List Char) := do
  let (name, rest) ← text? s
  let (value, rest) ← value? fuel (← colon? rest)
  some ((name, value), rest)

/-- The members of an object stand between braces. -/
theorem bracketed_object : Bracketed '\x7b' '\x7d' object memberAt? members? where
  opens := by decide
  closes := .inr rfl
  empty := fun fuel rest => rfl
  filled := fun fuel s c others opens other => by
    simp only [value?, opens]
    split
    · rename_i same
      exact absurd (List.cons.inj same).1 other
    · rfl
  step := fun fuel read s => by
    rw [members?, memberAt?]
    rcases text? s with _ | ⟨name, rest⟩
    · rfl
    · simp only [Option.bind_eq_bind, Option.bind_some]
      rcases colon? rest with _ | rest
      · rfl
      · simp only [Option.bind_some]
        rcases value? fuel rest with _ | ⟨value, rest⟩ <;> rfl

section Block

variable {β : Type} {opening closing : Char} {wrap : List β → Json}
  {front? : Nat → List Char → Option (β × List Char)}
  {loop : Nat → List β → List Char → Option (Json × List Char)}
  {texts : List String} {entries : List β}

theorem Bracketed.turn?_closing (b : Bracketed opening closing wrap front? loop)
    {margin rest : List Char} (blank : ∀ c ∈ margin, isBlank c = true) :
    turn? closing (margin ++ closing :: rest) = some (.finished rest) := by
  have solid : StopsAt isBlank (closing :: rest) := by
    rcases b.closes with rfl | rfl <;> exact stopsAt_cons (by decide)
  have other : closing ≠ ',' := by
    rcases b.closes with rfl | rfl <;> decide
  unfold turn?
  rw [skipBlanks_append blank solid]
  simp [other]

theorem intercalate_map_cons (margin text : String) (some : texts ≠ []) :
    ",".intercalate ((text :: texts).map (margin ++ ·)) =
      margin ++ text ++ "," ++ ",".intercalate (texts.map (margin ++ ·)) := by
  cases texts with
  | nil => exact absurd rfl some
  | cons second texts => exact String.intercalate_cons_cons

theorem intercalate_eq_append (margin text : String) (texts : List String) :
    ∃ tail, ",".intercalate ((text :: texts).map (margin ++ ·)) = margin ++ text ++ tail := by
  cases texts with
  | nil => exact ⟨"", by simp⟩
  | cons second texts =>
    rw [intercalate_map_cons margin text (List.cons_ne_nil _ _), String.append_assoc]
    exact ⟨_, rfl⟩

/-- The loop reads entries that each stand behind a margin, with commas between them. -/
theorem Bracketed.loop_intercalate (b : Bracketed opening closing wrap front? loop)
    {margin last : String} (wide : 0 < margin.length) (wide' : last.toList ≠ [])
    (blank : ∀ c ∈ margin.toList, isBlank c = true) (blank' : ∀ c ∈ last.toList, isBlank c = true)
    (reads : List.Forall₂ (Reads front?) texts entries) (filled : texts ≠ [])
    (fuel : Nat) (read : List β) (rest : List Char)
    (enough : 2 * (",".intercalate (texts.map (margin ++ ·))).length < fuel) :
    loop fuel read (skipBlanks ((",".intercalate (texts.map (margin ++ ·))).toList ++
      (last.toList ++ closing :: rest))) = some (wrap (read.reverse ++ entries), rest) := by
  induction reads generalizing fuel read with
  | nil => exact absurd rfl filled
  | @cons text entry texts entries first others ih =>
    have skipped (more : List Char) :
        skipBlanks ((margin ++ text).toList ++ more) = text.toList ++ more := by
      rw [String.toList_append, List.append_assoc]
      exact skipBlanks_append blank (first.stopsAt more)
    cases fuel with
    | zero => cases enough
    | succ fuel =>
      cases texts with
      | nil =>
        cases others
        have ends : StopsAt continuesNumber (last.toList ++ closing :: rest) := by
          obtain ⟨c, spaces, same⟩ := List.exists_cons_of_ne_nil wide'
          rw [same]
          exact stopsAt_cons (continuesNumber_of_isBlank (blank' c (same ▸ .head _)))
        rw [List.map_singleton, String.intercalate_singleton, String.length_append] at enough
        rw [List.map_singleton, String.intercalate_singleton, skipped, b.step,
          first.read ends (by omega)]
        simp [b.turn?_closing blank']
      | cons second texts =>
        have more := List.cons_ne_nil second texts
        rw [intercalate_map_cons margin text more, String.length_append, String.length_append,
          String.length_append] at enough
        rw [intercalate_map_cons margin text more, String.toList_append, String.toList_append,
          List.append_assoc, List.append_assoc, skipped, b.step]
        have ends (more : List Char) : StopsAt continuesNumber (",".toList ++ more) :=
          stopsAt_cons (by decide)
        rw [first.read (ends _) (by omega)]
        have next := ih more fuel (entry :: read) (by omega)
        rw [List.reverse_cons, List.append_assoc] at next
        exact next

/-- The line feed and the blanks in front of an entry at a level. -/
def margin (level : Nat) : String := "\n" ++ String.ofList (List.replicate (2 * level) ' ')

theorem length_margin_pos (level : Nat) : 0 < (margin level).length := by
  rw [margin, String.length_append]
  exact Nat.add_pos_left (by decide) _

theorem toList_margin_ne_nil (level : Nat) : (margin level).toList ≠ [] := by
  rw [margin, String.toList_append]
  exact List.cons_ne_nil _ _

theorem isBlank_of_mem_margin {level : Nat} {c : Char} (inside : c ∈ (margin level).toList) :
    isBlank c = true := by
  simp only [margin, String.toList_append, String.toList_ofList, List.mem_append,
    List.mem_replicate] at inside
  rcases inside with feed | ⟨-, rfl⟩
  · rw [List.mem_singleton.mp feed]
    decide
  · decide

theorem block_of_ne_nil (level : Nat) (opened closed : String) (some : texts ≠ []) :
    block level opened closed texts =
      opened ++ ",".intercalate (texts.map (margin (level + 1) ++ ·)) ++ margin level
        ++ closed := by
  unfold block
  rw [if_neg (by simpa using some)]
  rfl

theorem toList_block {level : Nat} {opened closed : String} (opens : opened.toList = [opening])
    (closes : closed.toList = [closing]) (some : texts ≠ []) :
    (block level opened closed texts).toList =
      opening :: ((",".intercalate (texts.map (margin (level + 1) ++ ·))).toList ++
        ((margin level).toList ++ [closing])) := by
  rw [block_of_ne_nil level opened closed some]
  simp [opens, closes]

/-- The first of the entries stands behind its margin. -/
theorem skipBlanks_entries {margin text : String} {entry : β} {c : Char} {others : List Char}
    (blank : ∀ c ∈ margin.toList, isBlank c = true) (first : Reads front? text entry)
    (head : text.toList = c :: others) (texts : List String) (more : List Char) :
    ∃ rest, skipBlanks ((",".intercalate ((text :: texts).map (margin ++ ·))).toList ++ more) =
      c :: rest := by
  obtain ⟨tail, starts⟩ := intercalate_eq_append margin text texts
  refine ⟨others ++ (tail.toList ++ more), ?_⟩
  rw [starts, String.toList_append, String.toList_append, List.append_assoc, List.append_assoc,
    skipBlanks_append blank (first.stopsAt _), head, List.cons_append]

/-- What stands between two brackets is read as what the loop makes of it. -/
theorem Bracketed.reads_block (b : Bracketed opening closing wrap front? loop)
    (reads : List.Forall₂ (Reads front?) texts entries) (level : Nat) {opened closed : String}
    (opens : opened.toList = [opening]) (closes : closed.toList = [closing]) :
    Reads value? (block level opened closed texts) (wrap entries) := by
  cases reads with
  | nil =>
    have brackets : (block level opened closed []).toList = [opening, closing] := by
      simp [block, opens, closes]
    refine ⟨⟨opening, [closing], brackets, b.opens⟩, fun {fuel rest} _ enough => ?_⟩
    cases fuel with
    | zero => cases enough
    | succ fuel =>
      rw [brackets]
      exact b.empty fuel rest
  | @cons text entry texts entries first others =>
    have some := List.cons_ne_nil text texts
    obtain ⟨inner, innerIs⟩ :
        ∃ t, t = ",".intercalate ((text :: texts).map (margin (level + 1) ++ ·)) := ⟨_, rfl⟩
    have parts : (block level opened closed (text :: texts)).toList =
        opening :: (inner.toList ++ ((margin level).toList ++ [closing])) := by
      rw [innerIs]
      exact toList_block opens closes some
    have length : (block level opened closed (text :: texts)).length =
        inner.length + (margin level).length + 2 := by
      rw [← String.length_toList, parts]
      simp only [List.length_cons, List.length_append, List.length_nil, String.length_toList]
      omega
    refine ⟨⟨opening, _, parts, b.opens⟩, fun {fuel rest} _ enough => ?_⟩
    cases fuel with
    | zero => cases enough
    | succ fuel =>
      have read := b.loop_intercalate (length_margin_pos (level + 1)) (toList_margin_ne_nil level)
        (fun c => isBlank_of_mem_margin) (fun c => isBlank_of_mem_margin) (.cons first others) some
        fuel [] rest (by rw [← innerIs]; omega)
      obtain ⟨c, others, head, -, square, brace⟩ := first.opening
      have other : c ≠ closing := by
        rcases b.closes with rfl | rfl
        · exact square
        · exact brace
      obtain ⟨behind, solid⟩ := skipBlanks_entries (fun c => isBlank_of_mem_margin) first head texts
        ((margin level).toList ++ closing :: rest)
      rw [← innerIs] at read solid
      rw [parts, List.cons_append, List.append_assoc, List.append_assoc, List.singleton_append,
        b.filled fuel _ c behind solid other]
      exact read

end Block

/-! ### Scalars -/

theorem value?_of_scalar {c : Char} (quote : c ≠ '"') (square : c ≠ '[') (brace : c ≠ '\x7b')
    (fuel : Nat) (rest : List Char) : value? (fuel + 1) (c :: rest) = scalar? (c :: rest) := by
  rw [value?.eq_def]
  dsimp only
  split
  · rename_i same
    exact absurd (List.cons.inj same).1 quote
  · rename_i same
    exact absurd (List.cons.inj same).1 square
  · rename_i same
    exact absurd (List.cons.inj same).1 brace
  · rfl

/-- A word or a number is read as a value where it opens like neither a text nor a bracket. -/
theorem reads_of_scalar? {text : String} {v : Json} {c : Char} {others : List Char}
    (opens : text.toList = c :: others) (solid : isBlank c = false)
    (other : c ∉ ['"', '[', ']', '\x7b', '\x7d'])
    (scalar : ∀ rest, StopsAt continuesNumber rest →
      scalar? (text.toList ++ rest) = some (v, rest)) : Reads value? text v := by
  simp only [List.mem_cons, List.not_mem_nil, or_false, not_or] at other
  obtain ⟨quote, square, square', brace, brace'⟩ := other
  refine ⟨⟨c, others, opens, solid, square', brace'⟩, fun {fuel rest} stops enough => ?_⟩
  cases fuel with
  | zero => cases enough
  | succ fuel =>
    rw [← scalar rest stops, opens, List.cons_append]
    exact value?_of_scalar quote square brace fuel _

theorem reads_number {text : String} (numeral : IsNumeral text.toList) :
    Reads value? text (.number text) := by
  have scalar : ∀ rest, StopsAt continuesNumber rest →
      scalar? (text.toList ++ rest) = some (.number text, rest) := by
    intro rest stops
    rw [scalar?_append numeral stops, String.ofList_toList]
  obtain ⟨c, others, digit, opens | opens⟩ := numeral.opening
  · have other : ∀ d : Char, d.isDigit = false → c ≠ d := fun d => ne_of_isDigit digit
    refine reads_of_scalar? opens ?_ ?_ scalar
    · simp [isBlank, other]
    · simp [other]
  · exact reads_of_scalar? opens (by decide) (by decide) scalar

theorem reads_text (s : String) : Reads value? (textLiteral s) (.text s) := by
  have opens : (textLiteral s).toList = '"' :: (s.toList.flatMap escape ++ ['"']) := by
    simp [textLiteral]
  refine ⟨⟨_, _, opens, by decide⟩, fun {fuel rest} _ enough => ?_⟩
  cases fuel with
  | zero => cases enough
  | succ fuel =>
    have read := text?_textLiteral s rest
    rw [opens, List.cons_append] at read ⊢
    rw [value?]
    rw [read]
    rfl

/-- A member is its name, a colon and its value. -/
theorem reads_member {text : String} {v : Json} (name : String) (reads : Reads value? text v) :
    Reads memberAt? (textLiteral name ++ ": " ++ text) (name, v) := by
  have opens : (textLiteral name).toList = '"' :: (name.toList.flatMap escape ++ ['"']) := by
    simp [textLiteral]
  refine ⟨⟨'"', _, by rw [String.toList_append, String.toList_append, opens]; rfl, by decide⟩,
    fun {fuel rest} stops enough => ?_⟩
  have colon : colon? (": ".toList ++ (text.toList ++ rest)) = some (text.toList ++ rest) := by
    change some (skipBlanks (text.toList ++ rest)) = _
    rw [skipBlanks_of_stopsAt (reads.stopsAt rest)]
  have enough : 2 * text.length < fuel := by
    rw [String.length_append] at enough
    omega
  rw [String.toList_append, String.toList_append, List.append_assoc, List.append_assoc]
  simp only [memberAt?, text?_textLiteral, Option.bind_eq_bind, Option.bind_some, colon,
    reads.read stops enough]

/-! ### Values -/

/-- The texts of all numbers in the value are numbers. -/
inductive Proper : Json → Prop where
  | null : Proper null
  | bool (value : Bool) : Proper (bool value)
  | number {text : String} (numeral : IsNumeral text.toList) : Proper (number text)
  | text (value : String) : Proper (text value)
  | list {items : List Json} (proper : ∀ v ∈ items, Proper v) : Proper (list items)
  | object {members : List (String × Json)} (proper : ∀ m ∈ members, Proper m.2) :
    Proper (object members)

theorem indentedItems_eq_map (level : Nat) (items : List Json) :
    indentedItems level items = items.map (indentedAt level) := by
  induction items with
  | nil => rfl
  | cons v items ih => rw [indentedItems, ih, List.map_cons]

theorem indentedMembers_eq_map (level : Nat) (members : List (String × Json)) :
    indentedMembers level members =
      members.map fun m => textLiteral m.1 ++ ": " ++ indentedAt level m.2 := by
  induction members with
  | nil => rfl
  | cons m members ih => rw [indentedMembers, ih, List.map_cons]

/-- A proper value is read from its text at every level. -/
theorem Proper.reads {v : Json} (proper : Proper v) (level : Nat) :
    Reads value? (indentedAt level v) v := by
  induction proper generalizing level with
  | null =>
    rw [indentedAt]
    have opens : "null".toList = 'n' :: ['u', 'l', 'l'] := rfl
    exact reads_of_scalar? opens (by decide) (by decide) fun rest _ => rfl
  | bool value =>
    cases value with
    | false =>
      rw [indentedAt]
      have opens : "false".toList = 'f' :: ['a', 'l', 's', 'e'] := rfl
      exact reads_of_scalar? opens (by decide) (by decide) fun rest _ => rfl
    | true =>
      rw [indentedAt]
      have opens : "true".toList = 't' :: ['r', 'u', 'e'] := rfl
      exact reads_of_scalar? opens (by decide) (by decide) fun rest _ => rfl
  | number numeral => exact reads_number numeral
  | text value => exact reads_text value
  | @list items _ ih =>
    rw [indentedAt, indentedItems_eq_map]
    refine bracketed_list.reads_block ?_ level rfl rfl
    rw [List.forall₂_map_left_iff, List.forall₂_same]
    exact fun v inside => ih v inside (level + 1)
  | @object members _ ih =>
    rw [indentedAt, indentedMembers_eq_map]
    refine bracketed_object.reads_block ?_ level rfl rfl
    rw [List.forall₂_map_left_iff, List.forall₂_same]
    exact fun m inside => reads_member m.1 (ih m inside (level + 1))

/-- **What is written is read back.** The text of a proper value over several lines holds the value
and nothing else. -/
theorem read?_indented {v : Json} (proper : Proper v) : read? (indented v) = some v := by
  have reads := proper.reads 0
  have front := reads.stopsAt []
  have enough : 2 * (indentedAt 0 v).length < 2 * (indentedAt 0 v).length + 1 := Nat.lt_succ_self _
  have read := reads.read (stopsAt_nil _) enough
  rw [List.append_nil] at front read
  unfold read?
  rw [indented, skipBlanks_of_stopsAt front, read]
  rfl

end VolatilityDesk.Json
