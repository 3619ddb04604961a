import ShallowCpp.Text.Search

/-!
# Lines and joined rows

Cutting a text at separators is the library's splitting of a list (`fields_eq_splitOnP`). A text
that is cut at one of its separators falls into the fields in front of it and those behind it, so
the lines of rows that were joined by line feeds, or that each end in one, are the lines of the rows
one after the other (`lines_join`). A row without line feeds is a single line, and is therefore
found again among the lines of the whole (`mem_lines_join`).

Neither cutting nor trimming puts in a character: a field consists of characters of the text that
are no separators, and a trimmed text of characters of the text (`of_mem_fields`, `trim_subset`).

Searching a text position by position finds a needle exactly when the needle is an infix of the text
(`occursIn_iff`). The line on which an offset lies does not fall as the offset grows
(`lineAt_mono`).
-/

set_option autoImplicit false

namespace ShallowCpp.Text

/-! ## Fields -/

theorem fields_eq_splitOnP (isSeparator : Char → Bool) (text : Text) :
    fields isSeparator text = text.splitOnP isSeparator := by
  induction text with
  | nil => rfl
  | cons char rest ih =>
    obtain ⟨field, others, cut⟩ :=
      List.exists_cons_of_ne_nil (List.splitOnP_ne_nil isSeparator rest)
    rw [fields, ih, List.splitOnP_cons_eq_if_modifyHead, cut]
    rfl

/-- A field has characters of the text only, and no separators. -/
theorem of_mem_fields {isSeparator : Char → Bool} {text field : Text}
    (member : field ∈ fields isSeparator text) :
    ∀ char ∈ field, char ∈ text ∧ isSeparator char = false := by
  induction text generalizing field with
  | nil =>
    rw [List.mem_singleton.mp member]
    exact fun _ absent => absurd absent List.not_mem_nil
  | cons first rest ih =>
    intro char inside
    rw [fields] at member
    split at member
    next =>
      rcases List.mem_cons.mp member with rfl | later
      · cases inside
      · exact (ih later char inside).imp_left (List.mem_cons_of_mem first)
    next ordinary =>
      have starts : isSeparator first = false := Bool.eq_false_iff.mpr ordinary
      split at member
      next =>
        rw [List.mem_singleton.mp member] at inside
        rw [List.mem_singleton.mp inside]
        exact ⟨List.mem_cons_self, starts⟩
      next field' others cut =>
        rw [cut] at ih
        rcases List.mem_cons.mp member with rfl | later
        · rcases List.mem_cons.mp inside with rfl | behind
          · exact ⟨List.mem_cons_self, starts⟩
          · exact (ih List.mem_cons_self char behind).imp_left (List.mem_cons_of_mem first)
        · exact (ih (List.mem_cons_of_mem _ later) char inside).imp_left
            (List.mem_cons_of_mem first)

/-- A word has no blanks in it. -/
theorem isBlank_of_mem_words {text word : Text} (member : word ∈ words text) :
    ∀ char ∈ word, isBlank char = false :=
  fun char inside => (of_mem_fields (List.mem_filter.mp member).1 char inside).2

/-! ## Trimming -/

theorem trimStart_subset (text : Text) : trimStart text ⊆ text :=
  (List.dropWhile_sublist isBlank).subset

theorem trimEnd_subset (text : Text) : trimEnd text ⊆ text := by
  intro char member
  rw [trimEnd, List.mem_reverse] at member
  exact List.mem_reverse.mp ((List.dropWhile_sublist isBlank).subset member)

theorem trim_subset (text : Text) : trim text ⊆ text :=
  List.Subset.trans (trimEnd_subset _) (trimStart_subset text)

/-! ## Lines -/

theorem lines_eq_splitOn (text : Text) : lines text = text.splitOn '\n' := by
  rw [lines, fields_eq_splitOnP, List.splitOn_eq_splitOnP]

/-- A line feed divides the lines of a text. -/
theorem lines_append_lineFeed (before behind : Text) :
    lines (before ++ '\n' :: behind) = lines before ++ lines behind := by
  simp only [lines_eq_splitOn, List.splitOn_append_cons_self]

/-- A text without line feeds is one line. -/
theorem lines_eq_singleton {text : Text} (oneLine : '\n' ∉ text) : lines text = [text] := by
  rw [lines_eq_splitOn, List.splitOn_eq_singleton oneLine]

theorem lineFeed_notMem_of_mem_lines {text line : Text} (member : line ∈ lines text) :
    '\n' ∉ line := by
  intro inside
  have separates := (of_mem_fields member '\n' inside).2
  cases separates

/-- No digit of a number is a line feed. -/
theorem lineFeed_notMem_ofNat (number : Nat) : '\n' ∉ ofNat number := by
  intro member
  have digit := Nat.isDigit_of_mem_toDigits (by decide) (by decide) member
  cases digit

/-! ## Rows -/

/-- The lines of rows with line feeds between them. -/
theorem lines_join {rows : List Text} (someRow : rows ≠ []) :
    lines (join ['\n'] rows) = rows.flatMap lines := by
  induction rows with
  | nil => exact absurd rfl someRow
  | cons row others ih =>
    cases others with
    | nil => simp [join]
    | cons next others =>
      have joined : join ['\n'] (row :: next :: others)
          = row ++ '\n' :: join ['\n'] (next :: others) := by simp [join]
      rw [joined, lines_append_lineFeed, ih (List.cons_ne_nil next others)]
      simp only [List.flatMap_cons]

/-- Rows without line feeds are their own lines. -/
theorem flatMap_lines {rows : List Text} (oneLine : ∀ row ∈ rows, '\n' ∉ row) :
    rows.flatMap lines = rows := by
  induction rows with
  | nil => rfl
  | cons row others ih =>
    obtain ⟨first, rest⟩ := List.forall_mem_cons.mp oneLine
    rw [List.flatMap_cons, lines_eq_singleton first, ih rest, List.singleton_append]

/-- A row without line feeds is one of the lines of the joined rows. -/
theorem mem_lines_join {rows : List Text} {row : Text} (member : row ∈ rows)
    (oneLine : '\n' ∉ row) : row ∈ lines (join ['\n'] rows) := by
  rw [lines_join (List.ne_nil_of_mem member)]
  refine List.mem_flatMap.mpr ⟨row, member, ?_⟩
  rw [lines_eq_singleton oneLine]
  exact List.mem_singleton_self row

/-! ## Occurrences -/

theorem occursIn_iff (needle text : Text) : occursIn needle text = true ↔ needle <:+: text := by
  induction text with
  | nil => simp [occursIn]
  | cons char rest ih =>
    rw [occursIn, Bool.or_eq_true, ih, List.isPrefixOf_iff_prefix, List.infix_cons_iff]

/-- The line number does not fall from one offset to a later one. -/
theorem lineAt_mono (text : Text) {first second : Nat} (ordered : first ≤ second) :
    lineAt text first ≤ lineAt text second := by
  have sublist := (List.take_sublist_take_left ordered : (text.take first).Sublist _)
  exact Nat.add_le_add_left (sublist.count_le '\n') 1

end ShallowCpp.Text
