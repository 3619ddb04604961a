import ShallowCpp.Proofs.Token.Literals
import ShallowCpp.Proofs.Token.Places
import ShallowCpp.Proofs.Token.Stream

/-!
# The kinds of tokens

The tables from which a kind is told hold more than cutting a line can yield: operators of two
characters, and numbers with a point or with a signed exponent. A fragment is a delimiter or a run
without delimiters, so of these tables only a part is ever met. This module says which texts have
which kind once they are fragments (`kinds_by_form`).

The form of a text is stated without the order in which the tables are asked. Every delimiter is a
single operator, a punctuation mark or a quotation mark, and a run is a reserved word, a number or
neither. A text has at most one form, so the order of the tables does not matter for fragments
(`HasForm.classify_eq`).
-/

set_option autoImplicit false

namespace ShallowCpp.Token

open Text

/-! ## Forms -/

/-- The operators of one character. -/
def operatorChars : List Char :=
  "+-*/%=><!&|^~?".toList

/-- The punctuation marks, each of which is one character. -/
def punctuationChars : List Char :=
  ";\x7b\x7d()[],.:\\".toList

/-- The quotation marks. -/
def quotes : List Char :=
  "\"'".toList

/-- The numbers without delimiters: decimal digits with an exponent that has no sign, or without
exponent, and hexadecimal digits behind their mark. -/
inductive PlainNumber : Text → Prop where
  | decimal {digits : Text} : Digits digits → PlainNumber digits
  | scaled {digits exponent : Text} {mark : Char} : Digits digits → mark = 'e' ∨ mark = 'E' →
      Digits exponent → PlainNumber (digits ++ mark :: exponent)
  | hexadecimal {mark : Char} {digits : Text} : mark = 'x' ∨ mark = 'X' → HexDigits digits →
      PlainNumber ('0' :: mark :: digits)

/-- The texts of each kind among the fragments. -/
inductive HasForm : Kind → Text → Prop where
  | operator {char : Char} : char ∈ operatorChars → HasForm .operator [char]
  | punctuation {char : Char} : char ∈ punctuationChars → HasForm .punctuation [char]
  | quote {char : Char} : char ∈ quotes → HasForm .literal [char]
  | number {text : Text} : PlainNumber text → HasForm .literal text
  | keyword {text : Text} : text ∈ keywords → HasForm .keyword text
  | identifier {text : Text} : IsRun text → text ∉ keywords → ¬PlainNumber text →
      HasForm .identifier text

/-! ## Delimiters -/

variable {text : Text}

/-- Every delimiter is in one of the tables of single characters. -/
theorem isDelimiter_iff {char : Char} :
    isDelimiter char = true ↔
      char ∈ operatorChars ∨ char ∈ punctuationChars ∨ char ∈ quotes := by
  have rearranged : delimiters.Perm (operatorChars ++ (punctuationChars ++ quotes)) := by decide
  rw [isDelimiter, List.contains_iff_mem, rearranged.mem_iff, List.mem_append, List.mem_append]

theorem IsRun.isDelimiter (isRun : IsRun text) {char : Char} (member : char ∈ text) :
    isDelimiter char = false := by
  have plain := isRun.plain char member
  simpa using (Bool.and_eq_true_iff.mp plain).2

/-- A text with a delimiter in it is no run. -/
theorem IsRun.notMem (isRun : IsRun text) {char : Char}
    (delimiter : Token.isDelimiter char = true) : char ∉ text := by
  intro member
  rw [isRun.isDelimiter member] at delimiter
  cases delimiter

/-- A run is in no table whose texts all have delimiters in them. -/
theorem IsRun.notMem_table (isRun : IsRun text) {table : List Text}
    (delimited : table.all (·.any Token.isDelimiter) = true) : text ∉ table := by
  intro member
  have some := List.all_eq_true.mp delimited text member
  obtain ⟨char, inText, delimiter⟩ := List.any_eq_true.mp some
  exact isRun.notMem delimiter inText

theorem IsRun.notMem_operators (isRun : IsRun text) : text ∉ operators :=
  isRun.notMem_table (by decide)

theorem IsRun.notMem_punctuationMarks (isRun : IsRun text) : text ∉ punctuationMarks :=
  isRun.notMem_table (by decide)

theorem IsRun.isLiteral_eq (isRun : IsRun text) : isLiteral text = isNumber text := by
  have noQuote : ∀ quote, Token.isDelimiter quote = true → (text.head? == some quote) = false := by
    intro quote delimiter
    rw [beq_eq_false_iff_ne]
    intro first
    exact isRun.notMem delimiter (List.mem_of_mem_head? first)
  rw [isLiteral, noQuote '"' rfl, noQuote '\'' rfl, Bool.or_false, Bool.or_false]

/-! ## Numbers -/

theorem PlainNumber.number (plainNumber : PlainNumber text) : Number text := by
  cases plainNumber with
  | decimal digits =>
    have number := Number.decimal (.whole digits) .absent
    rwa [List.append_nil] at number
  | scaled digits marked exponent => exact .decimal (.whole digits) (.unsigned marked exponent)
  | hexadecimal marked digits => exact .hexadecimal marked digits

/-- Of the ways to write a number only the three without point and sign are runs. -/
theorem IsRun.plainNumber (isRun : IsRun text) (number : Number text) : PlainNumber text := by
  have noPoint : '.' ∉ text := isRun.notMem rfl
  cases number with
  | hexadecimal marked digits => exact .hexadecimal marked digits
  | decimal mantissa exponent =>
    cases mantissa with
    | pointed _ _ => simp at noPoint
    | fraction _ => simp at noPoint
    | whole digits =>
      cases exponent with
      | absent =>
        rw [List.append_nil]
        exact .decimal digits
      | unsigned marked exponent => exact .scaled digits marked exponent
      | signed _ isSign _ =>
        have noPlus : '+' ∉ _ := isRun.notMem rfl
        have noMinus : '-' ∉ _ := isRun.notMem rfl
        rcases isSign with rfl | rfl
        · simp at noPlus
        · simp at noMinus

/-! ## Single characters -/

/-- The kind of a single character. -/
def singleKind (char : Char) : Kind :=
  if operators.contains [char] then .operator
  else if isLiteral [char] then .literal
  else if punctuationMarks.contains [char] then .punctuation
  else .identifier

/-- No reserved word is a single character. -/
theorem classify_singleton (char : Char) : classify [char] = singleKind char := by
  have longer : keywords.all (fun word => word.length != 1) = true := by decide
  have notReserved : ¬keywords.contains [char] = true := by
    intro reserved
    have length := List.all_eq_true.mp longer [char] (List.contains_iff_mem.mp reserved)
    cases length
  rw [classify, if_neg notReserved, singleKind]

/-! ## A fragment has the kind of its form -/

/-- **A text is given the kind of its form.** -/
theorem HasForm.classify_eq {kind : Kind} (form : HasForm kind text) : classify text = kind := by
  have single : ∀ {chars : List Char} {kind : Kind},
      chars.all (fun char => singleKind char == kind) = true → ∀ {char}, char ∈ chars →
        classify [char] = kind := by
    intro chars kind agree char member
    rw [classify_singleton]
    exact beq_iff_eq.mp (List.all_eq_true.mp agree char member)
  cases form with
  | operator member => exact single (by decide) member
  | punctuation member => exact single (by decide) member
  | quote member => exact single (by decide) member
  | keyword member => simp [classify, member]
  | number plainNumber =>
    have number := plainNumber.number
    exact classify_eq_literal_iff.mpr
      ⟨number.notMem_keywords, number.notMem_operators, isLiteral_iff.mpr (.inl number)⟩
  | identifier isRun notReserved noNumber =>
    have refused : isNumber text = false := by
      apply Bool.eq_false_iff.mpr
      intro accepted
      exact noNumber (isRun.plainNumber (isNumber_iff.mp accepted))
    simp [classify, notReserved, isRun.notMem_operators, isRun.isLiteral_eq, refused,
      isRun.notMem_punctuationMarks]

theorem IsSingle.hasForm (single : IsSingle text) :
    HasForm .operator text ∨ HasForm .punctuation text ∨ HasForm .literal text := by
  obtain ⟨char, delimiter, rfl⟩ := single
  exact (isDelimiter_iff.mp delimiter).imp .operator (.imp .punctuation .quote)

/-- Every fragment has a form. -/
theorem exists_hasForm (sort : IsSingle text ∨ IsRun text) : ∃ kind, HasForm kind text := by
  rcases sort with single | isRun
  · rcases single.hasForm with operator | punctuation | literal
    · exact ⟨_, operator⟩
    · exact ⟨_, punctuation⟩
    · exact ⟨_, literal⟩
  · by_cases reserved : text ∈ keywords
    · exact ⟨_, .keyword reserved⟩
    · by_cases isNumber : PlainNumber text
      · exact ⟨_, .number isNumber⟩
      · exact ⟨_, .identifier isRun reserved isNumber⟩

/-- The kind of a fragment is the one whose form it has. -/
theorem classify_eq_iff (sort : IsSingle text ∨ IsRun text) {kind : Kind} :
    classify text = kind ↔ HasForm kind text := by
  constructor
  · rintro rfl
    obtain ⟨kind, form⟩ := exists_hasForm sort
    rw [form.classify_eq]
    exact form
  · exact HasForm.classify_eq

/-! ## What has a form -/

theorem hasForm_operator_iff :
    HasForm .operator text ↔ ∃ char ∈ operatorChars, text = [char] := by
  constructor
  · intro form
    cases form with
    | operator member => exact ⟨_, member, rfl⟩
  · rintro ⟨char, member, rfl⟩
    exact .operator member

theorem hasForm_punctuation_iff :
    HasForm .punctuation text ↔ ∃ char ∈ punctuationChars, text = [char] := by
  constructor
  · intro form
    cases form with
    | punctuation member => exact ⟨_, member, rfl⟩
  · rintro ⟨char, member, rfl⟩
    exact .punctuation member

theorem hasForm_literal_iff :
    HasForm .literal text ↔ (∃ char ∈ quotes, text = [char]) ∨ PlainNumber text := by
  constructor
  · intro form
    cases form with
    | quote member => exact .inl ⟨_, member, rfl⟩
    | number plainNumber => exact .inr plainNumber
  · rintro (⟨char, member, rfl⟩ | plainNumber)
    · exact .quote member
    · exact .number plainNumber

theorem hasForm_keyword_iff : HasForm .keyword text ↔ text ∈ keywords := by
  constructor
  · intro form
    cases form with
    | keyword member => exact member
  · exact .keyword

/-! ## Tokens of a source -/

/-- A token that is no directive is a fragment of a line, with the kind that its text gives it. -/
theorem exists_fragment_of_mem_tokenize {source : Text} {token : Token}
    (member : token ∈ tokenize source) (ordinary : token.kind ≠ .preprocessor) :
    (∃ line ∈ lines source, token.value ∈ fragments line) ∧ token.kind = classify token.value := by
  rw [tokenize_eq, List.mem_flatten] at member
  obtain ⟨tokens, isRow, inRow⟩ := member
  obtain ⟨index, bound, rfl⟩ := List.mem_mapIdx.mp isRow
  rw [onLine] at inRow
  split_ifs at inRow with silent directive
  · cases inRow
  · rw [List.mem_singleton.mp inRow] at ordinary
    exact absurd rfl ordinary
  · obtain ⟨value, inLine, rfl⟩ := List.mem_map.mp inRow
    exact ⟨⟨_, List.getElem_mem bound, inLine⟩, rfl⟩

/-- **The kinds of the tokens of a source, by their texts.** Directives apart, the operators and the
punctuation marks are the tokens of one character in their tables, and the literals are the
quotation marks and the numbers without delimiters. Any other token is a run, and is reserved or a
name as the table of keywords has it. A delimiter in a token is all of it, so no operator has two
characters, no number has a point or a sign in it, and no name has a delimiter. -/
theorem kinds_by_form (source : Text) (token : Token) (member : token ∈ tokenize source)
    (ordinary : token.kind ≠ .preprocessor) :
    (token.kind = .operator ↔ ∃ char ∈ operatorChars, token.value = [char]) ∧
      (token.kind = .punctuation ↔ ∃ char ∈ punctuationChars, token.value = [char]) ∧
      (token.kind = .literal ↔
        (∃ char ∈ quotes, token.value = [char]) ∨ PlainNumber token.value) ∧
      (token.kind ≠ .operator → token.kind ≠ .punctuation → token.kind ≠ .literal →
        token.value ≠ [] ∧
          (∀ char ∈ token.value, isDelimiter char = false ∧ isBlank char = false) ∧
          (token.kind = .keyword ↔ token.value ∈ keywords) ∧
          (token.kind = .identifier ↔ token.value ∉ keywords)) ∧
      ∀ char ∈ token.value, isDelimiter char = true → token.value = [char] := by
  obtain ⟨⟨line, -, inLine⟩, classified⟩ := exists_fragment_of_mem_tokenize member ordinary
  have sort := isSingle_or_isRun_of_mem_fragments inLine
  have kind_iff : ∀ {kind : Kind}, token.kind = kind ↔ HasForm kind token.value := by
    intro kind
    rw [classified]
    exact classify_eq_iff sort
  refine ⟨kind_iff.trans hasForm_operator_iff, kind_iff.trans hasForm_punctuation_iff,
    kind_iff.trans hasForm_literal_iff, ?_, ?_⟩
  · intro noOperator noPunctuation noLiteral
    have isRun : IsRun token.value := by
      refine sort.resolve_left fun single => ?_
      rcases single.hasForm with operator | punctuation | literal
      · exact noOperator (kind_iff.mpr operator)
      · exact noPunctuation (kind_iff.mpr punctuation)
      · exact noLiteral (kind_iff.mpr literal)
    refine ⟨isRun.ne_nil, ?_, kind_iff.trans hasForm_keyword_iff, ?_⟩
    · intro char inside
      exact ⟨isRun.isDelimiter inside, isBlank_of_isPlain (isRun.plain char inside)⟩
    · rw [kind_iff]
      constructor
      · intro form
        cases form with
        | identifier _ notReserved _ => exact notReserved
      · intro notReserved
        exact .identifier isRun notReserved fun number => noLiteral (kind_iff.mpr (.number number))
  · intro char inside delimiter
    rcases sort with ⟨other, -, whole⟩ | isRun
    · rw [whole] at inside ⊢
      rw [List.mem_singleton.mp inside]
    · exact absurd inside (isRun.notMem delimiter)

/-- A number with a point and a signed exponent is cut up: the digits behind the sign are a number,
and what stands in front of the sign is a name. -/
theorem kinds_by_form_of_split_number :
    (⟨"3".toList, .literal, 1⟩ ∈ tokenize "x>=1.5e+3".toList ∧
        ((∃ char ∈ quotes, "3".toList = [char]) ∨ PlainNumber "3".toList)) ∧
      ⟨"5e".toList, .identifier, 1⟩ ∈ tokenize "x>=1.5e+3".toList ∧ "5e".toList ∉ keywords := by
  have number : ⟨"3".toList, .literal, 1⟩ ∈ tokenize "x>=1.5e+3".toList := by decide +kernel
  have name : ⟨"5e".toList, .identifier, 1⟩ ∈ tokenize "x>=1.5e+3".toList := by decide +kernel
  obtain ⟨-, -, literal, -⟩ := kinds_by_form _ _ number (by decide)
  obtain ⟨-, -, -, run, -⟩ := kinds_by_form _ _ name (by decide)
  obtain ⟨-, -, -, identifier⟩ := run (by decide) (by decide) (by decide)
  exact ⟨⟨number, literal.mp rfl⟩, name, identifier.mp rfl⟩

end ShallowCpp.Token
