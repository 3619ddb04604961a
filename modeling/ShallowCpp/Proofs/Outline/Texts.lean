import ShallowCpp.Proofs.Linkage
import ShallowCpp.Proofs.Outline.Declaration

/-!
# The texts of an outline

Everything that a statement holds as text is made of characters of the line it stands on: the parts
of a declaration are parts of what the grammar spells, and a value or an expression is the line with
something taken off its ends. A line has no line feed in it. The name of a parameter is a word
between blanks, and the name of a function is a word. So no text in a function of an outline has a
line feed in it, whatever the source (`Program.oneLine_of_mem_functions`).

The names of the functions and of the variables of a source are words that stand in the source
(`Program.isNameIn_of_mem_functions`, `Program.isNameIn_of_mem_declarations`).
-/

set_option autoImplicit false

namespace ShallowCpp

/-! ## Statements -/

namespace VariableDecl

theorem initialValue_subset (text : Text) : initialValue text ⊆ text := by
  intro char member
  exact (List.dropWhile_sublist _).subset (Text.trim_subset _ member)

theorem Spells.name_subset {decl : VariableDecl} {written : Text} (spelled : Spells decl written) :
    decl.name ⊆ written := by
  cases spelled with
  | @parts type gap name space ending init =>
    intro char member
    have inName : char ∈ name := member
    simp [inName]

theorem Spells.init_subset {decl : VariableDecl} {written value : Text}
    (spelled : Spells decl written) (initialised : decl.init = some value) : value ⊆ written := by
  cases spelled with
  | parts _ _ _ _ _ ends =>
    cases ends with
    | bare => cases initialised
    | initialised _ =>
      obtain rfl := Option.some.inj initialised
      intro char member
      simp [initialValue_subset _ member]

end VariableDecl

namespace Statement

/-- The texts that a statement holds. -/
def texts : Statement → List Text
  | .declaration decl => decl.name :: decl.init.toList
  | .returns value => [value]
  | .expression text => [text]

theorem texts_subset_of_declaration {line text : Text} {span : Span VariableDecl}
    (found : span ∈ VariableDecl.shape.spans line)
    (member : text ∈ (Statement.declaration span.value).texts) : text ⊆ line := by
  have occurs := (Shape.scans_spans VariableDecl.reads_shape line).occurs_of_mem found
  obtain ⟨before, written, behind, rfl, spelled, -, -⟩ := occurs
  have inside : text ⊆ written := by
    rcases List.mem_cons.mp member with rfl | value
    · exact spelled.name_subset
    · exact spelled.init_subset (Option.mem_toList.mp value)
  intro char held
  simp [inside held]

theorem dropSemicolon_subset (text : Text) : dropSemicolon text ⊆ text := by
  rw [dropSemicolon]
  split
  · exact List.dropLast_subset text
  · exact List.Subset.refl text

theorem afterReturn?_subset {line value : Text} (read : afterReturn? line = some value) :
    value ⊆ line := by
  rw [afterReturn?] at read
  split at read
  next => cases read
  next rest starts =>
    split_ifs at read with goesOn
    obtain rfl := Option.some.inj read
    rw [← List.append_eq_of_isPrefixOf?_eq_some starts]
    exact List.subset_append_right _ _

/-- What a statement on a line can be: the first declaration on it, a return, or the line itself
without its semicolon. -/
theorem ofLine?_cases {line : Text} {statement : Statement}
    (read : ofLine? line = some statement) :
    (∃ span ∈ VariableDecl.shape.spans line, statement = .declaration span.value) ∨
      (∃ value, afterReturn? line = some value ∧
        statement = .returns (Text.trim (dropSemicolon (Text.trim value)))) ∨
      statement = .expression (Text.trim line.dropLast) := by
  rw [ofLine?] at read
  split at read
  next => cases read
  next =>
    split at read
    next span first =>
      exact .inl ⟨span, List.mem_of_mem_head? first, (Option.some.inj read).symm⟩
    next =>
      split at read
      next value returned => exact .inr (.inl ⟨value, returned, (Option.some.inj read).symm⟩)
      next =>
        split at read
        next => exact .inr (.inr (Option.some.inj read).symm)
        next => cases read

/-- A statement holds characters of its line only. -/
theorem texts_subset {line text : Text} {statement : Statement}
    (read : ofLine? line = some statement) (member : text ∈ statement.texts) : text ⊆ line := by
  rcases ofLine?_cases read with ⟨span, found, rfl⟩ | ⟨value, returned, rfl⟩ | rfl
  · exact texts_subset_of_declaration found member
  · rw [List.mem_singleton.mp member]
    intro char held
    have dropped := dropSemicolon_subset _ (Text.trim_subset _ held)
    exact afterReturn?_subset returned (Text.trim_subset _ dropped)
  · rw [List.mem_singleton.mp member]
    exact List.Subset.trans (Text.trim_subset _) (List.dropLast_subset line)

/-- No statement of a body holds a line feed. -/
theorem lineFeed_notMem_of_mem_ofBody {body text : Text} {statement : Statement}
    (member : statement ∈ ofBody body) (held : text ∈ statement.texts) : '\n' ∉ text := by
  obtain ⟨line, isLine, read⟩ := List.mem_filterMap.mp member
  intro inside
  have onLine := Text.trim_subset _ (texts_subset read held inside)
  exact Text.lineFeed_notMem_of_mem_lines isLine onLine

end Statement

/-! ## Functions -/

theorem Param.lineFeed_notMem_name_of_mem {list : Text} {param : Param}
    (member : param ∈ Param.ofList list) : '\n' ∉ param.name := by
  rw [Param.ofList] at member
  split_ifs at member
  · cases member
  · obtain ⟨field, -, rfl⟩ := List.mem_map.mp member
    simp only [Param.ofField]
    cases second : (Text.words field)[1]? with
    | none => exact List.not_mem_nil
    | some word =>
      intro inside
      have blank := Text.isBlank_of_mem_words (List.mem_of_getElem? second) '\n' inside
      cases blank

/-- No text that the function holds, return type and types of parameters apart, has a line feed in
it. -/
structure FunctionDecl.OneLine (function : FunctionDecl) : Prop where
  name : '\n' ∉ function.name
  params : ∀ param ∈ function.params, '\n' ∉ param.name
  body : ∀ statement ∈ function.body, ∀ text ∈ statement.texts, '\n' ∉ text

/-- **The functions of an outline hold no line feeds.** -/
theorem Program.oneLine_of_mem_functions {source : Text} {function : FunctionDecl}
    (member : function ∈ (Program.ofSource source).functions) : function.OneLine := by
  have inName := Program.lineFeed_notMem_name member
  obtain ⟨span, -, -, rfl⟩ := Program.mem_functions_iff.mp member
  refine ⟨inName, ?_, ?_⟩
  · intro param listed
    exact Param.lineFeed_notMem_name_of_mem listed
  · intro statement inBody text held
    exact Statement.lineFeed_notMem_of_mem_ofBody inBody held

/-! ## Names -/

/-- The name is a word that stands in the source. -/
structure Text.IsNameIn (source name : Text) : Prop where
  word : Text.Word name
  occurs : name <:+: source

theorem Header.FoundIn.isNameIn {final : Char} {source : Text} {span : Span Header}
    (found : FoundIn final source span) : Text.IsNameIn source span.value.name := by
  refine ⟨found.word_name, ?_⟩
  obtain ⟨before, written, behind, rfl, spelled, -, -⟩ := found.occursIn
  generalize span.value = header at spelled
  cases spelled with
  | @parts returnType gap name space params blanks =>
    exact ⟨before ++ (returnType ++ gap),
      space ++ '(' :: (params ++ ')' :: (blanks ++ [final])) ++ behind, by simp⟩

namespace Program

theorem isNameIn_of_mem_functions {source : Text} {function : FunctionDecl}
    (member : function ∈ (ofSource source).functions) : Text.IsNameIn source function.name := by
  obtain ⟨span, definition, -, rfl⟩ := mem_functions_iff.mp member
  exact definition.1.isNameIn

theorem isNameIn_of_mem_declarations {source : Text} {decl : VariableDecl}
    (member : decl ∈ (ofSource source).declarations) : Text.IsNameIn source decl.name := by
  rw [declarations_ofSource] at member
  obtain ⟨span, found, rfl⟩ := List.mem_map.mp member
  have occurs := (Shape.scans_spans VariableDecl.reads_shape source).occurs_of_mem found
  obtain ⟨before, written, behind, rfl, spelled, -, -⟩ := occurs
  generalize span.value = decl at spelled
  cases spelled with
  | @parts type gap name space ending init _ _ _ nameWord =>
    exact ⟨nameWord, before ++ (type ++ gap), space ++ ending ++ behind, by simp⟩

end Program

end ShallowCpp
