/-
**Reading generated expressions.**

A text is cut into words, string literals and parentheses. A space between two expressions applies
the first one to the second one, parentheses group, and `<|` applies what stands before it to all
that follows. `\_ -> e` is the function that does not look at its argument.

* `tokens`, `readExpression` — the tokens of a text, and the expression that they make.
* `Lexes` — the tokens of a text that stands among others.
* `IsArgument`, `IsChain`, `IsWhole` — what tokens add to an expression that is being read: one
  argument, a function with arguments, or all that stands in parentheses.
* `Argument`, `Chain`, `Whole`, `Term` — the same for texts.
* `Term.argument` — **a text as one argument** is read as that argument.
-/

import ElmCodec.Proofs.Reading.Lines

namespace ElmCodec.Reading

/-! ### Tokens -/

/-- The pieces of an expression. -/
inductive Token where
  | opening
  | closing
  | word (text : String)
  | literal (text : String)
  /-- An argument that is taken as it is, without a look inside. -/
  | given
  deriving DecidableEq, Repr

/-- What is being read. -/
inductive Mode where
  | blank
  | word (read : List Char)
  | quoted (read : List Char)
  | escaped (read : List Char)

/-- The tokens that one character completes, and what is read after it. -/
def Mode.step : Mode → Char → Option (List Token × Mode)
  | blank, c =>
    if c = ' ' then some ([], blank)
    else if c = '(' then some ([.opening], blank)
    else if c = ')' then some ([.closing], blank)
    else if c = '"' then some ([], quoted [])
    else if c = '\n' then none
    else some ([], word [c])
  | word read, c =>
    if c = ' ' then some ([.word (String.ofList read)], blank)
    else if c = ')' then some ([.word (String.ofList read), .closing], blank)
    else if c = '(' ∨ c = '"' ∨ c = '\n' then none
    else some ([], word (read ++ [c]))
  | quoted read, c =>
    if c = '"' then some ([.literal (String.ofList read)], blank)
    else if c = '\\' then some ([], escaped read)
    else if c = '\n' then none
    else some ([], quoted (read ++ [c]))
  | escaped read, c => (unescape c).map fun plain => ([], quoted (read ++ [plain]))

/-- The tokens that the end of a text completes. -/
def Mode.finish : Mode → Option (List Token)
  | blank => some []
  | word read => some [.word (String.ofList read)]
  | quoted _ | escaped _ => none

/-- The tokens of the rest of a text. -/
def tokensFrom (mode : Mode) : List Char → Option (List Token)
  | [] => mode.finish
  | c :: rest => (mode.step c).bind fun read => (tokensFrom read.2 rest).map (read.1 ++ ·)

/-- The tokens of a text. -/
def tokens (text : String) : Option (List Token) := tokensFrom .blank text.toList

/-- The characters of a word. -/
def isPlain (c : Char) : Bool :=
  c != ' ' && c != '(' && c != ')' && c != '"' && c != '\n'

/-- Whether a word may end before the rest of a text. -/
def Ends (rest : List Char) : Prop := ∀ c ∈ rest.head?, c = ' ' ∨ c = ')'

/-- A text has the given tokens wherever it stands before a space, a closing parenthesis or
nothing. -/
def Lexes (text : String) (read : List Token) : Prop :=
  ∀ rest, Ends rest →
    tokensFrom .blank (text.toList ++ rest) = (tokensFrom .blank rest).map (read ++ ·)

theorem tokensFrom_of_step {mode next : Mode} {c : Char} (silent : mode.step c = some ([], next))
    (rest : List Char) : tokensFrom mode (c :: rest) = tokensFrom next rest := by
  rw [tokensFrom, silent, Option.bind_some]
  exact Option.map_id'

theorem tokensFrom_word_append {word : List Char} (plain : ∀ c ∈ word, isPlain c = true)
    (read rest : List Char) :
    tokensFrom (.word read) (word ++ rest) = tokensFrom (.word (read ++ word)) rest := by
  induction word generalizing read with
  | nil => rw [List.nil_append, List.append_nil]
  | cons c word ih =>
    rw [List.forall_mem_cons] at plain
    have one : Mode.step (.word read) c = some ([], .word (read ++ [c])) := by
      have apart := plain.1
      simp only [isPlain, Bool.and_eq_true, bne_iff_ne, ne_eq] at apart
      simp [Mode.step, apart]
    rw [List.cons_append, tokensFrom_of_step one, ih plain.2, List.append_assoc,
      List.singleton_append]

theorem tokensFrom_word_ends (read : List Char) {rest : List Char} (ends : Ends rest) :
    tokensFrom (.word read) rest =
      (tokensFrom .blank rest).map ([Token.word (String.ofList read)] ++ ·) := by
  cases rest with
  | nil => rfl
  | cons c rest =>
    rcases ends c rfl with rfl | rfl
    · rw [tokensFrom, tokensFrom]
      show (tokensFrom .blank rest).map _ = ((tokensFrom .blank rest).map _).map _
      rw [Option.map_map]
      rfl
    · rw [tokensFrom, tokensFrom]
      show (tokensFrom .blank rest).map _ = ((tokensFrom .blank rest).map _).map _
      rw [Option.map_map]
      rfl

namespace Lexes

variable {first second text : String} {firstRead secondRead read : List Token}

theorem word (nonempty : text.toList ≠ []) (plain : text.toList.all isPlain = true) :
    Lexes text [.word text] := by
  intro rest ends
  rw [List.all_eq_true] at plain
  obtain ⟨c, letters, same⟩ := List.exists_cons_of_ne_nil nonempty
  rw [same, List.forall_mem_cons] at plain
  have one : Mode.step .blank c = some ([], .word [c]) := by
    have apart := plain.1
    simp only [isPlain, Bool.and_eq_true, bne_iff_ne, ne_eq] at apart
    simp [Mode.step, apart]
  have whole : String.ofList ([c] ++ letters) = text := by
    rw [List.singleton_append, ← same, String.ofList_toList]
  rw [same, List.cons_append, tokensFrom_of_step one, tokensFrom_word_append plain.2,
    tokensFrom_word_ends _ ends, whole]

theorem spaced (before : Lexes first firstRead) (behind : Lexes second secondRead) :
    Lexes (first ++ " " ++ second) (firstRead ++ secondRead) := by
  intro rest ends
  have chars : (first ++ " " ++ second).toList ++ rest =
      first.toList ++ (' ' :: (second.toList ++ rest)) := by
    simp only [String.toList_append, List.append_assoc]
    rfl
  have space : Mode.step .blank ' ' = some ([], .blank) := rfl
  rw [chars, before _ (by rintro c ⟨⟩; exact Or.inl rfl), tokensFrom_of_step space,
    behind rest ends, Option.map_map]
  simp only [Function.comp_def, List.append_assoc]

theorem parenthesized (inside : Lexes text read) :
    Lexes ("(" ++ text ++ ")") (.opening :: read ++ [.closing]) := by
  intro rest _
  have chars : ("(" ++ text ++ ")").toList ++ rest = '(' :: (text.toList ++ ')' :: rest) := by
    simp only [String.toList_append, List.append_assoc]
    rfl
  have closing : tokensFrom .blank (')' :: rest) =
      (tokensFrom .blank rest).map ([.closing] ++ ·) := rfl
  rw [chars, tokensFrom]
  show (tokensFrom .blank (text.toList ++ ')' :: rest)).map _ = _
  rw [inside _ (by rintro c ⟨⟩; exact Or.inr rfl), closing, Option.map_map, Option.map_map]
  simp only [Function.comp_def, List.append_assoc, List.cons_append, List.nil_append]

theorem tokens_eq (lexes : Lexes text read) : tokens text = some read := by
  have whole := lexes [] (by rintro c ⟨⟩)
  rw [List.append_nil] at whole
  rw [tokens, whole]
  show some (read ++ []) = some read
  rw [List.append_nil]

end Lexes

theorem tokensFrom_escapeChar (c : Char) (read rest : List Char) :
    tokensFrom (.quoted read) (Elm.escapeChar c ++ rest) =
      tokensFrom (.quoted (read ++ [c])) rest := by
  have backslash : Mode.step (.quoted read) '\\' = some ([], .escaped read) := rfl
  unfold Elm.escapeChar
  split
  · next same =>
    rw [same]
    exact (tokensFrom_of_step backslash _).trans (tokensFrom_of_step rfl rest)
  · next notQuote =>
    split
    · next same =>
      rw [same]
      exact (tokensFrom_of_step backslash _).trans (tokensFrom_of_step rfl rest)
    · next notBackslash =>
      split
      · next same =>
        rw [same]
        exact (tokensFrom_of_step backslash _).trans (tokensFrom_of_step rfl rest)
      · next notEnd =>
        refine tokensFrom_of_step ?_ rest
        rw [Mode.step, if_neg notQuote, if_neg notBackslash, if_neg notEnd]

theorem tokensFrom_escapeChars (cs read rest : List Char) :
    tokensFrom (.quoted read) (Elm.escapeChars cs ++ '"' :: rest) =
      (tokensFrom .blank rest).map ([.literal (String.ofList (read ++ cs))] ++ ·) := by
  induction cs generalizing read with
  | nil => rw [List.append_nil]; rfl
  | cons c cs ih =>
    rw [Elm.escapeChars, List.flatMap_cons, List.append_assoc, tokensFrom_escapeChar]
    rw [Elm.escapeChars] at ih
    rw [ih, List.append_assoc, List.singleton_append]

theorem Lexes.literal (text : String) : Lexes (Elm.stringLiteral text) [.literal text] := by
  intro rest _
  have chars : (Elm.stringLiteral text).toList ++ rest =
      '"' :: (Elm.escapeChars text.toList ++ '"' :: rest) := by
    rw [Elm.stringLiteral, String.toList_ofList (l := '"' :: _ ++ _), List.cons_append,
      List.cons_append, List.append_assoc, List.singleton_append]
  rw [chars, tokensFrom]
  show (tokensFrom (.quoted []) _).map _ = _
  rw [tokensFrom_escapeChars, List.nil_append, String.ofList_toList, Option.map_map]
  rfl

/-! ### Expressions -/

/-- An expression. -/
inductive Expr where
  | name (text : String)
  | literal (text : String)
  | given
  | apply (function argument : Expr)
  /-- A function that does not look at its argument. -/
  | ignoring (body : Expr)
  deriving DecidableEq, Repr

/-- The names in an expression, from left to right. -/
def Expr.names : Expr → List String
  | .name text => [text]
  | .literal _ | .given => []
  | .apply function argument => function.names ++ argument.names
  | .ignoring body => body.names

/-- What waits for the expression after it. -/
inductive Pending where
  | pipe (function : Expr)
  /-- The pattern of a function, before its arrow. -/
  | wildcard
  | ignoring

/-- The expression of what waits and the expression after it. -/
def Pending.close : Expr → Pending → Option Expr
  | argument, pipe function => some (.apply function argument)
  | _, wildcard => none
  | body, ignoring => some (.ignoring body)

/-- What was read between two parentheses: what waits, the last first, and the function with its
arguments after it. -/
structure Frame where
  pending : List Pending
  head : Option Expr

namespace Frame

/-- Nothing was read. -/
def empty : Frame := ⟨[], none⟩

/-- Adds an argument. -/
def add (frame : Frame) (argument : Expr) : Frame :=
  { frame with head := some (match frame.head with
      | none => argument
      | some function => .apply function argument) }

/-- The whole expression. -/
def finish (frame : Frame) : Option Expr :=
  frame.head.bind fun head => frame.pending.foldlM Pending.close head

/-- Adds a word: an operator or a name. -/
def addWord (frame : Frame) (text : String) : Option Frame :=
  if text = "<|" then frame.head.map fun function => ⟨.pipe function :: frame.pending, none⟩
  else if text = "\\_" then
    match frame.head with
    | none => some ⟨.wildcard :: frame.pending, none⟩
    | some _ => none
  else if text = "->" then
    match frame.head, frame.pending with
    | none, .wildcard :: rest => some ⟨.ignoring :: rest, none⟩
    | _, _ => none
  else some (frame.add (.name text))

end Frame

/-- The expression of the rest of the tokens, given what was read inside and outside the
parentheses that are open. -/
def expressionFrom (outer : List Frame) (frame : Frame) : List Token → Option Expr
  | [] => if outer.isEmpty then frame.finish else none
  | .opening :: rest => expressionFrom (frame :: outer) .empty rest
  | .closing :: rest =>
    match outer with
    | [] => none
    | around :: outer =>
      frame.finish.bind fun inside => expressionFrom outer (around.add inside) rest
  | .word text :: rest => (frame.addWord text).bind fun frame => expressionFrom outer frame rest
  | .literal text :: rest => expressionFrom outer (frame.add (.literal text)) rest
  | .given :: rest => expressionFrom outer (frame.add .given) rest

/-- The expression of a text. -/
def readExpression (text : String) : Option Expr :=
  (tokens text).bind (expressionFrom [] .empty)

/-! ### What tokens add -/

/-- Tokens that are one argument. -/
def IsArgument (read : List Token) (e : Expr) : Prop :=
  ∀ outer frame rest,
    expressionFrom outer frame (read ++ rest) = expressionFrom outer (frame.add e) rest

/-- Tokens that are a function with its arguments. -/
def IsChain (read : List Token) (e : Expr) : Prop :=
  ∀ outer pending rest,
    expressionFrom outer ⟨pending, none⟩ (read ++ rest) =
      expressionFrom outer ⟨pending, some e⟩ rest

/-- Tokens that are all that stands between two parentheses. -/
def IsWhole (read : List Token) (e : Expr) : Prop :=
  ∃ waiting head, waiting.foldlM Pending.close head = some e ∧ ∀ outer pending rest,
    expressionFrom outer ⟨pending, none⟩ (read ++ rest) =
      expressionFrom outer ⟨waiting ++ pending, some head⟩ rest

section Tokens

variable {first second read : List Token} {e function argument : Expr}

theorem isArgument_name {text : String} (notPipe : text ≠ "<|") (notPattern : text ≠ "\\_")
    (notArrow : text ≠ "->") : IsArgument [.word text] (.name text) := by
  intro outer frame rest
  rw [List.singleton_append, expressionFrom, Frame.addWord, if_neg notPipe, if_neg notPattern,
    if_neg notArrow, Option.bind_some]

theorem isArgument_literal (text : String) : IsArgument [.literal text] (.literal text) :=
  fun _ _ _ => rfl

theorem isArgument_given : IsArgument [.given] .given := fun _ _ _ => rfl

theorem IsArgument.chain (one : IsArgument read e) : IsChain read e :=
  fun outer pending rest => one outer ⟨pending, none⟩ rest

theorem IsChain.whole (chain : IsChain read e) : IsWhole read e := ⟨[], e, rfl, chain⟩

/-- **A function before an argument.** -/
theorem IsChain.apply (before : IsChain first function) (behind : IsArgument second argument) :
    IsChain (first ++ second) (.apply function argument) := by
  intro outer pending rest
  rw [List.append_assoc, before, behind]
  rfl

/-- **A function before `<|`.** -/
theorem IsChain.pipe (before : IsChain first function) (behind : IsWhole second argument) :
    IsWhole (first ++ .word "<|" :: second) (.apply function argument) := by
  obtain ⟨waiting, head, closes, reads⟩ := behind
  -- The function waits longest: it takes all that the parentheses still hold.
  refine ⟨waiting ++ [.pipe function], head, ?_, fun outer pending rest => ?_⟩
  · rw [List.foldlM_append, closes]
    rfl
  · rw [List.append_assoc, before]
    show expressionFrom outer ⟨.pipe function :: pending, none⟩ (second ++ rest) = _
    rw [reads, List.append_assoc, List.singleton_append]

/-- **A function that does not look at its argument.** -/
theorem IsWhole.ignoring (body : IsWhole read e) :
    IsWhole (.word "\\_" :: .word "->" :: read) (.ignoring e) := by
  obtain ⟨waiting, head, closes, reads⟩ := body
  refine ⟨waiting ++ [.ignoring], head, ?_, fun outer pending rest => ?_⟩
  · rw [List.foldlM_append, closes]
    rfl
  · show expressionFrom outer ⟨.ignoring :: pending, none⟩ (read ++ rest) = _
    rw [reads, List.append_assoc, List.singleton_append]

/-- **An expression in parentheses.** -/
theorem IsWhole.parenthesized (inside : IsWhole read e) :
    IsArgument (.opening :: read ++ [.closing]) e := by
  obtain ⟨waiting, head, closes, reads⟩ := inside
  intro outer frame rest
  have finished : Frame.finish ⟨waiting, some head⟩ = some e := closes
  rw [List.cons_append, List.cons_append, expressionFrom, List.append_assoc, Frame.empty, reads,
    List.append_nil, List.singleton_append, expressionFrom, finished, Option.bind_some]

theorem IsWhole.expressionFrom_eq (whole : IsWhole read e) :
    expressionFrom [] .empty read = some e := by
  obtain ⟨waiting, head, closes, reads⟩ := whole
  have all := reads [] [] []
  rw [List.append_nil, List.append_nil] at all
  rw [Frame.empty, all]
  exact closes

end Tokens

/-! ### Texts -/

/-- A text that is one argument. -/
def Argument (text : String) (e : Expr) : Prop := ∃ read, Lexes text read ∧ IsArgument read e

/-- A text that is a function with its arguments. -/
def Chain (text : String) (e : Expr) : Prop := ∃ read, Lexes text read ∧ IsChain read e

/-- A text that is all that stands in parentheses. -/
def Whole (text : String) (e : Expr) : Prop := ∃ read, Lexes text read ∧ IsWhole read e

/-- A text that is a function with its arguments, and one argument if it has no space. -/
structure Term (text : String) (e : Expr) : Prop where
  chain : Chain text e
  single : ' ' ∉ text.toList → Argument text e

/-- Whether a text is an identifier, perhaps after the name of a module or of a record. -/
def isQualified (text : String) : Bool :=
  !text.toList.isEmpty && text.toList.all fun c => Elm.isNameChar c || c == '.'

section Texts

variable {first second text : String} {e function operand : Expr}

theorem isPlain_of_isNameChar {c : Char} (valid : (Elm.isNameChar c || c == '.') = true) :
    isPlain c = true := by
  by_contra special
  simp only [isPlain, Bool.and_eq_true, bne_iff_ne, ne_eq, not_and, not_not] at special
  by_cases space : c = ' '
  · rw [space] at valid
    cases valid
  · by_cases opening : c = '('
    · rw [opening] at valid
      cases valid
    · by_cases closing : c = ')'
      · rw [closing] at valid
        cases valid
      · by_cases quote : c = '"'
        · rw [quote] at valid
          cases valid
        · rw [special ⟨⟨⟨space, opening⟩, closing⟩, quote⟩] at valid
          cases valid

theorem lexes_name (valid : isQualified text = true) : Lexes text [.word text] := by
  rw [isQualified, Bool.and_eq_true, Bool.not_eq_true', List.isEmpty_eq_false_iff,
    List.all_eq_true] at valid
  refine .word valid.1 (List.all_eq_true.mpr fun c member => ?_)
  exact isPlain_of_isNameChar (valid.2 c member)

theorem isArgument_qualified (valid : isQualified text = true) :
    IsArgument [.word text] (.name text) := by
  refine isArgument_name ?_ ?_ ?_ <;>
  · rintro rfl
    exact absurd valid (by decide)

theorem argument_name (text : String) (valid : isQualified text = true) :
    Argument text (.name text) :=
  ⟨_, lexes_name valid, isArgument_qualified valid⟩

theorem argument_literal (text : String) : Argument (Elm.stringLiteral text) (.literal text) :=
  ⟨_, .literal text, isArgument_literal text⟩

theorem Argument.chain (one : Argument text e) : Chain text e := by
  obtain ⟨read, lexes, reads⟩ := one
  exact ⟨read, lexes, reads.chain⟩

theorem Chain.whole (chain : Chain text e) : Whole text e := by
  obtain ⟨read, lexes, reads⟩ := chain
  exact ⟨read, lexes, reads.whole⟩

theorem Chain.apply (before : Chain first function) (behind : Argument second operand) :
    Chain (first ++ " " ++ second) (.apply function operand) := by
  obtain ⟨firstRead, firstLexes, firstReads⟩ := before
  obtain ⟨secondRead, secondLexes, secondReads⟩ := behind
  exact ⟨_, firstLexes.spaced secondLexes, firstReads.apply secondReads⟩

theorem Chain.pipe (before : Chain first function) (behind : Whole second operand) :
    Whole (first ++ " <| " ++ second) (.apply function operand) := by
  obtain ⟨firstRead, firstLexes, firstReads⟩ := before
  obtain ⟨secondRead, secondLexes, secondReads⟩ := behind
  have operator : Lexes "<|" [.word "<|"] := .word (by decide) (by decide)
  have texts : first ++ " <| " ++ second = first ++ " " ++ "<|" ++ " " ++ second := by
    rw [← String.toList_inj]
    simp only [String.toList_append, List.append_assoc]
    rfl
  rw [texts]
  refine ⟨_, (firstLexes.spaced operator).spaced secondLexes, ?_⟩
  rw [List.append_assoc, List.singleton_append]
  exact firstReads.pipe secondReads

theorem Whole.ignoring (body : Whole text e) : Whole ("\\_ -> " ++ text) (.ignoring e) := by
  obtain ⟨read, lexes, reads⟩ := body
  have pattern : Lexes "\\_" [.word "\\_"] := .word (by decide) (by decide)
  have arrow : Lexes "->" [.word "->"] := .word (by decide) (by decide)
  exact ⟨_, (pattern.spaced arrow).spaced lexes, reads.ignoring⟩

theorem Whole.parenthesized (inside : Whole text e) : Argument ("(" ++ text ++ ")") e := by
  obtain ⟨read, lexes, reads⟩ := inside
  exact ⟨_, lexes.parenthesized, reads.parenthesized⟩

/-- **A text as one argument** is read as that argument. -/
theorem Term.argument (term : Term text e) : Argument (Elm.argument text) e := by
  unfold Elm.argument
  split
  · exact term.chain.whole.parenthesized
  · next single => exact term.single single

theorem term_name (valid : isQualified text = true) : Term text (.name text) :=
  ⟨(argument_name text valid).chain, fun _ => argument_name text valid⟩

theorem Chain.term (chain : Chain (first ++ " " ++ second) e) :
    Term (first ++ " " ++ second) e := by
  refine ⟨chain, fun single => absurd ?_ single⟩
  simp only [String.toList_append, List.mem_append]
  exact Or.inl (Or.inr (by decide))

theorem Whole.readExpression_eq (whole : Whole text e) : readExpression text = some e := by
  obtain ⟨read, lexes, reads⟩ := whole
  rw [readExpression, lexes.tokens_eq, Option.bind_some, reads.expressionFrom_eq]

/-- The expression of a text whose function has a given text as its second argument, which is
taken as it is. -/
def ReadsAround (given text : String) (e : Expr) : Prop :=
  ∃ before after function first behind,
    text = before ++ " " ++ given ++ " " ++ after ∧ tokens before = some [function, first] ∧
      tokens after = some behind ∧
        expressionFrom [] .empty (function :: first :: .given :: behind) = some e

theorem readsAround_append (name : String) {key given after : String}
    (valid : isQualified name = true) (behind : Argument after operand) :
    ReadsAround given (name ++ " " ++ Elm.stringLiteral key ++ " " ++ given ++ " " ++ after)
      (.apply (.apply (.apply (.name name) (.literal key)) .given) operand) := by
  obtain ⟨read, lexes, reads⟩ := behind
  have before := (lexes_name valid).spaced (Lexes.literal key)
  have start := (isArgument_qualified valid).chain.apply (isArgument_literal key)
  have whole := ((start.apply isArgument_given).apply reads).whole
  exact ⟨_, after, .word name, .literal key, read, rfl, before.tokens_eq, lexes.tokens_eq,
    whole.expressionFrom_eq⟩

end Texts

end ElmCodec.Reading
