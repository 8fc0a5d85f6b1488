import DiceNotation.Proofs.Grammar
import DiceNotation.Reading.Error

/-!
# Beginnings of sentences

A text that is cut off in the middle of a sentence can be repaired at the cut, by what the grammar asks for there.

* `Open ts`: behind the tokens `ts` an expression may stand, and closing parentheses then complete an expression.
* `Awaits ts expected`: behind the tokens `ts` the grammar asks for `expected`.
* `Expected.Missing`: what is asked for does not stand at the start of a text.
* `Expected.Repairable`: a text can be repaired at its end by what is asked for.
* `Awaits.repairable`: the text of tokens that await something can be repaired by it.
-/

namespace DiceNotation

/-! ## What is asked for -/

/-- The tokens that are asked for; the end of the text is none. -/
def Expected.Asks : Expected → Token → Prop
  | .item, .numeral _ | .item, .opening => True
  | .diceSides, .numeral _ => True
  | .closing, .closing => True
  | .target, .numeral _ => True
  | .operatorOrChecker, .operator _ | .operatorOrChecker, .compare _ => True
  | _, _ => False

/-- What is asked for does not stand at the start of a text. -/
structure Expected.Missing (expected : Expected) (cs : List Char) : Prop where
  token : ∀ t w rest, expected.Asks t → t.Spelled w → cs ≠ w ++ rest
  ending : expected = .endOfInput → cs ≠ []

/-- A text is a sentence of the grammar. -/
def IsSentence (cs : List Char) : Prop :=
  ∃ ts e checker, Sentence ts cs e checker

/-- A text can be repaired at its end by what is asked for there. -/
def Expected.Repairable (cs : List Char) : Expected → Prop
  | .item | .diceSides => ∃ more, IsSentence (cs ++ '1' :: more)
  | .closing => ∃ more, IsSentence (cs ++ ')' :: more)
  | .target => IsSentence (cs ++ ['1'])
  | .operatorOrChecker =>
    (∃ ts e, Sentence ts cs e none) ∧ IsSentence (cs ++ ['+', '1']) ∧ IsSentence (cs ++ ['>', '1'])
  | .endOfInput => ∃ ts e checker, Sentence ts cs e (some checker)
  | .named _ => False

/-! ## Tokens behind which an expression may stand -/

/-- Behind these tokens an expression may stand, and closing parentheses then complete an expression. -/
def Open (us : List Token) : Prop :=
  ∀ {ts : List Token} {e : Expr}, ExprOf ts e → ∃ k e', ExprOf (us ++ (ts ++ List.replicate k .closing)) e'

section Open

variable {us ts : List Token} {e e' : Expr} {item : Item}

theorem open_nil : Open [] := by
  intro ts e row
  refine ⟨0, e, ?_⟩
  simpa using row

/-- Two rows with an operator between them, as one row. -/
def Expr.append (e : Expr) (op : Operator) (e' : Expr) : Expr :=
  ofItems e.first (e.rest ++ (op, e'.first) :: e'.rest)

theorem Expr.append_single (e : Expr) (op : Operator) (item : Item) : e.append op (single item) = snoc e op item :=
  foldl_snoc_first_rest e [(op, item)]

theorem Expr.append_snoc (e : Expr) (op : Operator) (e' : Expr) (op' : Operator) (item : Item) :
    e.append op (snoc e' op' item) = snoc (e.append op e') op' item := by
  simp [append, ofItems, first, rest]

/-- Two rows with an operator between them are a row. -/
theorem ExprOf.append (op : Operator) (row : ExprOf ts e) :
    ∀ {us : List Token} {e' : Expr}, ExprOf us e' → ExprOf (ts ++ .operator op :: us) (e.append op e')
  | _, _, .single only => by
    rw [Expr.append_single]
    exact .snoc op row only
  | _, _, .snoc op' before last => by
    have longer := ExprOf.snoc op' (ExprOf.append op row before) last
    rw [Expr.append_snoc]
    simpa using longer

/-- Behind an item and an operator an expression may stand, if one may stand before them. -/
theorem Open.operator (h : Open us) (first : ItemOf ts item) (op : Operator) :
    Open (us ++ (ts ++ [.operator op])) := by
  intro ts' e' row
  obtain ⟨k, e'', whole⟩ := h (ExprOf.append op (.single first) row)
  refine ⟨k, e'', ?_⟩
  simpa using whole

/-- Behind a parenthesis an expression may stand, and one closing parenthesis more is needed. -/
theorem Open.opening (h : Open us) : Open (us ++ [.opening]) := by
  intro ts e row
  obtain ⟨k, e', whole⟩ := h (.single (.group row))
  refine ⟨k + 1, e', ?_⟩
  simpa [List.replicate_succ] using whole

end Open

/-! ## What tokens await -/

/-- Behind these tokens the grammar asks for something. -/
inductive Awaits : List Token → Expected → Prop
  | item {us : List Token} (before : Open us) : Awaits us .item
  | diceSides {us : List Token} (before : Open us) (count : Numeral) :
      Awaits (us ++ [.numeral count, .diceLetter]) .diceSides
  | closing {us ts : List Token} {e : Expr} (before : Open us) (row : ExprOf ts e) :
      Awaits (us ++ .opening :: ts) .closing
  | target {ts : List Token} {e : Expr} (row : ExprOf ts e) (c : Compare) : Awaits (ts ++ [.compare c]) .target
  | operatorOrChecker {ts : List Token} {e : Expr} (row : ExprOf ts e) : Awaits ts .operatorOrChecker
  | endOfInput {ts : List Token} {e : Expr} (row : ExprOf ts e) (c : Compare) (target : Numeral) :
      Awaits (ts ++ [.compare c, .numeral target]) .endOfInput

/-! ## Repairs -/

/-- A text of some tokens, whatever follows it. -/
def Spelling (ts : List Token) (cs : List Char) : Prop :=
  ∀ rest, Layout ts (cs ++ rest) rest

section Spelling

variable {ts us : List Token} {t : Token} {e : Expr} {cs ds g w : List Char}

/-- What is laid out in front of a rest is laid out in front of every rest. -/
theorem Layout.exists_spelling {rest : List Char} (h : Layout ts cs rest) :
    ∃ ds, cs = ds ++ rest ∧ Spelling ts ds := by
  induction h with
  | nil rest => exact ⟨[], rfl, .nil⟩
  | @cons t ts g w cs rest gap spelled _ ih =>
    obtain ⟨ds, rfl, hds⟩ := ih
    refine ⟨g ++ (w ++ ds), by simp, fun rest => ?_⟩
    simpa using Layout.cons gap spelled (hds rest)

theorem Spelling.append (first : Spelling ts cs) (last : Spelling us ds) : Spelling (ts ++ us) (cs ++ ds) := by
  intro rest
  rw [List.append_assoc]
  exact (first _).append (last rest)

theorem spelling_one (hg : Gap g) (h : t.Spelled w) : Spelling [t] (g ++ w) := by
  intro rest
  rw [List.append_assoc]
  exact .one hg h rest

/-- Some tokens, a gap and one token more. -/
theorem Spelling.token (h : Spelling ts cs) (hg : Gap g) (ht : t.Spelled w) : Spelling (ts ++ [t]) (cs ++ g ++ w) := by
  rw [List.append_assoc]
  exact h.append (spelling_one hg ht)

theorem spelling_closings (k : Nat) : Spelling (List.replicate k .closing) (List.replicate k ')') := by
  induction k with
  | zero => exact .nil
  | succ k ih => exact (spelling_one gap_nil .closing).append ih

/-- The text of a command, perhaps with a gap at its end, is a sentence. -/
theorem Spelling.sentence (h : Spelling ts cs) {checker : Option Checker} (tree : CommandOf ts e checker) (hg : Gap g) :
    Sentence ts (cs ++ g) e checker :=
  ⟨tree, g, hg, h g⟩

theorem Spelling.isSentence (h : Spelling ts cs) {checker : Option Checker} (tree : CommandOf ts e checker) :
    IsSentence cs := by
  refine ⟨ts, e, checker, ?_⟩
  simpa using h.sentence tree gap_nil

/-- The numeral that repairs use. -/
def Numeral.one : Numeral := ⟨false, ['1']⟩

theorem Numeral.spelled_one : (Token.numeral one).Spelled ['1'] := by
  refine .numeral (List.cons_ne_nil _ _) fun c hc => ?_
  cases List.mem_singleton.1 hc
  rfl

/-- Where an expression may stand, the text of one and of closing parentheses complete a sentence. -/
theorem Open.isSentence (before : Open us) (row : ExprOf ts e) (h : Spelling (us ++ ts) cs) :
    ∃ more, IsSentence (cs ++ more) := by
  obtain ⟨k, e', whole⟩ := before row
  have text := h.append (spelling_closings k)
  rw [List.append_assoc] at text
  exact ⟨List.replicate k ')', text.isSentence (.bare whole)⟩

/-- **The text of tokens that await something can be repaired by it**, behind any gap. -/
theorem Awaits.repairable {expected : Expected} (awaits : Awaits ts expected) (h : Spelling ts cs) (hg : Gap g) :
    expected.Repairable (cs ++ g) := by
  -- each case spells the token that is asked for behind the gap, and derives a tree from all tokens
  cases awaits with
  | item before =>
    obtain ⟨more, whole⟩ := before.isSentence (.single (.number .one)) (h.token hg Numeral.spelled_one)
    refine ⟨more, ?_⟩
    simpa using whole
  | @diceSides us before count =>
    have sides := h.token hg Numeral.spelled_one
    rw [List.append_assoc] at sides
    obtain ⟨more, whole⟩ := before.isSentence (.single (.dice count .one)) sides
    refine ⟨more, ?_⟩
    simpa using whole
  | @closing us ts e before row =>
    have group := h.token hg .closing
    rw [List.append_assoc] at group
    obtain ⟨more, whole⟩ := before.isSentence (.single (.group row)) group
    refine ⟨more, ?_⟩
    simpa using whole
  | @target ts e row c =>
    have command := h.token hg Numeral.spelled_one
    rw [List.append_assoc] at command
    exact command.isSentence (.checked row c .one)
  | operatorOrChecker row =>
    have sum := (h.token hg (.operator .add)).token gap_nil Numeral.spelled_one
    have check := (h.token hg (.compare .gt)).token gap_nil Numeral.spelled_one
    rw [List.append_assoc] at sum check
    refine ⟨⟨ts, _, h.sentence (.bare row) hg⟩, ?_, ?_⟩
    · have whole := sum.isSentence (.bare (.snoc .add row (.number .one)))
      simpa [Operator.symbol] using whole
    · have whole := check.isSentence (.checked row .gt .one)
      simpa [Compare.symbol] using whole
  | endOfInput row c target => exact ⟨_, _, _, h.sentence (.checked row c target) hg⟩

end Spelling

end DiceNotation
