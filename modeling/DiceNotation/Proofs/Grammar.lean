import DiceNotation.Checker
import DiceNotation.Expr
import DiceNotation.Numeral
import DiceNotation.Text.Blank

/-!
# The grammar of commands

What a command is, said without reading it. A command is a sequence of tokens with a tree, and a text spells such a
sequence with spaces and tabs between the tokens and around them.

* `Token.Spelled t w`: `w` is a spelling of the token `t`.
* `Layout ts cs rest`: `cs` is the tokens `ts`, each behind a gap, and then `rest`.
* `ItemOf`, `ExprOf`, `CommandOf`: the tree of an item, of an expression and of a command, from its tokens.
* `Sentence ts cs e checker`: the text `cs` spells the tokens `ts`, whose tree is `e` with `checker`.
-/

namespace DiceNotation

/-! ## Tokens -/

/-- A token of a command. -/
inductive Token where
  | numeral (n : Numeral)
  /-- The letter between the count and the sides of a dice term. -/
  | diceLetter
  /-- The word behind a dice term. -/
  | word (a : Aggregate)
  | operator (op : Operator)
  | opening
  | closing
  | compare (c : Compare)
  deriving DecidableEq, Repr

/-- The characters of a numeral. -/
def Numeral.chars (n : Numeral) : List Char :=
  (if n.negative then ['-'] else []) ++ n.digits

/-- The spellings of a token: letters in either case, `x` for a multiplication, and two spellings of equality. -/
inductive Token.Spelled : Token → List Char → Prop
  | numeral {n : Numeral} (nonempty : n.digits ≠ []) (digits : ∀ c ∈ n.digits, c.isDigit = true) :
      Spelled (.numeral n) n.chars
  | diceLetter {c : Char} (letter : c = 'd' ∨ c = 'D') : Spelled .diceLetter [c]
  | word {a : Aggregate} {w : List Char} (letters : w.map Char.toLower = a.word.toList) : Spelled (.word a) w
  | operator (op : Operator) : Spelled (.operator op) [op.symbol]
  | times {c : Char} (letter : c = 'x' ∨ c = 'X') : Spelled (.operator .mul) [c]
  | opening : Spelled .opening ['(']
  | closing : Spelled .closing [')']
  | compare (c : Compare) : Spelled (.compare c) c.symbol.toList
  | equals : Spelled (.compare .eq) ['=', '=']

/-- Every numeral among some tokens has few enough digits to be read. -/
def ShortNumerals (ts : List Token) : Prop :=
  ∀ n, Token.numeral n ∈ ts → n.digits.length ≤ maxDigits

/-! ## Texts -/

/-- What may stand between two tokens. -/
def Gap (g : List Char) : Prop :=
  ∀ c ∈ g, Text.isGap c = true

/-- A text that is some tokens, each behind a gap, and then a rest. -/
inductive Layout : List Token → List Char → List Char → Prop
  | nil (rest : List Char) : Layout [] rest rest
  | cons {t : Token} {ts : List Token} {g w cs rest : List Char} (gap : Gap g) (spelled : t.Spelled w)
      (tail : Layout ts cs rest) : Layout (t :: ts) (g ++ (w ++ cs)) rest

/-! ## Trees -/

mutual

/-- The item that some tokens are. -/
inductive ItemOf : List Token → Item → Prop
  | number (n : Numeral) : ItemOf [.numeral n] (.number n.value)
  | dice (count sides : Numeral) :
      ItemOf [.numeral count, .diceLetter, .numeral sides] (.dice ⟨count.value, sides.value, .sum⟩)
  | diceWith (count sides : Numeral) (a : Aggregate) :
      ItemOf [.numeral count, .diceLetter, .numeral sides, .word a] (.dice ⟨count.value, sides.value, a⟩)
  | group {ts : List Token} {e : Expr} (inner : ExprOf ts e) : ItemOf (.opening :: (ts ++ [.closing])) (.group e)

/-- The expression that some tokens are: items with operators between them, joined from the left. -/
inductive ExprOf : List Token → Expr → Prop
  | single {ts : List Token} {item : Item} (only : ItemOf ts item) : ExprOf ts (.single item)
  | snoc {ts us : List Token} {before : Expr} {item : Item} (op : Operator) (row : ExprOf ts before)
      (last : ItemOf us item) : ExprOf (ts ++ .operator op :: us) (.snoc before op item)

end

/-- The expression and the checker that some tokens are. -/
inductive CommandOf : List Token → Expr → Option Checker → Prop
  | bare {ts : List Token} {e : Expr} (row : ExprOf ts e) : CommandOf ts e none
  | checked {ts : List Token} {e : Expr} (row : ExprOf ts e) (c : Compare) (target : Numeral) :
      CommandOf (ts ++ [.compare c, .numeral target]) e (some ⟨c, target.value⟩)

/-- A text that spells some tokens, with the tree of these tokens. -/
structure Sentence (ts : List Token) (cs : List Char) (e : Expr) (checker : Option Checker) : Prop where
  tree : CommandOf ts e checker
  text : ∃ g, Gap g ∧ Layout ts cs g

/-! ## Short numerals -/

section ShortNumerals

variable {t : Token} {ts us : List Token}

theorem shortNumerals_nil : ShortNumerals [] := nofun

theorem shortNumerals_cons : ShortNumerals (t :: ts) ↔ ShortNumerals [t] ∧ ShortNumerals ts := by
  simp only [ShortNumerals, List.mem_cons, List.not_mem_nil, or_false]
  constructor
  · exact fun h => ⟨fun n hn => h n (.inl hn), fun n hn => h n (.inr hn)⟩
  · exact fun ⟨h₁, h₂⟩ n hn => hn.elim (h₁ n) (h₂ n)

theorem shortNumerals_append : ShortNumerals (ts ++ us) ↔ ShortNumerals ts ∧ ShortNumerals us := by
  simp only [ShortNumerals, List.mem_append]
  constructor
  · exact fun h => ⟨fun n hn => h n (.inl hn), fun n hn => h n (.inr hn)⟩
  · exact fun ⟨h₁, h₂⟩ n hn => hn.elim (h₁ n) (h₂ n)

theorem shortNumerals_numeral {n : Numeral} : ShortNumerals [.numeral n] ↔ n.digits.length ≤ maxDigits := by
  simp [ShortNumerals]

theorem shortNumerals_other (h : ∀ n, t ≠ .numeral n) : ShortNumerals [t] :=
  fun n hn => absurd (List.mem_singleton.1 hn).symm (h n)

end ShortNumerals

/-! ## Gaps -/

section Gaps

variable {g cs : List Char}

theorem gap_nil : Gap [] := by simp [Gap]

theorem gap_space : Gap [' '] := by simp [Gap, Text.isGap]

theorem skipGap_append (hg : Gap g) : Text.skipGap (g ++ cs) = Text.skipGap cs :=
  List.dropWhile_append_of_pos hg

/-- Nothing is left of a gap. -/
theorem skipGap_eq_nil (hg : Gap g) : Text.skipGap g = [] := by
  simpa using @skipGap_append g [] hg

/-- What is skipped is a gap. -/
theorem exists_gap (cs : List Char) : ∃ g, Gap g ∧ cs = g ++ Text.skipGap cs :=
  ⟨cs.takeWhile Text.isGap, fun _ hc => List.all_eq_true.1 List.all_takeWhile _ hc,
    List.takeWhile_append_dropWhile.symm⟩

/-- A text of which nothing is left is a gap. -/
theorem gap_of_skipGap_eq_nil (h : Text.skipGap cs = []) : Gap cs := by
  obtain ⟨g, hg, hcs⟩ := exists_gap cs
  rw [h, List.append_nil] at hcs
  rw [hcs]
  exact hg

end Gaps

/-! ## Spellings -/

section Spellings

variable {t : Token} {w : List Char}

theorem not_isBlank_of_isDigit {c : Char} (h : c.isDigit = true) : Text.isBlank c = false := by
  have hc : 48 ≤ c.toNat ∧ c.toNat ≤ 57 := Char.isDigit_iff_toNat.1 h
  simp only [Text.isBlank, Text.isWhiteSpace, Bool.or_eq_false_iff, Bool.and_eq_false_iff, decide_eq_false_iff_not]
  omega

/-- Lower case changes capital letters only. -/
theorem toLower_eq_self {c : Char} (h : c.toNat < 65 ∨ 90 < c.toNat) : c.toLower = c := by
  have hc : ¬(c.val ≥ 'A'.val ∧ c.val ≤ 'Z'.val) := by
    rintro ⟨h₁, h₂⟩
    have h₁ : 65 ≤ c.toNat := h₁
    have h₂ : c.toNat ≤ 90 := h₂
    omega
  exact dif_neg hc

theorem toLower_of_isDigit {c : Char} (h : c.isDigit = true) : c.toLower = c := by
  have hc : 48 ≤ c.toNat ∧ c.toNat ≤ 57 := Char.isDigit_iff_toNat.1 h
  exact toLower_eq_self (by omega)

theorem toLower_of_isBlank {c : Char} (h : Text.isBlank c = true) : c.toLower = c := by
  simp only [Text.isBlank, Text.isWhiteSpace, Bool.or_eq_true, Bool.and_eq_true, decide_eq_true_eq] at h
  exact toLower_eq_self (by omega)

theorem not_isBlank_of_toLower {c : Char} (h : Text.isBlank c.toLower = false) : Text.isBlank c = false := by
  cases hb : Text.isBlank c with
  | false => rfl
  | true => rw [toLower_of_isBlank hb, hb] at h; exact h

/-- The first character of a token is no blank. -/
theorem Token.Spelled.head (h : t.Spelled w) : ∃ c rest, w = c :: rest ∧ Text.isBlank c = false := by
  cases h with
  | @numeral n nonempty digits =>
    obtain ⟨negative, ds⟩ := n
    cases negative with
    | true => exact ⟨'-', ds, rfl, by decide⟩
    | false =>
      obtain ⟨c, rest, rfl⟩ := List.exists_cons_of_ne_nil nonempty
      exact ⟨c, rest, rfl, not_isBlank_of_isDigit (digits c List.mem_cons_self)⟩
  | @word a w letters =>
    obtain ⟨c, rest, ha, hc⟩ : ∃ c rest, a.word.toList = c :: rest ∧ Text.isBlank c = false := by
      cases a <;> exact ⟨_, _, rfl, by decide⟩
    rw [ha] at letters
    obtain ⟨c', rest', rfl, rfl, -⟩ := List.map_eq_cons_iff.1 letters
    exact ⟨c', rest', rfl, not_isBlank_of_toLower hc⟩
  | diceLetter letter => rcases letter with rfl | rfl <;> exact ⟨_, _, rfl, by decide⟩
  | operator op => cases op <;> exact ⟨_, _, rfl, by decide⟩
  | times letter => rcases letter with rfl | rfl <;> exact ⟨_, _, rfl, by decide⟩
  | opening => exact ⟨_, _, rfl, by decide⟩
  | closing => exact ⟨_, _, rfl, by decide⟩
  | compare c => cases c <;> exact ⟨_, _, rfl, by decide⟩
  | equals => exact ⟨_, _, rfl, by decide⟩

theorem not_isGap_of_not_isBlank {c : Char} (h : Text.isBlank c = false) : Text.isGap c = false := by
  cases hg : Text.isGap c with
  | false => rfl
  | true => rw [Text.isBlank_of_isGap hg] at h; exact h

/-- Nothing is skipped in front of a token. -/
theorem Token.Spelled.skipGap_append (h : t.Spelled w) (cs : List Char) : Text.skipGap (w ++ cs) = w ++ cs := by
  obtain ⟨c, rest, rfl, hc⟩ := h.head
  exact Text.skipGap_cons_of_not_isGap (not_isGap_of_not_isBlank hc) _

/-- What is skipped in front of a token is the gap before it. -/
theorem Token.Spelled.skipGap_gap_append (h : t.Spelled w) {g : List Char} (hg : Gap g) (cs : List Char) :
    Text.skipGap (g ++ (w ++ cs)) = w ++ cs := by
  rw [DiceNotation.skipGap_append hg, h.skipGap_append]

end Spellings

/-! ## Layouts -/

section Layouts

variable {ts us : List Token} {cs mid rest : List Char}

/-- Layouts one after the other. -/
theorem Layout.append (first : Layout ts cs mid) (last : Layout us mid rest) : Layout (ts ++ us) cs rest := by
  induction first with
  | nil _ => exact last
  | cons gap spelled _ ih => exact .cons gap spelled (ih last)

/-- The layout of a sequence of tokens goes through the layout of its first part. -/
theorem Layout.split : ∀ {ts : List Token} {cs : List Char}, Layout (ts ++ us) cs rest →
    ∃ mid, Layout ts cs mid ∧ Layout us mid rest
  | [], cs, h => ⟨cs, .nil cs, h⟩
  | _ :: _, _, .cons gap spelled tail => by
    obtain ⟨mid, first, last⟩ := Layout.split tail
    exact ⟨mid, .cons gap spelled first, last⟩

/-- A token without a gap in front of it. -/
theorem Layout.tight {t : Token} {w : List Char} (spelled : t.Spelled w) (tail : Layout ts cs rest) :
    Layout (t :: ts) (w ++ cs) rest :=
  .cons gap_nil spelled tail

/-- The first token of a layout, and the others. -/
theorem Layout.uncons {t : Token} (h : Layout (t :: ts) cs rest) : ∃ mid, Layout [t] cs mid ∧ Layout ts mid rest :=
  Layout.split (show Layout ([t] ++ ts) cs rest from h)

/-- A token behind a gap. -/
theorem Layout.one {t : Token} {g w : List Char} (gap : Gap g) (spelled : t.Spelled w) (rest : List Char) :
    Layout [t] (g ++ (w ++ rest)) rest :=
  .cons gap spelled (.nil rest)

theorem Layout.one_inv {t : Token} (h : Layout [t] cs rest) :
    ∃ g w, Gap g ∧ t.Spelled w ∧ cs = g ++ (w ++ rest) := by
  cases h with
  | cons gap spelled tail =>
    cases tail
    exact ⟨_, _, gap, spelled, rfl⟩

/-- A gap in front of tokens is a part of their layout. -/
theorem Layout.gap_append {g : List Char} {t : Token} (hg : Gap g) (h : Layout (t :: ts) cs rest) :
    Layout (t :: ts) (g ++ cs) rest := by
  cases h with
  | cons gap spelled tail =>
    rw [← List.append_assoc]
    exact .cons (fun c hc => (List.mem_append.1 hc).elim (hg c) (gap c)) spelled tail

/-- Every token takes at least one character. -/
theorem Layout.length_le (h : Layout ts cs rest) : ts.length + rest.length ≤ cs.length := by
  induction h with
  | nil rest => simp
  | cons gap spelled _ ih =>
    obtain ⟨c, w, rfl, -⟩ := spelled.head
    simp only [List.length_append, List.length_cons]
    omega

/-- A text that spells some token is not blank. -/
theorem Layout.not_blank {t : Token} (h : Layout (t :: ts) cs rest) : cs.all Text.isBlank = false := by
  cases h with
  | cons gap spelled tail =>
    obtain ⟨c, w, rfl, hc⟩ := spelled.head
    simp [hc]

end Layouts

/-! ## Trees -/

theorem ItemOf.ne_nil {ts : List Token} {item : Item} (h : ItemOf ts item) : ts ≠ [] := by
  cases h <;> simp

theorem ExprOf.ne_nil {ts : List Token} {e : Expr} (h : ExprOf ts e) : ts ≠ [] := by
  cases h with
  | single only => exact only.ne_nil
  | snoc _ _ _ => simp

theorem CommandOf.ne_nil {ts : List Token} {e : Expr} {checker : Option Checker} (h : CommandOf ts e checker) :
    ts ≠ [] := by
  cases h with
  | bare row => exact row.ne_nil
  | checked _ _ _ => simp

/-- A sentence is not blank. -/
theorem Sentence.not_blank {ts : List Token} {cs : List Char} {e : Expr} {checker : Option Checker}
    (h : Sentence ts cs e checker) : cs.all Text.isBlank = false := by
  obtain ⟨g, -, layout⟩ := h.text
  obtain ⟨t, us, rfl⟩ := List.exists_cons_of_ne_nil h.tree.ne_nil
  exact layout.not_blank

end DiceNotation
