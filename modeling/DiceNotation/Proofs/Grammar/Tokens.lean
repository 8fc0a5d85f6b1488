import DiceNotation.Proofs.Grammar.Scanning

/-!
# The tokens of a text

The characters of tokens are visible ASCII characters, so that the gaps of a text are all its spaces and tabs. A text is a
sentence in one way only: in front of an item other tokens stand than behind one, and no token is prolonged by the next.

* `Token.Spelled.isVisible`, `Layout.exists_chars`: the characters of tokens, and of what is laid out.
* `Alternates`, `CommandOf.alternates`: which tokens stand behind which.
* `Token.scan?_of_spelled`: at either kind of place, the first characters of a text tell its first token.
* `Sentence.tokens_unique`: a text that is a sentence has one sequence of tokens.
-/

namespace DiceNotation

/-! ## Characters -/

/-- A visible ASCII character. -/
def isVisible (c : Char) : Bool :=
  0x21 ≤ c.toNat && c.toNat ≤ 0x7e

theorem isGap_iff {c : Char} : Text.isGap c = true ↔ c = ' ' ∨ c = '\t' := by
  simp [Text.isGap]

theorem not_isGap_of_isVisible {c : Char} (h : isVisible c = true) : Text.isGap c = false := by
  cases hc : Text.isGap c with
  | false => rfl
  | true => rcases isGap_iff.1 hc with rfl | rfl <;> cases h

theorem isVisible_of_isDigit {c : Char} (h : c.isDigit = true) : isVisible c = true := by
  have hc : 48 ≤ c.toNat ∧ c.toNat ≤ 57 := Char.isDigit_iff_toNat.1 h
  simp only [isVisible, Bool.and_eq_true, decide_eq_true_eq]
  omega

/-- A capital letter is visible, and lower case leaves every other character as it is. -/
theorem isVisible_of_toLower {c : Char} (h : isVisible c.toLower = true) : isVisible c = true := by
  by_cases hc : 65 ≤ c.toNat ∧ c.toNat ≤ 90
  · simp only [isVisible, Bool.and_eq_true, decide_eq_true_eq]
    omega
  · rw [toLower_eq_self (by omega)] at h
    exact h

/-- The characters of a token are visible. -/
theorem Token.Spelled.isVisible {t : Token} {w : List Char} (h : t.Spelled w) : ∀ c ∈ w, isVisible c = true := by
  rw [← List.all_eq_true]
  cases h with
  | @numeral n nonempty digits =>
    have hdigits : n.digits.all DiceNotation.isVisible = true :=
      List.all_eq_true.2 fun c hc => isVisible_of_isDigit (digits c hc)
    rw [Numeral.chars, List.all_append, hdigits, Bool.and_true]
    split <;> rfl
  | @word a w letters =>
    have hword : a.word.toList.all DiceNotation.isVisible = true := by cases a <;> decide
    refine List.all_eq_true.2 fun c hc => isVisible_of_toLower ?_
    exact List.all_eq_true.1 hword _ (letters ▸ List.mem_map_of_mem hc)
  | diceLetter letter => rcases letter with rfl | rfl <;> rfl
  | operator op => cases op <;> rfl
  | times letter => rcases letter with rfl | rfl <;> rfl
  | opening => rfl
  | closing => rfl
  | compare c => cases c <;> rfl
  | equals => rfl

/-- What is laid out has visible characters and those of gaps. -/
theorem Layout.exists_chars {ts : List Token} {cs rest : List Char} (h : Layout ts cs rest) :
    ∃ ds, cs = ds ++ rest ∧ ∀ c ∈ ds, isVisible c = true ∨ Text.isGap c = true := by
  induction h with
  | nil rest => exact ⟨[], rfl, nofun⟩
  | @cons t ts g w cs rest gap spelled _ ih =>
    obtain ⟨ds, rfl, hds⟩ := ih
    refine ⟨g ++ (w ++ ds), by simp, fun c hc => ?_⟩
    rcases List.mem_append.1 hc with hc | hc
    · exact .inr (gap c hc)
    · rcases List.mem_append.1 hc with hc | hc
      · exact .inl (spelled.isVisible c hc)
      · exact hds c hc

/-! ## Which tokens stand behind which -/

/-- Whether an item or a target starts with a token. -/
def Token.begins : Token → Bool
  | .numeral _ | .opening => true
  | _ => false

/-- Whether behind a token something that starts like an item is complete. -/
def Token.completes : Token → Bool
  | .numeral _ | .word _ | .closing => true
  | _ => false

/-- Tokens of which one begins an item or a target just where none is complete. -/
def Alternates (complete : Bool) : List Token → Prop
  | [] => True
  | t :: ts => t.begins = !complete ∧ Alternates t.completes ts

section Alternates

variable {ts us : List Token} {item : Item} {e : Expr} {checker : Option Checker}

mutual

theorem ItemOf.alternates : ∀ {ts : List Token} {item : Item}, ItemOf ts item → ∀ {us : List Token}, Alternates true us →
    Alternates false (ts ++ us)
  | _, _, .number _, _, h => ⟨rfl, h⟩
  | _, _, .dice _ _, _, h => ⟨rfl, rfl, rfl, h⟩
  | _, _, .diceWith _ _ _, _, h => ⟨rfl, rfl, rfl, rfl, h⟩
  | _, _, .group inner, us, h => by
    rw [List.cons_append, List.append_assoc]
    exact ⟨rfl, inner.alternates ⟨rfl, h⟩⟩

theorem ExprOf.alternates : ∀ {ts : List Token} {e : Expr}, ExprOf ts e → ∀ {us : List Token}, Alternates true us →
    Alternates false (ts ++ us)
  | _, _, .single only, _, h => only.alternates h
  | _, _, .snoc _ row last, us, h => by
    rw [List.append_assoc]
    exact row.alternates ⟨rfl, last.alternates h⟩

end

theorem CommandOf.alternates (h : CommandOf ts e checker) : Alternates false ts := by
  cases h with
  | bare row => exact List.append_nil ts ▸ row.alternates (show Alternates true [] from trivial)
  | checked row c target => exact row.alternates ⟨rfl, rfl, trivial⟩

end Alternates

/-! ## The first token of a text -/

/-- A word starts with no letter of a dice term and with nothing that may follow an item. -/
theorem Aggregate.head_of_letters {a : Aggregate} {x y z : Char} (h : ofLetters? x.toLower y z = some a) :
    isStop x = false ∧ Lexeme.isDiceLetter x = false := by
  constructor
  · cases hx : isStop x with
    | false => rfl
    | true => rw [ofLetters?_of_isStop hx] at h; cases h
  · cases hx : Lexeme.isDiceLetter x with
    | false => rfl
    | true => rcases Lexeme.isDiceLetter_iff.1 hx with rfl | rfl <;> cases h

namespace Token

/-- Whether a token is at its end in front of a rest. -/
def EndsAt (rest : List Char) : Token → Prop
  | .numeral _ => ∀ c ∈ rest.head?, c.isDigit = false
  | .compare _ => rest.head? ≠ some '='
  | _ => True

/-- The token that a text starts with, behind something complete or not, and what follows it. -/
def scan? (complete : Bool) (cs : List Char) : Option (Token × List Char) :=
  if complete then
    match cs with
    | [] => none
    | c :: rest =>
      if c = ')' then some (.closing, rest)
      else if Lexeme.isDiceLetter c then some (.diceLetter, rest)
      else match Operator.ofChar? c with
        | some op => some (.operator op, rest)
        | none =>
          match Compare.scan? cs with
          | some (c, rest) => some (.compare c, rest)
          | none => some (.word (Aggregate.scan cs).1, (Aggregate.scan cs).2)
  else
    match Numeral.scan? cs with
    | some (n, rest) => some (.numeral n, rest)
    | none => some (.opening, cs.tail)

section Scanning

variable {t u : Token} {ts us : List Token} {w v cs rest g : List Char}

/-- The first characters of a text tell its first token. -/
theorem scan?_of_spelled (h : t.Spelled w) (ends : t.EndsAt rest) : scan? (!t.begins) (w ++ rest) = some (t, rest) := by
  cases h with
  | @numeral n nonempty digits =>
    have hn := Numeral.scan?_of_spelled (.numeral nonempty digits) ends
    simp [scan?, begins, hn]
  | opening => rfl
  | diceLetter letter => rcases letter with rfl | rfl <;> rfl
  | @word a w letters =>
    have ha := Aggregate.scan_of_layout (.tight (.word letters) (.nil rest))
    obtain ⟨x, y, z, rfl, hletters⟩ := Aggregate.letters_of_spelled (.word letters)
    obtain ⟨hstop, hdice⟩ := Aggregate.head_of_letters hletters
    simp only [isStop, List.mem_cons, List.not_mem_nil, or_false, decide_eq_false_iff_not, not_or] at hstop
    have hop : Operator.ofChar? x = none := by simp [Operator.ofChar?, hstop]
    have hcompare : Compare.scan? (x :: y :: z :: rest) = none := by simp [Compare.scan?, hstop]
    simp only [List.cons_append, List.nil_append] at ha ⊢
    simp [scan?, begins, hstop, hdice, hop, hcompare, ha]
  | operator op => cases op <;> rfl
  | times letter => rcases letter with rfl | rfl <;> rfl
  | closing => rfl
  | compare c =>
    have hc := Compare.scan?_of_spelled (.compare c) ends
    cases c <;> simp_all [scan?, begins, Compare.symbol, Lexeme.isDiceLetter, Operator.ofChar?]
  | equals => simp [scan?, begins, Lexeme.isDiceLetter, Operator.ofChar?, Compare.scan?]

/-- Two tokens of the same kind of place that a text starts with are the same one. -/
theorem Spelled.unique (ht : t.Spelled w) (hu : u.Spelled v) (begins : t.begins = u.begins) (htext : w ++ cs = v ++ rest)
    (ends : t.EndsAt cs) (ends' : u.EndsAt rest) : t = u ∧ cs = rest := by
  have hscan := scan?_of_spelled ht ends
  rw [begins, htext, scan?_of_spelled hu ends'] at hscan
  cases hscan
  exact ⟨rfl, rfl⟩

/-- No token is prolonged by the tokens that may stand behind it. -/
theorem endsAt_of_alternates (h : Alternates t.completes ts) (layout : Layout ts cs g) (hg : Gap g) : t.EndsAt cs := by
  cases t with
  | diceLetter | word | operator | opening | closing => trivial
  | numeral n =>
    cases ts with
    | nil =>
      cases layout
      exact hg.stops.not_isDigit
    | cons u us =>
      cases u with
      | operator | closing | compare => exact (layout.stops rfl).not_isDigit
      | diceLetter => exact Lexeme.not_isDigit_of_letter layout (.inl rfl)
      | word a => exact Lexeme.not_isDigit_of_letter layout (.inr ⟨a, rfl⟩)
      | numeral | opening => cases h.1
  | compare c =>
    intro hequals
    obtain ⟨rest, rfl⟩ := List.head?_eq_some_iff.1 hequals
    cases ts with
    | nil =>
      cases layout
      exact absurd (hg '=' List.mem_cons_self) (by decide)
    | cons u us =>
      cases u with
      | numeral n => exact Numeral.head?_ne_equals layout rfl
      | opening =>
        obtain ⟨mid, first, -⟩ := layout.uncons
        cases Lexeme.scan_of_opening first
      | diceLetter | word | operator | closing | compare => cases h.1

end Scanning

end Token

/-! ## One sequence of tokens -/

section Unique

variable {ts us : List Token} {cs g g' : List Char}

/-- No token is laid out in a gap. -/
theorem Layout.eq_nil_of_gap (layout : Layout ts g cs) (hg : Gap g) : ts = [] := by
  cases layout with
  | nil _ => rfl
  | @cons t ts g' w cs' _ gap spelled tail =>
    have hskip := spelled.skipGap_gap_append gap cs'
    rw [skipGap_eq_nil hg] at hskip
    obtain ⟨c, rest, rfl, -⟩ := spelled.head
    cases hskip

theorem Layout.tokens_unique : ∀ {ts us : List Token} {cs : List Char} {complete : Bool}, Alternates complete ts →
    Alternates complete us → Layout ts cs g → Layout us cs g' → Gap g → Gap g' → ts = us
  | [], us, _, _, _, _, .nil _, layout', hg, _ => (layout'.eq_nil_of_gap hg).symm
  | t :: ts, [], _, _, _, _, layout, .nil _, _, hg' => layout.eq_nil_of_gap hg'
  | t :: ts, u :: us, _, _, h, h', .cons gap spelled tail, layout', hg, hg' => by
    obtain ⟨mid, first, tail'⟩ := layout'.uncons
    obtain ⟨g₂, v, gap', spelled', htext⟩ := first.one_inv
    have hskip := congrArg Text.skipGap htext
    rw [spelled.skipGap_gap_append gap, spelled'.skipGap_gap_append gap'] at hskip
    obtain ⟨rfl, rfl⟩ := spelled.unique spelled' (h.1.trans h'.1.symm) hskip
      (Token.endsAt_of_alternates h.2 tail hg) (Token.endsAt_of_alternates h'.2 tail' hg')
    rw [Layout.tokens_unique h.2 h'.2 tail tail' hg hg']

/-- **A text is a sentence in one way only**: it has one sequence of tokens. -/
theorem Sentence.tokens_unique {e e' : Expr} {checker checker' : Option Checker} (h : Sentence ts cs e checker)
    (h' : Sentence us cs e' checker') : ts = us := by
  obtain ⟨tree, g, hg, layout⟩ := h
  obtain ⟨tree', g', hg', layout'⟩ := h'
  exact layout.tokens_unique tree.alternates tree'.alternates layout' hg hg'

end Unique

end DiceNotation
