import DiceNotation.Proofs.Grammar
import DiceNotation.Reading.Lexeme

/-!
# Scanners and tokens

Each scanner takes from a text what the grammar calls a token, and it takes every token that it is meant for.

* `..._layout`: what a scanner takes is laid out as tokens in front of what it leaves.
* `..._of_layout`: a scanner takes the tokens that are laid out, where what follows cannot prolong them. Behind an item
  this is so if the text `Stops` there: an operator, a closing parenthesis, a comparison or nothing follows.
-/

namespace DiceNotation

/-! ## Where an item ends -/

/-- The characters that may follow an item. -/
def isStop (c : Char) : Bool :=
  c ∈ ['+', '-', '*', 'x', 'X', ')', '>', '<', '=']

/-- A text that, behind its gap, is at its end or goes on with a character that may follow an item. -/
def Stops (cs : List Char) : Prop :=
  ∀ c ∈ (Text.skipGap cs).head?, isStop c = true

/-- Whether a token may follow an item. -/
def Token.follows : Token → Bool
  | .operator _ | .closing | .compare _ => true
  | _ => false

section Stops

variable {cs : List Char}

theorem Gap.stops {g : List Char} (hg : Gap g) : Stops g := by
  intro c hc
  rw [skipGap_eq_nil hg] at hc
  exact absurd hc (by simp)

theorem Token.Spelled.head_isStop {t : Token} {w : List Char} (h : t.Spelled w) (ht : t.follows = true) :
    ∃ c rest, w = c :: rest ∧ isStop c = true := by
  cases h with
  | operator op => cases op <;> exact ⟨_, _, rfl, by decide⟩
  | times letter => rcases letter with rfl | rfl <;> exact ⟨_, _, rfl, by decide⟩
  | closing => exact ⟨_, _, rfl, by decide⟩
  | compare c => cases c <;> exact ⟨_, _, rfl, by decide⟩
  | equals => exact ⟨_, _, rfl, by decide⟩
  | numeral | diceLetter | word | opening => cases ht

/-- A text stops where a token stands that may follow an item. -/
theorem Layout.stops {t : Token} {ts : List Token} {rest : List Char} (h : Layout (t :: ts) cs rest)
    (ht : t.follows = true) : Stops cs := by
  cases h with
  | cons gap spelled tail =>
    intro c hc
    rw [spelled.skipGap_gap_append gap] at hc
    obtain ⟨c', w, rfl, hs⟩ := spelled.head_isStop ht
    cases hc
    exact hs

theorem not_isDigit_of_isStop {c : Char} (h : isStop c = true) : c.isDigit = false := by
  simp only [isStop, List.mem_cons, List.not_mem_nil, or_false, decide_eq_true_eq] at h
  rcases h with rfl | rfl | rfl | rfl | rfl | rfl | rfl | rfl | rfl <;> decide

theorem not_isDigit_of_isGap {c : Char} (h : Text.isGap c = true) : c.isDigit = false := by
  simp only [Text.isGap, Bool.or_eq_true, decide_eq_true_eq] at h
  rcases h with rfl | rfl <;> decide

/-- No digit stands where a text stops. -/
theorem Stops.not_isDigit (h : Stops cs) : ∀ c ∈ cs.head?, c.isDigit = false := by
  intro c hc
  cases hg : Text.isGap c with
  | true => exact not_isDigit_of_isGap hg
  | false =>
    obtain ⟨rest, rfl⟩ := List.head?_eq_some_iff.1 hc
    have hs := h c
    rw [Text.skipGap_cons_of_not_isGap hg] at hs
    exact not_isDigit_of_isStop (hs rfl)

end Stops

/-! ## Numerals -/

namespace Numeral

variable {n : Numeral} {cs rest : List Char} {negative : Bool}

theorem scanDigits_append {ds : List Char} (nonempty : ds ≠ []) (digits : ∀ c ∈ ds, c.isDigit = true)
    (hr : ∀ c ∈ rest.head?, c.isDigit = false) :
    scanDigits negative (ds ++ rest) = some (⟨negative, ds⟩, rest) := by
  have hnone : rest.takeWhile Char.isDigit = [] ∧ rest.dropWhile Char.isDigit = rest := by
    cases rest with
    | nil => exact ⟨rfl, rfl⟩
    | cons c rest => simp [hr c rfl]
  have htake : (ds ++ rest).takeWhile Char.isDigit = ds := by
    rw [List.takeWhile_append_of_pos digits, hnone.1, List.append_nil]
  have hdrop : (ds ++ rest).dropWhile Char.isDigit = rest := by
    rw [List.dropWhile_append_of_pos digits, hnone.2]
  unfold scanDigits
  rw [htake, hdrop]
  cases ds with
  | nil => exact absurd rfl nonempty
  | cons c ds => rfl

theorem scanDigits_some (h : scanDigits negative cs = some (n, rest)) :
    n.negative = negative ∧ cs = n.digits ++ rest ∧ n.digits ≠ [] ∧ ∀ c ∈ n.digits, c.isDigit = true := by
  unfold scanDigits at h
  split at h
  · cases h
  · rename_i hne
    cases h
    exact ⟨rfl, List.takeWhile_append_dropWhile.symm, hne, fun _ hc => List.all_eq_true.1 List.all_takeWhile _ hc⟩

/-- Without a minus sign in front, a numeral is a run of digits. -/
theorem scan?_of_not_minus (h : ∀ rest, cs ≠ '-' :: rest) : scan? cs = scanDigits false cs := by
  unfold scan?
  split
  · exact absurd rfl (h _)
  · rfl

theorem scan?_of_spelled {w : List Char} (h : (Token.numeral n).Spelled w)
    (hr : ∀ c ∈ rest.head?, c.isDigit = false) : scan? (w ++ rest) = some (n, rest) := by
  cases h with
  | numeral nonempty digits =>
    obtain ⟨negative, ds⟩ := n
    cases negative with
    | true => exact scanDigits_append nonempty digits hr
    | false =>
      have hm : ∀ u, ds ++ rest ≠ '-' :: u := by
        intro u hu
        obtain ⟨c, ds, rfl⟩ := List.exists_cons_of_ne_nil nonempty
        cases hu
        exact absurd (digits '-' List.mem_cons_self) (by decide)
      exact (scan?_of_not_minus hm).trans (scanDigits_append nonempty digits hr)

theorem spelled_of_scan? (h : scan? cs = some (n, rest)) :
    (Token.numeral n).Spelled n.chars ∧ cs = n.chars ++ rest := by
  unfold scan? at h
  split at h
  · obtain ⟨hn, hcs, nonempty, digits⟩ := scanDigits_some h
    exact ⟨.numeral nonempty digits, by simp [chars, hn, hcs]⟩
  · obtain ⟨hn, hcs, nonempty, digits⟩ := scanDigits_some h
    exact ⟨.numeral nonempty digits, by simp [chars, hn, hcs]⟩

theorem scan?_layout (h : scan? (Text.skipGap cs) = some (n, rest)) : Layout [.numeral n] cs rest := by
  obtain ⟨g, hg, hcs⟩ := exists_gap cs
  obtain ⟨spelled, hskip⟩ := spelled_of_scan? h
  rw [hcs, hskip]
  exact .one hg spelled rest

theorem scan?_of_layout (h : Layout [.numeral n] cs rest) (hr : ∀ c ∈ rest.head?, c.isDigit = false) :
    scan? (Text.skipGap cs) = some (n, rest) := by
  obtain ⟨g, w, gap, spelled, rfl⟩ := h.one_inv
  rw [spelled.skipGap_gap_append gap]
  exact scan?_of_spelled spelled hr

/-- Where a numeral is laid out, no `=` prolongs what stands before it. -/
theorem head?_ne_equals {ts : List Token} (h : Layout (.numeral n :: ts) cs rest) : cs.head? ≠ some '=' := by
  cases h with
  | @cons _ _ g w tail _ gap spelled _ =>
    cases g with
    | cons c g =>
      intro hc
      cases hc
      exact absurd (gap '=' List.mem_cons_self) (by decide)
    | nil =>
      cases spelled with
      | numeral nonempty digits =>
        obtain ⟨negative, ds⟩ := n
        obtain ⟨c, ds, rfl⟩ := List.exists_cons_of_ne_nil nonempty
        intro hc
        cases negative with
        | true => cases hc
        | false =>
          cases hc
          exact absurd (digits '=' List.mem_cons_self) (by decide)

end Numeral

/-! ## Words of aggregates -/

namespace Aggregate

variable {a : Aggregate} {cs rest : List Char}

theorem ofLetters?_eq_some {x y z : Char} : ofLetters? x y z = some a ↔ [x, y, z] = a.word.toList := by
  constructor
  · intro h
    unfold ofLetters? at h
    split at h <;> cases h <;> rfl
  · intro h
    cases a <;> cases h <;> rfl

/-- A word has three letters. -/
theorem letters_of_spelled {w : List Char} (h : (Token.word a).Spelled w) :
    ∃ x y z, w = [x, y, z] ∧ ofLetters? x.toLower y.toLower z.toLower = some a := by
  cases h with
  | word letters =>
    have hlen : w.length = 3 := by
      rw [← List.length_map (f := Char.toLower), letters]
      cases a <;> rfl
    match w, hlen with
    | [x, y, z], _ => exact ⟨x, y, z, rfl, ofLetters?_eq_some.2 letters⟩

/-- A word does not start with a digit. -/
theorem not_isDigit_of_letters {x y z : Char} (h : ofLetters? x.toLower y z = some a) : x.isDigit = false := by
  cases hx : x.isDigit with
  | false => rfl
  | true =>
    rw [toLower_of_isDigit hx] at h
    cases a <;> cases ofLetters?_eq_some.1 h <;> cases hx

theorem scan_of_layout (h : Layout [.word a] cs rest) : scan cs = (a, rest) := by
  obtain ⟨g, w, gap, spelled, rfl⟩ := h.one_inv
  obtain ⟨x, y, z, rfl, ha⟩ := letters_of_spelled spelled
  unfold scan
  rw [spelled.skipGap_gap_append gap]
  simp only [List.cons_append, List.nil_append, ha]

/-- Words start with other letters than what follows an item. -/
theorem ofLetters?_of_isStop {x : Char} (hx : isStop x = true) (y z : Char) : ofLetters? x.toLower y z = none := by
  simp only [isStop, List.mem_cons, List.not_mem_nil, or_false, decide_eq_true_eq] at hx
  rcases hx with rfl | rfl | rfl | rfl | rfl | rfl | rfl | rfl | rfl <;> rfl

theorem scan_of_stops (h : Stops cs) : scan cs = (sum, cs) := by
  unfold scan
  split
  · rename_i x y z rest hcs
    have hx : isStop x = true := h x (by rw [hcs]; rfl)
    rw [ofLetters?_of_isStop hx]
  · rfl

theorem scan_layout (h : scan cs = (a, rest)) : (a = sum ∧ rest = cs) ∨ Layout [.word a] cs rest := by
  unfold scan at h
  split at h
  · rename_i x y z tail hcs
    split at h
    · rename_i a' ha
      cases h
      obtain ⟨g, hg, hcs'⟩ := exists_gap cs
      have spelled : (Token.word a).Spelled [x, y, z] := .word (ofLetters?_eq_some.1 ha)
      refine .inr ?_
      rw [hcs', hcs]
      exact .one hg spelled rest
    · cases h
      exact .inl ⟨rfl, rfl⟩
  · cases h
    exact .inl ⟨rfl, rfl⟩

end Aggregate

/-! ## Operators and comparisons -/

namespace Operator

variable {op : Operator} {cs rest : List Char}

theorem ofChar?_eq_some {c : Char} : ofChar? c = some op ↔ (Token.operator op).Spelled [c] := by
  constructor
  · intro h
    unfold ofChar? at h
    split at h <;> cases h
    · exact .operator add
    · exact .operator sub
    · exact .operator mul
    · exact .times (.inl rfl)
    · exact .times (.inr rfl)
  · generalize hw : [c] = w
    intro h
    cases h with
    | operator op => cases hw; exact ofChar?_symbol op
    | times letter => cases hw; rcases letter with rfl | rfl <;> rfl

theorem spelled_singleton {w : List Char} (h : (Token.operator op).Spelled w) : ∃ c, w = [c] := by
  cases h <;> exact ⟨_, rfl⟩

theorem scan?_of_layout (h : Layout [.operator op] cs rest) : scan? cs = some (op, rest) := by
  obtain ⟨g, w, gap, spelled, rfl⟩ := h.one_inv
  obtain ⟨c, rfl⟩ := spelled_singleton spelled
  unfold scan?
  rw [spelled.skipGap_gap_append gap]
  simp only [List.cons_append, List.nil_append, ofChar?_eq_some.2 spelled, Option.map_some]

theorem scan?_layout (h : scan? cs = some (op, rest)) : Layout [.operator op] cs rest := by
  obtain ⟨g, hg, hcs⟩ := exists_gap cs
  unfold scan? at h
  split at h
  · rename_i c tail hskip
    obtain ⟨op', ho, he⟩ := Option.map_eq_some_iff.1 h
    cases he
    rw [hcs, hskip]
    exact .one hg (ofChar?_eq_some.1 ho) rest
  · cases h

/-- No operator stands where a closing parenthesis or a comparison does, or nothing. -/
theorem scan?_eq_none (h : ∀ c ∈ (Text.skipGap cs).head?, ofChar? c = none) : scan? cs = none := by
  unfold scan?
  split
  · rename_i c tail hskip
    rw [h c (by rw [hskip]; rfl)]
    rfl
  · rfl

end Operator

namespace Compare

variable {c : Compare} {cs rest : List Char}

/-- A comparison of one character that no `=` prolongs. -/
theorem scan?_short (hr : rest.head? ≠ some '=') :
    scan? ('>' :: rest) = some (gt, rest) ∧ scan? ('<' :: rest) = some (lt, rest) ∧
      scan? ('=' :: rest) = some (eq, rest) := by
  cases rest with
  | nil => exact ⟨rfl, rfl, rfl⟩
  | cons d rest =>
    have hd : d ≠ '=' := fun h => hr (congrArg some h)
    simp [scan?, hd]

theorem scan?_of_spelled {w : List Char} (h : (Token.compare c).Spelled w) (hr : rest.head? ≠ some '=') :
    scan? (w ++ rest) = some (c, rest) := by
  cases h with
  | compare c =>
    cases c with
    | gt => exact (scan?_short hr).1
    | ge => rfl
    | lt => exact (scan?_short hr).2.1
    | le => rfl
    | eq => exact (scan?_short hr).2.2
  | equals => rfl

theorem scan?_spelled (h : scan? cs = some (c, rest)) : ∃ w, (Token.compare c).Spelled w ∧ cs = w ++ rest := by
  unfold scan? at h
  split at h <;> cases h
  · exact ⟨_, .compare .ge, rfl⟩
  · exact ⟨_, .compare .le, rfl⟩
  · exact ⟨_, .equals, rfl⟩
  · exact ⟨_, .compare .gt, rfl⟩
  · exact ⟨_, .compare .lt, rfl⟩
  · exact ⟨_, .compare .eq, rfl⟩

end Compare

/-! ## Heads of items -/

/-- The tokens that make up the head of an item. -/
inductive Lexeme.Of : List Token → Lexeme → Prop
  | opening : Of [.opening] .opening
  | dice (count sides : Numeral) : Of [.numeral count, .diceLetter, .numeral sides] (.dice count sides .sum)
  | diceWith (count sides : Numeral) (a : Aggregate) :
      Of [.numeral count, .diceLetter, .numeral sides, .word a] (.dice count sides a)
  | number (n : Numeral) : Of [.numeral n] (.number n)

namespace Lexeme

variable {cs mid rest : List Char} {count sides : Numeral} {lexeme : Lexeme}

theorem isDiceLetter_iff {c : Char} : isDiceLetter c = true ↔ c = 'd' ∨ c = 'D' := by
  simp [isDiceLetter]

/-! ### What is taken -/

theorem scanAfter_layout (h : scanAfter count mid = (lexeme, rest)) (hl : lexeme ≠ .noSides) :
    ∃ ts, Of (.numeral count :: ts) lexeme ∧ Layout ts mid rest := by
  obtain ⟨g, hg, hmid⟩ := exists_gap mid
  unfold scanAfter at h
  split at h
  · rename_i c after hskip
    split at h
    · rename_i hc
      have letter : Layout [.diceLetter] mid after := by
        rw [hmid, hskip]
        exact .one hg (.diceLetter (isDiceLetter_iff.1 hc)) after
      split at h
      · rename_i sides tail hs
        have both := letter.append (Numeral.scan?_layout hs)
        obtain ⟨a, rest', ha⟩ : ∃ a rest', Aggregate.scan tail = (a, rest') := ⟨_, _, rfl⟩
        simp only [ha] at h
        cases h
        rcases Aggregate.scan_layout ha with ⟨rfl, rfl⟩ | word
        · exact ⟨_, .dice count sides, both⟩
        · exact ⟨_, .diceWith count sides a, both.append word⟩
      · cases h
        exact absurd rfl hl
    · cases h
      exact ⟨_, .number count, .nil mid⟩
  · cases h
    exact ⟨_, .number count, .nil mid⟩

/-- The head that is found is laid out in front of what is left. -/
theorem scan_layout (h : scan cs = (lexeme, rest)) (hl : lexeme ≠ .noSides) (hm : lexeme ≠ .missing) :
    ∃ ts, Of ts lexeme ∧ Layout ts cs rest := by
  obtain ⟨g, hg, hcs⟩ := exists_gap cs
  unfold scan at h
  split at h
  · rename_i tail hskip
    cases h
    refine ⟨_, .opening, ?_⟩
    rw [hcs, hskip]
    exact .one hg .opening rest
  · split at h
    · rename_i count mid hn
      obtain ⟨ts, tokens, layout⟩ := scanAfter_layout h hl
      exact ⟨_, tokens, (Numeral.scan?_layout hn).append layout⟩
    · cases h
      exact absurd rfl hm

/-! ### What is found -/

theorem scan_of_opening (h : Layout [.opening] cs rest) : scan cs = (.opening, rest) := by
  obtain ⟨g, w, gap, spelled, rfl⟩ := h.one_inv
  unfold scan
  rw [spelled.skipGap_gap_append gap]
  cases spelled
  rfl

/-- Behind a numeral, the head of an item is decided by what follows it. -/
theorem scan_of_numeral (h : Layout [.numeral count] cs mid) (hmid : ∀ c ∈ mid.head?, c.isDigit = false) :
    scan cs = scanAfter count mid := by
  have hn := Numeral.scan?_of_layout h hmid
  unfold scan
  split
  · rename_i tail hskip
    rw [hskip] at hn
    cases hn
  · simp only [hn]

/-- No digit stands where a letter is laid out. -/
theorem not_isDigit_of_letter {t : Token} {ts : List Token} (h : Layout (t :: ts) cs rest)
    (ht : t = .diceLetter ∨ ∃ a, t = .word a) : ∀ c ∈ cs.head?, c.isDigit = false := by
  cases h with
  | @cons _ _ g w tail _ gap spelled _ =>
    intro c hc
    cases g with
    | cons d g =>
      cases hc
      exact not_isDigit_of_isGap (gap c List.mem_cons_self)
    | nil =>
      rcases ht with rfl | ⟨a, rfl⟩
      · cases spelled with
        | diceLetter letter =>
          cases hc
          rcases letter with rfl | rfl <;> decide
      · obtain ⟨x, y, z, rfl, ha⟩ := Aggregate.letters_of_spelled spelled
        cases hc
        exact Aggregate.not_isDigit_of_letters ha

/-- Where a text stops, a numeral is no count. -/
theorem scanAfter_of_stops (h : Stops mid) : scanAfter count mid = (.number count, mid) := by
  unfold scanAfter
  split
  · rename_i c after hskip
    have hc : isStop c = true := h c (by rw [hskip]; rfl)
    have hd : ¬isDiceLetter c = true := by
      intro hd
      rcases isDiceLetter_iff.1 hd with rfl | rfl <;> cases hc
    rw [if_neg hd]
  · rfl

/-- Behind the letter of a dice term and its sides, a word may follow. -/
theorem scanAfter_of_letter {after tail : List Char} (letter : Layout [.diceLetter] mid after)
    (hs : Layout [.numeral sides] after tail) (ht : ∀ c ∈ tail.head?, c.isDigit = false) :
    scanAfter count mid = (.dice count sides (Aggregate.scan tail).1, (Aggregate.scan tail).2) := by
  obtain ⟨g, w, gap, spelled, rfl⟩ := letter.one_inv
  cases spelled with
  | @diceLetter c hc =>
    unfold scanAfter
    rw [(Token.Spelled.diceLetter hc).skipGap_gap_append gap]
    simp only [List.cons_append, List.nil_append, if_pos (isDiceLetter_iff.2 hc), Numeral.scan?_of_layout hs ht]

/-- The head of an item is found, wherever the text stops behind it. A parenthesis needs no such end. -/
theorem scan_of_layout {ts : List Token} (tokens : Of ts lexeme) (layout : Layout ts cs rest)
    (hr : lexeme ≠ .opening → Stops rest) : scan cs = (lexeme, rest) := by
  cases tokens with
  | opening => exact scan_of_opening layout
  | number n =>
    have stops := hr (by simp)
    rw [scan_of_numeral layout stops.not_isDigit, scanAfter_of_stops stops]
  | dice count sides =>
    have stops := hr (by simp)
    obtain ⟨mid, hcount, tail⟩ := layout.uncons
    obtain ⟨after, letter, hsides⟩ := tail.uncons
    rw [scan_of_numeral hcount (not_isDigit_of_letter letter (.inl rfl)),
      scanAfter_of_letter letter hsides stops.not_isDigit, Aggregate.scan_of_stops stops]
  | diceWith count sides a =>
    obtain ⟨mid, hcount, tail⟩ := layout.uncons
    obtain ⟨after, letter, tail⟩ := tail.uncons
    obtain ⟨last, hsides, word⟩ := tail.uncons
    rw [scan_of_numeral hcount (not_isDigit_of_letter letter (.inl rfl)),
      scanAfter_of_letter letter hsides (not_isDigit_of_letter word (.inr ⟨a, rfl⟩)), Aggregate.scan_of_layout word]

end Lexeme

end DiceNotation
