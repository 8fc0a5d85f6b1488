import DiceNotation.Proofs.Excess
import DiceNotation.Proofs.Grammar.Decimal

/-!
# Texts that spell a tree

A text spells an item or a row, whatever follows it, and such texts are put together as the tree is. A sum is spelled with
plus signs between its items.

* `Spells`: what a text spells. `spells_number`, `spells_dice`, `spells_single`, `spells_snoc`, `spells_group`: the text of
  each kind of tree.
* `Expr.adding`, `spells_adding`: a row with some items more that are added.
* `sentence_of_spells`, `sentence_of_spells_checker`: the text of a row is a command, with a checker or without.
-/

namespace DiceNotation

/-- Some characters that spell tokens of some kind, with short numerals, whatever follows. -/
def Spells (of : List Token → Prop) (cs : List Char) : Prop :=
  ∃ ts, of ts ∧ ShortNumerals ts ∧ ∀ rest, Layout ts (cs ++ rest) rest

section Spelling

variable {of : List Token → Prop} {e : Expr} {item : Item} {cs ds g g' : List Char}

/-- A gap in front does not change what is spelled. -/
theorem Spells.gap_append (h : Spells of cs) (nonempty : ∀ ts, of ts → ts ≠ []) (hg : Gap g) : Spells of (g ++ cs) := by
  obtain ⟨ts, tree, short, layout⟩ := h
  obtain ⟨t, us, rfl⟩ := List.exists_cons_of_ne_nil (nonempty ts tree)
  refine ⟨t :: us, tree, short, fun rest => ?_⟩
  rw [List.append_assoc]
  exact (layout rest).gap_append hg

/-! ## Items and rows -/

theorem spells_number {n : Int} (h : Writable n) : Spells (ItemOf · (.number n)) (decimal n) := by
  refine ⟨[.numeral (.ofInt n)], ?_, (Numeral.shortNumerals_ofInt n).2 h, fun rest => ?_⟩
  · have tree := ItemOf.number (.ofInt n)
    rw [Numeral.value_ofInt] at tree
    exact tree
  · exact .tight (Numeral.spelled_decimal n) (.nil rest)

/-- A dice term is spelled with the word of its aggregate behind it, which a sum does not need. -/
theorem spells_dice {d : Dice} (count : Writable d.count) (sides : Writable d.sides) :
    Spells (ItemOf · (.dice d))
      (decimal d.count ++ 'd' :: decimal d.sides ++ (if d.aggregate = .sum then [] else d.aggregate.word.toList)) := by
  have hletter : Token.diceLetter.Spelled ['d'] := .diceLetter (.inl rfl)
  have hterm : ∀ rest, Layout [.numeral (.ofInt d.count), .diceLetter, .numeral (.ofInt d.sides)]
      (decimal d.count ++ 'd' :: decimal d.sides ++ rest) rest := by
    intro rest
    have layout := Layout.tight (Numeral.spelled_decimal d.count)
      (.tight hletter (.tight (Numeral.spelled_decimal d.sides) (.nil rest)))
    simpa using layout
  have hcount : ShortNumerals [.numeral (.ofInt d.count)] := (Numeral.shortNumerals_ofInt d.count).2 count
  have hsides : ShortNumerals [.numeral (.ofInt d.sides)] := (Numeral.shortNumerals_ofInt d.sides).2 sides
  have short : ShortNumerals [.numeral (.ofInt d.count), .diceLetter, .numeral (.ofInt d.sides)] :=
    shortNumerals_cons.2 ⟨hcount, shortNumerals_cons.2 ⟨shortNumerals_other nofun, hsides⟩⟩
  obtain ⟨m, n, aggregate⟩ := d
  by_cases hsum : aggregate = .sum
  · subst hsum
    have tree := ItemOf.dice (.ofInt m) (.ofInt n)
    rw [Numeral.value_ofInt, Numeral.value_ofInt] at tree
    refine ⟨_, tree, short, fun rest => ?_⟩
    simpa using hterm rest
  · have tree := ItemOf.diceWith (.ofInt m) (.ofInt n) aggregate
    rw [Numeral.value_ofInt, Numeral.value_ofInt] at tree
    have hword : (Token.word aggregate).Spelled aggregate.word.toList := .word (by cases aggregate <;> decide)
    have shortWord : ShortNumerals [.word aggregate] := shortNumerals_other nofun
    refine ⟨_, tree, shortNumerals_append.2 ⟨short, shortWord⟩, fun rest => ?_⟩
    rw [if_neg hsum, List.append_assoc]
    exact (hterm _).append (.tight hword (.nil rest))

theorem spells_single (h : Spells (ItemOf · item) cs) : Spells (ExprOf · (.single item)) cs := by
  obtain ⟨ts, tree, short, layout⟩ := h
  exact ⟨ts, .single tree, short, layout⟩

/-- A row, an operator between two gaps and an item are a row. -/
theorem spells_snoc (op : Operator) (hg : Gap g) (hg' : Gap g') (row : Spells (ExprOf · e) cs)
    (last : Spells (ItemOf · item) ds) :
    Spells (ExprOf · (.snoc e op item)) (cs ++ (g ++ (op.symbol :: (g' ++ ds)))) := by
  obtain ⟨ts, tree, short, layout⟩ := row
  obtain ⟨us, tree', short', layout'⟩ := last.gap_append (fun _ h => h.ne_nil) hg'
  refine ⟨ts ++ .operator op :: us, .snoc op tree tree', ?_, fun rest => ?_⟩
  · exact shortNumerals_append.2 ⟨short, shortNumerals_cons.2 ⟨shortNumerals_other nofun, short'⟩⟩
  · have hop : Layout (.operator op :: us) (g ++ ([op.symbol] ++ ((g' ++ ds) ++ rest))) rest :=
      .cons hg (.operator op) (layout' rest)
    simpa using (layout _).append hop

theorem spells_group (h : Spells (ExprOf · e) cs) : Spells (ItemOf · (.group e)) ('(' :: cs ++ [')']) := by
  obtain ⟨ts, tree, short, layout⟩ := h
  refine ⟨.opening :: (ts ++ [.closing]), .group tree, ?_, fun rest => ?_⟩
  · exact shortNumerals_cons.2 ⟨shortNumerals_other nofun,
      shortNumerals_append.2 ⟨short, shortNumerals_other nofun⟩⟩
  · have hclose : Layout [.closing] (')' :: rest) rest := .tight .closing (.nil rest)
    have hopen := Layout.tight .opening ((layout (')' :: rest)).append hclose)
    simpa using hopen

end Spelling

/-! ## Sums -/

/-- A row with some items more that are added. -/
def Expr.adding (e : Expr) (items : List Item) : Expr :=
  items.foldl (fun e item => .snoc e .add item) e

section Adding

variable {e : Expr} {cs : List Char} (items : List Item)

theorem Expr.adding_cons (e : Expr) (item : Item) : e.adding (item :: items) = (snoc e .add item).adding items := rfl

theorem Expr.first_adding (e : Expr) : (e.adding items).first = e.first := by
  induction items generalizing e with
  | nil => rfl
  | cons item items ih => rw [adding_cons, ih, first]

theorem Expr.rest_adding (e : Expr) : (e.adding items).rest = e.rest ++ items.map (Operator.add, ·) := by
  induction items generalizing e with
  | nil => simp [adding]
  | cons item items ih => simp [adding_cons, ih, rest]

theorem Expr.leaves_adding (e : Expr) : (e.adding items).leaves = e.leaves ++ items.flatMap Item.leaves := by
  induction items generalizing e with
  | nil => simp [adding]
  | cons item items ih => simp [adding_cons, ih, leaves]

/-- Items that are no groups leave the nesting as it is. -/
theorem Expr.nesting_adding {items : List Item} (h : ∀ item ∈ items, item.nesting = 0) (e : Expr) :
    (e.adding items).nesting = e.nesting := by
  induction items generalizing e with
  | nil => rfl
  | cons item items ih =>
    obtain ⟨hitem, hitems⟩ := List.forall_mem_cons.1 h
    rw [adding_cons, ih hitems, nesting, hitem, Nat.max_zero]

/-- A row, and behind it items with a plus sign in front of each, are the row with these items added. -/
theorem spells_adding {α : Type} {item : α → Item} {text : α → List Char} {xs : List α} (row : Spells (ExprOf · e) cs)
    (h : ∀ x ∈ xs, Spells (ItemOf · (item x)) (text x)) :
    Spells (ExprOf · (e.adding (xs.map item))) (cs ++ xs.flatMap fun x => '+' :: text x) := by
  induction xs generalizing e cs with
  | nil => simpa [Expr.adding] using row
  | cons x xs ih =>
    obtain ⟨hx, hxs⟩ := List.forall_mem_cons.1 h
    have hrow := spells_snoc .add gap_nil gap_nil row hx
    have hrest := ih hrow hxs
    rw [List.map_cons, Expr.adding_cons]
    simpa [Operator.symbol] using hrest

/-- Texts with a character between them. -/
theorem intercalate_cons (c : Char) (w : List Char) (ws : List (List Char)) :
    [c].intercalate (w :: ws) = w ++ ws.flatMap (c :: ·) := by
  induction ws generalizing w with
  | nil => simp
  | cons v ws ih => simp [List.intercalate_cons_cons, ih v]

/-- Items with plus signs between them are their sum. -/
theorem spells_sum {α : Type} {item : α → Item} {text : α → List Char} {x : α} {xs : List α}
    (h : ∀ y ∈ x :: xs, Spells (ItemOf · (item y)) (text y)) :
    Spells (ExprOf · ((Expr.single (item x)).adding (xs.map item))) (['+'].intercalate ((x :: xs).map text)) := by
  obtain ⟨hx, hxs⟩ := List.forall_mem_cons.1 h
  rw [List.map_cons, intercalate_cons, List.flatMap_map]
  exact spells_adding (spells_single hx) hxs

end Adding

/-! ## Commands -/

section Commands

variable {e : Expr} {cs g g' : List Char}

theorem sentence_of_spells (h : Spells (ExprOf · e) cs) : ∃ ts, Sentence ts cs e none ∧ ShortNumerals ts := by
  obtain ⟨ts, tree, short, layout⟩ := h
  refine ⟨ts, ⟨.bare tree, [], gap_nil, ?_⟩, short⟩
  simpa using layout []

/-- A row and a checker, with a gap in front of each token of the checker, are a command. -/
theorem sentence_of_spells_checker (h : Spells (ExprOf · e) cs) (hg : Gap g) (hg' : Gap g') (c : Checker)
    (writable : Writable c.target) :
    ∃ ts, Sentence ts (cs ++ (g ++ (c.compare.symbol.toList ++ (g' ++ decimal c.target)))) e (some c) ∧
      ShortNumerals ts := by
  obtain ⟨ts, tree, short, layout⟩ := h
  have htarget : Layout [.numeral (.ofInt c.target)] (g' ++ (decimal c.target ++ [])) [] :=
    .one hg' (Numeral.spelled_decimal c.target) []
  have hcompare : Layout (.compare c.compare :: [.numeral (.ofInt c.target)])
      (g ++ (c.compare.symbol.toList ++ (g' ++ (decimal c.target ++ [])))) [] :=
    .cons hg (.compare c.compare) htarget
  have hcommand := CommandOf.checked tree c.compare (.ofInt c.target)
  rw [Numeral.value_ofInt] at hcommand
  refine ⟨_, ⟨hcommand, [], gap_nil, ?_⟩, ?_⟩
  · simpa using (layout _).append hcompare
  · exact shortNumerals_append.2 ⟨short, shortNumerals_cons.2
      ⟨shortNumerals_other nofun, (Numeral.shortNumerals_ofInt c.target).2 writable⟩⟩

end Commands

end DiceNotation
