import DiceNotation.Proofs.Reading.Soundness

/-!
# Rows without fuel

Every item that is read takes at least one character, so that the fuel of `readExpr` never runs out when there is more
of it than there are characters, and how much more there is does not matter (`readExpr_fuel`). `readRow` is `readExpr`
with enough fuel, and it reads an item and resumes behind it, with no fuel in sight (`readRow_eq`).
-/

namespace DiceNotation.Cursor

variable {L : Limits} {c c' : Cursor} {item : Item}

/-! ## Items take characters -/

theorem length_lt_of_readItem {expr : Cursor → Except Stop (Expr × Cursor)} (hexpr : Derives expr)
    (h : readItem L expr c = .ok (item, c')) : c'.rest.length < c.rest.length := by
  obtain ⟨ts, tree, -, layout⟩ := readItem_sound hexpr h
  have hlen := layout.length_le
  have hpos := List.length_pos_iff.2 tree.ne_nil
  omega

theorem length_lt_of_scan {op : Operator} {rest : List Char} (h : Operator.scan? c.rest = some (op, rest)) :
    rest.length < c.rest.length := by
  have hlen := (Operator.scan?_layout h).length_le
  simp only [List.length_singleton] at hlen
  omega

/-- A group asks its reader of expressions about the text behind the parenthesis only. -/
theorem readGroup_congr {f g : Cursor → Except Stop (Expr × Cursor)} (h : ∀ c', c'.rest = c.rest → f c' = g c') :
    readGroup L f c = readGroup L g c := by
  unfold readGroup
  cases hc : c.enter L with
  | error e => rfl
  | ok c' =>
    obtain ⟨-, rfl⟩ := enter_ok hc
    show (f _ >>= _) = (g _ >>= _)
    rw [h { c with depth := c.depth + 1 } rfl]

/-- An item asks its reader of expressions about shorter texts only. -/
theorem readItem_congr {f g : Cursor → Except Stop (Expr × Cursor)}
    (h : ∀ c', c'.rest.length < c.rest.length → f c' = g c') : readItem L f c = readItem L g c := by
  unfold readItem
  split
  · rename_i rest hscan
    obtain ⟨ts, tokens, layout⟩ := Lexeme.scan_layout hscan nofun nofun
    cases tokens
    have hlen := layout.length_le
    refine readGroup_congr fun c' hc' => h c' ?_
    rw [hc']
    simp only [List.length_singleton] at hlen
    show rest.length < c.rest.length
    omega
  all_goals rfl

/-! ## Enough fuel -/

/-- More fuel than characters is enough, and it does not matter how much more. -/
theorem readExpr_fuel : ∀ {n m : Nat} {before : Option (Expr × Operator)} {c : Cursor}, c.rest.length < n →
    c.rest.length < m → readExpr L n before c = readExpr L m before c
  | 0, _, _, _, hn, _ => by omega
  | _ + 1, 0, _, _, _, hm => by omega
  | n + 1, m + 1, before, c, hn, hm => by
    have hitem : readItem L (readExpr L n none) c = readItem L (readExpr L m none) c :=
      readItem_congr fun c' hc' => readExpr_fuel (by omega) (by omega)
    unfold readExpr
    rw [hitem]
    cases hc : readItem L (readExpr L m none) c with
    | error e => rfl
    | ok r =>
      obtain ⟨item, c₁⟩ := r
      have hlen := length_lt_of_readItem (derives_readExpr m) hc
      simp only [bind, Except.bind]
      split
      · rename_i op rest hop
        have hlen' := length_lt_of_scan hop
        exact readExpr_fuel (show rest.length < n by omega) (show rest.length < m by omega)
      · rfl

variable (L)

/-- The rest of an expression from its next item on, behind the row read so far and the operator after it. -/
def readRow (before : Option (Expr × Operator)) (c : Cursor) : Except Stop (Expr × Cursor) :=
  readExpr L (c.rest.length + 1) before c

/-- The rest of an expression behind the row read so far: an operator and more, or the end of the row. -/
def resume (row : Expr) (c : Cursor) : Except Stop (Expr × Cursor) :=
  match Operator.scan? c.rest with
  | some (op, rest) => readRow L (some (row, op)) (c.moveTo rest)
  | none => .ok (row, c)

variable {L}

/-- A row is an item and what follows it. -/
theorem readRow_eq (before : Option (Expr × Operator)) (c : Cursor) :
    readRow L before c = readItem L (readRow L none) c >>= fun r => resume L (Expr.join before r.1) r.2 := by
  have hitem : readItem L (readExpr L c.rest.length none) c = readItem L (readRow L none) c :=
    readItem_congr fun c' hc' => readExpr_fuel hc' (Nat.lt_succ_self _)
  rw [readRow, readExpr, hitem]
  cases hc : readItem L (readRow L none) c with
  | error e => rfl
  | ok r =>
    obtain ⟨item, c₁⟩ := r
    have hlen := length_lt_of_readItem (derives_readExpr _) (hitem.trans hc)
    cases hop : Operator.scan? c₁.rest with
    | none => simp only [bind, Except.bind, resume, hop]; rfl
    | some p =>
      obtain ⟨op, rest⟩ := p
      have hlen' := length_lt_of_scan hop
      simp only [bind, Except.bind, resume, hop]
      exact readExpr_fuel (show rest.length < c.rest.length by omega) (Nat.lt_succ_self _)

theorem resume_of_scan {op : Operator} {rest : List Char} (h : Operator.scan? c.rest = some (op, rest)) (row : Expr) :
    resume L row c = readRow L (some (row, op)) (c.moveTo rest) := by
  simp only [resume, h]

theorem resume_of_none (h : Operator.scan? c.rest = none) (row : Expr) : resume L row c = .ok (row, c) := by
  simp only [resume, h]

end DiceNotation.Cursor

namespace DiceNotation

/-- A command is a row and a checker. -/
theorem readChars_eq (L : Limits) (cs : List Char) :
    readChars L cs = Cursor.readRow L none ⟨cs, 0, 0, 0⟩ >>= fun r =>
      r.2.readChecker L >>= fun k => .ok ⟨r.1, k.1, k.2.items, k.2.rolls⟩ := rfl

end DiceNotation
