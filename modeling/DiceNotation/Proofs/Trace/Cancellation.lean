import DiceNotation.Proofs.Trace.Reading

/-!
# A trace tells what was rolled

Two outcomes of one expression that have the same trace are the same outcome. For a proof from item to item this is said of
traces in front of other texts: if two such texts are equal, then the outcomes are, and so are the rests behind their traces
(`..._append_inj`). The rests are arbitrary, since a dice term and a group close their parentheses and a number item is the
same in both outcomes. The points of a dice term end where their separator or the parenthesis starts, neither with a digit.

* `decimal_append_inj`, `points_append_inj`: a written number, and the points between two parentheses.
* `ExprRoll.chars_append_inj`: the trace of a row.
* `ExprRoll.shown_eq_ok`, `shown_of_yields`: a trace is shown just if its numbers can be written.
* `trace_determines_outcome`: rolls of one command with the same trace have the same outcome.
-/

namespace DiceNotation

variable {rest rest' : List Char}

/-! ## Numbers and points -/

/-- A written number can be told from what follows it, unless that starts with a digit. -/
theorem decimal_append_inj {n m : Int} (hr : ∀ c ∈ rest.head?, c.isDigit = false)
    (hr' : ∀ c ∈ rest'.head?, c.isDigit = false) (h : decimal n ++ rest = decimal m ++ rest') :
    n = m ∧ rest = rest' := by
  have hn := Numeral.scan?_of_spelled (Numeral.spelled_decimal n) hr
  have hm := Numeral.scan?_of_spelled (Numeral.spelled_decimal m) hr'
  rw [h, hm] at hn
  obtain ⟨hnumeral, hrest⟩ := Prod.mk.inj (Option.some.inj hn)
  have hvalue := congrArg Numeral.value hnumeral
  rw [Numeral.value_ofInt, Numeral.value_ofInt] at hvalue
  exact ⟨hvalue.symm, hrest.symm⟩

/-- What separates the points of a dice term does not start with a digit. -/
theorem Aggregate.frame_separator (a : Aggregate) : ∃ c cs, a.frame.2 = c :: cs ∧ c.isDigit = false := by
  cases a <;> exact ⟨_, _, rfl, rfl⟩

/-- As many points, with the same separator between them and a parenthesis behind the last one. -/
theorem points_append_inj (a : Aggregate) : ∀ {ps qs : List Int}, ps.length = qs.length →
    a.frame.2.intercalate (ps.map decimal) ++ ')' :: rest = a.frame.2.intercalate (qs.map decimal) ++ ')' :: rest' →
      ps = qs ∧ rest = rest'
  | [], [], _, h => ⟨rfl, (List.cons.inj h).2⟩
  | [p], [q], _, h => by
    have hclose : ∀ cs : List Char, ∀ c ∈ (')' :: cs).head?, c.isDigit = false := by
      rintro cs c ⟨⟩
      rfl
    simp only [List.map_cons, List.map_nil, List.intercalate_singleton] at h
    obtain ⟨rfl, hrest⟩ := decimal_append_inj (hclose rest) (hclose rest') h
    exact ⟨rfl, (List.cons.inj hrest).2⟩
  | p :: p' :: ps, q :: q' :: qs, hlen, h => by
    obtain ⟨c, cs, hseparator, hc⟩ := a.frame_separator
    have hsplit : ∀ us : List Char, ∀ d ∈ (a.frame.2 ++ us).head?, d.isDigit = false := by
      intro us d hd
      rw [hseparator] at hd
      cases hd
      exact hc
    simp only [List.map_cons, List.intercalate_cons_cons, List.append_assoc] at h
    obtain ⟨rfl, hpoints⟩ := decimal_append_inj (hsplit _) (hsplit _) h
    have hlen' : (p' :: ps).length = (q' :: qs).length := Nat.succ.inj hlen
    obtain ⟨htail, hrest⟩ := points_append_inj a hlen' (List.append_cancel_left hpoints)
    exact ⟨congrArg (p :: ·) htail, hrest⟩

/-- The outcomes of one dice term, from the points on. -/
theorem DiceRoll.chars_append_inj {d : Dice} {ps qs : List Int} {v w : Int} (hlen : ps.length = qs.length)
    (h : DiceRoll.chars ⟨d, ps, v⟩ ++ rest = DiceRoll.chars ⟨d, qs, w⟩ ++ rest') : ps = qs ∧ rest = rest' := by
  simp only [DiceRoll.chars, List.append_assoc, List.cons_append, List.nil_append] at h
  have hpoints := (List.cons.inj (List.append_cancel_left h)).2
  exact points_append_inj d.aggregate hlen hpoints

/-! ## Items and rows -/

mutual

theorem ItemRoll.chars_append_inj : ∀ {item : Item} {r r' : ItemRoll}, item.Yields r → item.Yields r' →
    ∀ {rest rest' : List Char}, r.chars ++ rest = r'.chars ++ rest' → r = r' ∧ rest = rest'
  | _, _, _, .number n, .number _, _, _, h => ⟨rfl, List.append_cancel_left h⟩
  | _, _, _, .dice _ length, .dice _ length', _, _, h => by
    obtain ⟨rfl, hrest⟩ := DiceRoll.chars_append_inj (length.trans length'.symm) h
    exact ⟨rfl, hrest⟩
  | _, _, _, .group inner, .group inner', rest, rest', h => by
    simp only [ItemRoll.chars, List.cons_append, List.append_assoc, List.nil_append] at h
    obtain ⟨rfl, hrest⟩ := ExprRoll.chars_append_inj inner inner' (List.cons.inj h).2
    exact ⟨rfl, (List.cons.inj hrest).2⟩

/-- The trace of an outcome tells the outcome, and where it ends in a longer text. -/
theorem ExprRoll.chars_append_inj : ∀ {e : Expr} {o o' : ExprRoll}, e.Yields o → e.Yields o' →
    ∀ {rest rest' : List Char}, o.chars ++ rest = o'.chars ++ rest' → o = o' ∧ rest = rest'
  | _, _, _, .single only, .single only', _, _, h => by
    obtain ⟨rfl, hrest⟩ := ItemRoll.chars_append_inj only only' h
    exact ⟨rfl, hrest⟩
  | _, _, _, .snoc op row last, .snoc _ row' last', rest, rest', h => by
    simp only [ExprRoll.chars, List.append_assoc, List.cons_append] at h
    obtain ⟨rfl, hlast⟩ := ExprRoll.chars_append_inj row row' h
    -- between the row so far and the last item stand the same three characters
    have hitem := List.append_cancel_left (show [' ', op.symbol, ' '] ++ _ = [' ', op.symbol, ' '] ++ _ from hlast)
    obtain ⟨rfl, hrest⟩ := ItemRoll.chars_append_inj last last' hitem
    exact ⟨rfl, hrest⟩

end

/-- Outcomes of one expression with the same trace are the same. -/
theorem ExprRoll.eq_of_trace {e : Expr} {o o' : ExprRoll} (h : e.Yields o) (h' : e.Yields o')
    (heq : o.chars = o'.chars) : o = o' := by
  have happend : o.chars ++ [] = o'.chars ++ [] := congrArg (· ++ []) heq
  exact (ExprRoll.chars_append_inj h h' happend).1

/-! ## Traces that are shown -/

section Shown

theorem unwritten?_eq_none {ns : List Int} : unwritten? ns = none ↔ ∀ n ∈ ns, Writable n := by
  unfold unwritten?
  split
  · rename_i h
    exact iff_of_true rfl h
  · rename_i h
    exact iff_of_false nofun h

mutual

theorem ItemRoll.fault?_eq_none : ∀ {item : Item} {r : ItemRoll}, item.Yields r →
    (r.fault? = none ↔ ∀ n ∈ r.written, Writable n)
  | _, _, .number _ => unwritten?_eq_none
  | _, _, .dice _ _ => unwritten?_eq_none
  | _, _, .group inner => ExprRoll.fault?_eq_none inner

/-- Nothing but a number that cannot be written keeps the outcome of a roll from being shown. -/
theorem ExprRoll.fault?_eq_none : ∀ {e : Expr} {o : ExprRoll}, e.Yields o →
    (o.fault? = none ↔ ∀ n ∈ o.written, Writable n)
  | _, _, .single only => ItemRoll.fault?_eq_none only
  | _, _, .snoc _ row last => by
    rw [ExprRoll.fault?, Option.or_eq_none_iff, ExprRoll.fault?_eq_none row, ItemRoll.fault?_eq_none last, ExprRoll.written,
      List.forall_mem_append]

end

variable {e : Expr} {o : ExprRoll} {text : String}

theorem ExprRoll.shown_eq_ok (h : e.Yields o) :
    o.shown = .ok text ↔ (∀ n ∈ o.written, Writable n) ∧ String.ofList o.chars = text := by
  rw [← fault?_eq_none h, shown]
  cases o.fault? with
  | some fault => exact iff_of_false nofun fun h => nomatch h.1
  | none => simp

/-- The numbers behind the row of a trace can be written if the value and the target can. -/
theorem unwritten?_concluded {checker : Option Checker} {keepDetail : Bool} {language : Language}
    (value : Writable o.value) :
    unwritten? ((o.result checker keepDetail language).concluded o) = none ↔ ∀ c ∈ checker, Writable c.target := by
  rw [unwritten?_eq_none, RollResult.concluded, List.forall_mem_append]
  have hvalue : ∀ n ∈ if o.isLoneNumber then [] else [o.value], Writable n := by
    split
    · nofun
    · simpa using value
  refine (and_iff_right hvalue).trans ?_
  cases checker with
  | none => exact iff_of_true nofun nofun
  | some c =>
    show (∀ n ∈ [c.target], Writable n) ↔ _
    simp

/-- The trace of a roll is shown just if its numbers can be written. -/
theorem shown_of_yields (h : e.Yields o) (value : Writable o.value) (checker : Option Checker) (language : Language) :
    let r := o.result checker true language
    r.shown = .ok text ↔ ((∀ n ∈ o.written, Writable n) ∧ ∀ c ∈ checker, Writable c.target) ∧
      String.ofList (o.chars ++ r.conclusion o) = text := by
  intro r
  have hconcluded : unwritten? (r.concluded o) = none ↔ _ := unwritten?_concluded value
  have htrace : r.trace = _ := trace_result_of_yields h checker
  have hfault : r.fault? = o.fault?.or (unwritten? (r.concluded o)) := rfl
  rw [← ExprRoll.fault?_eq_none h, ← hconcluded, ← Option.or_eq_none_iff, RollResult.shown, htrace, hfault]
  cases o.fault?.or (unwritten? (r.concluded o)) with
  | some fault => exact iff_of_false nofun fun h => nomatch h.1
  | none => exact ⟨fun h => ⟨rfl, Except.ok.inj h⟩, fun h => congrArg Except.ok h.2⟩

end Shown

/-! ## Commands -/

/-- **Rolls of one command with the same trace have the same outcome.** Take two rolls of one expression, with one checker
and one language, that keep their outcomes, from whatever sources. The trace of an outcome is shown just if its numbers can be
written, and that of a result just if the target can be written as well. If the same trace of an outcome is shown for both
rolls, the outcomes are the same; and if the same trace of a result is, with value and verdict, then every point, every total,
the value and the verdict of one roll are those of the other. -/
theorem trace_determines_outcome {σ τ : Type} [Source σ] [Source τ] {e : Expr} {checker : Option Checker}
    {language : Language} {source after : σ} {source' after' : τ} {r r' : RollResult}
    (rolled : rollCommand e checker true language source = (.ok r, after))
    (rolled' : rollCommand e checker true language source' = (.ok r', after')) :
    ∃ o o', r.detail = some o ∧ r'.detail = some o' ∧
      ((∃ row, o.shown = .ok row) ↔ ∀ n ∈ o.written, Writable n) ∧
      ((∃ row, o'.shown = .ok row) ↔ ∀ n ∈ o'.written, Writable n) ∧
      (∀ row, o.shown = .ok row → o'.shown = .ok row → o = o' ∧ r = r') ∧
      ((∃ text, r.shown = .ok text) ↔ (∀ n ∈ o.written, Writable n) ∧ ∀ c ∈ checker, Writable c.target) ∧
      ((∃ text, r'.shown = .ok text) ↔ (∀ n ∈ o'.written, Writable n) ∧ ∀ c ∈ checker, Writable c.target) ∧
      ∀ text, r.shown = .ok text → r'.shown = .ok text → o = o' ∧ r = r' := by
  obtain ⟨o, yields, value, rfl⟩ := exists_outcome_of_rollCommand rolled
  obtain ⟨o', yields', value', rfl⟩ := exists_outcome_of_rollCommand rolled'
  refine ⟨o, o', rfl, rfl, ?_, ?_, ?_, ?_, ?_, ?_⟩
  · simp [ExprRoll.shown_eq_ok yields]
  · simp [ExprRoll.shown_eq_ok yields']
  · intro row hrow hrow'
    have hchars := ((ExprRoll.shown_eq_ok yields).1 hrow).2.trans ((ExprRoll.shown_eq_ok yields').1 hrow').2.symm
    obtain rfl := ExprRoll.eq_of_trace yields yields' (String.ofList_injective hchars)
    exact ⟨rfl, rfl⟩
  · simp [shown_of_yields yields value checker]
  · simp [shown_of_yields yields' value' checker]
  · intro text htext htext'
    have hchars := ((shown_of_yields yields value checker language).1 htext).2.trans
      ((shown_of_yields yields' value' checker language).1 htext').2.symm
    obtain ⟨rfl, -⟩ := ExprRoll.chars_append_inj yields yields' (String.ofList_injective hchars)
    exact ⟨rfl, rfl⟩

/-- Two rolls with the same value and the same verdict, and other points: both traces are shown, and they are not the same. -/
theorem trace_determines_outcome_otherPoints :
    let e : Expr := .snoc (.single (.dice ⟨2, 6, .sum⟩)) .sub (.group (.single (.dice ⟨2, 8, .max⟩)))
    let roll := fun source : List Int => rollCommand e (some ⟨.gt, 0⟩) true .zh source
    ∃ r r' text, roll [-1, 5, 2, 3] = (.ok r, []) ∧ roll [5, -1, 2, 3, 4] = (.ok r', [4]) ∧ r.value = r'.value ∧
      r.success = r'.success ∧ r.shown = .ok text ∧ r'.shown ≠ .ok text := by
  intro e roll
  have rolled : roll [-1, 5, 2, 3] = (.ok _, []) := rfl
  have rolled' : roll [5, -1, 2, 3, 4] = (.ok _, [4]) := rfl
  obtain ⟨o, o', kept, kept', -, -, -, hshown, -, hsame⟩ := trace_determines_outcome rolled rolled'
  cases kept
  cases kept'
  obtain ⟨text, htext⟩ := hshown.2 ⟨by decide, by decide⟩
  refine ⟨_, _, text, rolled, rolled', rfl, rfl, htext, fun htext' => ?_⟩
  exact absurd (hsame text htext htext').1 (by decide)

end DiceNotation
