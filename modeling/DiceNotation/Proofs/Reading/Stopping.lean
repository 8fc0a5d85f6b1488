import DiceNotation.Proofs.Reading.Acceptance
import DiceNotation.Proofs.Reading.Places

/-!
# Reading stops at places

Unless it is for want of something else, reading stops only where something that stands at a place stops it.

* `Reaches.operator`, `Reaches.opening`, `reaches_target`: how reading gets from place to place.
* `Explained`: if a computation stops, it is for want of something else or at a place in the text.
* `readItem_explained`, `readRow_explained`, `readTarget_explained`: the step lemmas of the grammar.
* `readChars_eq_error_iff`, `read_eq_error_iff`: reading stops just where a place stops it.
-/

namespace DiceNotation

/-! ## From place to place -/

section Reaches

variable {L : Limits} {cs mid rest : List Char} {us ts : List Token} {vs : List Visit} {depth : Nat}

theorem reaches_start (L : Limits) (cs : List Char) : Reaches L cs [] [] (.item 0) cs :=
  ⟨.start, shortNumerals_nil, rfl, .nil cs⟩

/-- Behind an item and an operator, reading gets to the next item. -/
theorem Reaches.operator {item : Item} {op : Operator} {stop : List Char} (h : Reaches L cs us vs (.item depth) mid)
    (first : ItemOf ts item) (short : ShortNumerals ts)
    (fits : firstExcess L (Tally.afterAll {} vs) (item.visits depth) = none) (layout : Layout ts mid stop)
    (hop : Layout [.operator op] stop rest) :
    Reaches L cs (us ++ (ts ++ [.operator op])) (vs ++ item.visits depth) (.item depth) rest where
  front := .operator h.front first op
  short := shortNumerals_append.2 ⟨h.short, shortNumerals_append.2 ⟨short, shortNumerals_other nofun⟩⟩
  fits := Cursor.firstExcess_append_eq_none.2 ⟨h.fits, fits⟩
  layout := h.layout.append (layout.append hop)

/-- Behind a parenthesis, reading gets to the first item of a group. -/
theorem Reaches.opening (h : Reaches L cs us vs (.item depth) mid)
    (fits : firstExcess L (Tally.afterAll {} vs) [.opening (depth + 1)] = none) (layout : Layout [.opening] mid rest) :
    Reaches L cs (us ++ [.opening]) (vs ++ [.opening (depth + 1)]) (.item (depth + 1)) rest where
  front := .opening h.front
  short := shortNumerals_append.2 ⟨h.short, shortNumerals_other nofun⟩
  fits := Cursor.firstExcess_append_eq_none.2 ⟨h.fits, fits⟩
  layout := h.layout.append layout

/-- Behind a row and a comparison, reading gets to the target. -/
theorem reaches_target {e : Expr} {compare : Compare} (row : ExprOf ts e) (short : ShortNumerals ts)
    (fits : firstExcess L {} (e.visits 0) = none) (layout : Layout ts cs mid)
    (hcompare : Layout [.compare compare] mid rest) :
    Reaches L cs (ts ++ [.compare compare]) (e.visits 0) .target rest where
  front := .target row compare
  short := shortNumerals_append.2 ⟨short, shortNumerals_other nofun⟩
  fits := fits
  layout := layout.append hcompare

end Reaches

/-- If a computation stops, it is for want of something else or at a place in the text. -/
def Explained (L : Limits) (cs : List Char) {α : Type} (x : Except Stop α) : Prop :=
  ∀ stop, x = .error stop → (∃ expected rest, stop = .unexpected expected rest) ∨ StoppedBy L cs stop

section Explained

variable {L : Limits} {cs : List Char} {α β : Type}

theorem explained_ok (a : α) : Explained L cs (.ok a) := nofun

theorem explained_unexpected (expected : Expected) (rest : List Char) :
    Explained L cs (.error (.unexpected expected rest) : Except Stop α) := by
  rintro _ ⟨⟩
  exact .inl ⟨expected, rest, rfl⟩

theorem Explained.bind {x : Except Stop α} {f : α → Except Stop β} (hx : Explained L cs x)
    (hf : ∀ a, x = .ok a → Explained L cs (f a)) : Explained L cs (x >>= f) := by
  cases x with
  | error stop =>
    rintro _ ⟨⟩
    exact hx stop rfl
  | ok a => exact hf a rfl

/-- A head at a place that reading gets to, and what is done if it does not stop reading. -/
theorem Reaches.explained {us ts : List Token} {vs : List Visit} {place : Place} {mid rest : List Char} {v : Visit}
    (h : Reaches L cs us vs place mid) (head : Head place ts rest v) (layout : Layout ts mid rest) (a : α) :
    Explained L cs (match stopAt L (Tally.afterAll {} vs) ts v with
      | some stop => .error stop
      | none => .ok a) := by
  cases hstop : stopAt L (Tally.afterAll {} vs) ts v with
  | some stop =>
    rintro _ ⟨⟩
    exact .inr ⟨us, vs, place, mid, ts, rest, v, h, head, layout, hstop⟩
  | none => exact explained_ok a

end Explained

namespace Cursor

variable {L : Limits} {cs mid : List Char} {us : List Token} {vs : List Visit} {depth : Nat}

/-- An item that is read at a place counts what a walk over it meets. -/
theorem eq_behind_of_readItem {item : Item} {c : Cursor} {ts : List Token} (tree : ItemOf ts item)
    (short : ShortNumerals ts) (layout : Layout ts mid c.rest) (stops : Stops c.rest)
    (h : readItem L (readRow L none) (behind vs depth mid) = .ok (item, c)) :
    firstExcess L (Tally.afterAll {} vs) (item.visits depth) = none ∧
      c = behind (vs ++ item.visits depth) depth c.rest := by
  have hread : readItem L (readRow L none) (behind vs depth mid) =
      (behind vs depth c.rest).pass L (item.visits depth) >>= fun c => .ok (item, c) :=
    readItem_of_layout tree short layout stops
  obtain ⟨fits, hitem⟩ := pass_behind_eq_ok (hread.symm.trans h)
  exact ⟨fits, (Prod.mk.inj (Except.ok.inj hitem)).2.symm⟩

/-- An item is stopped by its head, or in the group that it is. -/
theorem readItem_explained (h : Reaches L cs us vs (.item depth) mid) {expr : Cursor → Except Stop (Expr × Cursor)}
    (hexpr : ∀ {us vs depth rest}, Reaches L cs us vs (.item depth) rest → rest.length < mid.length →
      Explained L cs (expr (behind vs depth rest))) :
    Explained L cs (readItem L expr (behind vs depth mid)) := by
  have hmid : (behind vs depth mid).rest = mid := rfl
  unfold readItem
  rw [hmid]
  split
  · rename_i rest hscan
    obtain ⟨_, tokens, layout⟩ := Lexeme.scan_layout hscan nofun nofun
    cases tokens
    have hlen := layout.length_le
    rw [List.length_singleton] at hlen
    show Explained L cs (readGroup L expr (behind vs depth rest))
    unfold readGroup
    refine Explained.bind ?_ fun c henter => ?_
    · rw [enter_eq_stopAt]
      exact h.explained (.opening depth rest) layout _
    · have fits : firstExcess L (Tally.afterAll {} vs) [.opening (depth + 1)] = none :=
        (firstExcess_singleton _ _ _).trans (Visit.excess_opening_eq_none (enter_ok henter).1)
      rw [enter_behind fits] at henter
      cases henter
      refine (hexpr (h.opening fits layout) (by omega)).bind fun r hr => ?_
      dsimp only
      split
      · exact explained_ok _
      · exact explained_unexpected _ _
  · rename_i count sides a rest hscan
    obtain ⟨tail, head, layout⟩ := Lexeme.head_of_dice hscan depth
    rw [readDice_eq_stopAt]
    exact h.explained head layout _
  · exact explained_unexpected _ _
  · rename_i n rest hscan
    obtain ⟨head, layout⟩ := Lexeme.head_of_number hscan depth
    rw [readNumber_eq_stopAt]
    exact h.explained head layout _
  · exact explained_unexpected _ _

/-- A row is stopped by one of its items. -/
theorem readRow_explained : ∀ (n : Nat) {us : List Token} {vs : List Visit} {depth : Nat} {mid : List Char}
    (before : Option (Expr × Operator)), Reaches L cs us vs (.item depth) mid → mid.length < n →
      Explained L cs (readRow L before (behind vs depth mid))
  | 0, _, _, _, _, _, _, hn => absurd hn (Nat.not_lt_zero _)
  | n + 1, us, vs, depth, mid, before, h, hn => by
    have derives : Derives (readRow L none) := fun c e c' => derives_readExpr _ c e c'
    rw [readRow_eq]
    refine (readItem_explained h fun h' hlt => readRow_explained n none h' (by omega)).bind fun r hr => ?_
    obtain ⟨item, c⟩ := r
    cases hop : Operator.scan? c.rest with
    | none =>
      rw [resume_of_none hop]
      exact explained_ok _
    | some next =>
      obtain ⟨op, rest⟩ := next
      obtain ⟨ts, tree, short, layout⟩ := readItem_sound derives hr
      have behindItem := Operator.scan?_layout hop
      obtain ⟨fits, hc⟩ := eq_behind_of_readItem tree short layout (behindItem.stops rfl) hr
      have hlen := length_lt_of_readItem derives hr
      have hlen' := length_lt_of_scan hop
      rw [resume_of_scan hop, hc]
      refine readRow_explained n _ (h.operator tree short fits layout behindItem) ?_
      have hmid : (behind vs depth mid).rest = mid := rfl
      rw [hmid] at hlen
      omega

/-- A row that is read in front of a comparison counts what a walk over it meets. -/
theorem eq_behind_of_readRow {e : Expr} {c : Cursor} {ts : List Token} {compare : Compare} {rest : List Char}
    (row : ExprOf ts e) (short : ShortNumerals ts) (layout : Layout ts cs c.rest)
    (hcompare : Layout [.compare compare] c.rest rest) (h : readRow L none ⟨cs, 0, 0, 0⟩ = .ok (e, c)) :
    firstExcess L {} (e.visits 0) = none ∧ c = behind (e.visits 0) 0 c.rest := by
  have hread : readRow L none ⟨cs, 0, 0, 0⟩ = (behind [] 0 c.rest).pass L (e.visits 0) >>= resume L e :=
    readRow_of_layout row short layout (hcompare.stops rfl)
  obtain ⟨fits, hrow⟩ := pass_behind_eq_ok (hread.symm.trans h)
  have hresume := resume_of_none (L := L) (c := behind (e.visits 0) 0 c.rest) (scan?_of_compare hcompare) e
  exact ⟨fits, (Prod.mk.inj (Except.ok.inj (hrow.symm.trans hresume))).2⟩

/-- A target stops reading as what stands at its place, or is missing. -/
theorem readTarget_explained {us : List Token} {vs : List Visit} (h : Reaches L cs us vs .target mid)
    (compare : Compare) : Explained L cs (readTarget L compare (behind vs 0 mid)) := by
  have hmid : (behind vs 0 mid).rest = mid := rfl
  cases hn : Numeral.scan? (Text.skipGap mid) with
  | none =>
    simp only [readTarget, hmid, hn]
    exact explained_unexpected _ _
  | some next =>
    obtain ⟨n, rest⟩ := next
    have layout := Numeral.scan?_layout hn
    have ends := Numeral.ends_of_scan? hn
    rw [readTarget_eq_stopAt (c := behind vs 0 mid) layout ends]
    exact h.explained (.target n ends) layout _

end Cursor

theorem readChars_explained (L : Limits) (cs : List Char) : Explained L cs (readChars L cs) := by
  rw [readChars_eq]
  refine (Cursor.readRow_explained _ none (reaches_start L cs) (Nat.lt_succ_self _)).bind fun r hr => ?_
  obtain ⟨e, c⟩ := r
  obtain ⟨ts, row, short, layout⟩ := Cursor.derives_readExpr _ _ _ _ hr
  refine Explained.bind ?_ fun k _ => explained_ok _
  obtain ⟨g, hg, hrest⟩ := exists_gap c.rest
  unfold Cursor.readChecker
  split
  · exact explained_ok _
  · split
    · exact explained_unexpected _ _
    · rename_i compare tail hcompare
      obtain ⟨w, spelled, hw⟩ := Compare.scan?_spelled hcompare
      have first : Layout [.compare compare] c.rest tail := by
        rw [hrest, hw]
        exact .one hg spelled tail
      obtain ⟨fits, hc⟩ := Cursor.eq_behind_of_readRow row short layout first hr
      rw [hc]
      refine (Cursor.readTarget_explained (reaches_target row short fits layout first) compare).bind fun k _ => ?_
      dsimp only
      split
      · exact explained_ok _
      · exact explained_unexpected _ _

/-- **Reading stops just where something that stands at a place stops it**, unless it is for want of something else. -/
theorem readChars_eq_error_iff {L : Limits} {cs : List Char} {stop : Stop}
    (h : ∀ expected rest, stop ≠ .unexpected expected rest) : readChars L cs = .error stop ↔ StoppedBy L cs stop := by
  constructor
  · intro hstop
    rcases readChars_explained L cs stop hstop with ⟨expected, rest, hu⟩ | hplace
    · exact absurd hu (h expected rest)
    · exact hplace
  · exact readChars_of_stoppedBy

theorem Head.ne_nil {place : Place} {ts : List Token} {rest : List Char} {v : Visit} (h : Head place ts rest v) :
    ts ≠ [] := by
  cases h <;> exact List.cons_ne_nil _ _

/-- A text in which something stops reading is not blank. -/
theorem StoppedBy.not_blank {L : Limits} {cs : List Char} {stop : Stop} (h : StoppedBy L cs stop) :
    cs.all Text.isBlank = false := by
  obtain ⟨us, vs, place, mid, ts, rest, v, reaches, head, layout, -⟩ := h
  obtain ⟨t, tokens, htokens⟩ := List.exists_cons_of_ne_nil (List.append_ne_nil_of_right_ne_nil us head.ne_nil)
  have whole := reaches.layout.append layout
  rw [htokens] at whole
  exact whole.not_blank

/-- A whole text is refused just where something stops reading, or for a total of rolled dice that cannot be noted. -/
theorem read_eq_error_iff {L : Limits} {text : String} {stop : Stop}
    (h : ∀ expected rest, stop ≠ .unexpected expected rest) :
    read L text = .error (stop.inText text) ↔ StoppedBy L text.toList stop ∨
      stop = .digits .write ∧ ∃ r, readChars L text.toList = .ok r ∧ ¬Writable r.rolls := by
  constructor
  · intro hread
    cases hb : text.toList.all Text.isBlank with
    | true =>
      rw [read, if_pos hb] at hread
      cases stop <;> cases hread
    | false =>
      rw [read_of_not_blank hb] at hread
      cases hchars : readChars L text.toList with
      | ok r =>
        rw [hchars] at hread
        obtain ⟨long, hstop⟩ := Reading.noted_eq_error.1 hread
        refine .inr ⟨?_, r, rfl, long⟩
        cases stop <;> cases hstop
        rfl
      | error stop' =>
        rw [hchars] at hread
        rw [← readChars_eq_error_iff h, hchars]
        cases stop with
        | unexpected expected rest => exact absurd rfl (h expected rest)
        | overLimit e => cases stop' <;> cases hread; exact .inl rfl
        | digits e => cases stop' <;> cases hread; exact .inl rfl
  · rintro (hstop | ⟨rfl, r, hchars, long⟩)
    · rw [read_of_not_blank hstop.not_blank, readChars_of_stoppedBy hstop]
    · obtain ⟨ts, sentence, -⟩ := readChars_sound hchars
      rw [read_of_not_blank sentence.not_blank, hchars]
      exact Reading.noted_eq_error.2 ⟨long, rfl⟩

end DiceNotation
