import DiceNotation.Console.Screen
import DiceNotation.Proofs.Grammar.Tokens

/-!
# Lines on the screen

A text that starts with tabs and characters of one column each is printed, behind these, as they are printed alone. They take
as many columns as they are so long as each of the tabs stands just before a tab stop.

* `splitAt_append`, `splitAt_append_of_not_mem`: the parts of a text between separators.
* `IsNarrow`, `IsPlain`: visible ASCII characters and spaces, which take one column each, and texts of these and of tabs.
* `expandFrom_tab`, `expandFrom_append`: a line with its tabs filled up, from the left.
* `AtStops`, `length_expandFrom`: how far tabs move what stands behind them.
* `print_append`: a text is printed behind its beginning. `print_caret`: a caret is printed below a text.
-/

namespace DiceNotation.Screen

/-! ## Parts -/

section Parts

variable {s : Char} {xs ys : List Char}

theorem splitAt_ne_nil (s : Char) (xs : List Char) : splitAt s xs ≠ [] := by
  cases xs with
  | nil => nofun
  | cons c xs =>
    unfold splitAt
    split
    · nofun
    · split <;> nofun

/-- A text without separators is put in front of the first part of what follows. -/
theorem splitAt_append_of_not_mem (h : s ∉ xs) {part : List Char} {parts : List (List Char)}
    (hys : splitAt s ys = part :: parts) : splitAt s (xs ++ ys) = (xs ++ part) :: parts := by
  induction xs with
  | nil => exact hys
  | cons c xs ih =>
    rw [List.mem_cons, not_or] at h
    rw [List.cons_append, splitAt, if_neg (Ne.symm h.1), ih h.2]
    rfl

theorem splitAt_of_not_mem (h : s ∉ xs) : splitAt s xs = [xs] := by
  have hparts := splitAt_append_of_not_mem h (show splitAt s [] = [[]] from rfl)
  simpa using hparts

/-- The parts of two texts with a separator between them. -/
theorem splitAt_append (s : Char) (xs ys : List Char) : splitAt s (xs ++ s :: ys) = splitAt s xs ++ splitAt s ys := by
  induction xs with
  | nil => simp [splitAt]
  | cons c xs ih =>
    by_cases hc : c = s
    · rw [List.cons_append, splitAt, if_pos hc, splitAt, if_pos hc, ih]
      rfl
    · obtain ⟨part, parts, hparts⟩ := List.exists_cons_of_ne_nil (splitAt_ne_nil s xs)
      rw [List.cons_append, splitAt, if_neg hc, splitAt, if_neg hc, ih, hparts]
      rfl

/-- There is one part just if there is no separator. -/
theorem parts_eq_nil_iff {part : List Char} {parts : List (List Char)} (h : splitAt s xs = part :: parts) :
    parts = [] ↔ s ∉ xs := by
  by_cases hs : s ∈ xs
  · obtain ⟨as, bs, rfl, has⟩ := List.eq_append_cons_of_mem hs
    rw [splitAt_append, splitAt_of_not_mem has] at h
    cases h
    simp [splitAt_ne_nil]
  · rw [splitAt_of_not_mem hs] at h
    cases h
    simp [hs]

end Parts

/-! ## Narrow characters -/

/-- A visible ASCII character or a space. -/
def IsNarrow (c : Char) : Prop :=
  0x20 ≤ c.toNat ∧ c.toNat ≤ 0x7e

instance : DecidablePred IsNarrow :=
  fun _ => inferInstanceAs (Decidable (_ ∧ _))

theorem columnsOf_of_narrow {c : Char} (h : IsNarrow c) : Text.columnsOf c = 1 := by
  simp [Text.columnsOf, h.1, h.2]

theorem columnsBehind_of_narrow : ∀ {cs : List Char} (last : Option Char), (∀ c ∈ cs, IsNarrow c) →
    Text.columnsBehind last cs = cs.length
  | [], _, _ => rfl
  | [c], last, h => by
    have hc := h c List.mem_cons_self
    have hselector : c ≠ Text.emojiSelector := by rintro rfl; exact absurd hc (by decide)
    rw [Text.columnsBehind, if_neg hselector, columnsOf_of_narrow hc]
    rfl
  | c :: next :: rest, last, h => by
    have hc := h c List.mem_cons_self
    have hselector : c ≠ Text.emojiSelector := by rintro rfl; exact absurd hc (by decide)
    have hjoiner : c ≠ Text.joiner := by rintro rfl; exact absurd hc (by decide)
    rw [Text.columnsBehind, if_neg hjoiner, if_neg hselector, columnsOf_of_narrow hc,
      columnsBehind_of_narrow _ fun d hd => h d (List.mem_cons_of_mem _ hd), Nat.add_comm]
    rfl

theorem columns_of_narrow {cs : List Char} (h : ∀ c ∈ cs, IsNarrow c) : Text.columns cs = cs.length :=
  columnsBehind_of_narrow none h

/-- A text of narrow characters and tabs. -/
def IsPlain (cs : List Char) : Prop :=
  ∀ c ∈ cs, IsNarrow c ∨ c = '\t'

section Plain

variable {part line : List Char}

theorem IsPlain.narrow (h : IsPlain part) (htab : '\t' ∉ part) : ∀ c ∈ part, IsNarrow c :=
  fun c hc => (h c hc).resolve_right fun heq => htab (heq ▸ hc)

theorem IsPlain.of_tab (h : IsPlain (part ++ '\t' :: line)) : IsPlain part ∧ IsPlain line :=
  ⟨fun c hc => h c (List.mem_append_left _ hc), fun c hc => h c (List.mem_append_right _ (List.mem_cons_of_mem _ hc))⟩

/-- No character of a plain text is left out, and none ends a line. -/
theorem IsPlain.not_isDropped (h : IsPlain line) : ∀ c ∈ line, isDropped c = false ∧ c ≠ '\n' := by
  intro c hc
  rcases h c hc with hc | rfl
  · have hcontrol : ∀ d : Char, d.toNat < 0x20 → c ≠ d := by
      rintro d hd rfl
      exact absurd hc.1 (Nat.not_le.2 hd)
    exact ⟨by simp [isDropped, hcontrol], hcontrol _ (by decide)⟩
  · decide

end Plain

/-! ## Tabs -/

/-- A line with its tabs filled up, from some column on. -/
def expandFrom (column : Nat) (line : List Char) : List Char :=
  joinTabs column (splitAt '\t' line)

/-- How many blanks fill up a tab whose first blank ends in some column. -/
def fill (column : Nat) : Nat :=
  (tabSize - column % tabSize) % tabSize

section Tabs

variable {column : Nat} {part line : List Char}

theorem expandFrom_of_not_mem (h : '\t' ∉ part) (column : Nat) : expandFrom column part = part := by
  rw [expandFrom, splitAt_of_not_mem h, joinTabs]

/-- A part of a line, a tab and more. -/
theorem expandFrom_tab (h : '\t' ∉ part) (column : Nat) (line : List Char) :
    let behind := column + Text.columns (part ++ [' '])
    expandFrom column (part ++ '\t' :: line) =
      part ++ [' '] ++ List.replicate (fill behind) ' ' ++ expandFrom (behind + fill behind) line := by
  intro behind
  rw [expandFrom, splitAt_append, splitAt_of_not_mem h, List.singleton_append, joinTabs]
  · rfl
  · exact splitAt_ne_nil _ _

/-- A line is a part without tabs, or such a part, a tab and a line. -/
theorem tab_induction {motive : List Char → Prop} (plain : ∀ part, '\t' ∉ part → motive part)
    (tab : ∀ part line, '\t' ∉ part → motive line → motive (part ++ '\t' :: line)) (line : List Char) : motive line := by
  have hpart : ∀ part, '\t' ∉ part → motive (part ++ line) := by
    induction line with
    | nil => exact fun part hpart => (List.append_nil part).symm ▸ plain part hpart
    | cons c line ih =>
      intro part hpart
      by_cases hc : c = '\t'
      · subst hc
        exact tab part line hpart (ih [] List.not_mem_nil)
      · have hmore : '\t' ∉ part ++ [c] := by simp [hpart, Ne.symm hc]
        simpa using ih (part ++ [c]) hmore
  exact hpart [] List.not_mem_nil

/-- How the first character of a line is printed. -/
def shownAs (c : Char) : Char :=
  if c = '\t' then ' ' else c

/-- Behind a part without tabs the rest of a line is printed, from its first character on. -/
theorem expandFrom_append_of_not_mem (h : '\t' ∉ part) (column : Nat) (line : List Char) :
    ∃ tail, expandFrom column (part ++ line) = part ++ tail ∧ tail.head? = line.head?.map shownAs := by
  by_cases hline : '\t' ∈ line
  · obtain ⟨first, more, rfl, hfirst⟩ := List.eq_append_cons_of_mem hline
    have hpart : '\t' ∉ part ++ first := fun hmem => (List.mem_append.1 hmem).elim h hfirst
    rw [← List.append_assoc, expandFrom_tab hpart, List.append_assoc, List.append_assoc, List.append_assoc]
    refine ⟨_, rfl, ?_⟩
    cases first with
    | nil => rfl
    | cons c first =>
      have hc : c ≠ '\t' := fun hc => hfirst (hc ▸ List.mem_cons_self)
      simp [shownAs, hc]
  · rw [expandFrom_of_not_mem fun hmem => (List.mem_append.1 hmem).elim h hline]
    refine ⟨line, rfl, ?_⟩
    cases line with
    | nil => rfl
    | cons c line =>
      have hc : c ≠ '\t' := fun hc => hline (hc ▸ List.mem_cons_self)
      simp [shownAs, hc]

/-- Behind any part of a line the rest of it is printed, from its first character on. -/
theorem expandFrom_append (column : Nat) (part line : List Char) :
    ∃ tail, expandFrom column (part ++ line) = expandFrom column part ++ tail ∧ tail.head? = line.head?.map shownAs := by
  induction part using tab_induction generalizing column with
  | plain part hpart =>
    rw [expandFrom_of_not_mem hpart]
    exact expandFrom_append_of_not_mem hpart column line
  | tab part more hpart ih =>
    obtain ⟨tail, htail, hhead⟩ := ih _
    refine ⟨tail, ?_, hhead⟩
    rw [List.append_assoc, List.cons_append, expandFrom_tab hpart, expandFrom_tab hpart, htail, ← List.append_assoc]

/-- Tabs and narrow characters are printed as narrow characters. -/
theorem isNarrow_of_mem_expandFrom (h : IsPlain line) (column : Nat) : ∀ c ∈ expandFrom column line, IsNarrow c := by
  induction line using tab_induction generalizing column with
  | plain part hpart =>
    rw [expandFrom_of_not_mem hpart]
    exact h.narrow hpart
  | tab part more hpart ih =>
    intro c hc
    rw [expandFrom_tab hpart] at hc
    simp only [List.mem_append, List.mem_singleton, List.mem_replicate] at hc
    rcases hc with ((hc | rfl) | ⟨-, rfl⟩) | hc
    · exact h.of_tab.1.narrow hpart c hc
    · decide
    · decide
    · exact ih h.of_tab.2 _ c hc

/-! ## Columns -/

/-- Each tab of a line that starts in some column stands just before a tab stop. -/
def AtStops (column : Nat) (cs : List Char) : Prop :=
  ∀ i, cs[i]? = some '\t' → (column + i) % tabSize = 7

theorem atStops_tab (h : '\t' ∉ part) :
    AtStops column (part ++ '\t' :: line) ↔
      (column + part.length) % tabSize = 7 ∧ AtStops (column + part.length + 1) line := by
  constructor
  · intro hstops
    refine ⟨hstops part.length (by simp), fun i hi => ?_⟩
    have hbehind := hstops (part.length + 1 + i) (by simpa [List.getElem?_append, Nat.add_assoc, Nat.add_comm 1] using hi)
    rwa [← Nat.add_assoc, ← Nat.add_assoc] at hbehind
  · rintro ⟨htab, hline⟩ i hi
    rcases Nat.lt_trichotomy i part.length with hlt | rfl | hgt
    · rw [List.getElem?_append_left hlt] at hi
      exact absurd (List.mem_of_getElem? hi) h
    · exact htab
    · obtain ⟨j, rfl⟩ : ∃ j, i = part.length + 1 + j := ⟨i - (part.length + 1), by omega⟩
      have hbehind := hline j (by simpa [List.getElem?_append, Nat.add_assoc, Nat.add_comm 1] using hi)
      rwa [← Nat.add_assoc, ← Nat.add_assoc]

/-- The tabs at the beginning of a line, by their places in the whole line. -/
theorem atStops_zero_iff (rest : List Char) :
    AtStops 0 part ↔ ∀ i < part.length, (part ++ rest)[i]? = some '\t' → i % tabSize = 7 := by
  refine forall_congr' fun i => ?_
  rw [Nat.zero_add]
  constructor
  · intro h hi htab
    rw [List.getElem?_append_left hi] at htab
    exact h htab
  · intro h htab
    obtain ⟨hi, -⟩ := List.getElem?_eq_some_iff.1 htab
    rw [← List.getElem?_append_left hi] at htab
    exact h hi htab

/-- A tab takes one column more than its filling. -/
theorem fill_eq_zero_iff : fill (column + 1) = 0 ↔ column % tabSize = 7 := by
  unfold fill tabSize
  omega

/-- **Tabs move what stands behind them to the right**, unless each of them stands just before a tab stop. -/
theorem length_expandFrom (h : IsPlain line) (column : Nat) :
    line.length ≤ (expandFrom column line).length ∧
      ((expandFrom column line).length = line.length ↔ AtStops column line) := by
  induction line using tab_induction generalizing column with
  | plain part hpart =>
    rw [expandFrom_of_not_mem hpart]
    refine ⟨Nat.le_refl _, iff_of_true rfl fun i hi => ?_⟩
    exact absurd (List.mem_of_getElem? hi) hpart
  | tab part more hpart ih =>
    have hnarrow : ∀ c ∈ part ++ [' '], IsNarrow c := by
      intro c hc
      rcases List.mem_append.1 hc with hc | hc
      · exact h.of_tab.1.narrow hpart c hc
      · cases List.mem_singleton.1 hc
        decide
    have hbehind : column + Text.columns (part ++ [' ']) = column + part.length + 1 := by
      rw [columns_of_narrow hnarrow, List.length_append]
      rfl
    have hlen : (expandFrom column (part ++ '\t' :: more)).length = part.length + 1 + fill (column + part.length + 1) +
        (expandFrom (column + part.length + 1 + fill (column + part.length + 1)) more).length := by
      rw [expandFrom_tab hpart, hbehind]
      simp only [List.length_append, List.length_singleton, List.length_replicate]
    obtain ⟨hle, hiff⟩ := ih h.of_tab.2 (column + part.length + 1 + fill (column + part.length + 1))
    rw [atStops_tab hpart, ← fill_eq_zero_iff, hlen, List.length_append, List.length_cons]
    refine ⟨by omega, ?_⟩
    constructor
    · intro heq
      have hfill : fill (column + part.length + 1) = 0 := by omega
      simp only [hfill, Nat.add_zero] at hiff heq
      exact ⟨hfill, hiff.1 (by omega)⟩
    · rintro ⟨hfill, hstops⟩
      simp only [hfill, Nat.add_zero] at hiff ⊢
      have heq := hiff.2 hstops
      omega

end Tabs

/-! ## Printed texts -/

section Print

variable {before rest : List Char}

/-- Behind a plain text, as it is printed alone, a text is printed from its next character on. It takes one line if no line
feed follows. -/
theorem print_append (h : IsPlain before) (rest : List Char) :
    ∃ tail more, print (before ++ rest) = (expandTabs before ++ tail) :: more ∧ (more = [] ↔ '\n' ∉ rest) ∧
      (rest = [] → tail = []) ∧
      ∀ c ∈ rest.head?, isDropped c = false → c ≠ '\n' → tail.head? = some (shownAs c) := by
  have hkept : (before ++ rest).filter (fun c => !isDropped c) = before ++ rest.filter fun c => !isDropped c := by
    rw [List.filter_append, List.filter_eq_self.2 fun c hc => by simp [(h.not_isDropped c hc).1]]
  have hline : '\n' ∉ before := fun hmem => (h.not_isDropped _ hmem).2 rfl
  obtain ⟨first, parts, hparts⟩ := List.exists_cons_of_ne_nil (splitAt_ne_nil '\n' (rest.filter fun c => !isDropped c))
  obtain ⟨tail, htail, hhead⟩ := expandFrom_append 0 before first
  refine ⟨tail, parts.map expandTabs, ?_, ?_, ?_, ?_⟩
  · rw [print, hkept, splitAt_append_of_not_mem hline hparts, List.map_cons]
    exact congrArg (· :: _) htail
  · rw [List.map_eq_nil_iff, parts_eq_nil_iff hparts]
    simp [isDropped]
  · rintro rfl
    cases hparts
    cases tail with
    | nil => rfl
    | cons c tail => cases hhead
  · intro c hc hdropped hfeed
    obtain ⟨rest, rfl⟩ := List.head?_eq_some_iff.1 hc
    obtain ⟨first', parts', hparts'⟩ := List.exists_cons_of_ne_nil (splitAt_ne_nil '\n' (rest.filter fun c => !isDropped c))
    have hfirst := splitAt_append_of_not_mem (fun hmem => hfeed (List.mem_singleton.1 hmem).symm) hparts'
    rw [List.filter_cons_of_pos (by simp [hdropped])] at hparts
    cases hparts.symm.trans hfirst
    exact hhead

/-- Below the lines of a text a caret is printed behind its blanks. -/
theorem print_caret (cs : List Char) (column : Nat) :
    print (cs ++ '\n' :: (List.replicate column ' ' ++ ['^'])) = print cs ++ [List.replicate column ' ' ++ ['^']] := by
  have hchars : ∀ c ∈ List.replicate column ' ' ++ ['^'], c = ' ' ∨ c = '^' := by
    intro c hc
    rcases List.mem_append.1 hc with hc | hc
    · exact .inl (List.eq_of_mem_replicate hc)
    · exact .inr (List.mem_singleton.1 hc)
  generalize List.replicate column ' ' ++ ['^'] = caret at hchars
  have hkept : ('\n' :: caret).filter (fun c => !isDropped c) = '\n' :: caret := by
    refine List.filter_eq_self.2 fun c hc => ?_
    rcases List.mem_cons.1 hc with rfl | hc
    · decide
    · rcases hchars c hc with rfl | rfl <;> decide
  have hfeed : '\n' ∉ caret := fun h => by rcases hchars _ h with h | h <;> cases h
  have htab : '\t' ∉ caret := fun h => by rcases hchars _ h with h | h <;> cases h
  rw [print, List.filter_append, hkept, splitAt_append, List.map_append, splitAt_of_not_mem hfeed]
  exact congrArg (_ ++ [·]) (expandFrom_of_not_mem htab 0)

end Print

end DiceNotation.Screen
