import DiceNotation.Console.Report
import DiceNotation.Proofs.Console.Lines
import DiceNotation.Proofs.Reading.Unexpected

/-!
# The caret below a syntax error

Below the report of a syntax error stands the text, and below that a caret behind as many blanks as the text has characters in
front of the error. Up to there the text consists of tokens and gaps, which take one column a character and one line, but for
tabs. So the caret stands below the error if the tabs in front of it take one column each, and nothing stands in between if
the text has no line feed.

* `exists_before_of_read`: the text in front of a syntax error.
* `readError_caret`: where the caret stands, and when it is below the error.
* `readError_caret_tab`: a tab for which it is not.
-/

namespace DiceNotation

section Before

variable {L : Limits} {text : String} {e : SyntaxError}

/-- In front of a syntax error a text has tokens and gaps only. -/
theorem exists_before_of_read (refused : read L text = .error (.syntactic e)) :
    ∃ before rest, text.toList = before ++ rest ∧ e.source = text ∧ e.position = before.length ∧
      Screen.IsPlain before := by
  cases hb : text.toList.all Text.isBlank with
  | true =>
    rw [read, if_pos hb] at refused
    cases refused
    exact ⟨[], text.toList, rfl, rfl, rfl, nofun⟩
  | false =>
    obtain ⟨expected, rest, hchars, rfl⟩ := unexpected_of_read hb refused
    obtain ⟨ts, mid, layout, rfl, -, -⟩ := readChars_halts L _ _ _ hchars
    obtain ⟨ds, htext, hds⟩ := layout.exists_chars
    obtain ⟨g, hg, hmid⟩ := exists_gap mid
    have hbefore : text.toList = ds ++ g ++ Text.skipGap mid := by rw [htext, List.append_assoc, ← hmid]
    refine ⟨ds ++ g, Text.skipGap mid, hbefore, rfl, ?_, ?_⟩
    · have hlen := congrArg List.length hbefore
      rw [String.length_toList, List.length_append] at hlen
      show (text.length - (Text.skipGap mid).length : Int) = _
      omega
    · intro c hc
      have hchar : isVisible c = true ∨ Text.isGap c = true := (List.mem_append.1 hc).elim (hds c) fun hc => .inr (hg c hc)
      rcases hchar with hvisible | hgap
      · simp only [isVisible, Bool.and_eq_true, decide_eq_true_eq] at hvisible
        exact .inl ⟨Nat.le_of_succ_le hvisible.1, hvisible.2⟩
      · rcases isGap_iff.1 hgap with rfl | rfl
        · exact .inl (by decide)
        · exact .inr rfl

end Before

/-- The characters of the text and the caret below it. -/
theorem SyntaxError.toList_pointer (e : SyntaxError) :
    e.pointer.toList = e.source.toList ++ '\n' :: (List.replicate e.position.toNat ' ' ++ ['^']) := by
  simp [pointer]

theorem Report.readError_syntactic {e : SyntaxError} (nonempty : e.source ≠ "") :
    readError (.syntactic e) = error e.message ++ Screen.printText e.pointer := by
  show error e.message ++ (if e.source = "" then [] else Screen.printText e.pointer) = _
  rw [if_neg nonempty]

/-- **Where the caret stands below a syntax error.** Let a text that is not empty be refused for its syntax.

* The position of the error is in the text or at its end.
* The report ends with the lines of the text and a line of as many blanks as the position says and a caret.
* The first of these lines starts with the text in front of the position, as it is printed alone. Behind it the character at
  the position is printed. At the end of the text nothing is, and there is no other line.
* The caret stands in the next line and in that column just if the text has no line feed, and each tab in front of the
  position stands just before a tab stop. -/
theorem readError_caret {L : Limits} {text : String} {e : SyntaxError} (refused : read L text = .error (.syntactic e))
    (nonempty : text ≠ "") :
    ∃ (position : Nat) (tail : List Char) (more : List (List Char)),
      let shown := Screen.expandTabs (text.toList.take position)
      (e.position = position ∧ position ≤ text.length) ∧
      Report.readError (.syntactic e) =
        Report.error e.message ++ (shown ++ tail) :: more ++ [List.replicate position ' ' ++ ['^']] ∧
      ((position = text.length → tail = [] ∧ more = []) ∧
        ∀ c ∈ text.toList[position]?, Screen.isDropped c = false → c ≠ '\n' → tail.head? = some (Screen.shownAs c)) ∧
      (more = [] ∧ Text.columns shown = position ↔
        '\n' ∉ text.toList ∧ ∀ i < position, text.toList[i]? = some '\t' → i % Screen.tabSize = 7) := by
  obtain ⟨before, rest, htext, hsource, hposition, hbefore⟩ := exists_before_of_read refused
  obtain ⟨tail, more, hprint, hmore, hend, hhead⟩ := Screen.print_append hbefore rest
  have hlen : text.length = before.length + rest.length := by rw [← String.length_toList, htext, List.length_append]
  have hshown : Screen.expandTabs (text.toList.take before.length) = Screen.expandTabs before := by
    rw [htext, List.take_left]
  refine ⟨before.length, tail, more, ?_⟩
  rw [hshown]
  intro shown
  refine ⟨⟨hposition, hlen ▸ Nat.le_add_right _ _⟩, ?_, ⟨?_, ?_⟩, ?_⟩
  · have hpointer : Screen.printText e.pointer = (shown ++ tail) :: more ++ [List.replicate before.length ' ' ++ ['^']] := by
      rw [Screen.printText, e.toList_pointer, hsource, hposition, Int.toNat_natCast, Screen.print_caret, htext, hprint]
    rw [Report.readError_syntactic (hsource ▸ nonempty), hpointer, ← List.append_assoc]
  · intro hp
    have hrest : rest = [] := List.eq_nil_of_length_eq_zero (by omega)
    exact ⟨hend hrest, hmore.2 (hrest ▸ List.not_mem_nil)⟩
  · intro c hc
    rw [htext, List.getElem?_append_right (Nat.le_refl _), Nat.sub_self, ← List.head?_eq_getElem?] at hc
    exact hhead c hc
  · have hcolumns : Text.columns shown = shown.length :=
      Screen.columns_of_narrow (Screen.isNarrow_of_mem_expandFrom hbefore 0)
    have hstops : shown.length = before.length ↔ Screen.AtStops 0 before := (Screen.length_expandFrom hbefore 0).2
    have hfeed : '\n' ∉ before := fun hmem => (hbefore.not_isDropped _ hmem).2 rfl
    rw [hcolumns, hstops, Screen.atStops_zero_iff rest, hmore, htext, List.mem_append, not_or]
    exact and_congr_left' (and_iff_right hfeed).symm

/-- The tab takes the last column before a tab stop, so that the caret stands below the question mark. -/
theorem readError_caret_stop :
    let e : SyntaxError := .unexpected "1 + 2 -\t?" 8 .item
    read .standard "1 + 2 -\t?" = .error (.syntactic e) ∧
      ∃ tail, Report.readError (.syntactic e) =
        Report.error e.message ++ [Screen.expandTabs "1 + 2 -\t".toList ++ tail, "        ^".toList] ∧
        tail.head? = some '?' ∧ Text.columns (Screen.expandTabs "1 + 2 -\t".toList) = 8 := by
  intro e
  have refused : read .standard "1 + 2 -\t?" = .error (.syntactic e) := by decide +kernel
  obtain ⟨position, tail, more, ⟨hposition, -⟩, hreport, ⟨-, hhead⟩, haligned⟩ := readError_caret refused (by decide)
  obtain rfl : position = 8 := by
    have hp : (8 : Int) = position := hposition
    omega
  obtain ⟨rfl, hcolumns⟩ := haligned.2 (by decide)
  have hbefore : "1 + 2 -\t?".toList.take 8 = "1 + 2 -\t".toList := by decide
  have hcaret : List.replicate 8 ' ' ++ ['^'] = "        ^".toList := by decide
  rw [hbefore, hcaret, List.append_assoc] at hreport
  rw [hbefore] at hcolumns
  exact ⟨refused, tail, hreport, hhead '?' rfl rfl (by decide), hcolumns⟩

/-- The tab is printed up to column 8, where the question mark stands, but the caret stands in column 2. -/
theorem readError_caret_tab :
    let e : SyntaxError := .unexpected "1\t?" 2 .operatorOrChecker
    read .standard "1\t?" = .error (.syntactic e) ∧ "1\t?".toList[2]? = some '?' ∧
      Report.readError (.syntactic e) = Report.error e.message ++ ["1       ?".toList, "  ^".toList] ∧
      "1       ?".toList.idxOf '?' = 8 ∧ "  ^".toList.idxOf '^' = 2 := by
  intro e
  have hlines : Screen.print "1\t?".toList = ["1       ?".toList] := by decide +kernel
  refine ⟨by decide +kernel, by decide, ?_, by decide, by decide⟩
  rw [Report.readError_syntactic (by decide), Screen.printText, e.toList_pointer, Screen.print_caret,
    show e.source = "1\t?" from rfl, hlines]
  rfl

end DiceNotation
