import DmlOutline.Token.Lexer

/-!
# The lines of tokens

Reading a text never goes back to an earlier line, and the number of the first line is one. So the
tokens of a text are on lines in order, unless it has more lines than there are numbers.

* `Token.InOrder` — tokens on lines that never decrease.
* `Token.ReadsInOrder` — a text whose tokens are such.

Principal results: `Token.readsInOrder_of_lineCount`, and `Token.ofText_eq_error`: what a text can
fail with.
-/

namespace DmlOutline.Token

/-- Tokens on lines that never decrease and whose numbers begin with one. -/
structure InOrder (tokens : List Token) : Prop where
  one_le : ∀ token ∈ tokens, 1 ≤ token.line
  inOrder : tokens.Pairwise (·.line ≤ ·.line)

theorem InOrder.tail {token : Token} {rest : List Token} (h : InOrder (token :: rest)) :
    InOrder rest where
  one_le other hmem := h.one_le other (List.mem_cons_of_mem token hmem)
  inOrder := h.inOrder.of_cons

variable {afterIdent : Bool} {line skip : Nat} {chars : List Char} {tokens : List Token}

theorem lineNumber_of_lt (h : line < UInt32.size) : lineNumber line = line :=
  Nat.mod_eq_of_lt h

/-- Counting goes on by the line breaks of what is passed. -/
theorem lineAfter_add_count (line : Nat) (c : Char) (rest : List Char) :
    lineAfter line c + rest.count '\n' = line + (c :: rest).count '\n' := by
  unfold lineAfter
  by_cases h : c = '\n'
  · subst h
    rw [if_pos rfl, List.count_cons_self]
    omega
  · rw [if_neg h, List.count_cons_of_ne h]

theorem le_lineAfter (line : Nat) (c : Char) : line ≤ lineAfter line c := by
  unfold lineAfter
  split <;> omega

/-- Tokens that are read from a line on are on this line or later ones, in order, if all lines have
numbers of their own. -/
theorem inOrder_ofLines (hlines : line + chars.count '\n' < UInt32.size)
    (h : ofLines afterIdent line skip chars = .ok tokens) :
    (∀ token ∈ tokens, line ≤ token.line) ∧ tokens.Pairwise (·.line ≤ ·.line) := by
  induction chars generalizing afterIdent line skip tokens with
  | nil =>
    rw [ofLines] at h
    cases h
    exact ⟨fun token hmem => (List.not_mem_nil hmem).elim, .nil⟩
  | cons c rest ih =>
    have hline := le_lineAfter line c
    have hnumber : lineNumber line = line := lineNumber_of_lt (by omega)
    rw [← lineAfter_add_count] at hlines
    cases skip with
    | succ skip =>
      rw [ofLines] at h
      obtain ⟨hle, hpairs⟩ := ih hlines h
      refine ⟨?_, hpairs⟩
      intro token hmem
      have hlater := hle token hmem
      omega
    | zero =>
      rw [ofLines] at h
      split at h
      · cases h
      · rename_i found _
        split at h
        · cases h
        · rename_i more hmore
          cases h
          obtain ⟨hle, hpairs⟩ := ih hlines hmore
          have hlater : ∀ token ∈ more, line ≤ token.line := by
            intro token hmem
            have hafter := hle token hmem
            omega
          cases found.kind with
          | none => exact ⟨hlater, hpairs⟩
          | some kind =>
            simp only [hnumber]
            refine ⟨fun token hmem => ?_, List.pairwise_cons.mpr ⟨hlater, hpairs⟩⟩
            rcases List.mem_cons.mp hmem with rfl | hmem
            · exact Nat.le_refl _
            · exact hlater token hmem

/-- A text whose tokens, if it can be read, are on lines in order. -/
def ReadsInOrder (text : String) : Prop :=
  ∀ tokens, ofText text = .ok tokens → InOrder tokens

/-- **A text is read in order if it has no more lines than there are numbers.** -/
theorem readsInOrder_of_lineCount {text : String} (hlines : lineCount text < UInt32.size) :
    ReadsInOrder text := by
  intro tokens h
  rw [lineCount, Nat.add_comm] at hlines
  obtain ⟨hle, hpairs⟩ := inOrder_ofLines hlines h
  exact ⟨hle, hpairs⟩

theorem ofLines_eq_error {error : Error} (h : ofLines afterIdent line skip chars = .error error) :
    ∃ line fault, error = .parse line fault := by
  induction chars generalizing afterIdent line skip with
  | nil => rw [ofLines] at h; cases h
  | cons c rest ih =>
    cases skip with
    | succ skip =>
      rw [ofLines] at h
      exact ih h
    | zero =>
      rw [ofLines] at h
      split at h
      · cases h
        exact ⟨_, _, rfl⟩
      · split at h
        · rename_i hmore
          cases h
          exact ih hmore
        · cases h

/-- A text that has no tokens has a fault on a line. -/
theorem ofText_eq_error {text : String} {error : Error} (h : ofText text = .error error) :
    ∃ line fault, error = .parse line fault :=
  ofLines_eq_error h

end DmlOutline.Token
