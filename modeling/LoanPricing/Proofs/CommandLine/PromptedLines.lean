import LoanPricing.CommandLine.Run
import LoanPricing.Proofs.Text.LossyLines

/-!
# Prompted lines — questions are answered by the lines of the input

Each question takes one line of the input, whatever is asked and whatever the bytes are. So the
answers in turn are the lines of the text that the whole input is read as, and what is left begins
with the line after the last one that was taken.
-/

namespace LoanPricing.CommandLine

/-- Questions asked one after the other: what each of them writes and its answer, and the bytes that
are left after the last one. -/
def askInTurn : List String → List UInt8 → List (String × String) × List UInt8
  | [], input => ([], input)
  | prompt :: prompts, input =>
    let (written, answer, rest) := ask prompt none input
    let (answers, left) := askInTurn prompts rest
    ((written, answer) :: answers, left)

theorem askInTurn_cons (prompt : String) (prompts : List String) (input : List UInt8) :
    askInTurn (prompt :: prompts) input =
      ((prompt, (Text.nextAnswer input).1) :: (askInTurn prompts (Text.nextAnswer input).2).1,
        (askInTurn prompts (Text.nextAnswer input).2).2) := rfl

/-- The answers are the lines of the input in their order, without the carriage returns at their
ends. -/
theorem askInTurn_answers (prompts : List String) (input : List UInt8) :
    (askInTurn prompts input).1 = prompts.mapIdx fun i prompt =>
      (prompt, Text.lineText (Text.lineAt (Text.Utf8.decodeLossy input) i)) := by
  induction prompts generalizing input with
  | nil => rfl
  | cons prompt prompts ih =>
    obtain ⟨hfirst, hnext⟩ := Text.nextAnswer_lines input
    rw [askInTurn_cons, ih, List.mapIdx_cons, hfirst]
    simp only [hnext]

/-- As many lines are used up as there are questions. -/
theorem exists_isThrough_askInTurn (prompts : List String) (input : List UInt8) :
    ∃ taken, Text.IsThrough prompts.length input taken (askInTurn prompts input).2 := by
  induction prompts generalizing input with
  | nil => exact ⟨[], .zero input⟩
  | cons prompt prompts ih =>
    obtain ⟨taken, htaken⟩ := ih (Text.nextAnswer input).2
    exact Text.exists_isThrough_nextAnswer htaken

/-- **Questions are answered by the lines of the input**, one each, and by nothing once there are no
more lines. Every question gets its answer; after some number of them the bytes up to the line feed
of that number are used up and no others. The lines are the same whether the input is read at once
or line by line, so that malformed bytes stay within their line. -/
theorem askInTurn_lines (prompts : List String) (input : List UInt8) :
    (askInTurn prompts input).1 = (prompts.mapIdx fun i prompt =>
        (prompt, Text.lineText (Text.lineAt (Text.Utf8.decodeLossy input) i))) ∧
      (∃ taken, Text.IsThrough prompts.length input taken (askInTurn prompts input).2) ∧
      (Text.Utf8.decodeLossy input).splitOn '\n' =
        (input.splitOn Text.lineFeed).map Text.Utf8.decodeLossy :=
  ⟨askInTurn_answers prompts input, exists_isThrough_askInTurn prompts input,
    Text.splitOn_decodeLossy input⟩

-- The first line ends within a character, the second one is not ended.
example :
    askInTurn ["state?", "score?", "more?"] [0x46, 0xE2, 0x82, 0x0D, 0x0A, 0x37, 0x0D] =
      ([("state?", "F\uFFFD"), ("score?", "7"), ("more?", "")], []) := by
  decide

/-- A borrower of whom nothing is said is what the first two lines say. -/
theorem askBorrower_lines {o : Options} (hstate : o.state = none) (hscore : o.creditScore = none)
    (input : List UInt8) :
    askBorrower o input = (statePrompt ++ scorePrompt, {
      state := Text.lineText (Text.lineAt (Text.Utf8.decodeLossy input) 0)
      creditScore := Text.lineText (Text.lineAt (Text.Utf8.decodeLossy input) 1) }) := by
  obtain ⟨hfirst, hnext⟩ := Text.nextAnswer_lines input
  have hsecond := (Text.nextAnswer_lines (Text.nextAnswer input).2).1
  rw [askBorrower, hstate, hscore]
  simp only [ask]
  rw [hsecond, hnext, hfirst]

end LoanPricing.CommandLine
