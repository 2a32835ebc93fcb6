import LoanPricing.Text.Utf8

/-!
# Lines — one answer at a time from a stream of bytes

A line ends with the byte `0A`, which belongs to it. As an answer it is read as tolerant UTF-8
without the carriage returns and line feeds at its end.
-/

namespace LoanPricing.Text

def lineFeed : UInt8 := 0x0A

/-- The bytes up to and including the first line feed, and those after it. Without a line feed
the whole sequence is the line. -/
def splitLine : List UInt8 → List UInt8 × List UInt8
  | [] => ([], [])
  | b :: rest =>
    if b = lineFeed then ([b], rest)
    else
      let (line, after) := splitLine rest
      (b :: line, after)

/-- A text without the carriage returns and line feeds at its end. -/
def dropLineEnds (cs : List Char) : List Char :=
  (cs.reverse.dropWhile fun c => c == '\r' || c == '\n').reverse

/-- The next answer from the bytes that are left, and the bytes after it. At the end of the bytes
every further answer is empty. -/
def nextAnswer (bytes : List UInt8) : String × List UInt8 :=
  let (line, rest) := splitLine bytes
  (String.ofList (dropLineEnds (Utf8.decodeLossy line)), rest)

@[simp] theorem nextAnswer_nil : nextAnswer [] = ("", []) := rfl

end LoanPricing.Text
