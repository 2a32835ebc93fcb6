import LoanPricing.Product
import LoanPricing.Text.Case

/-!
# Actions — what a rule does to a product

A rules file names an action by a tag from a fixed vocabulary, ignoring case, and gives it an
amount, which only the changes of the rate look at. Any other tag is kept as it was written; an
action of that kind does nothing.
-/

namespace LoanPricing

inductive Direction where
  | up
  | down
  deriving DecidableEq, Repr

def Direction.reversed : Direction → Direction
  | .up => .down
  | .down => .up

inductive Action where
  | disqualify
  | adjustRate (way : Direction) (amount : Float)
  /-- A tag outside the vocabulary. -/
  | unknown (tag : String)
  deriving DecidableEq, Repr

namespace Action

/-- The vocabulary: tags in small letters with the actions that they make of an amount. -/
def vocabulary : List (String × (Float → Action)) :=
  [("disqualify", fun _ => disqualify),
    ("reduceinterest", adjustRate .down),
    ("increaseinterest", adjustRate .up)]

def ofTag (tag : String) (amount : Float) : Action :=
  match vocabulary.lookup (Text.lower tag) with
  | some make => make amount
  | none => unknown tag

/-- The tag, if it is one outside the vocabulary. -/
def unknownTag? : Action → Option String
  | unknown tag => some tag
  | _ => none

def isKnown (a : Action) : Bool :=
  a.unknownTag?.isNone

/-- What an adjustment adds to the rate. -/
def delta (way : Direction) (amount : Float) : Float :=
  match way with
  | .up => amount
  | .down => -amount

def apply (a : Action) (p : Product) : Product :=
  match a with
  | disqualify => { p with disqualified := true }
  | adjustRate way amount => { p with interestRate := p.interestRate + delta way amount }
  | unknown _ => p

/-- The text of an adjustment. One by an amount with its sign bit set is shown as the adjustment by
the opposite amount in the other direction. -/
def shownAdjustment (way : Direction) (amount : Float) : String :=
  let (way, amount) :=
    if Decimal.signBit amount then (way.reversed, -amount) else (way, amount)
  let sign := match way with
    | .up => "+= "
    | .down => "-= "
  "interest_rate " ++ sign ++ String.ofList (Decimal.plain amount)

def shown : Action → String
  | disqualify => "disqualify"
  | adjustRate way amount => shownAdjustment way amount
  | unknown tag => "unknown(" ++ tag ++ ")"

@[simp] theorem unknownTag?_unknown (tag : String) : (unknown tag).unknownTag? = some tag := rfl

@[simp] theorem apply_unknown (tag : String) (p : Product) : (unknown tag).apply p = p := rfl

-- No action touches anything but the rate and the disqualification.
theorem apply_keeps (a : Action) (p : Product) :
    (a.apply p).name = p.name ∧ (a.apply p).state = p.state ∧
      (a.apply p).creditScore = p.creditScore := by
  cases a <;> simp [apply]

end Action

end LoanPricing
