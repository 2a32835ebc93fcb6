import LoanPricing.Product
import LoanPricing.Text.Case

/-!
# Conditions — what a rule asks of a product

A rules file names a condition by a tag from a fixed vocabulary, ignoring case. Any other tag is
kept as it was written; a condition of that kind holds for no product.
-/

namespace LoanPricing

inductive Condition where
  /-- The state is this one, ignoring case. -/
  | stateIs (state : String)
  | creditScoreAtLeast (least : Int32)
  /-- The name is this one, ignoring case. -/
  | nameIs (name : String)
  /-- A tag outside the vocabulary. -/
  | unknown (tag : String)
  deriving DecidableEq, Repr

namespace Condition

/-- The vocabulary: tags in small letters with their conditions. -/
def vocabulary : List (String × Condition) :=
  [("florida", stateIs "florida"),
    ("creditscore720", creditScoreAtLeast 720),
    ("productname7-1arm", nameIs "7-1 arm")]

/-- The condition that a tag names. -/
def ofTag (tag : String) : Condition :=
  (vocabulary.lookup (Text.lower tag)).getD (unknown tag)

/-- The tag, if it is one outside the vocabulary. -/
def unknownTag? : Condition → Option String
  | unknown tag => some tag
  | _ => none

def isKnown (c : Condition) : Bool :=
  c.unknownTag?.isNone

def holds (c : Condition) (p : Product) : Bool :=
  match c with
  | stateIs state => Text.sameIgnoringCase p.state state
  | creditScoreAtLeast least => least ≤ p.creditScore
  | nameIs name => Text.sameIgnoringCase p.name name
  | unknown _ => false

def shown : Condition → String
  | stateIs state => "state == " ++ state
  | creditScoreAtLeast least => "credit_score >= " ++ String.ofList (Text.ofInt least.toInt)
  | nameIs name => "name == " ++ name
  | unknown tag => "unknown(" ++ tag ++ ")"

@[simp] theorem unknownTag?_unknown (tag : String) : (unknown tag).unknownTag? = some tag := rfl

@[simp] theorem holds_unknown (tag : String) (p : Product) : (unknown tag).holds p = false := rfl

end Condition

end LoanPricing
