import LoanPricing.Json.Record
import LoanPricing.Json.Value

/-!
# Products — the loans that rules reprice

A product carries what conditions look at, and what actions change: its interest rate and whether
it is disqualified.
-/

namespace LoanPricing

structure Product where
  name : String
  interestRate : Float
  state : String
  creditScore : Int32
  disqualified : Bool := false
  deriving DecidableEq, Repr

namespace Product

/-- Equality of products field by field, rates compared as numbers: zero equals negative zero, and
a rate that is not a number equals none. -/
def same (p q : Product) : Bool :=
  p.name == q.name && p.interestRate == q.interestRate && p.state == q.state &&
    p.creditScore == q.creditScore && p.disqualified == q.disqualified

def toJson (p : Product) : Json.Value :=
  .object [
    ("name", .text p.name),
    ("interest_rate", .number p.interestRate),
    ("state", .text p.state),
    ("credit_score", .int p.creditScore.toInt),
    ("disqualified", .flag p.disqualified)]

structure Draft where
  name : Option String := none
  interestRate : Option Float := none
  state : Option String := none
  creditScore : Option Int32 := none
  disqualified : Option Bool := none

/-- The product of a draft, which is qualified unless it says otherwise, or the first field that
is lacking. -/
def Draft.finish (d : Draft) : Except String Product :=
  match d.name, d.interestRate, d.state, d.creditScore with
  | none, _, _, _ => .error "name"
  | _, none, _, _ => .error "interest_rate"
  | _, _, none, _ => .error "state"
  | _, _, _, none => .error "credit_score"
  | some name, some interestRate, some state, some creditScore =>
    .ok { name, interestRate, state, creditScore, disqualified := d.disqualified.getD false }

def shape : Json.Shape Draft Product where
  title := "Product"
  fields := [
    { name := "name", kind := .text,
      isSet := fun d => d.name.isSome, set := fun s d => { d with name := some s } },
    { name := "interest_rate", kind := .number,
      isSet := fun d => d.interestRate.isSome, set := fun x d => { d with interestRate := some x } },
    { name := "state", kind := .text,
      isSet := fun d => d.state.isSome, set := fun s d => { d with state := some s } },
    { name := "credit_score", kind := .int32,
      isSet := fun d => d.creditScore.isSome, set := fun n d => { d with creditScore := some n } },
    { name := "disqualified", kind := .flag,
      isSet := fun d => d.disqualified.isSome, set := fun b d => { d with disqualified := some b } }]
  start := {}
  finish := Draft.finish

def parse (text : String) : Except Json.Error Product :=
  Json.readWhole shape.read text.toList

end Product

end LoanPricing
