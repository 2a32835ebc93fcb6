import LoanPricing.Rules.Evaluate

/-!
# Sessions — named rule sets and named products

A session keeps rule sets in slots and products by name, both empty at first, and answers one step
at a time. A step that asks for a product or a rule set that is not there is answered so. A slot
holds what was last put into it: when a loading fails there is nothing to put, and the slot is
empty from then on.
-/

namespace LoanPricing

structure Session where
  sets : String → Option RuleSet
  products : String → Option Product

namespace Session

def start : Session where
  sets := fun _ => none
  products := fun _ => none

/-- Fields of a product to set. -/
structure Edit where
  name : Option String := none
  interestRate : Option Float := none
  state : Option String := none
  creditScore : Option Int32 := none
  disqualified : Option Bool := none

def Edit.apply (e : Edit) (p : Product) : Product where
  name := e.name.getD p.name
  interestRate := e.interestRate.getD p.interestRate
  state := e.state.getD p.state
  creditScore := e.creditScore.getD p.creditScore
  disqualified := e.disqualified.getD p.disqualified

inductive Step where
  | load (slot text : String) (mode : Mode)
  | loadOrReport (slot : String) (disk : Disk) (path : String) (mode : Mode)
  | compile (slot : String) (records : List RuleRecord) (mode : Mode)
  | share (slot source : String)
  | select (slot source : String) (positions : List Nat)
  | unload (slot : String)
  | inspect (slot : String)
  | get (slot : String) (position : Nat)
  | product (id : String) (product : Product)
  | copy (id target : String)
  | same (id other : String)
  | edit (id : String) (edit : Edit)
  | holds (id : String) (condition : Condition)
  | act (id : String) (action : Action)
  | apply (slot id : String) (tracing : Bool)
  | json (id : String)

inductive Reply where
  | done
  | flag (b : Bool)
  | text (s : String)
  /-- A rule set is in its slot. -/
  | loaded (set : RuleSet)
  | notLoaded
  | refused (error : RuleError)
  | rules (set : RuleSet)
  | rule (rule : Option Rule)
  | product (p : Product)
  | acted (mutated : Bool) (p : Product)
  | evaluation (e : Evaluation)
  | noSet
  | noProduct

def setSlot (s : Session) (slot : String) (set : Option RuleSet) : Session :=
  { s with sets := fun name => if name = slot then set else s.sets name }

def setProduct (s : Session) (id : String) (p : Product) : Session :=
  { s with products := fun name => if name = id then some p else s.products name }

/-- What a loading comes to: the slot holds its rule set, or nothing. -/
def settle (s : Session) (slot : String) (result : Except RuleError RuleSet) : Reply × Session :=
  match result with
  | .ok set => (.loaded set, s.setSlot slot (some set))
  | .error e => (.refused e, s.setSlot slot none)

/-- An answer about a rule set. -/
def withSet (s : Session) (slot : String) (f : RuleSet → Reply × Session) : Reply × Session :=
  match s.sets slot with
  | some set => f set
  | none => (.noSet, s)

/-- An answer about a product. -/
def withProduct (s : Session) (id : String) (f : Product → Reply × Session) : Reply × Session :=
  match s.products id with
  | some p => f p
  | none => (.noProduct, s)

open Log (Logged)

def step (s : Session) : Step → Logged (Reply × Session)
  | .load slot text mode => do
    let result ← RuleSet.load mode text
    pure (s.settle slot result)
  | .compile slot records mode => do
    let result ← RuleSet.compile mode records
    pure (s.settle slot result)
  | .loadOrReport slot disk path mode => do
    let set ← RuleSet.loadOrReport mode disk path
    let reply := match set with
      | some set => Reply.loaded set
      | none => Reply.notLoaded
    pure (reply, s.setSlot slot set)
  | .share slot source =>
    let reply := match s.sets source with
      | some set => Reply.loaded set
      | none => Reply.noSet
    pure (reply, s.setSlot slot (s.sets source))
  | .select slot source positions =>
    pure <| s.withSet source fun set =>
      let selected := set.select positions
      (.loaded selected, s.setSlot slot (some selected))
  | .unload slot => pure (.flag (s.sets slot).isSome, s.setSlot slot none)
  | .inspect slot => pure <| s.withSet slot fun set => (.rules set, s)
  | .get slot position => pure <| s.withSet slot fun set => (.rule (set.get? position), s)
  | .product id p => pure (.product p, s.setProduct id p)
  | .copy id target => pure <| s.withProduct id fun p => (.done, s.setProduct target p)
  | .same id other =>
    pure <| s.withProduct id fun p => s.withProduct other fun q => (.flag (p.same q), s)
  | .edit id edit =>
    pure <| s.withProduct id fun p => (.product (edit.apply p), s.setProduct id (edit.apply p))
  | .holds id condition => pure <| s.withProduct id fun p => (.flag (condition.holds p), s)
  | .act id action =>
    pure <| s.withProduct id fun p =>
      (.acted action.isKnown (action.apply p), s.setProduct id (action.apply p))
  | .apply slot id tracing =>
    match s.products id with
    | none => pure (.noProduct, s)
    | some p => do
      let e ← evaluate tracing (s.sets slot) p
      pure (.evaluation e, s.setProduct id e.product)
  | .json id => pure <| s.withProduct id fun p => (.text p.toJson.line, s)

/-- The replies to steps, one after another. -/
def run (s : Session) : List Step → Logged (List Reply)
  | [] => pure []
  | step :: steps => do
    let (reply, s) ← s.step step
    let replies ← s.run steps
    pure (reply :: replies)

@[simp] theorem sets_setSlot_self (s : Session) (slot : String) (set : Option RuleSet) :
    (s.setSlot slot set).sets slot = set := by
  simp [setSlot]

theorem sets_setSlot_of_ne (s : Session) {slot name : String} (set : Option RuleSet)
    (h : name ≠ slot) : (s.setSlot slot set).sets name = s.sets name := by
  simp [setSlot, h]

@[simp] theorem products_setSlot (s : Session) (slot : String) (set : Option RuleSet) :
    (s.setSlot slot set).products = s.products := rfl

@[simp] theorem sets_setProduct (s : Session) (id : String) (p : Product) :
    (s.setProduct id p).sets = s.sets := rfl

end Session

end LoanPricing
