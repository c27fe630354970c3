import AuctionHouse.Node.Request

/-!
# Nodes

A node is a house with its store, a clock that is set by request, and the number of the next item.
It serves requests one after the other.  Its errors have a code and, where rules were broken, the
violations as data.
-/

namespace AuctionHouse

open Wire

/-- A violation as it is sent (`ViolationRpc`). -/
structure ViolationReport where
  rule : String
  field : String
  message : String
deriving DecidableEq

/-- A violation in words. -/
def Violation.report (violation : Violation) : ViolationReport :=
  ⟨violation.rule.name, violation.field.name, violation.message⟩

instance : Wire ViolationReport where
  encode report := .obj
    [("rule", .str report.rule), ("field", .str report.field), ("message", .str report.message)]
  decode data := do
    let m ← Members.of? ["rule", "field", "message"] data
    return {
      rule := ← m.required "rule" Json.str?
      field := ← m.required "field" Json.str?
      message := ← m.required "message" Json.str? }

/-- An error that a node answers. -/
structure RpcError where
  code : Int
  message : String
  data : Option Json := none

namespace RpcError

/-- The code of a request that breaks rules. -/
def validationCode : Int := -32001

/-- The code of every other refusal. -/
def nodeCode : Int := -32000

/-- The code of a method that there is not. -/
def methodNotFoundCode : Int := -32601

/-- The code of parameters that do not fit their method. -/
def invalidParamsCode : Int := -32602

/-- An error without data (`rpc_error`). -/
def ofMessage (message : String) : RpcError := ⟨nodeCode, message, none⟩

/-- A refusal of the house as an error (`engine_error`). -/
def ofRefusal : Refusal → RpcError
  | .rejected violations =>
    { code := validationCode
      message := (Refusal.rejected violations).message
      data := some (ofList encode (violations.map Violation.report)) }
  | refusal => ofMessage refusal.message

/-- The error for a method that there is not. -/
def methodNotFound : RpcError := ⟨methodNotFoundCode, "Method not found", none⟩

/-- The error for parameters that do not fit their method. -/
def invalidParams : RpcError := ⟨invalidParamsCode, "Invalid params", none⟩

end RpcError

/-- Why a request has no reply. -/
inductive NodeFailure where
  | refused (error : RpcError)
  | faulted (fault : Fault)

/-- A stop of the house as a failure. -/
def NodeFailure.ofStop : Stop → NodeFailure
  | .refused refusal => .refused (.ofRefusal refusal)
  | .faulted fault => .faulted fault

/-- What a node replies. -/
inductive Reply where
  | clock (reading : ClockReading)
  | registered (item : ItemId)
  | relisted (round : Round)
  | workflowSet
  | outcome (outcome : Outcome)
  | answer (answer : Answer)

namespace Reply

/-- A reply as data.  The outcome of a call or the answer to a question goes without its name. -/
def encode : Reply → Json
  | clock reading => Wire.encode reading
  | registered item => .ofNat item
  | relisted round => Wire.encode round
  | workflowSet => .bool true
  | outcome result => content (Wire.encode result)
  | answer given => content (Wire.encode given)
where
  /-- The content of a case. -/
  content (data : Json) : Json := ((tagged? data).map (·.2)).getD .null

end Reply

/-- A house with its store, its clock and the number of the next item (`NodeState`). -/
structure Node where
  house : House
  store : Store := {}
  clock : Instant
  nextItemId : ItemId := 1

namespace Node

/-- A node that starts at a time with an empty store. -/
def start (config : Config) (now : Instant) : Node :=
  { house := House.ofConfig config, clock := now }

/-- Lets the house serve an action, and keeps what it wrote even if it stopped. -/
def perform {α : Type} (node : Node) (action : Action α) : Except NodeFailure α × Node :=
  let (answer, floor) := action { store := node.store }
  (answer.mapError .ofStop, { node with store := floor.store })

/-- The item that is to be registered under a number (part of `admin_register_item`). -/
def itemOf (terms : Registration) (id : ItemId) (workflow : Workflow) : Item :=
  { id
    name := terms.name
    owner := terms.owner
    startingPrice := terms.startingPrice
    buyNowPrice := terms.buyNowPrice.getD .zero
    bidStep := terms.bidStep.getD (Money.suggestedStep terms.startingPrice)
    thresholdPercent := terms.thresholdPercent
    instantOnly := terms.instantOnly
    currency := terms.currency
    workflow
    window := ⟨terms.opens, terms.closes⟩
    round := 0 }

/-- Registers an item under the next number, if there is nothing wrong with its terms
(`admin_register_item`). -/
def register (node : Node) (terms : Registration) : Except NodeFailure ItemId × Node :=
  let window : Window := ⟨terms.opens, terms.closes⟩
  let item := itemOf terms node.nextItemId (window.initialWorkflow node.clock)
  match item.problems with
  | [] =>
    (.ok item.id,
      { node with store := node.store.insertItem item, nextItemId := node.nextItemId + 1 })
  | problems =>
    (.error (.refused (.ofMessage (" ".intercalate (problems.map Item.Problem.message)))), node)

/-- Moves the clock (`admin_advance_clock`). -/
def advance (node : Node) (seconds : Int) : Except NodeFailure ClockReading × Node :=
  match node.clock.plusSeconds seconds with
  | .ok now => (.ok ⟨now⟩, { node with clock := now })
  | .error fault => (.error (.faulted fault), node)

/-- Changes the store, if the change is possible. -/
def change {α : Type} (node : Node) (result : Except Stop (α × Store)) :
    Except NodeFailure α × Node :=
  match result with
  | .ok (value, store) => (.ok value, { node with store })
  | .error stop => (.error (.ofStop stop), node)

/-- Serves a request. -/
def serve (node : Node) : Request → Except NodeFailure Reply × Node
  | .setClock now => (.ok (.clock ⟨now⟩), { node with clock := now })
  | .advanceClock seconds => named .clock (node.advance seconds)
  | .register terms => named .registered (node.register terms)
  | .relist item => named .relisted (node.change (node.store.relist item))
  | .setWorkflow item workflow => named (fun () => .workflowSet)
    (node.change do return ((), ← (node.store.setWorkflow item workflow).mapError .ofStorage))
  | .call sender call =>
    named .outcome (node.perform (node.house.serve ⟨sender, node.clock⟩ call))
  | .ask query => named .answer (node.perform (node.house.answer node.clock query))
where
  /-- A result as a reply. -/
  named {α : Type} (name : α → Reply) (result : Except NodeFailure α × Node) :
      Except NodeFailure Reply × Node :=
    (result.1.map name, result.2)

/-- Serves a request by the name of its method. -/
def serveMethod (node : Node) (method : String) (parameters : Option Json) :
    Except NodeFailure Json × Node :=
  match Request.reader? method with
  | none => (.error (.refused .methodNotFound), node)
  | some read =>
    match read parameters with
    | none => (.error (.refused .invalidParams), node)
    | some request =>
      let (result, node) := node.serve request
      (result.map Reply.encode, node)

end Node

end AuctionHouse
