import AuctionHouse.Node.Basic
import AuctionHouse.Proofs.House.Replies

/-!
# Messages to a node

A message names a method and carries parameters.  The name says what kind of request it is
(`method?_of_reader?`), so a message under another name neither registers nor relists an item.  What
serving a request can do to a node is told by the cases of `Handled`.
-/

namespace AuctionHouse

/-- A message to a node: the name of a method, and parameters if there are any. -/
structure Message where
  method : String
  parameters : Option Json

/-- The request that a message is, if it can be read. -/
def Message.request? (message : Message) : Option Request :=
  (Request.reader? message.method).bind fun read => read message.parameters

namespace Request

/-- The name of the method that a call goes by. -/
def methodOfCall : Call → String
  | .placeBid .. => "auction_placeBid"
  | .placeBuyNow _ => "auction_placeBuyNow"
  | .setProxy .. => "auction_setProxy"
  | .removeProxy .. => "auction_removeProxy"

/-- The name of the method that a question goes by, if there is one. -/
def methodOfQuery? : Query → Option String
  | .auctionState .. => some "query_getAuctionState"
  | .highestBids .. => some "query_getHighestBids"
  | .proxyStatus .. => some "query_getProxyStatus"
  | .feeFor .. => some "query_feeFor"
  | .item _ => some "query_getItem"
  | .winner .. => some "query_getWinner"
  | .uniqueBidders .. => none
  | .bidsByUser .. => none

/-- The name of the method that a request goes by, if there is one. -/
def method? : Request → Option String
  | .setClock _ => some "admin_setTimestamp"
  | .advanceClock _ => some "admin_advanceClock"
  | .register _ => some "admin_registerItem"
  | .relist _ => some "admin_relistItem"
  | .setWorkflow .. => some "admin_setWorkflow"
  | .call _ made => some (methodOfCall made)
  | .ask query => methodOfQuery? query

/-- What is read under a name is a request that goes by the name. -/
theorem method?_of_reader? {method : String} {read : Option Json → Option Request}
    {sent : Option Json} {request : Request} (known : reader? method = some read)
    (done : read sent = some request) : request.method? = some method := by
  unfold reader? at known
  split at known
  all_goals cases known
  -- The parameters are read first, and all that is made of them has the same form.
  all_goals
    simp only [Option.bind_eq_bind, Option.bind_eq_some_iff, Option.pure_def, Option.some.injEq]
      at done
    grind [method?, methodOfCall, methodOfQuery?, ofBid, ofCeiling, Option.bind_eq_some_iff]

/-- Only requests to register an item go by the name for that. -/
theorem eq_register_of_method? {request : Request}
    (named : request.method? = some "admin_registerItem") :
    ∃ terms, request = .register terms := by
  cases request with
  | register terms => exact ⟨terms, rfl⟩
  | call sender made => cases made <;> simp [method?, methodOfCall] at named
  | ask query => cases query <;> simp [method?, methodOfQuery?] at named
  | _ => simp [method?] at named

end Request

namespace Message

variable {message : Message} {request : Request}

/-- The request that a message is goes by the name of its method. -/
theorem method?_of_request? (read : message.request? = some request) :
    request.method? = some message.method := by
  obtain ⟨reader, known, done⟩ := Option.bind_eq_some_iff.1 read
  exact Request.method?_of_reader? known done

/-- The item that a message relists, if it is one to do so. -/
def relists? (message : Message) : Option ItemId :=
  if message.method = "admin_relistItem" then
    Request.one? "item_id" (Json.nat? 64) message.parameters
  else none

/-- The terms that a message registers, if it is one to do so. -/
def registers? (message : Message) : Option Registration :=
  if message.method = "admin_registerItem" then
    Request.one? "params" Wire.decode message.parameters
  else none

/-- A message is a request with a single parameter if it goes by its name and has the parameter. -/
theorem request?_eq_wrap_iff {α : Type} {method : String} {one : Option Json → Option α}
    {wrap : α → Request} {value : α}
    (known : Request.reader? method = some fun sent => do return wrap (← one sent))
    (goes : (wrap value).method? = some method) (injective : ∀ a b, wrap a = wrap b → a = b) :
    message.request? = some (wrap value) ↔
      (if message.method = method then one message.parameters else none) = some value := by
  have request?_eq (named : message.method = method) :
      message.request? = (one message.parameters).bind fun value => some (wrap value) := by
    rw [request?, named, known]
    rfl
  constructor
  · intro read
    have named := Option.some.inj ((method?_of_request? read).symm.trans goes)
    rw [request?_eq named] at read
    obtain ⟨found, one_eq, same⟩ := Option.bind_eq_some_iff.1 read
    rw [if_pos named, one_eq, injective found value (Option.some.inj same)]
  · by_cases named : message.method = method
    · rw [if_pos named, request?_eq named]
      intro one_eq
      rw [one_eq, Option.bind_some]
    · rw [if_neg named]
      exact nofun

theorem request?_eq_relist_iff {id : ItemId} :
    message.request? = some (.relist id) ↔ message.relists? = some id :=
  request?_eq_wrap_iff rfl rfl fun _ _ same => Request.relist.inj same

theorem request?_eq_register_iff {terms : Registration} :
    message.request? = some (.register terms) ↔ message.registers? = some terms :=
  request?_eq_wrap_iff rfl rfl fun _ _ same => Request.register.inj same

end Message

namespace Node

/-- What a node replies to a message, and the node after it. -/
def receive (node : Node) (message : Message) : Except NodeFailure Json × Node :=
  node.serveMethod message.method message.parameters

/-- A node after some messages. -/
def run (node : Node) (messages : List Message) : Node :=
  messages.foldl (fun node message => (node.receive message).2) node

/-- The messages to a node one after the other, each with its reply. -/
def exchange (node : Node) : List Message → List (Message × Except NodeFailure Json)
  | [] => []
  | message :: rest =>
    (message, (node.receive message).1) :: (node.receive message).2.exchange rest

/-- The item that terms would be registered as. -/
def itemFor (node : Node) (terms : Registration) : Item :=
  itemOf terms node.nextItemId (Window.initialWorkflow ⟨terms.opens, terms.closes⟩ node.clock)

/-- What serving a request can do: what is replied, and the node after it. -/
inductive Handled (node : Node) : Request → Except NodeFailure Reply → Node → Prop where
  | clockSet {now : Instant} :
      Handled node (.setClock now) (.ok (.clock ⟨now⟩)) { node with clock := now }
  | clockAdvanced {seconds : Int} {now : Instant}
      (moved : node.clock.plusSeconds seconds = .ok now) :
      Handled node (.advanceClock seconds) (.ok (.clock ⟨now⟩)) { node with clock := now }
  | clockStuck {seconds : Int} {fault : Fault}
      (stuck : node.clock.plusSeconds seconds = .error fault) :
      Handled node (.advanceClock seconds) (.error (.faulted fault)) node
  | registered {terms : Registration} (valid : (node.itemFor terms).problems = []) :
      Handled node (.register terms) (.ok (.registered node.nextItemId))
        { node with
          store := node.store.insertItem (node.itemFor terms)
          nextItemId := node.nextItemId + 1 }
  | notRegistered {terms : Registration} {error : RpcError}
      (invalid : (node.itemFor terms).problems ≠ []) :
      Handled node (.register terms) (.error (.refused error)) node
  | relisted {id : ItemId} {round : Round} {next : Store}
      (opened : node.store.relist id = .ok (round, next)) :
      Handled node (.relist id) (.ok (.relisted round)) { node with store := next }
  | notRelisted {id : ItemId} {stop : Stop} (failed : node.store.relist id = .error stop) :
      Handled node (.relist id) (.error (.ofStop stop)) node
  | workflowPut {id : ItemId} {item : Item} {workflow : Workflow}
      (listed : node.store.item? id = some item) :
      Handled node (.setWorkflow id workflow) (.ok .workflowSet)
        { node with store := node.house.step node.store (.setWorkflow id workflow) }
  | workflowNotPut {id : ItemId} {workflow : Workflow} {error : RpcError}
      (missing : node.store.item? id = none) :
      Handled node (.setWorkflow id workflow) (.error (.refused error)) node
  | called {sender : UserId} {call : Call} :
      Handled node (.call sender call)
        (((node.house.perform node.store ⟨sender, node.clock⟩ call).1.mapError .ofStop).map
          .outcome)
        { node with store := node.house.step node.store (.call ⟨sender, node.clock⟩ call) }
  | answered {query : Query} {answer : Except NodeFailure Answer} :
      Handled node (.ask query) (answer.map .answer) node

theorem perform_eq {α : Type} (node : Node) (action : Action α) :
    node.perform action = ((action { store := node.store }).1.mapError .ofStop,
      { node with store := (action { store := node.store }).2.store }) := rfl

/-- A request is handled in one of these ways. -/
theorem handled (node : Node) (request : Request) :
    Handled node request (node.serve request).1 (node.serve request).2 := by
  cases request with
  | setClock now => exact .clockSet
  | advanceClock seconds =>
    simp only [serve, serve.named, advance]
    cases moved : node.clock.plusSeconds seconds with
    | error fault => exact .clockStuck moved
    | ok now => exact .clockAdvanced moved
  | register terms =>
    have problems_eq : (itemOf terms node.nextItemId
      (Window.initialWorkflow ⟨terms.opens, terms.closes⟩ node.clock)).problems =
        (node.itemFor terms).problems := rfl
    simp only [serve, serve.named, register, problems_eq]
    cases found : (node.itemFor terms).problems with
    | nil => exact .registered found
    | cons first rest => exact .notRegistered fun none_found => by simp [none_found] at found
  | relist id =>
    simp only [serve, serve.named, change]
    cases relisted : node.store.relist id with
    | error stop => exact .notRelisted relisted
    | ok opened => exact .relisted relisted
  | setWorkflow id workflow =>
    cases listed : node.store.item? id with
    | none =>
      simp only [serve, serve.named, Store.setWorkflow, listed]
      exact .workflowNotPut listed
    | some item =>
      have stepped : Handled node (.setWorkflow id workflow) _ _ := .workflowPut listed
      simp only [House.step, Store.setWorkflow, listed] at stepped
      simp only [serve, serve.named, Store.setWorkflow, listed]
      exact stepped
  | call sender call =>
    exact .called
  | ask query =>
    have same := House.reads_answer node.house node.clock query { store := node.store }
    simp only [serve, serve.named, perform_eq, same]
    exact .answered

/-- What receiving a message can do: what is replied, and the node after it. -/
inductive Received (node : Node) (message : Message) : Except NodeFailure Json → Node → Prop where
  | unread {error : RpcError} (unread : message.request? = none) :
      Received node message (.error (.refused error)) node
  | handled {request : Request} {reply : Except NodeFailure Reply} {after : Node}
      (read : message.request? = some request) (handled : Handled node request reply after) :
      Received node message (reply.map Reply.encode) after

/-- A message is received in one of these ways. -/
theorem received (node : Node) (message : Message) :
    Received node message (node.receive message).1 (node.receive message).2 := by
  unfold receive serveMethod
  cases known : Request.reader? message.method with
  | none => exact .unread (by simp [Message.request?, known])
  | some read =>
    have read_eq : message.request? = read message.parameters := by
      simp [Message.request?, known]
    simp only
    cases done : read message.parameters with
    | none => exact .unread (read_eq.trans done)
    | some request => exact .handled (read_eq.trans done) (handled node request)

end Node

end AuctionHouse
