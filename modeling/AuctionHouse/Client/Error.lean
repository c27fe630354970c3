import AuctionHouse.Node.Basic

/-!
# Errors of a client

What a client makes of an error that a node answers: a rejection, with the violations that came
with it, or any other error, which it reports as it came.  A node that cannot be reached answers
nothing.
-/

namespace AuctionHouse

/-- Why a client has no answer. -/
inductive ClientError where
  /-- The request breaks rules. -/
  | rejected (message : String) (violations : List ViolationReport)
  /-- The node answers with another error. -/
  | answered (error : RpcError)
  /-- The node answers something else than was asked for. -/
  | unreadable
  /-- The node does not answer. -/
  | unreachable

/-- What a client makes of an error.  Data of a rejection that are not a list of violations count as
none. -/
def ClientError.ofRpc (error : RpcError) : ClientError :=
  if error.code = RpcError.validationCode then
    .rejected error.message ((error.data.bind (Wire.list? Wire.decode)).getD [])
  else
    .answered error

end AuctionHouse
