import AuctionHouse.Client.Error
import AuctionHouse.Client.Quoted
import AuctionHouse.Json.Printer

/-!
# Errors in words

What the command line says when a node gives no answer.  An error that is no rejection is shown with
all its parts, its message between quotation marks.

This is for the eye only: which errors are told apart, and what is left of the violations, is
settled by `ClientError.ofRpc` before anything is shown.
-/

namespace AuctionHouse

/-- The name of a code of an error. -/
def RpcError.codeName (code : Int) : String :=
  if code = -32700 then "ParseError"
  else if code = -32007 then "OversizedRequest"
  else if code = -32600 then "InvalidRequest"
  else if code = methodNotFoundCode then "MethodNotFound"
  else if code = invalidParamsCode then "InvalidParams"
  else if code = -32603 then "InternalError"
  else "ServerError(" ++ code.repr ++ ")"

/-- An error with all its parts.  Data that are null are shown, unlike no data. -/
def RpcError.describe (error : RpcError) : String :=
  let data := match error.data with
    | none => "None"
    | some data => "Some(RawValue(" ++ data.text ++ "))"
  "ErrorObject \x7b code: " ++ codeName error.code ++ ", message: " ++
    Quoted.quote error.message ++ ", data: " ++ data ++ " \x7d"

/-- What is said of an error. -/
def ClientError.message : ClientError → String
  | rejected message _ => message
  | answered error => "RPC error: " ++ error.describe
  | unreadable => "RPC error: Parse error"
  | unreachable => "RPC error: client error (Connect)"

end AuctionHouse
