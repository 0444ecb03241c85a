import SeriesExport.Config.Load
import SeriesExport.Dialogue
import SeriesExport.Json.Decode

/-!
# Asking the server

`Client.get` sends one request and sorts the reply: a status between 200 and 299 gives the body, 401 means that the
session is not accepted, and any other status is an error with the server's message, if the body has one.
-/

namespace SeriesExport.Client

/-- What is said if the server gives no message. -/
def genericMessage : String := "Request could not be initialized."

/-- The message of an error body: a JSON object whose member `message` is a text, and not an empty one. -/
def serverMessage? (body : String) : Option String := do
  let value ← (Json.Decoder.value.decode body).toOption
  let message ← (← value.member? "message").string?
  if message = "" then none else some message

/-- The error for a status that is neither success nor 401; `address` says what was asked for. -/
def rejection (status : UInt16) (body address : String) : ExportError :=
  .rejected status ((serverMessage? body).getD (genericMessage ++ "\n" ++ address))

def get (config : Config) (path : String) (query : Query) : Dialogue (Result String) := do
  let token ← Dialogue.getToken
  let request : Request := ⟨config.apiUrl, path, query, config.authHeader, token, config.timeout⟩
  match ← Dialogue.send request with
  | .failed failure => return .error (.transport failure)
  | .answered response =>
    if response.isSuccess then return .ok response.body
    else if response.status = 401 then
      Dialogue.refuseSession
      return .error .unauthorized
    else return .error (rejection response.status response.body request.pathAndQuery)

end SeriesExport.Client
