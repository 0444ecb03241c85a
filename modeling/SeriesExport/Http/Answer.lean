import SeriesExport.Http.Body
import SeriesExport.Http.MediaType
import SeriesExport.Http.Request

/-!
# Answers

What the server sends back until it closes the connection: a head, and what follows it (`Answer.ofBytes?`). The body is
read only from the answer that counts, since others only say where to go next (`Answer.response?`).
-/

namespace SeriesExport.Http

structure Answer where
  head : Head
  framing : Framing
  /-- what follows the head -/
  rest : List UInt8

namespace Answer

/-- The answer in what the server has sent. -/
def ofBytes? (bytes : List UInt8) : Option Answer := do
  let (head, rest) ← readHead [] [] bytes
  return ⟨head, ← head.framing?, rest⟩

/-- The status and the text of the body. -/
def response? (a : Answer) : Option Response := do
  let body ← a.framing.read? a.rest
  return ⟨UInt16.ofNat a.head.status, String.ofList ((charsetOf a.head.headers).decode body)⟩

def reply (a : Answer) : Reply :=
  match a.response? with
  | some response => .answered response
  | none => .failed .connection

end Answer

/-- A response as a server sends it that says how long the body is and then closes the connection. -/
def responseBytes (r : Response) : List UInt8 :=
  let head := "HTTP/1.1 " ++ toString r.status ++ " X\r\nContent-Length: " ++ toString r.body.utf8ByteSize ++
    "\r\nConnection: close\r\n\r\n"
  (head ++ r.body).toUTF8.data.toList

end SeriesExport.Http
