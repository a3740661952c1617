import SignIn.Http.Exchange

/-!
# Messages

A request or a response as the lines of its head and the bytes of its body.
-/

namespace SignIn

/-- A message. -/
structure Message where
  /-- The lines of the head: what is asked for or answered, then one line for each header. -/
  head : List String
  /-- The body. -/
  body : Bytes
deriving DecidableEq

namespace Http

/-- The line of a header. -/
def headerLine (pair : FieldName × FieldValue) : String :=
  String.ofList (pair.1.chars ++ ':' :: ' ' :: Utf8.decodeLossy pair.2.bytes)

/-- The lines of all headers. -/
def Fields.lines (fields : Fields) : List String := fields.pairs.map headerLine

/-- The first line of a request. -/
def Request.line (request : Request) : String :=
  String.ofList request.method.chars ++ " " ++ request.target.text ++ " " ++ request.version.text

/-- A request as a message. -/
def Request.message (request : Request) : Message :=
  ⟨request.line :: request.fields.lines, request.body⟩

/-- The first line of a response. -/
def Response.line (response : Response) : String :=
  response.version.text ++ " " ++ response.status.text

/-- A response as a message. -/
def Response.message (response : Response) : Message :=
  ⟨response.line :: response.fields.lines, response.body⟩

end Http

end SignIn
