import CloudAudit.Web.Escape
import CloudAudit.Web.MediaType
/-!
# Requests over the network

A request as it arrives: method, target, headers and body.
-/
set_option autoImplicit false

namespace CloudAudit.Web

/-- The methods that some endpoint answers, and all others. -/
inductive Method where
  | get
  | head
  | post
  | put
  | delete
  | other (name : String)
  deriving DecidableEq, Repr, Inhabited

namespace Method

/-- The method of a name; names are in upper case. -/
def ofName (name : String) : Method :=
  match name with
  | "GET" => .get
  | "HEAD" => .head
  | "POST" => .post
  | "PUT" => .put
  | "DELETE" => .delete
  | unlisted => .other unlisted

/-- The method that decides what happens: `HEAD` asks for what `GET` does. -/
def effective : Method → Method
  | .head => .get
  | method => method

end Method

structure Request where
  method : Method
  /-- Path and query. -/
  target : String
  /-- Header names in lower case, with their values. -/
  headers : List (String × String) := []
  body : String := ""
  deriving Repr, Inhabited

namespace Request

def callerHeader : String := "x-posture-user"

/-- Characters that the value of a header may hold to be read as text. -/
def isVisible (c : Char) : Bool :=
  c == '\t' || (0x20 ≤ c.toNat && c.toNat < 0x7F)

def header? (request : Request) (name : String) : Option String :=
  (request.headers.lookup name).filter fun value => value.toList.all isVisible

def address (request : Request) : List Char :=
  request.target.toList.takeWhile (· != '#')

def path (request : Request) : String :=
  .ofList (request.address.takeWhile (· != '?'))

def query (request : Request) : String :=
  .ofList ((request.address.dropWhile (· != '?')).drop 1)

def caller? (request : Request) : Option String :=
  request.header? callerHeader

def saysJson (request : Request) : Bool :=
  match (request.header? "content-type").bind MediaType.ofText? with
  | some media => media.isJson
  | none => false

end Request

end CloudAudit.Web
