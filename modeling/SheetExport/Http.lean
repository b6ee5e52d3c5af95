import SheetExport.Text.Bytes
import SheetExport.Url

/-!
# Requests and answers

Status codes, requests and the network that answers them.
-/

/-!
## Status codes

The number at the head of an answer and the words that go with it.
-/

namespace SheetExport.Http

def isSuccess (status : Nat) : Bool := 200 ≤ status && status ≤ 299

def reasons : List (Nat × String) :=
  [(100, "Continue"), (101, "Switching Protocols"), (102, "Processing"), (200, "OK"),
    (201, "Created"), (202, "Accepted"), (203, "Non Authoritative Information"),
    (204, "No Content"), (205, "Reset Content"), (206, "Partial Content"), (207, "Multi-Status"),
    (208, "Already Reported"), (226, "IM Used"), (300, "Multiple Choices"),
    (301, "Moved Permanently"), (302, "Found"), (303, "See Other"), (304, "Not Modified"),
    (305, "Use Proxy"), (307, "Temporary Redirect"), (308, "Permanent Redirect"),
    (400, "Bad Request"), (401, "Unauthorized"), (402, "Payment Required"), (403, "Forbidden"),
    (404, "Not Found"), (405, "Method Not Allowed"), (406, "Not Acceptable"),
    (407, "Proxy Authentication Required"), (408, "Request Timeout"), (409, "Conflict"),
    (410, "Gone"), (411, "Length Required"), (412, "Precondition Failed"),
    (413, "Payload Too Large"), (414, "URI Too Long"), (415, "Unsupported Media Type"),
    (416, "Range Not Satisfiable"), (417, "Expectation Failed"), (418, "I'm a teapot"),
    (421, "Misdirected Request"), (422, "Unprocessable Entity"), (423, "Locked"),
    (424, "Failed Dependency"), (425, "Too Early"), (426, "Upgrade Required"),
    (428, "Precondition Required"), (429, "Too Many Requests"),
    (431, "Request Header Fields Too Large"), (451, "Unavailable For Legal Reasons"),
    (500, "Internal Server Error"), (501, "Not Implemented"), (502, "Bad Gateway"),
    (503, "Service Unavailable"), (504, "Gateway Timeout"), (505, "HTTP Version Not Supported"),
    (506, "Variant Also Negotiates"), (507, "Insufficient Storage"), (508, "Loop Detected"),
    (510, "Not Extended"), (511, "Network Authentication Required")]

def reason? (status : Nat) : Option String := reasons.lookup status

def statusText (status : Nat) : String :=
  toString status ++ " " ++ (reason? status).getD "<unknown status code>"

end SheetExport.Http

/-!
## The network

A network answers requests one after the other and keeps those that were
delivered. Secure requests are delivered by a secure network only. A request to
which no reply is left is not answered. `Draft.request` turns what is to be sent
into a request or says why it cannot be sent at all.
-/

namespace SheetExport.Http

/-- A request as delivered. -/
structure Request where
  verb : String
  url : String
  authorization : List String
  contentType : Option String
  body : String
  deriving DecidableEq, Repr

/-- What becomes of a request that is delivered. The body of an answer is text, and
no answer names another address, so a redirection is not followed. -/
inductive Reply where
  | answer (status : Nat) (body : String)
  | dropped
  deriving DecidableEq, Repr

/-- The replies to come and the requests delivered, the first one first, and
whether secure requests are delivered too. -/
structure Network where
  replies : List Reply := []
  delivered : List Request := []
  secure : Bool := false
  deriving DecidableEq, Repr, Inhabited

/-- Why there is no answer to a request. -/
inductive Fault where
  | malformed
  | refused (url : String)
  | unanswered (url : String)
  deriving DecidableEq, Repr

def Fault.message : Fault → String
  | .malformed => "builder error"
  | .refused url => "builder error for url (" ++ url ++ ")"
  | .unanswered url => "error sending request for url (" ++ url ++ ")"

/-- What is to be sent. -/
structure Draft where
  verb : String
  url : Url
  query : List (String × String) := []
  authorization : List String := []
  contentType : Option String := none
  body : String := ""

namespace Draft

/-! ### Users in addresses -/

/-- The text of bytes, if they are one. -/
def decoded? (cs : List Char) : Option String :=
  let bs := Url.percentDecode cs
  let text := Text.Utf8.decodeLossy bs
  if Text.Utf8.encode text = bs then some (String.ofList text) else none

def filled (bs : List UInt8) : String :=
  let digits := Text.Base64.standard.encode bs
  String.ofList (digits ++ List.replicate ((4 - digits.length % 4) % 4) '=')

/-- The header for the user of an address, and the address without. -/
def takeUser (u : Url) : List String × Url :=
  match u.authority with
  | none => ([], u)
  | some a =>
    match decoded? a.user with
    | none => ([], u)
    | some name =>
      let password := a.password.bind decoded?
      if name = "" && password.isNone then ([], u)
      else
        (["Basic " ++ filled (Text.Utf8.ofString (name ++ ":" ++ password.getD ""))],
          { u with authority := some { a with user := [], password := none } })

/-! ### Checks -/

def urlLimit : Nat := 65535

/-- A host that can be sent. -/
def isSendable (u : Url) : Bool :=
  match u.authority with
  | some a => !a.host.chars.any fun c => ['"', '\x60', '\x7b', '\x7d'].contains c
  | none => false

def isHeader (s : String) : Bool :=
  s.toList.all fun c => c == '\t' || (0x20 ≤ c.toNat && c.toNat ≠ 0x7F)

/-- The address as sent: without its fragment. -/
def target (u : Url) : String := { u with fragment := none : Url }.text

/-- The request of a draft, with the address that errors show and whether it is
a secure one. -/
def request (d : Draft) : Except Fault (Request × String × Bool) := do
  if d.url.host?.isNone then throw (.refused d.url.text)
  let (user, bare) := takeUser d.url
  let url := if d.query = [] then bare else bare.addPairs d.query
  if !d.authorization.all isHeader then throw .malformed
  let shown := url.text
  let secure := url.scheme = "https".toList
  if !secure && url.scheme ≠ "http".toList then throw (.refused shown)
  if !isSendable url || urlLimit ≤ Text.Utf8.size url.chars then throw (.refused shown)
  return (⟨d.verb, target url, user ++ d.authorization, d.contentType, d.body⟩, shown, secure)

end Draft

namespace Network

/-- Sends a draft: the status and body of the answer, and the network after. -/
def send (n : Network) (d : Draft) : Except Fault (Nat × String) × Network :=
  match d.request with
  | .error e => (.error e, n)
  | .ok (r, shown, secure) =>
    if secure && !n.secure then (.error (.unanswered shown), n)
    else
      match n.replies with
      | [] => (.error (.unanswered shown), n)
      | .dropped :: rest =>
        (.error (.unanswered shown), { n with replies := rest, delivered := n.delivered ++ [r] })
      | .answer status body :: rest =>
        (.ok (status, body), { n with replies := rest, delivered := n.delivered ++ [r] })

end Network

end SheetExport.Http
