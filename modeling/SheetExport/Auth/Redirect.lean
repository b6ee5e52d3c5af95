import SheetExport.Failure
import SheetExport.Url

/-!
# Redirects

The consent of a user arrives as a request of the browser to this machine. Its
first line has the target, whose query carries the state and the code.
`received` collects the request from the pieces in which it arrives,
`firstLine` is its first line and `code` the code in that line, if the request
is authorized; `page` is the answer that the browser shows.
-/

namespace SheetExport.Auth.Redirect

/-! ## The request -/

def sizeLimit : Nat := 16384

def hasBlankLine : List UInt8 → Bool
  | [] => false
  | b :: bs => [13, 10, 13, 10].isPrefixOf (b :: bs) || hasBlankLine bs

def isComplete (bs : List UInt8) : Bool := hasBlankLine bs || sizeLimit ≤ bs.length

/-- The request, from what has arrived and the pieces that are to come. An
empty piece is the end of the connection. -/
def receivedAfter (bs : List UInt8) : List (List UInt8) → List UInt8
  | [] => bs
  | piece :: pieces =>
    if piece = [] then bs
    else if isComplete (bs ++ piece) then bs ++ piece
    else receivedAfter (bs ++ piece) pieces

def received (pieces : List (List UInt8)) : List UInt8 := receivedAfter [] pieces

def lineOf (cs : List Char) : List Char :=
  let line := cs.takeWhile (· ≠ '\n')
  if line.length < cs.length && line.getLast? = some '\r' then line.dropLast else line

def firstLine (bs : List UInt8) : String := String.ofList (lineOf (Text.Utf8.decodeLossy bs))

/-! ## The code -/

/-- The address that targets are relative to. -/
def base : Url :=
  { scheme := ['h', 't', 't', 'p']
    authority := some { host := .ipv4 0x7F000001 }
    path := .segments [[]] }

/-- The target of a request line: its second word. -/
def target? (line : String) : Option String :=
  (Text.words line.toList)[1]?.map String.ofList

/-- The last value that goes by a name. -/
def last? (name : String) (ps : List (String × String)) : Option String :=
  ps.reverse.lookup name

/-- The code that pairs carry with a state. -/
def codeIn (state : String) (ps : List (String × String)) : Except Failure String :=
  match ps.lookup "error" with
  | some words => .error (.auth ("Authorization denied: " ++ words))
  | none =>
    if last? "state" ps ≠ some state then .error (.auth "OAuth state mismatch in redirect")
    else
      match last? "code" ps with
      | some code => .ok code
      | none => .error (.auth "Redirect did not include an authorization code")

def code (line state : String) : Except Failure String :=
  match target? line with
  | none => .error (.auth "Malformed redirect request")
  | some target =>
    match Url.resolve base target with
    | .error e => .error (.auth ("Malformed redirect target: " ++ e.message))
    | .ok url => codeIn state url.pairs

/-! ## The answer -/

/-- What the browser shows. -/
def page (authorized : Bool) : String :=
  if authorized then
    "<html><body><h3>Authorization complete.</h3>" ++
      "<p>You can close this window and return to the terminal.</p></body></html>"
  else
    "<html><body><h3>Authorization failed.</h3>" ++
      "<p>Check the terminal for details.</p></body></html>"

def answer (authorized : Bool) : String :=
  "HTTP/1.1 " ++ (if authorized then "200 OK" else "400 Bad Request") ++
    "\r\nContent-Type: text/html; charset=utf-8\r\nContent-Length: " ++
    toString (Text.Utf8.size (page authorized).toList) ++
    "\r\nConnection: close\r\n\r\n" ++ page authorized

end SheetExport.Auth.Redirect
