import AntiScrapling.ByteCodec
import AntiScrapling.StringMap

/-! What is known of a request (`internal/types/request.go`). -/
namespace AntiScrapling

/-- `http.Header`: values by canonical name. -/
abbrev Header := StringMap (List String)

def Header.get (h : Header) (name : String) : String := ((h.lookup name).bind List.head?).getD ""

/-- The parts of `http.Request` that are read. -/
structure HttpRequest where
  method : String
  host : String
  /-- `URL.Path`, if there is a URL. -/
  path : Option String
  header : Header
  remoteAddr : String

def HttpRequest.userAgent (r : HttpRequest) : String := Header.get r.header "User-Agent"

structure RequestContext where
  request : Option HttpRequest := none
  remoteIP : String := ""
  /-- The ClientHello as it was captured at the handshake. -/
  clientHello : ByteCodec.Bytes := []
  ja3 : String := ""
  ja4 : String := ""
  headers : Header := .empty
  /-- The header names in the order in which they came. -/
  headerOrder : List String := []

end AntiScrapling
