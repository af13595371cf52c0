import AntiScrapling.ClientHello
import AntiScrapling.Fingerprint
import AntiScrapling.GoText
import AntiScrapling.Request
import Mathlib.Data.List.Sort
import Mathlib.Order.Defs.LinearOrder

/-! JA3 and JA4 fingerprints and the tls collector (`internal/signal/tls`).  MD5 and
SHA-256 are parameters.  A JA4 is a byte string, because it quotes two bytes of the
client's first protocol name. -/
namespace AntiScrapling
namespace TlsFingerprint

open ByteCodec ClientHello UnicodeText GoText

section Strings

def greaseValues : List UInt16 := [0x0a0a,0x1a1a,0x2a2a,0x3a3a,0x4a4a,0x5a5a,0x6a6a,0x7a7a,
  0x8a8a,0x9a9a,0xaaaa,0xbaba,0xcaca,0xdada,0xeaea,0xfafa]

def isGREASE (v : UInt16) : Bool := v ∈ greaseValues

def filterGREASE (vs : List UInt16) : List UInt16 := vs.filter fun v => !isGREASE v

def extensionIDs (es : List Extension) : List UInt16 := es.map Extension.type

def joinUint16s (vs : List UInt16) (sep : String) : String :=
  String.intercalate sep (vs.map fun v => toString v.toNat)

def joinUint8s (vs : List UInt8) (sep : String) : String :=
  String.intercalate sep (vs.map fun v => toString v.toNat)

def ja3String (hello : Hello) : String := String.intercalate "," [
  toString hello.version.toNat,
  joinUint16s (filterGREASE hello.cipherSuites) "-",
  joinUint16s (filterGREASE (extensionIDs hello.extensions)) "-",
  joinUint16s (filterGREASE hello.supportedCurves) "-",
  joinUint8s hello.supportedPoints "-"]

def ja3Hash (md5 : Bytes → Bytes) (ja3 : String) : String := hexOfBytes (md5 (utf8 ja3))

def tlsEmptyRenegotiationInfoSCSV : UInt16 := 0x00ff

def filterJA4Ciphers (vs : List UInt16) : List UInt16 :=
  vs.filter fun v => !(isGREASE v || v == tlsEmptyRenegotiationInfoSCSV)

def maxTLSVersion (hello : Hello) : UInt16 :=
  hello.supportedVersions.foldl
    (fun best v => if isGREASE v then best else if v > best then v else best) hello.version

def ja4TLSVersion (v : UInt16) : String :=
  if v = 0x0304 then "13" else if v = 0x0303 then "12" else if v = 0x0302 then "11"
  else if v = 0x0301 then "10" else "00"

def ja4SNIType (hello : Hello) : String := if hello.serverName = [] then "i" else "d"

def ja4ALPN (protocols : List Bytes) : Bytes :=
  match protocols with
  | (b::bs)::_ => [b,(b::bs).getLast (List.cons_ne_nil _ _)]
  | _ => utf8 "00"

def sortedUint16s (vs : List UInt16) : List UInt16 := vs.insertionSort (· ≤ ·)

def ja4ExtensionHashInput (extensions signatureAlgorithms : List UInt16) : String :=
  joinUint16s (sortedUint16s (extensions.filter fun e => !(e == 0 || e == 16))++signatureAlgorithms) ","

/-- `%02d`. -/
def twoDigits (n : ℕ) : String := if n < 10 then "0" ++ toString n else toString n

variable (sha256 : Bytes → Bytes)

def sha256Truncated12 (s : String) : String := String.ofList ((hexOfBytes (sha256 (utf8 s))).toList.take 12)

def ja4String (hello : Hello) : Bytes :=
  let ciphers := filterJA4Ciphers hello.cipherSuites
  let extensions := filterGREASE (extensionIDs hello.extensions)
  utf8 ("t" ++ ja4TLSVersion (maxTLSVersion hello) ++ ja4SNIType hello ++ twoDigits ciphers.length ++
      twoDigits extensions.length) ++
    ja4ALPN hello.supportedProtos ++
    utf8 ("_" ++ sha256Truncated12 sha256 (joinUint16s (sortedUint16s ciphers) ",") ++ "_" ++
      sha256Truncated12 sha256 (ja4ExtensionHashInput extensions hello.signatureAlgorithms))

end Strings

section Families

/-- Where a TLS stack comes from, and whether it is denied. -/
structure FamilyInfo where
  family : String
  deny : Bool := false

def ja3Families : List (String × FamilyInfo) := [
  ("cd08e31494f9531f560d64c695473da9",{family := "chrome"}),
  ("e1d8b04eeb8ef3954ec4f49267a783ef",{family := "chrome"}),
  ("0b935e9b934ada81b2e407784c3ef1b0",{family := "firefox"}),
  ("1ad946d825cc9b4e935a7ade8fbb03b3",{family := "firefox"}),
  ("9c4409ff1b0096116f2dcc9e696e1588",{family := "safari"}),
  ("f8bfd03d8fe2b66ec606d235dacb30fa",{family := "python-requests", deny := true}),
  ("29c3e19f41f8747145368dc82464620c",{family := "python-requests", deny := true}),
  ("b32309a26951912be7dba376398abc3b",{family := "python-requests", deny := true}),
  ("786e7ab5b81d05d3931b4871da61da35",{family := "curl", deny := true}),
  ("975b69aeb34b5d47b9684345ca079dec",{family := "curl", deny := true})]

def knownBrowserJA4 : List String := [
  "t13d1516h2_dea800f94266_90347b42e38e",
  "t13d1515h2_dea800f94266_b7c7eda127ef",
  "t13d1715h2_ca21dff6868a_01a254a6f450",
  "t13d1714h2_ca21dff6868a_34e8737d688b",
  "t13d1714h2_ca21dff6868a_7d784a25af34"]

def lookupJA3Family (hash : String) : Option FamilyInfo := ja3Families.lookup (toLower hash)

def lookupDenylistedJA3 (hash : String) : Option FamilyInfo :=
  (lookupJA3Family hash).filter FamilyInfo.deny

def isKnownJA4 (ja4 : Bytes) : Bool := ja4 ∈ knownBrowserJA4.map utf8

def userAgentFamily (userAgent : String) : String :=
  let ua := toLower userAgent
  if contains ua "python-requests" || contains ua "urllib3" then "python-requests"
  else if contains ua "curl" then "curl"
  else if contains ua "firefox/" then "firefox"
  else if contains ua "edg/" || contains ua "opr/" then "chrome"
  else if contains ua "chrome/" || contains ua "chromium/" || contains ua "crios/" then "chrome"
  else if contains ua "safari/" then "safari"
  else ""

def isBrowserFamily (family : String) : Bool := family ∈ ["chrome","firefox","safari"]

end Families

section Collector
variable (md5 sha256 : Bytes → Bytes)

structure Fingerprints where
  ja3 : String
  hash : String
  ja4 : Bytes

/-- A JA3 string has a comma; anything else is taken for its hash. -/
def normalizeJA3 (value : String) : String × String :=
  let value := trimSpace value
  if value = "" then ("","")
  else if contains value "," then (value,ja3Hash md5 value)
  else ("",toLower value)

def contextFingerprints (ctx : RequestContext) : Fingerprints :=
  ⟨(normalizeJA3 md5 ctx.ja3).1,(normalizeJA3 md5 ctx.ja3).2,utf8 (trimSpace ctx.ja4)⟩

def helloFingerprints (hello : Hello) : Fingerprints :=
  ⟨ja3String hello,ja3Hash md5 (ja3String hello),ja4String sha256 hello⟩

/-- A captured ClientHello counts before what the context says. -/
def fingerprints (ctx : RequestContext) : CheckedRun.Run Fingerprints :=
  if ctx.clientHello = [] then .ok (contextFingerprints md5 ctx)
  else (parseClientHello ctx.clientHello).map (helloFingerprints md5 sha256)

def ja3MismatchSignal (reason : String) : Signal := ⟨"ja3_mismatch",40,reason⟩

def contextMismatch (ctx : RequestContext) (fp : Fingerprints) : Bool :=
  ctx.clientHello ≠ [] && (normalizeJA3 md5 ctx.ja3).1 ≠ "" &&
    (normalizeJA3 md5 ctx.ja3).1 ≠ fp.ja3 && (normalizeJA3 md5 ctx.ja3).2 ≠ fp.hash

def requestUserAgent (ctx : RequestContext) : String := (ctx.request.map HttpRequest.userAgent).getD ""

def ja3MismatchByUserAgent (ctx : RequestContext) (hash : String) : Bool :=
  if hash = "" then false
  else
    match lookupJA3Family hash with
    | none => false
    | some info =>
      let uaFamily := userAgentFamily (requestUserAgent ctx)
      isBrowserFamily info.family && isBrowserFamily uaFamily && uaFamily ≠ info.family

def signals (ctx : RequestContext) (fp : Fingerprints) : List Signal :=
  let mismatch := if contextMismatch md5 ctx fp then
    [ja3MismatchSignal "raw ClientHello JA3 differs from request context"] else []
  let scraper := if (lookupDenylistedJA3 fp.hash).isSome then
    [⟨"ja3_known_scraper",100,"JA3 hash matches a known scraper TLS stack"⟩] else []
  let byUserAgent := if ja3MismatchByUserAgent ctx fp.hash && mismatch.isEmpty then
    [ja3MismatchSignal "JA3 browser family conflicts with User-Agent family"] else []
  let unknown := if fp.ja4 ≠ [] && !isKnownJA4 fp.ja4 then
    [⟨"ja4_unknown",30,"JA4 fingerprint is not in the real-browser allowlist"⟩] else []
  mismatch++scraper++byUserAgent++unknown

/-- `Collect` of the tls collector. -/
def collect (ctx : RequestContext) : CheckedRun.Run (List Signal) :=
  (fingerprints md5 sha256 ctx).map (signals md5 ctx)

end Collector

end TlsFingerprint
end AntiScrapling
