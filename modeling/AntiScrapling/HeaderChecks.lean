import AntiScrapling.Binary64
import AntiScrapling.CheckedRun
import AntiScrapling.Fingerprint
import AntiScrapling.Request

/-! The headers collector (`internal/signal/headers`).  The host of a referer is what
`url.Parse` says it is, a parameter. -/
namespace AntiScrapling
namespace HeaderChecks

open Binary64 UnicodeText

section Order

def chromeOrder : List String := ["host","connection","sec-ch-ua","sec-ch-ua-mobile",
  "sec-ch-ua-platform","upgrade-insecure-requests","user-agent","accept","sec-fetch-site",
  "sec-fetch-mode","sec-fetch-user","sec-fetch-dest","accept-encoding","accept-language"]

def firefoxOrder : List String := ["host","user-agent","accept","accept-language","accept-encoding",
  "connection","upgrade-insecure-requests","sec-fetch-dest","sec-fetch-mode","sec-fetch-site",
  "sec-fetch-user"]

def safariOrder : List String := ["host","connection","accept","user-agent","accept-language",
  "accept-encoding"]

def canonicalOrders : List (List String) := [chromeOrder,firefoxOrder,safariOrder]

/-- How many of the canonical headers are found in order, from the index `ci` on. -/
def subsequenceFrom (ci : ℕ) (canonical : List String) : List String → ℕ
  | [] => ci
  | h::observed =>
    match canonical with
    | [] => ci
    | c::canonical' =>
      if h = c then subsequenceFrom (ci+1) canonical' observed
      else subsequenceFrom ci canonical observed

def subsequenceScore (observed canonical : List String) : ℕ := subsequenceFrom 0 canonical observed

/-- `int(float64(n) * 0.60)` for the lengths of the canonical orders. -/
def matchThreshold (n : ℕ) : ℕ := n*60/100

def matchesAnyCanonical (observedOrder : List String) : Bool :=
  canonicalOrders.any fun canonical =>
    subsequenceScore (observedOrder.map toLower) canonical ≥ matchThreshold canonical.length

def isOrderAnomaly (observedOrder : List String) : Option String :=
  if matchesAnyCanonical observedOrder then none
  else if observedOrder.length < 8 then
    some "fewer than 8 headers and no browser canonical pattern matched"
  else some "header order does not match any known browser canonical sequence"

end Order

section ClientHints

/-- The digits after the first `Chrome/` that has some. -/
def chromeVersion : List Char → Option (List Char)
  | [] => none
  | c::cs =>
    let rest := (c::cs).drop 7
    if "Chrome/".toList <+: c::cs ∧ rest.head?.any Char.isDigit then some (rest.takeWhile Char.isDigit)
    else chromeVersion cs

/-- A match of `"([^"]+)";v="(\d+)"` at the start, and what follows it. -/
def brandAt (cs : List Char) : Option ((List Char × List Char) × List Char) :=
  match cs with
  | '"'::cs =>
    let brand := cs.takeWhile (· ≠ '"')
    match cs.dropWhile (· ≠ '"') with
    | '"' :: ';' :: 'v' :: '=' :: '"' :: cs =>
      let version := cs.takeWhile Char.isDigit
      match cs.dropWhile Char.isDigit with
      | '"'::rest => if brand.isEmpty || version.isEmpty then none else some ((brand,version),rest)
      | _ => none
    | _ => none
  | _ => none

/-- All brands of the header, read with at most `fuel` steps. -/
def brands : ℕ → List Char → List (List Char × List Char)
  | 0,_ => []
  | _,[] => []
  | fuel+1,c::cs =>
    match brandAt (c::cs) with
    | some (b,rest) => b::brands fuel rest
    | none => brands fuel cs

/-- The versions by brand; of two with one brand the later one stays. -/
def parseSECCHUA (value : String) : StringMap String :=
  (brands value.length value.toList).foldl
    (fun m b => m.insert (String.ofList b.1) (String.ofList b.2)) .empty

def chromeBrands : List String := ["Google Chrome","Chromium","Microsoft Edge"]

def checkUACHConsistency (h : Header) : Option String :=
  let ua := Header.get h "User-Agent"
  let secCHUA := Header.get h "Sec-Ch-Ua"
  if secCHUA = "" then none
  else
    match chromeVersion ua.toList with
    | none =>
      if contains (toLower ua) "firefox" || contains (toLower ua) "safari" then
        some ("sec-ch-ua present but User-Agent is Firefox or Safari " ++
          "(these browsers do not send Client Hints)")
      else none
    | some version =>
      let chromeVer := String.ofList version
      ((parseSECCHUA secCHUA).entries.find? fun e =>
        chromeBrands.contains e.1 && e.2 ≠ "" && e.2 ≠ chromeVer).map fun e =>
          "sec-ch-ua Chrome brand version (" ++ e.2 ++ ") does not match User-Agent Chrome/" ++ chromeVer

end ClientHints

section SecFetch

def validSecFetchSite : List String := ["cross-site","same-origin","same-site","none"]

def validSecFetchMode : List String := ["cors","navigate","no-cors","same-origin","websocket"]

def validSecFetchDest : List String := ["audio","audioworklet","document","embed","empty","font",
  "frame","iframe","image","manifest","object","paintworklet","report","script","serviceworker",
  "sharedworker","style","track","video","worker","xslt"]

/-- A header that is missing or has one of the given values. -/
def fetchValue (name value : String) (valid : List String) : Option String :=
  if value ≠ "" && !valid.contains value then
    some (name ++ " value '" ++ value ++ "' is not a valid W3C Fetch spec value")
  else none

def fetchUser (user : String) : Option String :=
  if user ≠ "" && user ≠ "?1" then
    some ("Sec-Fetch-User value '" ++ user ++ "' is not valid (only '?1' is allowed)")
  else none

/-- No site, but a page the request comes from. -/
def fetchReferer (site referer : String) : Option String :=
  if site = "none" && referer ≠ "" then
    some ("Sec-Fetch-Site is 'none' but Referer header is present " ++
      "(cross-header inconsistency)")
  else none

def validateSecFetch (h : Header) : Option String :=
  let site := Header.get h "Sec-Fetch-Site"
  let mode := Header.get h "Sec-Fetch-Mode"
  let dest := Header.get h "Sec-Fetch-Dest"
  let user := Header.get h "Sec-Fetch-User"
  if site = "" && mode = "" && dest = "" && user = "" then none
  else
    (fetchValue "Sec-Fetch-Site" site validSecFetchSite).or <|
    (fetchValue "Sec-Fetch-Mode" mode validSecFetchMode).or <|
    (fetchValue "Sec-Fetch-Dest" dest validSecFetchDest).or <|
    (fetchUser user).or <| fetchReferer site (Header.get h "Referer")

def detectBrowserForgeQuirk (h : Header) : Option String :=
  let site := Header.get h "Sec-Fetch-Site"
  if site = "?0" || site = "?1" then
    some ("browserforge quirk: Sec-Fetch-Site has boolean-style value '" ++ site ++
      "' (spec requires: none|same-origin|same-site|cross-site)")
  else none

end SecFetch

section Referers

structure IpWindow where
  buf : List Bool
  pos : ℕ
  filled : Bool
  deriving DecidableEq, Repr

structure RefererTracker where
  windows : StringMap IpWindow
  windowSize : ℕ
  threshold : Double

def newIPWindow (windowSize : ℕ) : IpWindow := ⟨List.replicate windowSize false,0,false⟩

def newRefererTracker (windowSize : ℕ) (threshold : Double) : RefererTracker := ⟨.empty,windowSize,threshold⟩

/-- `observe` of one window. -/
def IpWindow.observe (w : IpWindow) (windowSize : ℕ) (threshold : Double) (isGoogle : Bool) : IpWindow × Bool :=
  let buf := w.buf.set w.pos isGoogle
  let wraps := w.pos+1 ≥ windowSize
  let pos := if wraps then 0 else w.pos+1
  let filled := w.filled || wraps
  let n := if filled then windowSize else pos
  (⟨buf,pos,filled⟩,n ≥ 5 && Double.ofNat ((buf.take n).count true)/Double.ofNat n > threshold)

variable (urlHost : String → Option String)

def withoutPort (cs : List Char) : List Char :=
  if ':' ∈ cs then ((cs.reverse.dropWhile (· ≠ ':')).drop 1).reverse else cs

def isGoogleReferer (referer : String) : Bool :=
  if referer = "" then false
  else
    match urlHost referer with
    | none => false
    | some host => contains ("." ++ String.ofList (withoutPort (toLower host).toList) ++ ".") ".google."

def RefererTracker.observe (t : RefererTracker) (ip referer : String) : RefererTracker × Bool :=
  let w := (t.windows.lookup ip).getD (newIPWindow t.windowSize)
  let (w,alert) := w.observe t.windowSize t.threshold (isGoogleReferer urlHost referer)
  ({t with windows := t.windows.insert ip w},alert)

end Referers

section Collector
variable (urlHost : String → Option String)

def signalOf (name : String) (score : ℤ) (reason : Option String) : List Signal :=
  (reason.map fun r => ⟨name,score,r⟩).toList

def orderSignal (ctx : RequestContext) : List Signal :=
  signalOf "header_order_anomaly" 20 (isOrderAnomaly ctx.headerOrder)

/-- `Collect` of the headers collector; without a request it would dereference nil. -/
def collect (t : RefererTracker) (ctx : RequestContext) : CheckedRun.Run (RefererTracker × List Signal) :=
  match ctx.request with
  | none => .error .panic
  | some r =>
    let (t,google) := t.observe urlHost ctx.remoteIP (Header.get r.header "Referer")
    .ok (t,orderSignal ctx++
      signalOf "ua_ch_mismatch" 25 (checkUACHConsistency r.header)++
      signalOf "secfetch_invalid" 15 (validateSecFetch r.header)++
      signalOf "browserforge_quirk" 40 (detectBrowserForgeQuirk r.header)++
      signalOf "google_referer_anomaly" 10 (if google then
        some "Google referer ratio exceeds 80% over the last 100 requests from this IP" else none))

end Collector

end HeaderChecks
end AntiScrapling
