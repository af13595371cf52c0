import AntiScrapling.Fingerprint
import AntiScrapling.HostPort
import AntiScrapling.IpAddress
import AntiScrapling.LruCache
import AntiScrapling.Request

/-! The ip collector (`internal/signal/ip`).  The embedded ASN database is empty, so the
table of known networks decides.  The collector's cache holds what it would compute
again, so the collector is the one without a cache. -/
namespace AntiScrapling
namespace IpReputation

open IpAddress

inductive Category
  | datacenter
  | residential
  | mobile
  | hosting
  | unknown
  deriving DecidableEq, Repr

def Category.text : Category → String
  | .datacenter => "datacenter"
  | .residential => "residential"
  | .mobile => "mobile"
  | .hosting => "hosting"
  | .unknown => "unknown"

structure ASNResult where
  asn : ℕ := 0
  org : String := ""
  deriving DecidableEq, Repr

structure Network where
  base : BitVec 32
  bits : ℕ
  asn : ℕ
  org : String

def network (a b c d bits asn : ℕ) (org : String) : Network :=
  ⟨BitVec.ofNat 32 (((a*256+b)*256+c)*256+d),bits,asn,org⟩

def Network.contains (n : Network) (v : BitVec 32) : Bool := v >>> (32-n.bits) = n.base >>> (32-n.bits)

def fallbackTable : List Network := [
  network 3 0 0 0 8 16509 "Amazon.com Inc.",
  network 18 0 0 0 8 14618 "Amazon Technologies Inc.",
  network 52 0 0 0 8 16509 "Amazon.com Inc.",
  network 54 0 0 0 8 16509 "Amazon.com Inc.",
  network 100 24 0 0 13 39111 "Amazon Data Services NoVa",
  network 34 0 0 0 8 15169 "Google LLC",
  network 35 0 0 0 8 15169 "Google LLC",
  network 104 196 0 0 14 396982 "Google LLC",
  network 20 0 0 0 8 8075 "Microsoft Corporation",
  network 40 0 0 0 8 8075 "Microsoft Corporation",
  network 67 205 0 0 16 14061 "DigitalOcean LLC",
  network 68 183 0 0 16 14061 "DigitalOcean LLC",
  network 157 245 0 0 16 14061 "DigitalOcean LLC",
  network 45 33 0 0 17 63949 "Akamai Connected Cloud",
  network 139 162 0 0 16 63949 "Akamai Connected Cloud",
  network 5 9 0 0 16 24940 "Hetzner Online GmbH",
  network 88 99 0 0 16 24940 "Hetzner Online GmbH",
  network 195 201 0 0 16 24940 "Hetzner Online GmbH",
  network 5 135 0 0 16 16276 "OVH SAS",
  network 91 121 0 0 16 16276 "OVH SAS",
  network 45 63 0 0 16 20473 "Vultr Holdings LLC",
  network 45 77 0 0 16 20473 "Vultr Holdings LLC",
  network 1 1 1 0 24 13335 "Cloudflare Inc.",
  network 104 16 0 0 13 13335 "Cloudflare Inc."]

/-- `LookupASN` of an address. -/
def lookupASN (ip : IP) : ASNResult :=
  match to4 ip with
  | none => {}
  | some v =>
    match fallbackTable.find? fun n => n.contains v with
    | some n => ⟨n.asn,n.org⟩
    | none => {}

def knownASNCategories : List (ℕ × Category) := [
  (16509,.datacenter),(14618,.datacenter),(39111,.datacenter),(15169,.datacenter),
  (396982,.datacenter),(8075,.datacenter),(14061,.datacenter),(63949,.datacenter),
  (24940,.datacenter),(16276,.datacenter),(20473,.datacenter),(13335,.hosting),
  (54113,.hosting),(20940,.hosting)]

def categorize (asn : ℕ) : Category :=
  if asn = 0 then .unknown else (knownASNCategories.lookup asn).getD .unknown

/-- The addresses of `data/tor-exits.txt`. -/
def torExits : List String := ["185.220.101.19","185.220.101.20","185.220.101.21","185.220.101.32",
  "185.220.102.8","45.142.212.100","193.218.118.91"]

def isTorExit (ip : IP) : Bool := some ip ∈ torExits.map parseIP

structure Entry where
  asn : ASNResult
  category : Category
  isTor : Bool

def compute (ip : IP) : Entry := ⟨lookupASN ip,categorize (lookupASN ip).asn,isTorExit ip⟩

def parseRemoteIP (addr : String) : Option IP :=
  if addr = "" then none else parseIP (HostPort.hostOf addr)

/-- What the collector finds out about the address; nothing for addresses that are not public. -/
def derivedEntry (ctx : RequestContext) : Option Entry :=
  match parseRemoteIP ctx.remoteIP with
  | none => none
  | some ip => if isLoopback ip || isPrivate ip || isLinkLocalUnicast ip then none else some (compute ip)

def asnReason (asn : ASNResult) : String := "ASN " ++ toString asn.asn ++ " (" ++ asn.org ++ ")"

def categorySignals (e : Entry) : List Signal :=
  match e.category with
  | .datacenter => [⟨"datacenter_ip",30,asnReason e.asn⟩]
  | .mobile => [⟨"mobile_ip",-5,asnReason e.asn⟩]
  | .residential => [⟨"residential_ip",0,asnReason e.asn⟩]
  | _ => []

def entrySignals (e : Entry) : List Signal :=
  (if e.isTor then [⟨"tor_exit",50,"IP is a known Tor exit node"⟩] else [])++categorySignals e

/-- `Collect` of the ip collector. -/
def collect (ctx : RequestContext) : List Signal := ((derivedEntry ctx).map entrySignals).getD []

section Cached
variable (ipString : IP → String)

/-- `GetOrCompute`; the key is the text that `net.IP` gives. -/
def getOrCompute (cache : LruCache String Entry) (ip : IP) : LruCache String Entry × Entry :=
  match cache.get (ipString ip) with
  | (some entry,cache) => (cache,entry)
  | (none,cache) => (cache.add (ipString ip) (compute ip),compute ip)

/-- `Collect` with its cache. -/
def collectCached (cache : LruCache String Entry) (ctx : RequestContext) :
    LruCache String Entry × List Signal :=
  match parseRemoteIP ctx.remoteIP with
  | none => (cache,[])
  | some ip =>
    if isLoopback ip || isPrivate ip || isLinkLocalUnicast ip then (cache,[])
    else ((getOrCompute ipString cache ip).1,entrySignals (getOrCompute ipString cache ip).2)

/-- Every entry is what would be computed for the addresses with its key. -/
def Computed (cache : LruCache String Entry) : Prop :=
  ∀ ip entry, (ipString ip,entry) ∈ cache.entries → entry = compute ip

variable {ipString} {cache : LruCache String Entry}

theorem getOrCompute_computed (hstring : Function.Injective ipString) (h : Computed ipString cache) (ip : IP) :
    (getOrCompute ipString cache ip).2 = compute ip ∧ Computed ipString (getOrCompute ipString cache ip).1 := by
  have hget := LruCache.get_fst cache (ipString ip)
  have hkept : Computed ipString (cache.get (ipString ip)).2 :=
    fun ip' entry hmem => h ip' entry (LruCache.mem_of_mem_get hmem)
  unfold getOrCompute
  cases hlookup : cache.get (ipString ip) with
  | mk found cache' =>
    rw [hlookup] at hget hkept
    cases found with
    | some entry => exact ⟨h ip entry (LruCache.mem_of_lookup hget.symm),hkept⟩
    | none =>
      refine ⟨rfl,fun ip' entry hmem => ?_⟩
      rcases LruCache.mem_of_mem_add hmem with heq | ⟨hold,-⟩
      · obtain ⟨hkey,rfl⟩ := Prod.mk.inj heq
        rw [hstring hkey]
      · exact hkept ip' entry hold

theorem collectCached_eq (hstring : Function.Injective ipString) (h : Computed ipString cache)
    (ctx : RequestContext) :
    (collectCached ipString cache ctx).2 = collect ctx ∧
      Computed ipString (collectCached ipString cache ctx).1 := by
  unfold collectCached collect derivedEntry
  cases parseRemoteIP ctx.remoteIP with
  | none => exact ⟨rfl,h⟩
  | some ip =>
    obtain ⟨hentry,hcomputed⟩ := getOrCompute_computed hstring h ip
    by_cases hlocal : (isLoopback ip || isPrivate ip || isLinkLocalUnicast ip) = true
    · simp only [hlocal,if_true]
      exact ⟨rfl,h⟩
    · simp only [hlocal,if_false,hentry,Bool.false_eq_true]
      exact ⟨rfl,hcomputed⟩

/-- Whatever was collected before, an address gives the signals of the collector without a
cache. -/
theorem collectCached_run (hstring : Function.Injective ipString) (size : ℕ) (before : List RequestContext)
    (ctx : RequestContext) :
    (collectCached ipString (before.foldl (fun cache ctx => (collectCached ipString cache ctx).1) (.new size))
      ctx).2 = collect ctx := by
  refine (collectCached_eq hstring ?_ ctx).1
  have hrun : ∀ cache, Computed ipString cache →
      Computed ipString (before.foldl (fun cache ctx => (collectCached ipString cache ctx).1) cache) := by
    induction before with
    | nil => exact fun _ h => h
    | cons ctx before ih => exact fun cache h => ih _ (collectCached_eq hstring h ctx).2
  exact hrun _ fun _ _ hmem => absurd hmem List.not_mem_nil

end Cached

end IpReputation
end AntiScrapling
