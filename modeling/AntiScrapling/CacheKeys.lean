import AntiScrapling.ProxyHandler
import AntiScrapling.SeparatedText

/-! What the text under a cache key tells about the request. The text is five parts with
NUL bytes between them; the last part and the digest have none, so the token flag can be
read from the end, and the rest from the front as long as the address and the JA3 have no
NUL byte either. -/
namespace AntiScrapling
namespace CacheKeys

open ByteCodec UnicodeText GoText Pipeline SeparatedText

section Bytes

/-- What `computeCacheKey` reads, as the byte strings that they are. -/
structure KeyParts where
  remoteIP : Bytes
  ja3 : Bytes
  userAgent : Bytes
  path : Bytes
  hasValidToken : Bool

/-- No NUL byte in front of the digest. -/
def KeyParts.NulFree (k : KeyParts) : Prop := 0 ∉ k.remoteIP ∧ 0 ∉ k.ja3

variable (sha256 : Bytes → Bytes)

/-- `uaDigest[:8]`. -/
def KeyParts.digest (k : KeyParts) : Bytes := (sha256 k.userAgent).take 8

/-- `%s\x00%s\x00%x\x00%s\x00%v`. -/
def KeyParts.bytes (k : KeyParts) : Bytes :=
  k.remoteIP++0::(k.ja3++0::(utf8 (hexOfBytes (k.digest sha256))++0::
    (k.path++0::utf8 (toString k.hasValidToken))))

def keyParts (req : RequestContext) (hasValidToken : Bool) : KeyParts :=
  ⟨utf8 req.remoteIP,utf8 req.ja3,utf8 (userAgentOf req),utf8 (pathOf req),hasValidToken⟩

theorem utf8_cacheKeyText (req : RequestContext) (hasValidToken : Bool) :
    utf8 (cacheKeyText sha256 req hasValidToken) = (keyParts req hasValidToken).bytes sha256 := by
  have hnul : utf8 "\x00" = [0] := by decide
  simp only [cacheKeyText,utf8_append,hnul]
  simp [KeyParts.bytes,keyParts,KeyParts.digest]

end Bytes

section ReadBack
variable {sha256 : Bytes → Bytes} {k k' : KeyParts}

theorem nul_notMem_flag (t : Bool) : 0 ∉ utf8 (toString t) := by cases t <;> decide

theorem nul_notMem_hex (d : Bytes) : 0 ∉ utf8 (hexOfBytes d) := by
  have hdigit : ∀ i : Fin 16, (0 : UInt8) ∉ String.utf8EncodeChar (hexDigit i) := by decide
  intro h
  obtain ⟨c,hc,hnul⟩ := mem_utf8.mp h
  obtain ⟨n,rfl⟩ := mem_hexOfBytes hc
  obtain ⟨i,hi⟩ := exists_hexDigit n
  exact hdigit i (hi ▸ hnul)

theorem bytes_cut (h : k.bytes sha256 = k'.bytes sha256) :
    k.remoteIP++0::(k.ja3++0::(utf8 (hexOfBytes (k.digest sha256))++0::k.path)) =
      k'.remoteIP++0::(k'.ja3++0::(utf8 (hexOfBytes (k'.digest sha256))++0::k'.path)) ∧
    utf8 (toString k.hasValidToken) = utf8 (toString k'.hasValidToken) := by
  refine append_cons_cancel_last (nul_notMem_flag _) (nul_notMem_flag _) ?_
  simpa [KeyParts.bytes] using h

theorem flag_of_bytes (h : k.bytes sha256 = k'.bytes sha256) : k.hasValidToken = k'.hasValidToken := by
  have htext := utf8_injective (bytes_cut h).2
  cases hk : k.hasValidToken <;> cases hk' : k'.hasValidToken <;> rw [hk,hk'] at htext <;>
    first | rfl | exact absurd htext (by decide)

theorem parts_of_bytes (h : k.bytes sha256 = k'.bytes sha256) (hk : k.NulFree) (hk' : k'.NulFree) :
    k.remoteIP = k'.remoteIP ∧ k.ja3 = k'.ja3 ∧ k.digest sha256 = k'.digest sha256 ∧ k.path = k'.path := by
  obtain ⟨hip,h₁⟩ := append_cons_cancel hk.1 hk'.1 (bytes_cut h).1
  obtain ⟨hja3,h₂⟩ := append_cons_cancel hk.2 hk'.2 h₁
  obtain ⟨hdigest,hpath⟩ := append_cons_cancel (nul_notMem_hex _) (nul_notMem_hex _) h₂
  exact ⟨hip,hja3,hexOfBytes_injective (utf8_injective hdigest),hpath⟩

theorem nulFree_of_remoteAddr {r : HttpRequest} (h : 0 ∉ utf8 r.remoteAddr) (capture : Option Bytes)
    (t : Bool) : (keyParts (ProxyHandler.buildRequestContext r capture) t).NulFree := by
  have hja3 : 0 ∉ utf8 "" := by decide
  refine ⟨fun hmem => h ?_,hja3⟩
  obtain ⟨c,hc,hnul⟩ := mem_utf8.mp hmem
  exact mem_utf8.mpr ⟨c,HostPort.hostOf_subset _ hc,hnul⟩

/-- Equal texts have equal flags; they have all their parts equal where no address and no
JA3 has a NUL byte, as in every context that the proxy builds. -/
theorem cacheKey_unambiguous (sha256 : Bytes → Bytes) :
    (∀ k k' : KeyParts, k.bytes sha256 = k'.bytes sha256 →
      k.hasValidToken = k'.hasValidToken ∧
      (k.NulFree → k'.NulFree → k.remoteIP = k'.remoteIP ∧ k.ja3 = k'.ja3 ∧
        k.digest sha256 = k'.digest sha256 ∧ k.path = k'.path)) ∧
    (∀ req t, utf8 (cacheKeyText sha256 req t) = (keyParts req t).bytes sha256) ∧
    ∀ r capture t, 0 ∉ utf8 r.remoteAddr →
      (keyParts (ProxyHandler.buildRequestContext r capture) t).NulFree :=
  ⟨fun _ _ h => ⟨flag_of_bytes h,parts_of_bytes h⟩,utf8_cacheKeyText sha256,
    fun _ capture t h => nulFree_of_remoteAddr h capture t⟩

end ReadBack

end CacheKeys
end AntiScrapling
