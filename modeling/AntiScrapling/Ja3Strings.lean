import AntiScrapling.ListEdits
import AntiScrapling.SeparatedText
import AntiScrapling.TlsFingerprint

/-! What a JA3 string tells of a ClientHello: everything it is made of, up to GREASE
values. -/
namespace AntiScrapling
namespace TlsFingerprint

open ClientHello ListEdits SeparatedText

section Joins

theorem joinUint16s_inj {sep : String} {c : Char} (hsep : sep.toList = [c]) (hc : c.isDigit = false)
    {vs ws : List UInt16} : joinUint16s vs sep = joinUint16s ws sep ↔ vs = ws :=
  joinNumbers_inj (fun _ _ => UInt16.toNat_inj.mp) hsep hc

theorem joinUint8s_inj {sep : String} {c : Char} (hsep : sep.toList = [c]) (hc : c.isDigit = false)
    {vs ws : List UInt8} : joinUint8s vs sep = joinUint8s ws sep ↔ vs = ws :=
  joinNumbers_inj (fun _ _ => UInt8.toNat_inj.mp) hsep hc

end Joins

section Faithful

def ja3Parts (hello : Hello) : List String := [
  toString hello.version.toNat,
  joinUint16s (filterGREASE hello.cipherSuites) "-",
  joinUint16s (filterGREASE (extensionIDs hello.extensions)) "-",
  joinUint16s (filterGREASE hello.supportedCurves) "-",
  joinUint8s hello.supportedPoints "-"]

theorem ja3String_eq_join (hello : Hello) : ja3String hello = ",".intercalate (ja3Parts hello) := rfl

theorem without_ja3Parts {c : Char} (hc : c.isDigit = false) (hdash : c ≠ '-') (hello : Hello) :
    ∀ part ∈ ja3Parts hello, Without c part := by
  have hsep : Without c "-" := by
    rw [Without,dash_toList]
    simpa using hdash
  simp only [ja3Parts,List.forall_mem_cons,List.not_mem_nil,false_implies,implies_true,and_true]
  exact ⟨without_decimal hc _,without_joinNumbers hc hsep _,without_joinNumbers hc hsep _,
    without_joinNumbers hc hsep _,without_joinNumbers hc hsep _⟩

theorem ja3String_inj {h h' : Hello} : ja3String h = ja3String h' ↔ ja3Parts h = ja3Parts h' := by
  rw [ja3String_eq_join,ja3String_eq_join]
  exact join_inj comma_toList (List.cons_ne_nil _ _) (List.cons_ne_nil _ _)
    (without_ja3Parts (by decide) (by decide) h) (without_ja3Parts (by decide) (by decide) h')

/-- Two lists that differ by insertions and removals of GREASE values. -/
def SameUpToGREASE : List UInt16 → List UInt16 → Prop := Relation.EqvGen (Inserted isGREASE)

theorem sameUpToGREASE_iff {vs ws : List UInt16} : SameUpToGREASE vs ws ↔ filterGREASE vs = filterGREASE ws :=
  eqvGen_inserted_iff

theorem ja3Parts_inj {h h' : Hello} : ja3Parts h = ja3Parts h' ↔
    h.version = h'.version ∧ filterGREASE h.cipherSuites = filterGREASE h'.cipherSuites ∧
      filterGREASE (extensionIDs h.extensions) = filterGREASE (extensionIDs h'.extensions) ∧
      filterGREASE h.supportedCurves = filterGREASE h'.supportedCurves ∧
      h.supportedPoints = h'.supportedPoints := by
  have hdash : ('-').isDigit = false := by decide
  simp only [ja3Parts,List.cons.injEq,decimal_inj,UInt16.toNat_inj,joinUint16s_inj dash_toList hdash,
    joinUint8s_inj dash_toList hdash,and_true]

/-- Two ClientHellos have one JA3 string exactly if they agree up to GREASE values, that is,
if insertions and removals of GREASE values lead from one to the other. -/
theorem ja3String_eq_iff (h h' : Hello) :
    (ja3String h = ja3String h' ↔
      h.version = h'.version ∧ filterGREASE h.cipherSuites = filterGREASE h'.cipherSuites ∧
        filterGREASE (extensionIDs h.extensions) = filterGREASE (extensionIDs h'.extensions) ∧
        filterGREASE h.supportedCurves = filterGREASE h'.supportedCurves ∧
        h.supportedPoints = h'.supportedPoints) ∧
    (ja3String h = ja3String h' ↔
      h.version = h'.version ∧ SameUpToGREASE h.cipherSuites h'.cipherSuites ∧
        SameUpToGREASE (extensionIDs h.extensions) (extensionIDs h'.extensions) ∧
        SameUpToGREASE h.supportedCurves h'.supportedCurves ∧
        h.supportedPoints = h'.supportedPoints) := by
  have hiff := ja3String_inj.trans (@ja3Parts_inj h h')
  refine ⟨hiff,?_⟩
  simp only [sameUpToGREASE_iff]
  exact hiff

end Faithful

end TlsFingerprint
end AntiScrapling
