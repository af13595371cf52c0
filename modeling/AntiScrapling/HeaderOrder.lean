import AntiScrapling.HeaderChecks
import AntiScrapling.Subsequences
import Mathlib.Data.List.Forall2

/-! What the check of the header order accepts (`internal/signal/headers/order.go`): the
front part of a canonical order, with anything in between.  The documented rule asks for
60% of the order's headers, whichever they are. -/
namespace AntiScrapling
namespace HeaderChecks

open UnicodeText Subsequences
open scoped List

section Scan

theorem subsequenceFrom_eq (ci : ℕ) (canonical observed : List String) :
    subsequenceFrom ci canonical observed = ci+scan observed canonical := by
  induction observed generalizing ci canonical with
  | nil => rfl
  | cons h observed ih =>
    cases canonical with
    | nil => rfl
    | cons c canonical =>
      by_cases hc : h = c
      · subst hc
        rw [subsequenceFrom,if_pos rfl,ih,scan_cons_self]
        omega
      · rw [subsequenceFrom,if_neg hc,ih,scan_cons_of_ne hc]

theorem subsequenceScore_eq (observed canonical : List String) :
    subsequenceScore observed canonical = scan observed canonical := by
  rw [subsequenceScore,subsequenceFrom_eq,Nat.zero_add]

/-- The headers that the scan has to find: eight of Chrome's, six of Firefox's or three of
Safari's. -/
def front (canonical : List String) : List String := canonical.take (matchThreshold canonical.length)

theorem matchThreshold_le (n : ℕ) : matchThreshold n ≤ n := by
  unfold matchThreshold
  omega

theorem matchesAnyCanonical_iff {observedOrder : List String} : matchesAnyCanonical observedOrder = true ↔
    ∃ canonical ∈ canonicalOrders, front canonical <+ observedOrder.map toLower := by
  simp only [matchesAnyCanonical,List.any_eq_true,decide_eq_true_eq,ge_iff_le,subsequenceScore_eq]
  refine exists_congr fun canonical => and_congr_right fun _ => ?_
  exact (take_sublist_iff (matchThreshold_le _)).symm

theorem isOrderAnomaly_eq_none_iff {observedOrder : List String} :
    isOrderAnomaly observedOrder = none ↔ matchesAnyCanonical observedOrder = true := by
  unfold isOrderAnomaly
  split_ifs with h <;> simp [h]

end Scan

section Insertions

/-- Two names that differ in the case of ASCII letters only. -/
def Recased (s t : String) : Prop := s.toList.map Char.toLower = t.toList.map Char.toLower

instance recasedDecidable (s t : String) : Decidable (Recased s t) :=
  inferInstanceAs (Decidable (s.toList.map Char.toLower = t.toList.map Char.toLower))

theorem sublist_lower {observed observed' : List String}
    (h : List.SublistForall₂ Recased observed observed') :
    observed.map toLower <+ observed'.map toLower := by
  induction h with
  | nil => exact List.nil_sublist _
  | cons hname _ ih =>
    rw [List.map_cons,List.map_cons,toLower_congr hname]
    exact ih.cons_cons _
  | cons_right _ ih => exact ih.cons _

/-- The scan finds the longest front part of the canonical order that occurs, and so more
headers never make an order an anomaly. -/
theorem extra_headers_accepted :
    (∀ observed canonical : List String,
      IsGreatest {k | k ≤ canonical.length ∧ canonical.take k <+ observed}
        (subsequenceScore observed canonical)) ∧
    ∀ observed observed' : List String, List.SublistForall₂ Recased observed observed' →
      matchesAnyCanonical observed = true →
      matchesAnyCanonical observed' = true ∧ isOrderAnomaly observed' = none := by
  refine ⟨fun observed canonical => ?_,fun observed observed' hmore hmatch => ?_⟩
  · rw [subsequenceScore_eq]
    exact scan_isGreatest observed canonical
  · obtain ⟨canonical,hmem,hfront⟩ := matchesAnyCanonical_iff.mp hmatch
    have hmore' : matchesAnyCanonical observed' = true :=
      matchesAnyCanonical_iff.mpr ⟨canonical,hmem,hfront.trans (sublist_lower hmore)⟩
    exact ⟨hmore',isOrderAnomaly_eq_none_iff.mpr hmore'⟩

/-- A referer, a second host and capital letters. -/
theorem extra_headers_accepted_safari :
    matchesAnyCanonical ["host","connection","accept","user-agent"] = true ∧
    matchesAnyCanonical ["Referer","Host","Connection","host","Accept","User-Agent"] = true := by
  have hsafari : matchesAnyCanonical ["host","connection","accept","user-agent"] = true := by decide +kernel
  have hmore : List.SublistForall₂ Recased ["host","connection","accept","user-agent"]
      ["Referer","Host","Connection","host","Accept","User-Agent"] :=
    .cons_right (.cons (by decide) (.cons (by decide) (.cons_right (.cons (by decide) (.cons (by decide) .nil)))))
  exact ⟨hsafari,(extra_headers_accepted.2 _ _ hmore hsafari).1⟩

end Insertions

section SixtyPercent

/-- The rule of the comment in `order.go`: at least 60% of a canonical list appear in order. -/
def SixtyPercent (observedOrder : List String) : Prop :=
  ∃ canonical ∈ canonicalOrders,
    60*canonical.length ≤ 100*lcs (observedOrder.map toLower) canonical

/-- The first 60% of a canonical order, rounded up, appear in order. -/
def FrontFound (observedOrder : List String) : Prop :=
  ∃ canonical ∈ canonicalOrders, canonical.take ((60*canonical.length+99)/100) <+ observedOrder.map toLower

/-- Of every canonical order fewer headers appear in order than the rounded threshold. -/
def TooFew (observedOrder : List String) : Prop :=
  ∀ canonical ∈ canonicalOrders, ∀ names : List String, names <+ canonical →
    names <+ observedOrder.map toLower → names.length < matchThreshold canonical.length

theorem FrontFound.agrees {observedOrder : List String} (h : FrontFound observedOrder) :
    matchesAnyCanonical observedOrder = true ∧ SixtyPercent observedOrder := by
  obtain ⟨canonical,hmem,hfront⟩ := h
  have hle : matchThreshold canonical.length ≤ (60*canonical.length+99)/100 := by
    unfold matchThreshold
    omega
  refine ⟨matchesAnyCanonical_iff.mpr ⟨canonical,hmem,?_⟩,canonical,hmem,?_⟩
  · exact (List.take_sublist_take_left hle).trans hfront
  · have hlcs := length_le_lcs hfront (List.take_sublist _ canonical)
    rw [List.length_take] at hlcs
    omega

theorem TooFew.agrees {observedOrder : List String} (h : TooFew observedOrder) :
    matchesAnyCanonical observedOrder = false ∧ ¬ SixtyPercent observedOrder := by
  constructor
  · refine Bool.eq_false_iff.mpr fun hmatch => ?_
    obtain ⟨canonical,hmem,hfront⟩ := matchesAnyCanonical_iff.mp hmatch
    have hlt := h canonical hmem _ (List.take_sublist _ canonical) hfront
    rw [List.length_take,Nat.min_eq_left (matchThreshold_le _)] at hlt
    exact absurd hlt (Nat.lt_irrefl _)
  · rintro ⟨canonical,hmem,hsixty⟩
    obtain ⟨names,hobserved,hcanonical,hlength⟩ := exists_common (observedOrder.map toLower) canonical
    have hlt := h canonical hmem names hcanonical hobserved
    unfold matchThreshold at hlt
    omega

/-- The check is the documented rule for the orders that show enough from the front, and for
those that show too little anywhere. -/
theorem sixtyPercent_rule {observedOrder : List String} (h : FrontFound observedOrder ∨ TooFew observedOrder) :
    matchesAnyCanonical observedOrder = true ↔ SixtyPercent observedOrder := by
  rcases h with hfront | hfew
  · exact iff_of_true hfront.agrees.1 hfront.agrees.2
  · exact iff_of_false (Bool.eq_false_iff.mp hfew.agrees.1) hfew.agrees.2

theorem sixtyPercent_rule_sample :
    (matchesAnyCanonical (chromeOrder.take 10) = true ↔ SixtyPercent (chromeOrder.take 10)) ∧
    (matchesAnyCanonical ["User-Agent","Accept"] = true ↔ SixtyPercent ["User-Agent","Accept"]) := by
  refine ⟨sixtyPercent_rule (.inl ⟨chromeOrder,by decide,?_⟩),sixtyPercent_rule (.inr fun canonical hmem names _ h => ?_)⟩
  · have hlower : (chromeOrder.take 10).map toLower = chromeOrder.take 10 := by decide +kernel
    rw [hlower]
    exact List.take_sublist_take_left (by decide)
  · have hlength : names.length ≤ 2 := by simpa using h.length_le
    have hthresholds : ∀ c ∈ canonicalOrders, 2 < matchThreshold c.length := by decide
    exact Nat.lt_of_le_of_lt hlength (hthresholds canonical hmem)

/-- A Chrome that sends no `Host`, as over HTTP/2, has 13 of 14 headers and is not recognised;
three of Safari's six headers are enough. -/
theorem header_order_misjudged :
    SixtyPercent (chromeOrder.drop 1) ∧ matchesAnyCanonical (chromeOrder.drop 1) = false ∧
    ¬ SixtyPercent (safariOrder.take 3) ∧ matchesAnyCanonical (safariOrder.take 3) = true := by
  have hlower : (chromeOrder.drop 1).map toLower = chromeOrder.drop 1 := by decide +kernel
  refine ⟨⟨chromeOrder,by decide,?_⟩,by decide +kernel,?_,by decide +kernel⟩
  · have hlcs := length_le_lcs (List.Sublist.refl (chromeOrder.drop 1)) (List.drop_sublist 1 chromeOrder)
    rw [hlower]
    exact le_trans (by decide) (Nat.mul_le_mul_left 100 hlcs)
  · rintro ⟨canonical,hmem,hsixty⟩
    have hlcs := lcs_le_left ((safariOrder.take 3).map toLower) canonical
    rw [List.length_map] at hlcs
    have hlengths : ∀ c ∈ canonicalOrders, 6 ≤ c.length := by decide
    have hlength := hlengths canonical hmem
    have hthree : (safariOrder.take 3).length = 3 := rfl
    omega

end SixtyPercent

end HeaderChecks
end AntiScrapling
